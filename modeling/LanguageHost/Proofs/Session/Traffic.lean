import Mathlib.Data.List.Basic
import Mathlib.Tactic.Lemma
import LanguageHost.Proofs.Rpc.Turn
import LanguageHost.Session.Connections

namespace LanguageHost

variable {κ : Type}

abbrev Submission := Outbound × Except TransportError Unit

def Emission.submission? : Emission κ → Option Submission
  | .submitted m result => some (m, result)
  | _ => none

def submissions (es : List (Emission κ)) : List Submission := es.filterMap Emission.submission?

lemma submissions_append (es fs : List (Emission κ)) :
    submissions (es ++ fs) = submissions es ++ submissions fs := by
  simp [submissions]

namespace Client

def Same (c d : Client κ) : Prop := d.generation = c.generation ∧ d.language = c.language

lemma submissions_traceNote (c : Client κ) (side : Side) (direction : String) (text : List Char) :
    submissions (c.traceNote side direction text) = [] := by
  cases h : c.traced <;> simp [traceNote, h, submissions, Emission.submission?, note]

lemma submissions_completed (calls : List (PendingCall κ)) (outcome : Outcome) :
    submissions (calls.map (Emission.completed · outcome)) = [] := by
  induction calls with
  | nil => rfl
  | cons call rest ih => simp [submissions, Emission.submission?]

lemma submissions_submit (c : Client κ) (m : Outbound) :
    submissions (c.submit m).2.1 = [(m, (c.submit m).2.2)] := by
  cases h : c.sink with
  | none =>
    simp only [submit, h, submissions_append, submissions_traceNote]
    rfl
  | some s =>
    simp only [submit, h, submissions_append, submissions_traceNote]
    rfl

lemma submit_same (c : Client κ) (m : Outbound) : Same c (c.submit m).1 := by
  obtain ⟨sink, h⟩ := submit_fst c m
  rw [h]
  exact ⟨rfl, rfl⟩

lemma notify_same (c : Client κ) (method : String) (params : Json) :
    Same c (c.notify method params).1 := submit_same c _

lemma submissions_notify (c : Client κ) (method : String) (params : Json) :
    ∃ result, submissions (c.notify method params).2.1 =
      [(.notification method (paramsOf params), result)] ∧
      (c.notify method params).2.2 = result.mapError .transport := by
  have h := submissions_submit c (.notification method (paramsOf params))
  refine ⟨_, ?_, rfl⟩
  simp only [notify]
  rw [← List.singleton_append, submissions_append, h]
  rfl

lemma reply_same (c : Client κ) (id : RequestId) (r : Reply) : Same c (c.reply id r).1 :=
  submit_same c _

lemma submissions_reply (c : Client κ) (id : RequestId) (r : Reply) :
    ∃ result, submissions (c.reply id r).2.1 = [(.reply id r, result)] :=
  ⟨_, submissions_submit c (.reply id r)⟩

lemma call_traffic {c : Client κ} (hc : c.closed = false) (method : String) (params : Json) (tag : κ) :
    Same c (c.call method params tag).1 ∧ completions (c.call method params tag).2.1 = [] ∧
      ∃ result, submissions (c.call method params tag).2.1 =
        [(.request c.nextId method (paramsOf params), result)] ∧
        (result = .ok () ∧
            (c.call method params tag).1.pending = c.pending ++ [⟨c.nextId, method, tag⟩] ∨
          (c.call method params tag).1.pending =
            List.filter (·.id ≠ c.nextId) (c.pending ++ [⟨c.nextId, method, tag⟩])) := by
  obtain ⟨sink, sending, es, result, hsub, hcall⟩ := call_open hc method params tag
  have hsent := submissions_submit (c.reserved method tag)
    (.request c.nextId method (paramsOf params))
  have hdone := completions_submit (c.reserved method tag)
    (.request c.nextId method (paramsOf params))
  rw [hsub] at hsent hdone
  rw [hcall]
  cases result with
  | ok =>
    rw [← List.singleton_append, submissions_append, completions_append, hsent, hdone]
    exact ⟨⟨rfl, rfl⟩, rfl, .ok (), rfl, .inl ⟨rfl, rfl⟩⟩
  | error e =>
    rw [← List.singleton_append, submissions_append, completions_append, hsent, hdone]
    exact ⟨⟨rfl, rfl⟩, rfl, .error e, rfl, .inr rfl⟩

lemma close_traffic (c : Client κ) : Same c c.close.1 ∧ submissions c.close.2 = [] := by
  refine ⟨⟨rfl, rfl⟩, ?_⟩
  simp only [close, drain, submissions_append, submissions_completed]
  cases h : c.pending with
  | nil => rfl
  | cons => rfl

lemma stop_traffic (c : Client κ) (e : Option TransportError) :
    Same c (c.stop e).1 ∧ submissions (c.stop e).2 = [] := by
  refine ⟨⟨rfl, rfl⟩, ?_⟩
  simp only [stop, drain, submissions_append, submissions_completed]
  cases e <;> rfl

lemma complete_traffic (c : Client κ) (r : Response) :
    Same c (c.complete r).1 ∧ submissions (c.complete r).2 = [] := by
  simp only [complete]
  split <;> exact ⟨⟨rfl, rfl⟩, rfl⟩

lemma dispatch_traffic (c : Client κ) (m : Json) :
    Same c (c.dispatch m).1 ∧ submissions (c.dispatch m).2 = [] := by
  simp only [dispatch]
  split
  · next r _ =>
    have h := complete_traffic c r
    refine ⟨h.1, ?_⟩
    simp only [submissions_append, submissions_traceNote, h.2, List.append_nil]
  all_goals
    refine ⟨⟨rfl, rfl⟩, ?_⟩
    simp only [submissions_append, submissions_traceNote]
    rfl

lemma take_traffic (c : Client κ) (m : Except TransportError Json) :
    Same c (c.take m).1 ∧ submissions (c.take m).2 = [] := by
  simp only [take]
  split
  · exact dispatch_traffic c _
  · exact stop_traffic c none
  · exact stop_traffic c _

lemma feed_traffic (c : Client κ) (s : Frame.Signal) :
    Same c (c.feed s).1 ∧ submissions (c.feed s).2 = [] := by
  simp only [feed]
  split
  · split
    · exact ⟨⟨rfl, rfl⟩, rfl⟩
    · exact take_traffic { c with phase := .start } _
  · exact ⟨⟨rfl, rfl⟩, rfl⟩

lemma Same.trans {c d e : Client κ} (h : Same c d) (h' : Same d e) : Same c e :=
  ⟨h'.1.trans h.1, h'.2.trans h.2⟩

lemma receive_traffic (c : Client κ) (signals : List Frame.Signal) :
    Same c (c.receive signals).1 ∧ submissions (c.receive signals).2 = [] := by
  induction signals generalizing c with
  | nil => exact ⟨⟨rfl, rfl⟩, rfl⟩
  | cons s rest ih =>
    have hf := feed_traffic c s
    have hr := ih (c.feed s).1
    simp only [receive, submissions_append, hf.2, hr.2]
    exact ⟨hf.1.trans hr.1, rfl⟩

lemma finish_traffic (c : Client κ) : Same c c.finish.1 ∧ submissions c.finish.2 = [] := by
  simp only [finish]
  split
  · split
    · next m _ =>
      have hd := dispatch_traffic c m
      have hs := stop_traffic (c.dispatch m).1 none
      simp only [submissions_append, hd.2, hs.2]
      exact ⟨hd.1.trans hs.1, rfl⟩
    · exact take_traffic c _
  · exact ⟨⟨rfl, rfl⟩, rfl⟩

end Client

namespace Effect

def submission? : Effect → Option (Nat × Submission)
  | .submitted generation m result => some (generation, m, result)
  | _ => none

def launch? : Effect → Option (Nat × LaunchRequest)
  | .launched generation request => some (generation, request)
  | _ => none

def ending? : Effect → Option Nat
  | .ended generation _ => some generation
  | _ => none

end Effect

namespace Connections

def submissions (c : Connections) : List (Nat × Submission) := c.trace.filterMap Effect.submission?

def launches (c : Connections) : List (Nat × LaunchRequest) := c.trace.filterMap Effect.launch?

def endings (c : Connections) : List Nat := c.trace.filterMap Effect.ending?

def language? (c : Connections) (g : Nat) : Option LanguageId := (c.get? g).map (·.language)

def Labelled (c : Connections) : Prop :=
  ∀ e ∈ c.inbox, c.language? e.generation = some e.language

structure Keeps (c d : Connections) : Prop where
  language : ∀ g, d.language? g = c.language? g
  labelled : c.Labelled → d.Labelled

/-- What an operation that neither makes a connection nor launches a server comes to: what it
submits, and that events keep their labels. -/
structure Evolves (c d : Connections) (sent : List (Nat × Submission)) : Prop where
  submissions : d.submissions = c.submissions ++ sent
  launches : d.launches = c.launches
  language : ∀ g, d.language? g = c.language? g
  labelled : c.Labelled → d.Labelled

lemma Keeps.refl (c : Connections) : Keeps c c := ⟨fun _ => rfl, id⟩

lemma Keeps.trans {c d e : Connections} (h : Keeps c d) (h' : Keeps d e) : Keeps c e :=
  ⟨fun g => (h'.language g).trans (h.language g), fun hl => h'.labelled (h.labelled hl)⟩

namespace Evolves

variable {c d e : Connections} {s t : List (Nat × Submission)}

lemma keeps (h : Evolves c d s) : Keeps c d := ⟨h.language, h.labelled⟩

lemma refl (c : Connections) : Evolves c c [] := ⟨by simp, rfl, fun _ => rfl, id⟩

lemma trans (h : Evolves c d s) (h' : Evolves d e t) : Evolves c e (s ++ t) :=
  ⟨by rw [h'.submissions, h.submissions, List.append_assoc], h'.launches.trans h.launches,
    fun g => (h'.language g).trans (h.language g), fun hl => h'.labelled (h.labelled hl)⟩

lemma trans_quiet (h : Evolves c d s) (h' : Evolves d e []) : Evolves c e s := by
  simpa using h.trans h'

lemma quiet_trans (h : Evolves c d []) (h' : Evolves d e s) : Evolves c e s := h.trans h'

lemma silent (h : Evolves c d []) : d.submissions = c.submissions := by
  rw [h.submissions, List.append_nil]

end Evolves

lemma record_evolves (c : Connections) {e : Effect} (hs : e.submission? = none)
    (hl : e.launch? = none) : Evolves c (c.record e) [] where
  submissions := by simp [submissions, record, hs]
  launches := by simp [launches, record, hl]
  language := fun _ => rfl
  labelled := id

lemma log_evolves (c : Connections) (r : LogRecord) : Evolves c (c.log r) [] :=
  record_evolves c rfl rfl

lemma logs_evolves (notes : List LogRecord) (c : Connections) :
    Evolves c (notes.foldl log c) [] := by
  induction notes generalizing c with
  | nil => exact .refl c
  | cons r rest ih => exact (log_evolves c r).trans (ih (c.log r))

lemma logs_eq (notes : List LogRecord) (c : Connections) :
    notes.foldl log c = { c with trace := c.trace ++ notes.map (.logged .caller) } := by
  induction notes generalizing c with
  | nil => simp
  | cons r rest ih =>
    rw [List.foldl_cons, ih]
    simp [log, record]

lemma logs_get? (notes : List LogRecord) (c : Connections) (g : Nat) :
    (notes.foldl log c).get? g = c.get? g := by
  rw [logs_eq]
  rfl

lemma post_evolves (c : Connections) {e : ServerEvent}
    (h : c.language? e.generation = some e.language) : Evolves c (c.post e) [] where
  submissions := (List.append_nil _).symm
  launches := rfl
  language := fun _ => rfl
  labelled := by
    intro hc x hx
    rcases List.mem_append.mp hx with hx | hx
    · exact hc x hx
    · obtain rfl := List.mem_singleton.mp hx
      exact h

lemma absorb_evolves (c : Connections) {l : LanguageId} {g : Nat} (h : c.language? g = some l)
    (e : Emission Ticket) :
    Evolves c (c.absorb l g e) (e.submission?.toList.map (g, ·)) := by
  cases e with
  | logged side r => exact record_evolves c rfl rfl
  | submitted m result =>
    exact ⟨by simp [submissions, absorb, record, Effect.submission?, Emission.submission?],
      by simp [launches, absorb, record, Effect.launch?], fun _ => rfl, id⟩
  | completed call outcome =>
    cases ht : call.tag with
    | handshake =>
      simp only [absorb, settleCall, ht]
      exact post_evolves c h
    | shutdown =>
      simp only [absorb, settleCall, ht]
      exact post_evolves c h
    | caller =>
      simp only [absorb, settleCall, ht]
      exact ⟨(List.append_nil _).symm, rfl, fun _ => rfl, id⟩
  | notified method params => exact post_evolves c h
  | requested id method params => exact post_evolves c h
  | ended error => exact post_evolves c h

lemma absorbs_evolves {l : LanguageId} {g : Nat} (es : List (Emission Ticket)) (c : Connections)
    (h : c.language? g = some l) :
    Evolves c (es.foldl (fun c e => c.absorb l g e) c) ((LanguageHost.submissions es).map (g, ·)) := by
  induction es generalizing c with
  | nil => exact .refl c
  | cons e rest ih =>
    have hstep := absorb_evolves c h e
    have hrest := ih (c.absorb l g e) ((hstep.language g).trans h)
    have hsplit : (LanguageHost.submissions (e :: rest)).map (g, ·) =
        e.submission?.toList.map (g, ·) ++ (LanguageHost.submissions rest).map (g, ·) := by
      simp only [LanguageHost.submissions, List.filterMap_cons]
      cases e.submission? <;> rfl
    rw [hsplit]
    exact hstep.trans hrest

lemma get?_generation {c : Connections} {g : Nat} {client : Client Ticket}
    (h : c.get? g = some client) : client.generation = g := by
  simpa using List.find?_some h

lemma get?_set (c : Connections) (new : Client Ticket) (k : Nat) :
    (c.set new).get? k =
      if new.generation = k then (c.get? k).map fun _ => new else c.get? k := by
  have hp : ((fun d : Client Ticket => decide (d.generation = k)) ∘ fun d =>
      if d.generation = new.generation then new else d) = fun d => decide (d.generation = k) := by
    funext d
    simp only [Function.comp_apply]
    split
    · next h => rw [h]
    · rfl
  simp only [get?, set, List.find?_map, hp]
  cases h : c.clients.find? (fun d => decide (d.generation = k)) with
  | none => simp
  | some d =>
    have hd : d.generation = k := by simpa using List.find?_some h
    subst hd
    by_cases hn : new.generation = d.generation
    · simp [hn]
    · simp [hn, Ne.symm hn]

lemma set_evolves (c : Connections) {g : Nat} {old new : Client Ticket} (h : c.get? g = some old)
    (hs : Client.Same old new) : Evolves c (c.set new) [] := by
  have hg : new.generation = g := hs.1.trans (get?_generation h)
  have hlang (k : Nat) : (c.set new).language? k = c.language? k := by
    simp only [language?, get?_set]
    split
    · next hk =>
      rw [← hk, hg, h]
      exact congrArg some hs.2
    · rfl
  exact ⟨(List.append_nil _).symm, rfl, hlang, fun hc x hx => (hlang _).trans (hc x hx)⟩

lemma accept_evolves (c : Connections) {g : Nat} {old new : Client Ticket} (h : c.get? g = some old)
    (hs : Client.Same old new) (es : List (Emission Ticket)) :
    Evolves c (c.accept new es) ((LanguageHost.submissions es).map (g, ·)) := by
  have hg : new.generation = g := hs.1.trans (get?_generation h)
  have hset := set_evolves c h hs
  have hl : (c.set new).language? new.generation = some new.language := by
    rw [hset.language, hg, language?, h, hs.2]
    rfl
  have ha := absorbs_evolves es (c.set new) hl
  rw [hg] at ha
  exact hset.quiet_trans (by rw [accept, hg]; exact ha)

lemma update_evolves (c : Connections) (g : Nat)
    (f : Client Ticket → Client Ticket × List (Emission Ticket))
    (hf : ∀ client, Client.Same client (f client).1 ∧ LanguageHost.submissions (f client).2 = []) :
    Evolves c (c.update g f) [] := by
  simp only [update]
  split
  · exact .refl c
  · next client h =>
    have ha := accept_evolves c h (hf client).1 (f client).2
    rwa [(hf client).2] at ha

lemma receive_evolves (c : Connections) (g : Nat) (signals : List Frame.Signal) :
    Evolves c (c.receive g signals) [] :=
  update_evolves c g _ fun client => Client.receive_traffic client signals

lemma endOutput_evolves (c : Connections) (g : Nat) : Evolves c (c.endOutput g) [] :=
  update_evolves c g _ Client.finish_traffic

lemma overhear_evolves (c : Connections) (g : Nat) (o : Overture) :
    Evolves c (c.overhear g o) [] := by
  have hreceive := receive_evolves c g o.signals
  simp only [overhear]
  split
  · exact hreceive.trans (endOutput_evolves _ g)
  · exact hreceive

lemma setPlan_evolves (c : Connections) (g : Nat) (plan : Nat → Verdict) :
    Evolves c (c.setPlan g plan) [] :=
  update_evolves c g _ fun _ => ⟨⟨rfl, rfl⟩, rfl⟩

lemma finish_evolves (c : Connections) (g : Nat) (how : Ending) : Evolves c (c.finish g how) [] :=
  ((update_evolves c g _ Client.close_traffic).trans (record_evolves _ rfl rfl)).trans
    (endOutput_evolves _ g)

lemma collect_evolves (c : Connections) (name : CallName) : Evolves c (c.collect name).1 [] :=
  ⟨(List.append_nil _).symm, rfl, fun _ => rfl, id⟩

lemma notify_evolves {c : Connections} {g : Nat} {l : LanguageId} (h : c.language? g = some l)
    (method : String) (params : Json) :
    ∃ result, Evolves c (c.notify g method params).1
        [(g, .notification method (Client.paramsOf params), result)] ∧
      (c.notify g method params).2 = result.mapError .transport := by
  obtain ⟨client, hc, -⟩ := Option.map_eq_some_iff.mp h
  obtain ⟨result, hs, hr⟩ := Client.submissions_notify client method params
  refine ⟨result, ?_, by simp only [notify, ask, hc, hr]⟩
  have ha := accept_evolves c hc (Client.notify_same client method params)
    (client.notify method params).2.1
  simp only [notify, ask, hc]
  rwa [hs] at ha

lemma reply_evolves (c : Connections) (g : Nat) (id : RequestId) (r : Reply) :
    ∃ sent, Evolves c (c.reply g id r).1 sent ∧
      (sent = [] ∨ ∃ result, sent = [(g, .reply id r, result)]) := by
  cases hc : c.get? g with
  | none => exact ⟨[], by simp only [reply, ask, hc]; exact .refl c, .inl rfl⟩
  | some client =>
    obtain ⟨result, hs⟩ := Client.submissions_reply client id r
    have ha := accept_evolves c hc (Client.reply_same client id r) (client.reply id r).2.1
    rw [hs] at ha
    exact ⟨_, by simp only [reply, ask, hc]; exact ha, .inr ⟨result, rfl⟩⟩

lemma call_said {c : Connections} {g : Nat} {client : Client Ticket} (hc : c.get? g = some client)
    (ho : client.closed = false) (method : String) (params : Json) (t : Ticket) :
    ∃ result, Evolves c (c.call g method params t).1
      [(g, .request client.nextId method (Client.paramsOf params), result)] := by
  obtain ⟨hsame, -, result, hs, -⟩ := Client.call_traffic ho method params t
  have ha := accept_evolves c hc hsame (client.call method params t).2.1
  rw [hs] at ha
  exact ⟨result, by simp only [call, ask, hc]; exact ha⟩

lemma call_sends (c : Connections) (g : Nat) (method : String) (params : Json) (t : Ticket) :
    ∃ sent, Evolves c (c.call g method params t).1 sent ∧ (sent = [] ∨
      ∃ (id : Int) (result : Except TransportError Unit),
        sent = [(g, .request id method (Client.paramsOf params), result)]) := by
  cases hc : c.get? g with
  | none => exact ⟨[], by simp only [call, ask, hc]; exact .refl c, .inl rfl⟩
  | some client =>
    cases ho : client.closed with
    | true =>
      have hsame : Client.Same client { client with nextId := client.nextId + 1 } := ⟨rfl, rfl⟩
      refine ⟨[], ?_, .inl rfl⟩
      simp only [call, ask, hc, Client.call_closed ho method params t]
      exact accept_evolves c hc hsame []
    | false =>
      obtain ⟨result, he⟩ := call_said hc ho method params t
      exact ⟨_, he, .inr ⟨_, result, rfl⟩⟩

lemma call_evolves (c : Connections) (g : Nat) (method : String) (params : Json) (t : Ticket) :
    ∃ sent, Evolves c (c.call g method params t).1 sent ∧ ∀ s ∈ sent, s.1 = g ∧
      ∃ id : Int, s.2.1 = .request id method (Client.paramsOf params) := by
  obtain ⟨sent, he, hs⟩ := call_sends c g method params t
  refine ⟨sent, he, ?_⟩
  rcases hs with rfl | ⟨id, result, rfl⟩
  · simp
  · simp

structure Retains (c d : Connections) : Prop where
  launches : d.launches = c.launches
  endings : d.endings = c.endings

namespace Retains

variable {c d e : Connections}

lemma refl (c : Connections) : Retains c c := ⟨rfl, rfl⟩

lemma trans (h : Retains c d) (h' : Retains d e) : Retains c e :=
  ⟨h'.launches.trans h.launches, h'.endings.trans h.endings⟩

end Retains

lemma record_retains (c : Connections) {e : Effect} (hl : e.launch? = none) (he : e.ending? = none) :
    Retains c (c.record e) where
  launches := by simp [launches, record, hl]
  endings := by simp [endings, record, he]

lemma log_retains (c : Connections) (r : LogRecord) : Retains c (c.log r) :=
  record_retains c rfl rfl

lemma logs_retains (notes : List LogRecord) (c : Connections) :
    Retains c (notes.foldl log c) := by
  induction notes generalizing c with
  | nil => exact .refl c
  | cons r rest ih => exact (log_retains c r).trans (ih (c.log r))

lemma absorb_retains (c : Connections) (l : LanguageId) (g : Nat) (e : Emission Ticket) :
    Retains c (c.absorb l g e) := by
  cases e with
  | logged side r => exact record_retains c rfl rfl
  | submitted m result => exact record_retains c rfl rfl
  | completed call outcome =>
    simp only [absorb, settleCall]
    split <;> exact ⟨rfl, rfl⟩
  | _ => exact ⟨rfl, rfl⟩

lemma accept_retains (c : Connections) (client : Client Ticket) (es : List (Emission Ticket)) :
    Retains c (c.accept client es) := by
  have habsorbs (d : Connections) : Retains d
      (es.foldl (fun c e => c.absorb client.language client.generation e) d) := by
    induction es generalizing d with
    | nil => exact .refl d
    | cons e rest ih => exact (absorb_retains d _ _ e).trans (ih _)
  exact (show Retains c (c.set client) from ⟨rfl, rfl⟩).trans (habsorbs _)

lemma update_retains (c : Connections) (g : Nat)
    (f : Client Ticket → Client Ticket × List (Emission Ticket)) : Retains c (c.update g f) := by
  simp only [update]
  split
  · exact .refl c
  · exact accept_retains c _ _

lemma overhear_retains (c : Connections) (g : Nat) (o : Overture) :
    Retains c (c.overhear g o) := by
  have hreceive : Retains c (c.receive g o.signals) := update_retains c g _
  simp only [overhear]
  split
  · exact hreceive.trans (update_retains _ g _)
  · exact hreceive

lemma ask_retains {α : Type} (c : Connections) (g : Nat)
    (f : Client Ticket → Client.Result Ticket (Except RpcError α)) : Retains c (c.ask g f).1 := by
  simp only [ask]
  split
  · exact .refl c
  · exact accept_retains c _ _

lemma call_retains (c : Connections) (g : Nat) (method : String) (params : Json) (t : Ticket) :
    Retains c (c.call g method params t).1 := ask_retains c g _

lemma notify_retains (c : Connections) (g : Nat) (method : String) (params : Json) :
    Retains c (c.notify g method params).1 := ask_retains c g _

lemma finish_ends (c : Connections) (g : Nat) (how : Ending) :
    (c.finish g how).launches = c.launches ∧ (c.finish g how).endings = c.endings ++ [g] := by
  have hclose := update_retains c g Client.close
  have hend := update_retains ((c.update g Client.close).record (.ended g how)) g Client.finish
  constructor
  · refine hend.launches.trans (Eq.trans ?_ hclose.launches)
    simp [launches, record, Effect.launch?]
  · refine hend.endings.trans ?_
    rw [← hclose.endings]
    simp [endings, record, Effect.ending?]

section Others

variable {c d : Connections} {g k : Nat}

lemma absorb_get? (c : Connections) (l : LanguageId) (g : Nat) (e : Emission Ticket) (k : Nat) :
    (c.absorb l g e).get? k = c.get? k := by
  cases e with
  | completed call outcome =>
    simp only [absorb, settleCall]
    split <;> rfl
  | _ => rfl

lemma absorbs_get? (es : List (Emission Ticket)) (c : Connections) (l : LanguageId) (g k : Nat) :
    (es.foldl (fun c e => c.absorb l g e) c).get? k = c.get? k := by
  induction es generalizing c with
  | nil => rfl
  | cons e rest ih => exact (ih _).trans (absorb_get? c l g e k)

lemma accept_other {client : Client Ticket} (hk : client.generation ≠ k)
    (es : List (Emission Ticket)) (c : Connections) : (c.accept client es).get? k = c.get? k := by
  rw [accept, absorbs_get?, get?_set, if_neg hk]

lemma accept_get? {old new : Client Ticket} (hc : c.get? g = some old) (hg : new.generation = g)
    (es : List (Emission Ticket)) (k : Nat) :
    (c.accept new es).get? k = if g = k then some new else c.get? k := by
  rw [accept, absorbs_get?, get?_set, hg]
  split
  · next hk =>
    rw [← hk, hc]
    rfl
  · rfl

lemma update_other {f : Client Ticket → Client Ticket × List (Emission Ticket)}
    (hf : ∀ client, Client.Same client (f client).1) (hk : g ≠ k) (c : Connections) :
    (c.update g f).get? k = c.get? k := by
  cases hc : c.get? g with
  | none => simp only [update, hc]
  | some client =>
    simp only [update, hc]
    exact accept_other (by rw [(hf client).1, get?_generation hc]; exact hk) _ c

lemma call_other (hk : g ≠ k) (c : Connections) (method : String) (params : Json) (t : Ticket) :
    (c.call g method params t).1.get? k = c.get? k := by
  cases hc : c.get? g with
  | none => simp only [call, ask, hc]
  | some client =>
    have hsame : (client.call method params t).1.generation = client.generation := by
      cases ho : client.closed with
      | true => rw [Client.call_closed ho]
      | false => exact (Client.call_traffic ho method params t).1.1
    simp only [call, ask, hc]
    exact accept_other (by rw [hsame, get?_generation hc]; exact hk) _ c

lemma finish_other (hk : g ≠ k) (c : Connections) (how : Ending) :
    (c.finish g how).get? k = c.get? k :=
  (update_other (fun client => (Client.finish_traffic client).1) hk _).trans
    (update_other (fun client => (Client.close_traffic client).1) hk c)

lemma call_result (hc : c.get? g = d.get? g) (method : String) (params : Json) (t : Ticket) :
    (c.call g method params t).2 = (d.call g method params t).2 := by
  simp only [call, ask, hc]
  split <;> rfl

end Others

lemma add_get? (c : Connections) {client : Client Ticket}
    (h : c.language? client.generation = none) :
    (c.add client).get? client.generation = some client := by
  simp only [language?, Option.map_eq_none_iff, get?, add] at h ⊢
  simp [List.find?_append, h]

lemma add_language? (c : Connections) {client : Client Ticket}
    (h : c.language? client.generation = none) (g : Nat) :
    (c.add client).language? g =
      if client.generation = g then some client.language else c.language? g := by
  simp only [language?, Option.map_eq_none_iff, get?, add] at h ⊢
  rw [List.find?_append]
  split
  · next hg => simp [← hg, h]
  · next hg => simp [hg]

end Connections

end LanguageHost
