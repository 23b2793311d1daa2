import LanguageHost.Proofs.Rpc.Reading
import LanguageHost.Proofs.Session.Loss
import LanguageHost.Proofs.Session.Manners

/-! The calls that a session makes for itself: the handshake and the shutdown of a server. What comes
in as an answer was sent by the server for such a call, and no call is answered twice. -/

namespace LanguageHost

def Ticket.method? : Ticket → Option String
  | .handshake => some "initialize"
  | .shutdown => some "shutdown"
  | .caller => none

def ServerEventKind.answer? : ServerEventKind → Option (Ticket × Outcome)
  | .initializeResponse outcome => some (.handshake, outcome)
  | .shutdownResponse outcome => some (.shutdown, outcome)
  | _ => none

def ServerEvent.settles (g : Nat) (e : ServerEvent) : Bool :=
  e.generation = g && e.kind.answer?.any (·.1 = .shutdown)

def Emission.event? (l : LanguageId) (g : Nat) : Emission Ticket → Option ServerEvent
  | .completed call outcome =>
    match call.tag with
    | .handshake => some ⟨l, g, .initializeResponse outcome⟩
    | .shutdown => some ⟨l, g, .shutdownResponse outcome⟩
    | .caller => none
  | .notified method params => some ⟨l, g, .notification method params⟩
  | .requested id method params => some ⟨l, g, .request id method params⟩
  | .ended error => some ⟨l, g, .closed error⟩
  | _ => none

def PendingCall.Fits (call : PendingCall Ticket) : Prop :=
  ∀ m, call.tag.method? = some m → call.method = m

namespace Client

def Hears {κ : Type} (c : Client κ) (signals : List Frame.Signal) (call : PendingCall κ)
    (v : Json) : Prop :=
  ∃ t ∈ c.turns (signals.map .signal), ∃ r, t.response = some r ∧ t.Answers r call ∧
    r.outcome = .ok v

variable {c d e : Client Ticket} {es fs : List (Emission Ticket)}
  {heard : PendingCall Ticket → Json → Prop}

def debt (c : Client Ticket) : Nat := c.pending.countP (·.tag = .shutdown)

def Waits (c : Client Ticket) (es : List (Emission Ticket)) (call : PendingCall Ticket) : Prop :=
  call ∈ c.pending ∨
    call.Fits ∧ ∃ params, (.request call.id call.method params, .ok ()) ∈ submissions es

structure Tends (heard : PendingCall Ticket → Json → Prop) (c d : Client Ticket)
    (es : List (Emission Ticket)) : Prop where
  same : Same c d
  debt : d.debt + (completions es).countP (·.1.tag = .shutdown) ≤
    c.debt + (submissions es).countP (·.1.isShutdown)
  waits : ∀ call ∈ d.pending, c.Waits es call
  answers : ∀ call v, (call, .ok v) ∈ completions es → c.Waits es call ∧ heard call v

lemma Waits.append {call : PendingCall Ticket} (hw : c.Waits es call) (fs : List (Emission Ticket)) :
    c.Waits (es ++ fs) call := by
  refine hw.imp_right fun ⟨hf, params, hs⟩ => ⟨hf, params, ?_⟩
  rw [submissions_append]
  exact List.mem_append_left _ hs

namespace Tends

lemma still (hs : Same c d) (hp : d.pending = c.pending) (hd : completions es = []) :
    Tends heard c d es where
  same := hs
  debt := by
    simp only [Client.debt, hp, hd, List.countP_nil]
    omega
  waits call hm := .inl (hp ▸ hm)
  answers call v hm := by simp [hd] at hm

lemma drained (hs : Same c d) (hp : d.pending = []) {error : RpcError}
    (hd : completions es = c.pending.map (·, .error error)) : Tends heard c d es where
  same := hs
  debt := by
    have hcount : (completions es).countP (·.1.tag = .shutdown) = c.debt := by
      rw [hd, List.countP_map]
      rfl
    simp only [hcount, Client.debt, hp, List.countP_nil]
    omega
  waits call hm := by simp [hp] at hm
  answers call v hm := by simp [hd] at hm

lemma trans (h : Tends heard c d es) (h' : Tends heard d e fs) : Tends heard c e (es ++ fs) := by
  have hwaits (call : PendingCall Ticket) (hw : d.Waits fs call) : c.Waits (es ++ fs) call := by
    rcases hw with hd | ⟨hf, params, hs⟩
    · exact (h.waits call hd).append fs
    · refine .inr ⟨hf, params, ?_⟩
      rw [submissions_append]
      exact List.mem_append_right _ hs
  refine ⟨h.same.trans h'.same, ?_, fun call hm => hwaits call (h'.waits call hm), ?_⟩
  · have hd := h.debt
    have he := h'.debt
    rw [completions_append, submissions_append, List.countP_append, List.countP_append]
    omega
  · intro call v hm
    rw [completions_append] at hm
    rcases List.mem_append.mp hm with hm | hm
    · exact ⟨(h.answers call v hm).1.append fs, (h.answers call v hm).2⟩
    · exact ⟨hwaits call (h'.answers call v hm).1, (h'.answers call v hm).2⟩

end Tends

lemma debt_filter {calls : List (PendingCall Ticket)} {call : PendingCall Ticket}
    (hm : call ∈ calls) :
    (calls.filter (·.id ≠ call.id)).countP (·.tag = .shutdown) +
      [call].countP (·.tag = .shutdown) ≤ calls.countP (·.tag = .shutdown) := by
  have hsplit := List.countP_eq_countP_filter_add calls (fun x => decide (x.tag = .shutdown))
    (fun x => decide (x.id ≠ call.id))
  have hsub : [call].Sublist (calls.filter fun x => !decide (x.id ≠ call.id)) :=
    List.singleton_sublist.mpr (List.mem_filter.mpr ⟨hm, by simp⟩)
  have hle := hsub.countP_le (p := fun x => decide (x.tag = .shutdown))
  omega

lemma submit_pending (c : Client Ticket) (m : Outbound) : (c.submit m).1.pending = c.pending := by
  obtain ⟨sink, hs⟩ := submit_fst c m
  rw [hs]

lemma call_tends {method : String} {params : Json} {t : Ticket}
    (hf : ∀ m, t.method? = some m → method = m) :
    Tends heard c (c.call method params t).1 (c.call method params t).2.1 := by
  cases hc : c.closed with
  | true =>
    rw [call_closed hc]
    exact .still ⟨rfl, rfl⟩ rfl rfl
  | false =>
    obtain ⟨hsame, hdone, result, hsub, hp⟩ := call_traffic hc method params t
    let new : PendingCall Ticket := ⟨c.nextId, method, t⟩
    have hdebt : [new].countP (·.tag = .shutdown) ≤
        (submissions (c.call method params t).2.1).countP (·.1.isShutdown) := by
      rw [hsub]
      by_cases ht : t = .shutdown
      · have hm : method = "shutdown" := hf "shutdown" (by rw [ht]; rfl)
        simp [new, ht, hm, Outbound.isShutdown]
      · simp [new, ht]
    have hpending : (c.call method params t).1.pending.Sublist (c.pending ++ [new]) := by
      rcases hp with ⟨-, hp⟩ | hp
      · rw [hp]
      · rw [hp]
        exact List.filter_sublist
    refine ⟨hsame, ?_, fun call hm => ?_, by simp [hdone]⟩
    · have hle := hpending.countP_le (p := fun x => decide (x.tag = .shutdown))
      rw [List.countP_append] at hle
      rw [hdone, List.countP_nil]
      simp only [debt] at hle ⊢
      omega
    · rcases hp with ⟨hok, hp⟩ | hp <;> rw [hp] at hm
      · refine (List.mem_append.mp hm).imp id fun hm => ?_
        obtain rfl := List.mem_singleton.mp hm
        exact ⟨hf, paramsOf params, by rw [hsub, hok]; exact List.mem_singleton_self _⟩
      · obtain ⟨hm, hid⟩ := List.mem_filter.mp hm
        refine .inl ((List.mem_append.mp hm).resolve_right fun hm => ?_)
        obtain rfl := List.mem_singleton.mp hm
        simp at hid

lemma feed_tends (s : Frame.Signal) (hh : ∀ call v, c.Hears [s] call v → heard call v) :
    Tends heard c (c.feed s).1 (c.feed s).2 := by
  have hsame := (feed_traffic c s).1
  have hread := signal_reads c s
  generalize hr : Turn.response ⟨c, .signal s⟩ = response at hread
  cases hread with
  | buffered p hd hc => exact .still hsame (by rw [hd]) hc
  | stray r hn hc hd => exact .still hsame (by rw [hd]) hc
  | stopped hp hi hcl hc => exact .drained hsame hp hc
  | answered r call hid hm hc hd =>
    have hanswers : Turn.Answers ⟨c, .signal s⟩ r call := ⟨hid, hm, hc, hd⟩
    refine ⟨hsame, ?_, fun other ho => ?_, fun other v ho => ?_⟩
    · have hle := debt_filter hm
      have hp : (c.feed s).1.pending = c.pending.filter (·.id ≠ call.id) := by rw [hd]
      have hcount : (completions (c.feed s).2).countP (·.1.tag = .shutdown) =
          [call].countP (·.tag = .shutdown) := by
        rw [hc]
        simp [List.countP_singleton]
      rw [hcount]
      simp only [debt, hp]
      omega
    · rw [hd] at ho
      exact .inl (List.mem_filter.mp ho).1
    · rw [hc] at ho
      obtain ⟨rfl, hv⟩ := Prod.mk.injEq .. ▸ List.mem_singleton.mp ho
      exact ⟨.inl hm, hh _ v ⟨_, List.mem_singleton_self _, r, hr, hanswers, hv.symm⟩⟩

lemma receive_tends (signals : List Frame.Signal)
    (hh : ∀ call v, c.Hears signals call v → heard call v) :
    Tends heard c (c.receive signals).1 (c.receive signals).2 := by
  induction signals generalizing c with
  | nil => exact .still ⟨rfl, rfl⟩ rfl rfl
  | cons s rest ih =>
    have hfeed : Tends heard c (c.feed s).1 (c.feed s).2 := by
      refine feed_tends s fun call v ⟨t, ht, h⟩ => hh call v ⟨t, ?_, h⟩
      obtain rfl := List.mem_singleton.mp ht
      exact List.mem_cons_self
    exact hfeed.trans (ih fun call v ⟨t, ht, h⟩ => hh call v ⟨t, List.mem_cons_of_mem _ ht, h⟩)

lemma not_hears (hp : c.pending = []) (signals : List Frame.Signal) (call : PendingCall Ticket)
    (v : Json) : ¬c.Hears signals call v := by
  induction signals generalizing c with
  | nil => simp [Hears, turns]
  | cons s rest ih =>
    have hidle : (c.feed s).1.pending = [] := by
      have hread := signal_reads c s
      generalize Turn.response ⟨c, .signal s⟩ = response at hread
      cases hread with
      | buffered p hd | stray r hn hc hd => rw [hd]; exact hp
      | answered r call hid hm => simp [hp] at hm
      | stopped hd => exact hd
    rintro ⟨t, ht, r, hr, hanswers, hv⟩
    rcases List.mem_cons.mp ht with rfl | ht
    · simpa [hp] using hanswers.2.1
    · exact ih hidle ⟨t, ht, r, hr, hanswers, hv⟩

lemma finish_tends : Tends heard c c.finish.1 c.finish.2 := by
  have hsame := (finish_traffic c).1
  cases hr : c.reading with
  | false =>
    have he : c.finish = (c, []) := by simp only [finish, hr, Bool.false_eq_true, if_false]
    rw [he]
    exact .still ⟨rfl, rfl⟩ rfl rfl
  | true =>
    obtain ⟨e, he⟩ := message_finish c.phase
    obtain ⟨error, hs⟩ := take_error c e
    have hf : c.finish = c.stop error := by simp only [finish, hr, he, if_true, hs]
    rw [hf] at hsame ⊢
    exact .drained hsame rfl (completions_stop c error)

end Client

namespace Connections

def messagesTo (g : Nat) (sent : List (Nat × Submission)) : List Outbound :=
  sent.filterMap fun s => if s.1 = g then some s.2.1 else none

def messages (c : Connections) (g : Nat) : List Outbound := messagesTo g c.submissions

def written (c : Connections) (g : Nat) : List Outbound :=
  messagesTo g (c.submissions.filter (·.2.2.isOk))

def asked (c : Connections) (g : Nat) : Nat := (c.messages g).countP Outbound.isShutdown

def owed (c : Connections) (g : Nat) : Nat :=
  ((c.get? g).map Client.debt).getD 0 + c.inbox.countP (·.settles g)

def Made (c : Connections) (g : Nat) (call : PendingCall Ticket) : Prop :=
  call.Fits ∧ ∃ params, (g, .request call.id call.method params, .ok ()) ∈ c.submissions

structure Known (heard : Nat → PendingCall Ticket → Json → Prop) (c : Connections) : Prop where
  calls : ∀ g client, c.get? g = some client → ∀ call ∈ client.pending, c.Made g call
  answers : ∀ e ∈ c.inbox, ∀ t v, e.kind.answer? = some (t, .ok v) →
    ∃ call, call.tag = t ∧ c.Made e.generation call ∧ heard e.generation call v

structure Heeds (heard : Nat → PendingCall Ticket → Json → Prop) (c d : Connections) : Prop where
  grows : c.submissions <+: d.submissions
  owed : ∀ g, d.owed g + c.asked g ≤ c.owed g + d.asked g
  known : c.Known heard → d.Known heard

variable {c d e : Connections} {heard : Nat → PendingCall Ticket → Json → Prop} {g k : Nat}
  {es : List (Emission Ticket)}

lemma messagesTo_append (g : Nat) (s t : List (Nat × Submission)) :
    messagesTo g (s ++ t) = messagesTo g s ++ messagesTo g t := List.filterMap_append

lemma messagesTo_map (g k : Nat) (sent : List Submission) :
    messagesTo k (sent.map (g, ·)) = if g = k then sent.map Prod.fst else [] := by
  induction sent with
  | nil => simp [messagesTo]
  | cons s rest ih =>
    by_cases hg : g = k
    · simp only [messagesTo, hg, if_true] at ih ⊢
      simp only [List.map_cons, List.filterMap_cons, if_true, ih]
    · simp only [messagesTo, hg, if_false] at ih ⊢
      simp only [List.map_cons, List.filterMap_cons, hg, if_false, ih]

lemma mem_messagesTo {m : Outbound} {result : Except TransportError Unit}
    {sent : List (Nat × Submission)} (hm : (g, m, result) ∈ sent) : m ∈ messagesTo g sent :=
  List.mem_filterMap.mpr ⟨_, hm, if_pos rfl⟩

lemma messages_append {sent : List (Nat × Submission)}
    (h : d.submissions = c.submissions ++ sent) (g : Nat) :
    d.messages g = c.messages g ++ messagesTo g sent := by
  rw [messages, h, messagesTo_append]
  rfl

lemma written_sublist (c : Connections) (g : Nat) : (c.written g).Sublist (c.messages g) :=
  List.filter_sublist.filterMap _

lemma messages_one {n : Nat} {m : Outbound} {result : Except TransportError Unit}
    (h : d.submissions = c.submissions ++ [(n, m, result)]) (g : Nat) :
    d.messages g = if n = g then c.messages g ++ [m] else c.messages g := by
  rw [messages_append h]
  split
  · next hn => simp [messagesTo, hn]
  · next hn => simp [messagesTo, hn]

lemma asked_le (h : c.submissions <+: d.submissions) (g : Nat) : c.asked g ≤ d.asked g := by
  obtain ⟨sent, hs⟩ := h
  rw [asked, asked, messages, messages, ← hs, messagesTo_append, List.countP_append]
  exact Nat.le_add_right _ _

lemma Made.mono {call : PendingCall Ticket} (hm : c.Made g call)
    (h : c.submissions <+: d.submissions) : d.Made g call :=
  ⟨hm.1, hm.2.imp fun _ hs => h.subset hs⟩

namespace Heeds

lemma refl (c : Connections) : Heeds heard c c := ⟨List.prefix_rfl, fun _ => Nat.le_refl _, id⟩

lemma trans (h : Heeds heard c d) (h' : Heeds heard d e) : Heeds heard c e := by
  refine ⟨h.grows.trans h'.grows, fun g => ?_, fun hk => h'.known (h.known hk)⟩
  have := h.owed g
  have := h'.owed g
  omega

lemma aside (hc : d.clients = c.clients) (hi : d.inbox = c.inbox)
    (hs : c.submissions <+: d.submissions) : Heeds heard c d := by
  have hget (g : Nat) : d.get? g = c.get? g := by simp only [get?, hc]
  refine ⟨hs, fun g => ?_, fun hk => ⟨fun g client hg call hm => ?_, fun e he t v ha => ?_⟩⟩
  · have hle := asked_le hs g
    simp only [Connections.owed, hget, hi]
    omega
  · exact (hk.calls g client (hget g ▸ hg) call hm).mono hs
  · obtain ⟨call, ht, hm, hh⟩ := hk.answers e (hi ▸ he) t v ha
    exact ⟨call, ht, hm.mono hs, hh⟩

end Heeds

lemma record_heeds (c : Connections) {e : Effect} (hs : e.submission? = none) :
    Heeds heard c (c.record e) :=
  .aside rfl rfl (by simp [submissions, record, hs])

lemma log_heeds (c : Connections) (r : LogRecord) : Heeds heard c (c.log r) := record_heeds c rfl

lemma logs_heeds (notes : List LogRecord) (c : Connections) :
    Heeds heard c (notes.foldl log c) := by
  induction notes generalizing c with
  | nil => exact .refl c
  | cons r rest ih => exact (log_heeds c r).trans (ih (c.log r))

lemma post_heeds (c : Connections) {e : ServerEvent} (hs : ∀ g, e.settles g = false)
    (ha : ∀ t v, e.kind.answer? ≠ some (t, .ok v)) : Heeds heard c (c.post e) := by
  refine ⟨List.prefix_rfl, fun g => ?_, fun hk => ⟨hk.calls, fun x hx t v hxa => ?_⟩⟩
  · have hinbox : (c.post e).inbox.countP (·.settles g) = c.inbox.countP (·.settles g) := by
      simp [post, hs g]
    have hget : (c.post e).get? g = c.get? g := rfl
    simp only [owed, hinbox, hget]
    exact Nat.le_refl _
  · rcases List.mem_append.mp hx with hx | hx
    · exact hk.answers x hx t v hxa
    · obtain rfl := List.mem_singleton.mp hx
      exact absurd hxa (ha t v)

lemma popped_heeds {rest : List ServerEvent} {e : ServerEvent} (hq : c.inbox = e :: rest) :
    Heeds heard c { c with inbox := rest } := by
  refine ⟨List.prefix_rfl, fun g => ?_, fun hk => ⟨hk.calls, fun x hx => hk.answers x ?_⟩⟩
  · have hget : ({ c with inbox := rest } : Connections).get? g = c.get? g := rfl
    have hasked : ({ c with inbox := rest } : Connections).asked g = c.asked g := rfl
    simp only [owed, hget, hq, hasked, List.countP_cons]
    omega
  · exact hq ▸ List.mem_cons_of_mem e hx

lemma absorbs_posts (es : List (Emission Ticket)) (c : Connections) (l : LanguageId) (g : Nat) :
    (es.foldl (fun c e => c.absorb l g e) c).inbox = c.inbox ++ es.filterMap (·.event? l g) := by
  have hstep (c : Connections) (e : Emission Ticket) :
      (c.absorb l g e).inbox = c.inbox ++ (e.event? l g).toList := by
    cases e with
    | completed call outcome =>
      cases ht : call.tag <;>
        simp [absorb, settleCall, Emission.event?, ht, post]
    | _ => simp [absorb, record, post, Emission.event?]
  induction es generalizing c with
  | nil => simp
  | cons e rest ih =>
    rw [List.foldl_cons, ih, hstep, List.filterMap_cons]
    cases e.event? l g <;> simp

lemma settles_events (es : List (Emission Ticket)) (l : LanguageId) (g k : Nat) :
    (es.filterMap (·.event? l g)).countP (·.settles k) =
      if g = k then (completions es).countP (·.1.tag = .shutdown) else 0 := by
  induction es with
  | nil => simp [completions]
  | cons e rest ih =>
    have hrest : completions (e :: rest) = e.completion?.toList ++ completions rest := by
      simp only [completions, List.filterMap_cons]
      cases e.completion? <;> rfl
    have hevents : (e :: rest).filterMap (·.event? l g) =
        (e.event? l g).toList ++ rest.filterMap (·.event? l g) := by
      simp only [List.filterMap_cons]
      cases e.event? l g <;> rfl
    have hhead : (e.event? l g).toList.countP (·.settles k) =
        if g = k then e.completion?.toList.countP (·.1.tag = .shutdown) else 0 := by
      cases e with
      | completed call outcome =>
        by_cases hg : g = k <;> cases ht : call.tag <;>
          simp [Emission.event?, Emission.completion?, ht, ServerEvent.settles,
            ServerEventKind.answer?, hg]
      | _ =>
        simp [Emission.event?, Emission.completion?, ServerEvent.settles, ServerEventKind.answer?]
    rw [hrest, hevents, List.countP_append, List.countP_append, hhead, ih]
    split <;> rfl

lemma event_answer {l : LanguageId} {x : ServerEvent} {t : Ticket} {v : Json}
    (hx : x ∈ es.filterMap (·.event? l g)) (ha : x.kind.answer? = some (t, .ok v)) :
    x.generation = g ∧ ∃ call, call.tag = t ∧ (call, .ok v) ∈ completions es := by
  obtain ⟨e, he, hx⟩ := List.mem_filterMap.mp hx
  cases e with
  | completed call outcome =>
    have hm : (call, outcome) ∈ completions es := List.mem_filterMap.mpr ⟨_, he, rfl⟩
    cases ht : call.tag with
    | caller => simp [Emission.event?, ht] at hx
    | handshake | shutdown =>
      simp only [Emission.event?, ht, Option.some.injEq] at hx
      subst hx
      simp only [ServerEventKind.answer?, Option.some.injEq, Prod.mk.injEq] at ha
      exact ⟨rfl, call, ht.trans ha.1, ha.2 ▸ hm⟩
  | logged | submitted => simp [Emission.event?] at hx
  | notified | requested | ended =>
    simp only [Emission.event?, Option.some.injEq] at hx
    subst hx
    simp [ServerEventKind.answer?] at ha

lemma accept_heeds {old new : Client Ticket} (hc : c.get? g = some old)
    (ht : Client.Tends (heard g) old new es) : Heeds heard c (c.accept new es) := by
  have hg : new.generation = g := ht.same.1.trans (get?_generation hc)
  have hsent := accept_evolves c hc ht.same es
  have hgrows : c.submissions <+: (c.accept new es).submissions := ⟨_, hsent.submissions.symm⟩
  have hinbox := absorbs_posts es (c.set new) new.language new.generation
  have hget := accept_get? hc hg es
  have hwaits (call : PendingCall Ticket) (hk : c.Known heard) (hw : old.Waits es call) :
      (c.accept new es).Made g call := by
    rcases hw with hold | ⟨hf, params, hs⟩
    · exact (hk.calls g old hc call hold).mono hgrows
    · refine ⟨hf, params, ?_⟩
      rw [hsent.submissions]
      exact List.mem_append_right _ (List.mem_map_of_mem hs)
  refine ⟨hgrows, fun k => ?_, fun hk => ⟨fun k client hk' call hm => ?_, fun x hx t v ha => ?_⟩⟩
  · have hposts : (c.accept new es).inbox.countP (·.settles k) = c.inbox.countP (·.settles k) +
        if g = k then (completions es).countP (·.1.tag = .shutdown) else 0 := by
      rw [accept, hinbox, List.countP_append, hg, settles_events]
      rfl
    have hasked : (c.accept new es).asked k = c.asked k +
        if g = k then (LanguageHost.submissions es).countP (·.1.isShutdown) else 0 := by
      rw [asked, messages_append hsent.submissions, List.countP_append, messagesTo_map]
      split
      · rw [List.countP_map]
        rfl
      · rfl
    rw [owed, owed, hget, hposts, hasked]
    by_cases hgk : g = k
    · have hdebt := ht.debt
      rw [if_pos hgk, if_pos hgk, if_pos hgk, ← hgk, hc]
      simp only [Option.map_some, Option.getD_some]
      omega
    · rw [if_neg hgk, if_neg hgk, if_neg hgk]
      omega
  · rw [hget] at hk'
    split at hk'
    · next hgk =>
      obtain rfl := Option.some.inj hk'
      exact hgk ▸ hwaits call hk (ht.waits call hm)
    · exact (hk.calls k client hk' call hm).mono hgrows
  · rw [accept, hinbox, hg] at hx
    rcases List.mem_append.mp hx with hx | hx
    · obtain ⟨call, htag, hm, hh⟩ := hk.answers x hx t v ha
      exact ⟨call, htag, hm.mono hgrows, hh⟩
    · obtain ⟨hxg, call, htag, hm⟩ := event_answer hx ha
      rw [hxg]
      exact ⟨call, htag, hwaits call hk (ht.answers call v hm).1, (ht.answers call v hm).2⟩

lemma update_heeds {f : Client Ticket → Client Ticket × List (Emission Ticket)}
    (hf : ∀ client, c.get? g = some client → Client.Tends (heard g) client (f client).1 (f client).2) :
    Heeds heard c (c.update g f) := by
  cases hc : c.get? g with
  | none =>
    simp only [update, hc]
    exact .refl c
  | some client =>
    simp only [update, hc]
    exact accept_heeds hc (hf client hc)

lemma ask_heeds {α : Type} {f : Client Ticket → Client.Result Ticket (Except RpcError α)}
    (hf : ∀ client, Client.Tends (heard g) client (f client).1 (f client).2.1) :
    Heeds heard c (c.ask g f).1 := by
  cases hc : c.get? g with
  | none =>
    simp only [ask, hc]
    exact .refl c
  | some client =>
    simp only [ask, hc]
    exact accept_heeds hc (hf client)

variable (c g)

lemma call_heeds {method : String} (params : Json) {t : Ticket}
    (hf : ∀ m, t.method? = some m → method = m) :
    Heeds heard c (c.call g method params t).1 := ask_heeds fun _ => Client.call_tends hf

lemma notify_heeds (method : String) (params : Json) :
    Heeds heard c (c.notify g method params).1 :=
  ask_heeds fun client => .still (Client.notify_same client method params)
    (Client.submit_pending client _) (Client.completions_notify client method params)

lemma reply_heeds (id : RequestId) (r : Reply) : Heeds heard c (c.reply g id r).1 :=
  ask_heeds fun client => .still (Client.reply_same client id r) (Client.submit_pending client _)
    (Client.completions_reply client id r)

lemma receive_heeds (signals : List Frame.Signal)
    (hh : ∀ client, c.get? g = some client → ∀ call v, client.Hears signals call v →
      heard g call v) : Heeds heard c (c.receive g signals) :=
  update_heeds fun client hc => Client.receive_tends signals (hh client hc)

lemma endOutput_heeds : Heeds heard c (c.endOutput g) := update_heeds fun _ _ => Client.finish_tends

lemma overhear_heeds (o : Overture)
    (hh : ∀ client, c.get? g = some client → ∀ call v, ¬client.Hears o.signals call v) :
    Heeds heard c (c.overhear g o) := by
  have hreceive : Heeds heard c (c.receive g o.signals) :=
    receive_heeds c g o.signals fun client hc call v hv => absurd hv (hh client hc call v)
  simp only [overhear]
  split
  · exact hreceive.trans (endOutput_heeds _ g)
  · exact hreceive

lemma setPlan_heeds (plan : Nat → Verdict) : Heeds heard c (c.setPlan g plan) :=
  update_heeds fun _ _ => .still ⟨rfl, rfl⟩ rfl rfl

lemma finish_heeds (how : Ending) : Heeds heard c (c.finish g how) := by
  have hclose : Heeds heard c (c.update g Client.close) :=
    update_heeds fun client _ =>
      .drained (Client.close_traffic client).1 rfl (Client.completions_close client)
  exact (hclose.trans (record_heeds _ rfl)).trans (endOutput_heeds _ g)

lemma collect_heeds (name : CallName) : Heeds heard c (c.collect name).1 :=
  .aside rfl rfl List.prefix_rfl

lemma tell_heeds (n : Option Nat) (method : String) (params : Json) :
    Heeds heard c (c.tell n method params) := by
  cases n with
  | none => exact .refl c
  | some g => exact notify_heeds c g method params

lemma add_heeds {c : Connections} {client : Client Ticket} (hp : client.pending = []) :
    Heeds heard c (c.add client) := by
  have hget (k : Nat) (found : Client Ticket) (hf : (c.add client).get? k = some found) :
      c.get? k = some found ∨ c.get? k = none ∧ found = client := by
    simp only [get?, add, List.find?_append, Option.or_eq_some_iff] at hf
    refine hf.imp id fun hf => ⟨hf.1, ?_⟩
    exact (List.mem_singleton.mp (List.mem_of_find?_eq_some hf.2))
  refine ⟨List.prefix_rfl, fun k => ?_, fun hk => ⟨fun k found hf call hm => ?_, hk.answers⟩⟩
  · have hdebt : (((c.add client).get? k).map Client.debt).getD 0 ≤
        ((c.get? k).map Client.debt).getD 0 := by
      cases hf : (c.add client).get? k with
      | none => simp
      | some found =>
        rcases hget k found hf with ho | ⟨-, rfl⟩
        · rw [ho]
        · simp [Client.debt, hp]
    have hasked : (c.add client).asked k = c.asked k := rfl
    have hinbox : (c.add client).inbox = c.inbox := rfl
    rw [owed, owed, hasked, hinbox]
    omega
  · rcases hget k found hf with ho | ⟨-, rfl⟩
    · exact hk.calls k found ho call hm
    · simp [hp] at hm

end Connections

end LanguageHost
