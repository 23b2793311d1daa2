import LanguageHost.Proofs.Session.Posting
import LanguageHost.Session.Pump

/-! How many events the connections of a session can still bring: those that wait, an answer for each call
and the end of each output. What is done with the connections adds no more to it than the calls that are
made and the messages that servers deliver. -/

namespace LanguageHost

open Host (clientWork)

def ServerEventKind.isMessage : ServerEventKind → Bool
  | .notification .. | .request .. => true
  | _ => false

def delivered {κ : Type} (es : List (Emission κ)) : Nat := (reports es).countP (·.isMessage)

lemma delivered_append {κ : Type} (es fs : List (Emission κ)) :
    delivered (es ++ fs) = delivered es + delivered fs := by
  rw [delivered, reports_append, List.countP_append, delivered, delivered]

section Events

variable {l : LanguageId} {g : Nat}

lemma events_length_le (es : List (Emission Ticket)) :
    (es.filterMap (·.event? l g)).length ≤ (completions es).length + (reports es).length := by
  have hreports := congrArg List.length (events_reports (l := l) (g := g) es)
  have hanswers := congrArg List.length (events_answers (l := l) (g := g) es)
  rw [← List.countP_eq_length_filter, List.length_map] at hreports
  rw [List.length_filterMap_eq_countP] at hanswers
  have hposted := List.length_filterMap_le PendingCall.posted? (completions es)
  have hsplit := List.length_eq_countP_add_countP (fun x : ServerEvent => x.kind.answer?.isNone)
    (l := es.filterMap (·.event? l g))
  have hsome : (es.filterMap (·.event? l g)).countP (fun x => decide ¬x.kind.answer?.isNone = true) =
      (es.filterMap (·.event? l g)).countP fun x => x.kind.answer?.isSome := by
    refine List.countP_congr fun x _ => ?_
    cases x.kind.answer? <;> simp
  omega

end Events

namespace Client

variable {c d e : Client Ticket} {es fs : List (Emission Ticket)} {n m : Nat}

structure Costs (n : Nat) (c d : Client Ticket) (es : List (Emission Ticket)) : Prop where
  same : Same c d
  work : clientWork d + ((completions es).length + (reports es).length) ≤ clientWork c + n

namespace Costs

lemma trans (h : Costs n c d es) (h' : Costs m d e fs) : Costs (n + m) c e (es ++ fs) where
  same := h.same.trans h'.same
  work := by
    have := h.work
    have := h'.work
    rw [completions_append, reports_append, List.length_append, List.length_append]
    omega

lemma still (hs : Same c d) (hp : d.pending = c.pending) (hr : d.reading = c.reading)
    (hc : completions es = []) (he : reports es = []) : Costs 0 c d es :=
  ⟨hs, by simp [clientWork, hp, hr, hc, he]⟩

end Costs

lemma Reads.tally {κ : Type} {c d : Client κ} {done : List (PendingCall κ × Outcome)}
    {r : Option Response} (h : Reads c d done r) :
    d.pending.length + done.length ≤ c.pending.length := by
  cases h with
  | buffered p hd hc => simp [hd, hc]
  | stray r hn hc hd => simp [hd, hc]
  | stopped hp hi hcl hc => simp [hp, hc]
  | answered r call hid hm hc hd =>
    have hless : (c.pending.filter (·.id ≠ call.id)).length < c.pending.length :=
      List.length_filter_lt_length_iff_exists.mpr ⟨call, hm, by simp⟩
    subst hd hc
    exact hless

lemma passed?_isMessage (m : Json) :
    (Inbound.passed? m).toList.countP (·.isMessage) = (Inbound.passed? m).toList.length := by
  rw [Inbound.passed?_classify]
  split <;> rfl

lemma notify_costs (c : Client Ticket) (method : String) (params : Json) :
    Costs 0 c (c.notify method params).1 (c.notify method params).2.1 := by
  obtain ⟨hreports, hreading, -⟩ :=
    c.perform_aside (a := .notify method params) rfl (by simp)
  exact .still (notify_same c method params) (submit_pending c _) hreading
    (completions_notify c method params) hreports

lemma reply_costs (c : Client Ticket) (id : RequestId) (r : Reply) :
    Costs 0 c (c.reply id r).1 (c.reply id r).2.1 := by
  obtain ⟨hreports, hreading, -⟩ := c.perform_aside (a := .reply id r) rfl (by simp)
  exact .still (reply_same c id r) (submit_pending c _) hreading (completions_reply c id r) hreports

lemma call_costs (c : Client Ticket) (method : String) (params : Json) (t : Ticket) :
    Costs 1 c (c.call method params t).1 (c.call method params t).2.1 := by
  obtain ⟨hreports, hreading, -⟩ := c.reports_call method params t
  cases hc : c.closed with
  | true =>
    rw [call_closed hc]
    exact ⟨⟨rfl, rfl⟩, Nat.le_succ _⟩
  | false =>
    obtain ⟨hsame, hdone, result, -, hpending⟩ := call_traffic hc method params t
    have hlength : (c.call method params t).1.pending.length ≤ c.pending.length + 1 := by
      rcases hpending with ⟨-, hp⟩ | hp <;> rw [hp]
      · simp
      · exact (List.length_filter_le _ _).trans (by simp)
    refine ⟨hsame, ?_⟩
    simp only [hdone, hreports, clientWork, hreading, List.length_nil]
    omega

lemma close_costs (c : Client Ticket) : Costs 0 c c.close.1 c.close.2 := by
  have hreports : reports c.close.2 = [] := (perform_aside (a := .close) rfl (by simp)).1
  refine ⟨(close_traffic c).1, ?_⟩
  have hleft : clientWork c.close.1 = if c.reading then 1 else 0 := Nat.zero_add _
  rw [completions_close, hreports, List.length_map, hleft, List.length_nil, clientWork]
  omega

lemma stop_costs (hr : c.reading = true) (error : Option TransportError) :
    Costs 0 c (c.stop error).1 (c.stop error).2 ∧ delivered (c.stop error).2 = 0 := by
  obtain ⟨front, hlast, hreports⟩ := c.stop_last error
  have hone : reports (c.stop error).2 = [.closed error] := by
    rw [hlast, reports_append, hreports]
    rfl
  refine ⟨⟨(stop_traffic c error).1, ?_⟩, by rw [delivered, hone]; rfl⟩
  rw [completions_stop, hone, List.length_map]
  simp [clientWork, hr, stop, drain]

lemma feed_costs (c : Client Ticket) (s : Frame.Signal) :
    Costs (delivered (c.feed s).2) c (c.feed s).1 (c.feed s).2 := by
  cases hr : c.reading with
  | false =>
    rw [feed, if_neg (by simp [hr])]
    exact .still ⟨rfl, rfl⟩ rfl rfl rfl rfl
  | true =>
    have htally := (signal_reads c s).tally
    have hsame := (feed_traffic c s).1
    cases hf : Frame.feed c.phase s with
    | more p =>
      rw [feed, if_pos hr, hf]
      exact .still ⟨rfl, rfl⟩ rfl rfl rfl rfl
    | done r =>
      have hfeed : c.feed s = { c with phase := .start }.take (Frame.message r) := by
        rw [feed, if_pos hr, hf]
      rw [hfeed] at htally hsame ⊢
      cases hm : Frame.message r with
      | error e =>
        obtain ⟨error, hs⟩ := take_error { c with phase := .start } e
        obtain ⟨hcosts, hnone⟩ := stop_costs (c := { c with phase := .start }) hr error
        rw [hs, hnone]
        exact ⟨hcosts.same, hcosts.work⟩
      | ok m =>
        rw [hm] at htally hsame
        simp only [take] at htally hsame ⊢
        obtain ⟨hreading, -⟩ := { c with phase := .start }.dispatch_quiet m
        refine ⟨hsame, ?_⟩
        rw [delivered, dispatch_reports, passed?_isMessage]
        simp only [clientWork, hreading]
        omega

lemma receive_costs (c : Client Ticket) (signals : List Frame.Signal) :
    Costs (delivered (c.receive signals).2) c (c.receive signals).1 (c.receive signals).2 := by
  induction signals generalizing c with
  | nil => exact .still ⟨rfl, rfl⟩ rfl rfl rfl rfl
  | cons s rest ih =>
    have hrest := (feed_costs c s).trans (ih (c.feed s).1)
    rwa [← delivered_append] at hrest

lemma delivered_feed_le (c : Client Ticket) (s : Frame.Signal) : delivered (c.feed s).2 ≤ 1 := by
  cases hr : c.reading with
  | false =>
    rw [feed, if_neg (by simp [hr])]
    exact Nat.zero_le 1
  | true =>
    cases hf : Frame.feed c.phase s with
    | more p =>
      rw [feed, if_pos hr, hf]
      exact Nat.zero_le 1
    | done r =>
      have hfeed : c.feed s = { c with phase := .start }.take (Frame.message r) := by
        rw [feed, if_pos hr, hf]
      rw [hfeed]
      cases hm : Frame.message r with
      | error e =>
        obtain ⟨error, hs⟩ := take_error { c with phase := .start } e
        rw [hs, (stop_costs (c := { c with phase := .start }) hr error).2]
        exact Nat.zero_le 1
      | ok m =>
        simp only [take]
        rw [delivered, dispatch_reports, passed?_isMessage]
        cases Inbound.passed? m <;> simp

lemma delivered_receive_le (c : Client Ticket) (signals : List Frame.Signal) :
    delivered (c.receive signals).2 ≤ signals.length := by
  induction signals generalizing c with
  | nil => exact Nat.le_refl 0
  | cons s rest ih =>
    have hfeed := delivered_feed_le c s
    have hrest := ih (c.feed s).1
    simp only [receive, delivered_append, List.length_cons]
    omega

lemma finish_costs (c : Client Ticket) : Costs 0 c c.finish.1 c.finish.2 := by
  cases hr : c.reading with
  | false =>
    rw [finish, if_neg (by simp [hr])]
    exact .still ⟨rfl, rfl⟩ rfl rfl rfl rfl
  | true =>
    obtain ⟨e, he⟩ := message_finish c.phase
    obtain ⟨error, hs⟩ := take_error c e
    simp only [finish, hr, he, if_true, hs]
    exact (stop_costs hr error).1

end Client

namespace Connections

variable {c d e : Connections} {g n m : Nat}

def load (c : Connections) : Nat := c.inbox.length + c.clients.foldr (clientWork · + ·) 0

def roll (c : Connections) : List Nat := c.clients.map (·.generation)

structure Costs (n : Nat) (c d : Connections) : Prop where
  roll : d.roll = c.roll
  launches : d.launches = c.launches
  load : c.roll.Nodup → d.load ≤ c.load + n

namespace Costs

lemma refl (c : Connections) : Costs 0 c c := ⟨rfl, rfl, fun _ => Nat.le_refl _⟩

lemma trans (h : Costs n c d) (h' : Costs m d e) : Costs (n + m) c e where
  roll := h'.roll.trans h.roll
  launches := h'.launches.trans h.launches
  load hn := by
    have := h.load hn
    have := h'.load (h.roll ▸ hn)
    omega

lemma mono (h : Costs n c d) (hnm : n ≤ m) : Costs m c d :=
  ⟨h.roll, h.launches, fun hn => (h.load hn).trans (Nat.add_le_add_left hnm _)⟩

lemma free_trans (h : Costs 0 c d) (h' : Costs n d e) : Costs n c e := Nat.zero_add n ▸ h.trans h'

lemma aside (hc : d.clients = c.clients) (hl : d.launches = c.launches)
    (hi : d.inbox.length ≤ c.inbox.length + n) : Costs n c d where
  roll := by rw [Connections.roll, hc, Connections.roll]
  launches := hl
  load _ := by
    simp only [Connections.load, hc]
    omega

end Costs

lemma record_costs (c : Connections) {x : Effect} (hx : x.launch? = none) : Costs 0 c (c.record x) :=
  .aside rfl (by simp [launches, record, hx]) (Nat.le_refl _)

lemma log_costs (c : Connections) (r : LogRecord) : Costs 0 c (c.log r) := record_costs c rfl

lemma logs_costs (notes : List LogRecord) (c : Connections) : Costs 0 c (notes.foldl log c) :=
  .aside (by rw [logs_eq]) (logs_evolves notes c).launches (by rw [logs_eq]; exact Nat.le_refl _)

lemma post_costs (c : Connections) (x : ServerEvent) : Costs 1 c (c.post x) :=
  .aside rfl rfl (by simp [post])

section Accepting

variable {old new : Client Ticket} {es : List (Emission Ticket)}

lemma absorbs_clients (es : List (Emission Ticket)) (c : Connections) (l : LanguageId) (g : Nat) :
    (es.foldl (fun c x => c.absorb l g x) c).clients = c.clients := by
  have hstep (c : Connections) (x : Emission Ticket) : (c.absorb l g x).clients = c.clients := by
    cases x with
    | completed call outcome => cases ht : call.tag <;> simp [absorb, settleCall, ht, post]
    | _ => rfl
  induction es generalizing c with
  | nil => rfl
  | cons x rest ih => rw [List.foldl_cons, ih, hstep]

lemma set_work {cs : List (Client Ticket)} (hn : (cs.map (·.generation)).Nodup) (hm : old ∈ cs)
    (hg : new.generation = old.generation) :
    (cs.map fun x => if x.generation = new.generation then new else x).foldr (clientWork · + ·) 0 +
      clientWork old = cs.foldr (clientWork · + ·) 0 + clientWork new := by
  induction cs with
  | nil => cases hm
  | cons x rest ih =>
    rw [List.map_cons, List.nodup_cons] at hn
    by_cases hx : x.generation = new.generation
    · -- No other connection has this generation.
      have hrest : rest.map (fun x => if x.generation = new.generation then new else x) = rest := by
        conv_rhs => rw [← List.map_id rest]
        refine List.map_congr_left fun y hy => if_neg fun hyg => hn.1 ?_
        exact List.mem_map.mpr ⟨y, hy, hyg.trans hx.symm⟩
      obtain rfl : old = x := by
        rcases List.mem_cons.mp hm with hm | hm
        · exact hm
        · exact absurd (List.mem_map.mpr ⟨old, hm, (hx.trans hg).symm⟩) hn.1
      simp only [List.map_cons, hx, if_true, List.foldr_cons, hrest]
      omega
    · have hm : old ∈ rest := by
        refine (List.mem_cons.mp hm).resolve_left fun ho => hx ?_
        rw [← ho, hg]
      have := ih hn.2 hm
      simp only [List.map_cons, hx, if_false, List.foldr_cons]
      omega

lemma accept_costs (hc : c.get? g = some old) (h : Client.Costs n old new es) :
    Costs n c (c.accept new es) where
  roll := by
    simp only [roll, accept, absorbs_clients, set, List.map_map]
    refine List.map_congr_left fun x _ => ?_
    simp only [Function.comp_apply]
    split
    · next hx => exact hx.symm
    · rfl
  launches := (accept_evolves c hc h.same es).launches
  load hn := by
    have hset := set_work hn (List.mem_of_find?_eq_some hc) h.same.1
    have hevents := events_length_le (l := new.language) (g := new.generation) es
    have hwork := h.work
    simp only [load, accept, absorbs_clients, absorbs_posts, List.length_append, set]
    omega

lemma update_costs {f : Client Ticket → Client Ticket × List (Emission Ticket)}
    (hf : ∀ client, c.get? g = some client → Client.Costs n client (f client).1 (f client).2) :
    Costs n c (c.update g f) := by
  cases hc : c.get? g with
  | none =>
    simp only [update, hc]
    exact .aside rfl rfl (Nat.le_add_right _ _)
  | some client =>
    simp only [update, hc]
    exact accept_costs hc (hf client hc)

lemma ask_costs {α : Type} {f : Client Ticket → Client.Result Ticket (Except RpcError α)}
    (hf : ∀ client, Client.Costs n client (f client).1 (f client).2.1) (c : Connections) (g : Nat) :
    Costs n c (c.ask g f).1 := by
  cases hc : c.get? g with
  | none =>
    simp only [ask, hc]
    exact .aside rfl rfl (Nat.le_add_right _ _)
  | some client =>
    simp only [ask, hc]
    exact accept_costs hc (hf client)

end Accepting

section Operations

variable (c : Connections) (g : Nat)

lemma call_costs (method : String) (params : Json) (t : Ticket) :
    Costs 1 c (c.call g method params t).1 :=
  ask_costs (fun client => client.call_costs method params t) c g

lemma notify_costs (method : String) (params : Json) : Costs 0 c (c.notify g method params).1 :=
  ask_costs (fun client => client.notify_costs method params) c g

lemma reply_costs (id : RequestId) (r : Reply) : Costs 0 c (c.reply g id r).1 :=
  ask_costs (fun client => client.reply_costs id r) c g

def delivers (signals : List Frame.Signal) : Nat :=
  ((c.get? g).map fun client => delivered (client.receive signals).2).getD 0

lemma receive_costs (signals : List Frame.Signal) :
    Costs (c.delivers g signals) c (c.receive g signals) := by
  refine update_costs fun client hc => ?_
  rw [delivers, hc]
  exact client.receive_costs signals

lemma endOutput_costs : Costs 0 c (c.endOutput g) := update_costs fun client _ => client.finish_costs

lemma delivers_le (signals : List Frame.Signal) : c.delivers g signals ≤ signals.length := by
  cases hc : c.get? g with
  | none => simp [delivers, hc]
  | some client => simpa [delivers, hc] using client.delivered_receive_le signals

lemma overhear_costs (o : Overture) : Costs o.signals.length c (c.overhear g o) := by
  have hreceive : Costs o.signals.length c (c.receive g o.signals) :=
    (receive_costs c g o.signals).mono (c.delivers_le g o.signals)
  simp only [overhear]
  split
  · exact hreceive.trans (endOutput_costs _ g)
  · exact hreceive

lemma setPlan_costs (plan : Nat → Verdict) : Costs 0 c (c.setPlan g plan) :=
  update_costs fun _ _ => .still ⟨rfl, rfl⟩ rfl rfl rfl rfl

lemma finish_costs (how : Ending) : Costs 0 c (c.finish g how) := by
  have hclose : Costs 0 c (c.update g Client.close) := update_costs fun client _ => client.close_costs
  exact (hclose.free_trans (record_costs _ rfl)).free_trans (endOutput_costs _ g)

lemma tell_costs (n : Option Nat) (method : String) (params : Json) :
    Costs 0 c (c.tell n method params) := by
  cases n with
  | none => exact .refl c
  | some g => exact notify_costs c g method params

lemma collect_costs (name : CallName) : Costs 0 c (c.collect name).1 := .aside rfl rfl (Nat.le_refl _)

end Operations

end Connections

namespace Instance

variable (i : Instance) (c : Connections)

lemma finish_costs (how : Ending) : Connections.Costs 0 c (i.finish how c).1 := by
  cases hg : i.connection with
  | none =>
    simp only [finish, hg]
    exact .refl c
  | some g =>
    simp only [finish, hg]
    exact Connections.finish_costs c g how

lemma notify_costs (method : String) (params : Json) :
    Connections.Costs 0 c (i.notify method params c).1 := by
  cases hg : i.connection with
  | none =>
    simp only [notify, hg]
    exact .refl c
  | some g =>
    simp only [notify, hg]
    exact Connections.notify_costs c g method params

lemma initializeSucceeded_costs (response : Json) :
    Connections.Costs 0 c (i.initializeSucceeded response c).1 := by
  have hlogs := Connections.logs_costs ((CapabilitySet.negotiate response i.settings).features.map
    (i.welcomed response).featureNote) c
  rw [List.foldl_map] at hlogs
  exact hlogs.free_trans ((i.welcomed response).notify_costs _ "initialized" (.obj []))

lemma shutdownAcknowledged_costs (outcome : Outcome) :
    Connections.Costs 0 c (i.shutdownAcknowledged outcome c).1 := by
  have hexit := i.notify_costs c "exit" .null
  rcases Host.shutdownAcknowledged_result i outcome c with ⟨j, -, ha⟩ | ⟨r, d, hd, ha⟩
  · rwa [ha]
  · have hcosts : Connections.Costs 0 c d := by
      rcases hd with rfl | ⟨-, rfl⟩
      · exact .refl d
      · exact hexit
    rw [ha]
    exact (hcosts.free_trans (d.log_costs r)).free_trans (i.finish_costs _ .forceExit)

lemma connect_load (root : Option FilePath) (env : Environment) (g : Nat) (plan : Nat → Verdict)
    (o : Overture) :
    (i.connect root env g plan o c).1.roll = c.roll ++ [g] ∧
      (i.connect root env g plan o c).1.launches = c.launches ∧
      ((c.roll ++ [g]).Nodup →
        (i.connect root env g plan o c).1.load ≤ c.load + 3 + o.signals.length) := by
  let new : Client Ticket := .start i.language g i.settings.rpcTrace plan
  have hroll : (c.add new).roll = c.roll ++ [g] := by simp [Connections.roll, Connections.add, new]; rfl
  have hload : (c.add new).load = c.load + 1 := by
    have hnew : clientWork new = 1 := rfl
    have hsum (cs : List (Client Ticket)) : (cs ++ [new]).foldr (clientWork · + ·) 0 =
        cs.foldr (clientWork · + ·) 0 + 1 := by
      induction cs with
      | nil => rfl
      | cons x rest ih =>
        simp only [List.cons_append, List.foldr_cons, ih]
        omega
    simp only [Connections.load, Connections.add, hsum]
    omega
  have hheard : Connections.Costs o.signals.length (c.add new) (i.ungreeted root env g plan o c) :=
    ((Connections.log_costs _ _).free_trans (Connections.logs_costs _ _)).free_trans
      (Connections.overhear_costs _ g o)
  have hasked := hheard.trans (Connections.call_costs _ g "initialize"
    (Handshake.params env.processId root (i.options root env).2) .handshake)
  have hcosts : Connections.Costs (o.signals.length + 1 + 1) (c.add new)
      (i.connect root env g plan o c).1 := by
    rcases i.connect_cases root env g plan o c rfl with hd | ⟨e, hd⟩ <;> rw [hd]
    · exact hasked.mono (Nat.le_succ _)
    · exact hasked.trans (Connections.post_costs _ _)
  refine ⟨hcosts.roll.trans hroll, hcosts.launches, fun hn => ?_⟩
  have := hcosts.load (hroll ▸ hn)
  omega

end Instance

end LanguageHost
