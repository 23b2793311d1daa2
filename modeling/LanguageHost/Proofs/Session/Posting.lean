import LanguageHost.Proofs.Rpc.Passing
import LanguageHost.Proofs.Session.Identifiers

namespace LanguageHost

def PendingCall.posted? (done : PendingCall Ticket × Outcome) : Option (Ticket × Outcome) :=
  if done.1.tag = .caller then none else some (done.1.tag, done.2)

section Events

variable {l : LanguageId} {g : Nat}

lemma events_reports (es : List (Emission Ticket)) :
    (es.filterMap (·.event? l g)).filter (·.kind.answer?.isNone) = (reports es).map (⟨l, g, ·⟩) := by
  induction es with
  | nil => rfl
  | cons e rest ih =>
    have hrest : reports (e :: rest) = e.report?.toList ++ reports rest := by
      simp only [reports, List.filterMap_cons]
      cases e.report? <;> rfl
    have hevents : (e :: rest).filterMap (·.event? l g) =
        (e.event? l g).toList ++ rest.filterMap (·.event? l g) := by
      simp only [List.filterMap_cons]
      cases e.event? l g <;> rfl
    have hhead : (e.event? l g).toList.filter (·.kind.answer?.isNone) =
        e.report?.toList.map (⟨l, g, ·⟩) := by
      cases e with
      | completed call outcome => cases ht : call.tag <;> simp [Emission.event?, ht,
          Emission.report?, ServerEventKind.answer?]
      | _ => simp [Emission.event?, Emission.report?, ServerEventKind.answer?]
    rw [hrest, hevents, List.filter_append, hhead, ih, List.map_append]

lemma events_answers (es : List (Emission Ticket)) :
    (es.filterMap (·.event? l g)).filterMap (·.kind.answer?) =
      (completions es).filterMap PendingCall.posted? := by
  simp only [completions, List.filterMap_filterMap]
  congr 1
  funext e
  cases e with
  | completed call outcome =>
    cases ht : call.tag <;> simp [Emission.event?, Emission.completion?, PendingCall.posted?,
      ServerEventKind.answer?, ht]
  | _ => simp [Emission.event?, Emission.completion?, ServerEventKind.answer?]

lemma events_of_reports {es : List (Emission Ticket)} (hd : completions es = []) :
    es.filterMap (·.event? l g) = (reports es).map (⟨l, g, ·⟩) := by
  have hanswers := events_answers (l := l) (g := g) es
  rw [hd, List.filterMap_nil, List.filterMap_eq_nil_iff] at hanswers
  rw [← events_reports]
  exact (List.filter_eq_self.mpr fun x hx => by rw [hanswers x hx]; rfl).symm

end Events

namespace Connections

variable {k : Connections} {g : Nat} {c : Client Ticket}

def enact (k : Connections) (g : Nat) (acts : List (Client.Act Ticket)) : Connections :=
  acts.foldl (fun k a => k.update g fun c => ((c.perform a).1, (c.perform a).2.1)) k

lemma absorb_set (k : Connections) (l : LanguageId) (g : Nat) (e : Emission Ticket)
    (c : Client Ticket) : (k.absorb l g e).set c = (k.set c).absorb l g e := by
  cases e with
  | completed call outcome =>
    simp only [absorb, settleCall]
    split <;> rfl
  | _ => rfl

lemma absorbs_set (es : List (Emission Ticket)) (k : Connections) (l : LanguageId) (g : Nat)
    (c : Client Ticket) :
    (es.foldl (fun k e => k.absorb l g e) k).set c =
      es.foldl (fun k e => k.absorb l g e) (k.set c) := by
  induction es generalizing k with
  | nil => rfl
  | cons e rest ih => rw [List.foldl_cons, ih, absorb_set, List.foldl_cons]

lemma set_set (k : Connections) {c d : Client Ticket} (h : d.generation = c.generation) :
    (k.set c).set d = k.set d := by
  simp only [set, List.map_map, Connections.mk.injEq, and_true]
  refine List.map_congr_left fun x _ => ?_
  simp only [Function.comp_apply, h]
  split <;> simp_all

lemma accept_accept (k : Connections) {c d : Client Ticket} (h : Client.Same c d)
    (es fs : List (Emission Ticket)) : (k.accept c es).accept d fs = k.accept d (es ++ fs) := by
  rw [accept, accept, accept, absorbs_set, set_set k h.1, List.foldl_append, h.1, h.2]

lemma update_accept (hc : k.get? g = some c)
    (f : Client Ticket → Client Ticket × List (Emission Ticket)) :
    k.update g f = k.accept (f c).1 (f c).2 := by simp only [update, hc]

lemma enact_signals (hc : k.get? g = some c) (s : Frame.Signal) (rest : List Frame.Signal) :
    k.enact g ((s :: rest).map .signal) = k.receive g (s :: rest) := by
  induction rest generalizing k c s with
  | nil =>
    have hone : (c.receive [s]) = ((c.feed s).1, (c.feed s).2 ++ []) := rfl
    rw [receive, update_accept hc, hone, List.append_nil]
    exact update_accept hc fun c => c.feed s
  | cons s' rest ih =>
    have hsame := (c.feed_traffic s).1
    have hstep : k.update g (fun c => ((c.perform (.signal s)).1, (c.perform (.signal s)).2.1)) =
        k.accept (c.feed s).1 (c.feed s).2 := update_accept hc fun c => c.feed s
    have hget : (k.accept (c.feed s).1 (c.feed s).2).get? g = some (c.feed s).1 := by
      rw [accept_get? hc (hsame.1.trans (get?_generation hc)), if_pos rfl]
    have htwo : c.receive (s :: s' :: rest) = (((c.feed s).1.receive (s' :: rest)).1,
        (c.feed s).2 ++ ((c.feed s).1.receive (s' :: rest)).2) := rfl
    rw [List.map_cons, enact, List.foldl_cons, hstep]
    refine (ih hget s').trans ?_
    rw [receive, receive, update_accept hget, update_accept hc, htwo,
      accept_accept k ((c.feed s).1.receive_traffic (s' :: rest)).1]

lemma enact_inbox (hc : k.get? g = some c) (acts : List (Client.Act Ticket)) :
    (k.enact g acts).inbox =
      k.inbox ++ (Client.emitted (c.turns acts)).filterMap (·.event? c.language g) := by
  induction acts generalizing k c with
  | nil => exact (List.append_nil _).symm
  | cons a acts ih =>
    obtain ⟨hgeneration, hlanguage⟩ := (c.perform_counts a).same
    have hg : (c.perform a).1.generation = g := hgeneration.trans (get?_generation hc)
    have hstep : k.update g (fun c => ((c.perform a).1, (c.perform a).2.1)) =
        k.accept (c.perform a).1 (c.perform a).2.1 := update_accept hc _
    have hget : (k.accept (c.perform a).1 (c.perform a).2.1).get? g = some (c.perform a).1 := by
      rw [accept_get? hc hg, if_pos rfl]
    have hinbox : (k.accept (c.perform a).1 (c.perform a).2.1).inbox =
        k.inbox ++ (c.perform a).2.1.filterMap (·.event? c.language g) := by
      rw [accept, absorbs_posts, hg, hlanguage]
      rfl
    have hsplit : Client.emitted (c.turns (a :: acts)) =
        (c.perform a).2.1 ++ Client.emitted ((c.perform a).1.turns acts) := rfl
    rw [enact, List.foldl_cons, hstep]
    refine (ih hget).trans ?_
    rw [hinbox, hlanguage, hsplit, List.filterMap_append, List.append_assoc]

/-- What a session finds of a connection that was read to its end: the events before the last, which are
the messages that are passed on and the answers to calls, and the event that says that it is closed. -/
structure Posted (k k' : Connections) (c : Client Ticket) (ts : List (Client.Turn Ticket))
    (ms : List Json) (e : TransportError) (front : List ServerEvent) : Prop where
  inbox : k'.inbox = k.inbox ++ front ++ [⟨c.language, c.generation, .closed (Client.reported e)⟩]
  passed : front.filter (·.kind.answer?.isNone) =
    (ms.filterMap Inbound.passed?).map (⟨c.language, c.generation, ·⟩)
  answers : front.filterMap (·.kind.answer?) =
    (Client.completed ts).filterMap PendingCall.posted?
  failed : ∃ pre t post, ts = pre ++ t :: post ∧ t.Stops (Client.reported e) ∧
    Client.completed post = []

/-- Whatever calls wait on a connection and whatever its callers do meanwhile, the reader posts each
notification and each request of the stream, in the order of the frames, passes over what is neither,
and stops at the first error or at the end. It posts that last, when no call waits any more, and
without an error if what it met is the end of the connection. -/
theorem reader_posts (hc : k.get? g = some c) (hreading : c.reading = true)
    (hphase : c.phase = .start) {acts : List (Client.Act Ticket)} (hacts : .finish ∉ acts)
    {arrivals : List Frame.Arrival} (hheard : Client.heard acts = Frame.signals arrivals)
    (later : List (Client.Act Ticket)) :
    ∃ ms e front, Frame.Source.Delivers { arrivals } ms e ∧
      (Client.reported e = none ↔ e = .unexpectedEnd) ∧
      Posted k (k.enact g (acts ++ .finish :: later)) c (c.turns (acts ++ .finish :: later))
        ms e front := by
  obtain ⟨ms, e, hdelivers, hbrings⟩ := Frame.delivers_brings arrivals
  rw [← hheard, ← hphase] at hbrings
  obtain ⟨pre, t, post, hout⟩ := Client.turns_readOut hreading hacts hbrings later
  obtain ⟨before, hlast, hquiet, -⟩ := hout.stops.last
  have hg := get?_generation hc
  have hemitted : Client.emitted (c.turns (acts ++ .finish :: later)) =
      Client.emitted pre ++ before ++ [.ended (Client.reported e)] ++ Client.emitted post := by
    have hsplit : Client.emitted (pre ++ t :: post) =
        Client.emitted pre ++ (t.emissions ++ Client.emitted post) := by
      simp only [Client.emitted, List.flatMap_append, List.flatMap_cons]
    rw [hout.split, hsplit, hlast]
    simp only [List.append_assoc]
  have hdone : completions (Client.emitted post) = [] := by
    rw [Client.completions_emitted, hout.silent.2]
  refine ⟨ms, e, (Client.emitted pre ++ before).filterMap (·.event? c.language c.generation),
    hdelivers, ?_, ?_, ?_, ?_, pre, t, post, hout.split, hout.stops, hout.silent.2⟩
  · cases e <;> simp [Client.reported]
  · rw [enact_inbox hc, hemitted, ← get?_generation hc, List.filterMap_append,
      List.filterMap_append, events_of_reports hdone, hout.silent.1, List.map_nil,
      List.append_nil, List.append_assoc]
    rfl
  · rw [events_reports, reports_append, hquiet, List.append_nil, hout.passed]
  · have hended : completions [Emission.ended (κ := Ticket) (Client.reported e)] = [] := rfl
    rw [events_answers, ← Client.completions_emitted, hemitted]
    simp only [completions_append, hdone, hended, List.append_nil]

namespace Sample

def serving : LanguageId := ⟨"toml", by decide, by decide⟩

def talking : Client Ticket :=
  { language := serving, generation := 1, nextId := 2, pending := [⟨1, "initialize", .handshake⟩],
    sink := some { plan := fun _ => .whole } }

def notice : Bytes := Utf8.encodeString "\x7b\x22method\x22:\x22telemetry/event\x22\x7d"

def oddity : Bytes := Utf8.encodeString "[]"

def stream : List Frame.Arrival :=
  [.chunk (Frame.encode oddity ++ (Frame.encode notice).take 30), .fault .interrupted,
    .chunk ((Frame.encode notice).drop 30 ++ (Frame.encode oddity).take 18)]

def turmoil : List (Client.Act Ticket) :=
  .notify "initialized" .null :: (Frame.signals stream).map .signal ++ [.close]

end Sample

theorem reader_posts_notice :
    ({ clients := [Sample.talking] } : Connections).get? 1 = some Sample.talking ∧
      Sample.talking.reading = true ∧ Sample.talking.phase = .start ∧
      .finish ∉ Sample.turmoil ∧ Client.heard Sample.turmoil = Frame.signals Sample.stream ∧
      ∃ ms e front, Frame.Source.Delivers { arrivals := Sample.stream } ms e ∧
        (Client.reported e = none ↔ e = .unexpectedEnd) ∧
        Posted { clients := [Sample.talking] }
          (({ clients := [Sample.talking] } : Connections).enact 1 (Sample.turmoil ++ [.finish]))
          Sample.talking (Sample.talking.turns (Sample.turmoil ++ [.finish])) ms e front := by
  have hfinish : .finish ∉ Sample.turmoil := by simp [Sample.turmoil]
  have hheard : Client.heard Sample.turmoil = Frame.signals Sample.stream := by
    have hsignals := Client.heard_signals (κ := Ticket) (Frame.signals Sample.stream)
    simp only [Sample.turmoil, Client.heard, List.cons_append, List.filterMap_cons,
      List.filterMap_append, Client.Act.signal?, List.filterMap_nil, List.append_nil] at hsignals ⊢
    exact hsignals
  exact ⟨rfl, rfl, rfl, hfinish, hheard, reader_posts rfl rfl rfl hfinish hheard []⟩

end Connections

end LanguageHost
