import Mathlib.Data.List.Forall2
import LanguageHost.Proofs.Session.Traffic
import LanguageHost.Session.Sync

/-! Two sessions that work alike on their connections: what they log may be different, and so may the
language in which they open a document; all else is the same. -/

namespace LanguageHost

/-- Two operations answer the same, and what they leave is related. -/
structure Tandem {σ α : Type} (R : σ → σ → Prop) (r r' : σ × α) : Prop where
  states : R r.1 r'.1
  result : r'.2 = r.2

namespace Tandem

variable {σ α β : Type} {R : σ → σ → Prop} {r r' : σ × α}

lemma split (h : Tandem R r r') : ∃ s t answer, r = (s, answer) ∧ r' = (t, answer) ∧ R s t :=
  ⟨r.1, r'.1, r.2, rfl, Prod.ext rfl h.result, h.states⟩

lemma map (h : Tandem R r r') (f : α → β) : Tandem R (r.1, f r.2) (r'.1, f r'.2) :=
  ⟨h.states, congrArg f h.result⟩

end Tandem

variable {κ : Type} {a b : LanguageId}

inductive Outbound.Alike (a b : LanguageId) : Outbound → Outbound → Prop
  | same (m : Outbound) : Alike a b m m
  | opened (uri : Uri) (version : Nat) (text : String) :
      Alike a b
        (.notification "textDocument/didOpen" (some (Sync.openParams uri a version text)))
        (.notification "textDocument/didOpen" (some (Sync.openParams uri b version text)))

inductive Emission.Alike (a b : LanguageId) : Emission κ → Emission κ → Prop
  | same (e : Emission κ) : Alike a b e e
  | logged (side side' : Side) (r r' : LogRecord) : Alike a b (.logged side r) (.logged side' r')
  | submitted {m m' : Outbound} (hm : m.Alike a b m') (result : Except TransportError Unit) :
      Alike a b (.submitted m result) (.submitted m' result)

inductive Effect.Alike (a b : LanguageId) : Effect → Effect → Prop
  | same (e : Effect) : Alike a b e e
  | submitted (g : Nat) {m m' : Outbound} (hm : m.Alike a b m')
      (result : Except TransportError Unit) :
      Alike a b (.submitted g m result) (.submitted g m' result)

structure Submission.Alike (a b : LanguageId) (s s' : Nat × Submission) : Prop where
  generation : s'.1 = s.1
  message : s.2.1.Alike a b s'.2.1
  result : s'.2.2 = s.2.2

def Effect.isLog : Effect → Bool
  | .logged .. => true
  | _ => false

@[simp] lemma Effect.isLog_logged (side : Side) (r : LogRecord) :
    (Effect.logged side r).isLog = true := rfl

namespace Client

def Alike (c d : Client κ) : Prop :=
  ∃ written, d = { c with sink := c.sink.map ({ · with written }) }

variable {c d : Client κ} {m m' : Outbound}

lemma Alike.refl (c : Client κ) : c.Alike c := by
  cases hs : c.sink with
  | none => exact ⟨[], by rw [hs, Option.map_none, ← hs]⟩
  | some s => exact ⟨s.written, by rw [hs, Option.map_some, ← hs]⟩

lemma Alike.generation (h : c.Alike d) : d.generation = c.generation := by
  obtain ⟨written, rfl⟩ := h
  rfl

lemma Alike.language (h : c.Alike d) : d.language = c.language := by
  obtain ⟨written, rfl⟩ := h
  rfl

lemma Alike.nextId (h : c.Alike d) : d.nextId = c.nextId := by
  obtain ⟨written, rfl⟩ := h
  rfl

lemma Alike.closed (h : c.Alike d) : d.closed = c.closed := by
  obtain ⟨written, rfl⟩ := h
  rfl

structure Parallel {α : Type} (a b : LanguageId) (r r' : Result κ α) : Prop where
  clients : r.1.Alike r'.1
  emissions : List.Forall₂ (Emission.Alike a b) r.2.1 r'.2.1
  result : r'.2.2 = r.2.2

lemma Alike.trace (h : c.Alike d) (text text' : List Char) :
    List.Forall₂ (Emission.Alike a b) (c.traceNote .caller "send" text)
      (d.traceNote .caller "send" text') := by
  obtain ⟨written, rfl⟩ := h
  cases ht : c.traced with
  | true =>
    simp only [traceNote, ht, if_true]
    exact .cons (.logged ..) .nil
  | false => simp [traceNote, ht]

lemma Alike.submit (h : c.Alike d) (hm : m.Alike a b m') :
    Parallel a b (c.submit m) (d.submit m') := by
  have htrace := h.trace (a := a) (b := b) m.chars m'.chars
  obtain ⟨written, rfl⟩ := h
  cases hs : c.sink with
  | none =>
    simp only [Client.submit, hs, Option.map_none]
    exact ⟨⟨[], by simp [hs]⟩, List.rel_append htrace (.cons (.submitted hm _) .nil), rfl⟩
  | some s =>
    simp only [Client.submit, hs, Option.map_some, Sink.send]
    cases s.plan s.attempts with
    | whole =>
      exact ⟨⟨written ++ Frame.encode m'.bytes, rfl⟩,
        List.rel_append htrace (.cons (.submitted hm _) .nil), rfl⟩
    | cut accepted f =>
      exact ⟨⟨written ++ (Frame.encode m'.bytes).take accepted, rfl⟩,
        List.rel_append htrace (.cons (.submitted hm _) .nil), rfl⟩

lemma Alike.notify (h : c.Alike d) (method : String) {params params' : Json}
    (hm : (Outbound.notification method (paramsOf params)).Alike a b
      (.notification method (paramsOf params'))) :
    Parallel a b (c.notify method params) (d.notify method params') := by
  obtain ⟨hclients, hemissions, hresult⟩ := h.submit hm
  refine ⟨hclients, .cons (.logged ..) hemissions, ?_⟩
  simp only [Client.notify, hresult]

lemma Alike.reserved (h : c.Alike d) (method : String) (tag : κ) :
    (c.reserved method tag).Alike (d.reserved method tag) := by
  obtain ⟨written, rfl⟩ := h
  exact ⟨written, rfl⟩

lemma Alike.withdraw (h : c.Alike d) (id : Nat) : (c.withdraw id).Alike (d.withdraw id) := by
  obtain ⟨written, rfl⟩ := h
  exact ⟨written, rfl⟩

lemma Alike.skip (h : c.Alike d) :
    Alike { c with nextId := c.nextId + 1 } { d with nextId := d.nextId + 1 } := by
  obtain ⟨written, rfl⟩ := h
  exact ⟨written, rfl⟩

lemma Alike.call (h : c.Alike d) (method : String) (params : Json) (tag : κ) :
    Parallel a b (c.call method params tag) (d.call method params tag) := by
  have hid := h.nextId
  cases hc : c.closed with
  | true =>
    rw [call_closed hc, call_closed (h.closed.trans hc)]
    exact ⟨h.skip, .nil, rfl⟩
  | false =>
    obtain ⟨hclients, hemissions, hresult⟩ := (h.reserved method tag).submit (a := a) (b := b)
      (.same (.request c.nextId method (paramsOf params)))
    obtain ⟨sink, sending, es, result, hsub, hcall⟩ := call_open hc method params tag
    obtain ⟨sink', sending', es', result', hsub', hcall'⟩ :=
      call_open (h.closed.trans hc) method params tag
    rw [hid] at hsub'
    rw [hsub, hsub'] at hclients hemissions hresult
    obtain rfl : result' = result := hresult
    rw [hcall, hcall', hid]
    cases result' with
    | ok => exact ⟨hclients, .cons (.logged ..) hemissions, rfl⟩
    | error e => exact ⟨hclients.withdraw c.nextId, .cons (.logged ..) hemissions, rfl⟩

section Reading

variable (c : Client κ) (sink : Option Sink)

lemma complete_sinkless (r : Response) : { c with sink }.complete r =
    ({ (c.complete r).1 with sink }, (c.complete r).2) := by
  have hpending : { c with sink }.pendingOf = c.pendingOf := rfl
  rw [complete, complete, hpending]
  cases r.id.bind c.pendingOf <;> rfl

lemma dispatch_sinkless (m : Json) : { c with sink }.dispatch m =
    ({ (c.dispatch m).1 with sink }, (c.dispatch m).2) := by
  rw [dispatch, dispatch]
  cases Inbound.classify m with
  | error e => rfl
  | ok x =>
    cases x with
    | response r => simp only [complete_sinkless]; rfl
    | _ => rfl

lemma take_sinkless (m : Except TransportError Json) : { c with sink }.take m =
    ({ (c.take m).1 with sink }, (c.take m).2) := by
  cases m with
  | ok m => exact c.dispatch_sinkless sink m
  | error e => cases e <;> rfl

lemma feed_sinkless (s : Frame.Signal) : { c with sink }.feed s =
    ({ (c.feed s).1 with sink }, (c.feed s).2) := by
  obtain ⟨language, generation, traced, nextId, pending, closed, input, phase, reading⟩ := c
  cases reading with
  | false => rfl
  | true =>
    cases hf : Frame.feed phase s with
    | more p => simp only [feed, hf, if_true]
    | done r =>
      simp only [feed, hf, if_true]
      exact take_sinkless ⟨language, generation, traced, nextId, pending, closed, input, .start, true⟩
        sink (Frame.message r)

lemma receive_sinkless (signals : List Frame.Signal) : { c with sink }.receive signals =
    ({ (c.receive signals).1 with sink }, (c.receive signals).2) := by
  induction signals generalizing c with
  | nil => rfl
  | cons s rest ih => simp only [receive, feed_sinkless, ih]

lemma finish_sinkless : { c with sink }.finish = ({ c.finish.1 with sink }, c.finish.2) := by
  have hdispatch (m : Json) := c.dispatch_sinkless sink m
  obtain ⟨language, generation, traced, nextId, pending, closed, input, phase, reading⟩ := c
  cases reading with
  | false => rfl
  | true =>
    cases hm : Frame.message (Frame.finish phase) with
    | ok m =>
      simp only [finish, hm, if_true, hdispatch]
      rfl
    | error e =>
      simp only [finish, hm, if_true]
      exact take_sinkless ⟨language, generation, traced, nextId, pending, closed, input, phase, true⟩
        sink (.error e)

end Reading

lemma Alike.reads {f : Client κ → Client κ × List (Emission κ)} (h : c.Alike d)
    (hf : ∀ (c : Client κ) sink, f { c with sink } = ({ (f c).1 with sink }, (f c).2)) :
    (f c).1.Alike (f d).1 ∧ (f d).2 = (f c).2 := by
  obtain ⟨written, rfl⟩ := h
  have hsink : (f c).1.sink = c.sink := congrArg (·.1.sink) (hf c c.sink)
  have hd := hf c (c.sink.map ({ · with written }))
  exact ⟨⟨written, by rw [hd, hsink]⟩, by rw [hd]⟩

end Client

namespace Connections

def deeds (c : Connections) : List Effect := c.trace.filter (!·.isLog)

structure Alike (a b : LanguageId) (c d : Connections) : Prop where
  clients : List.Forall₂ Client.Alike c.clients d.clients
  inbox : d.inbox = c.inbox
  mailbox : d.mailbox = c.mailbox
  deeds : List.Forall₂ (Effect.Alike a b) c.deeds d.deeds

variable {c d : Connections} {g : Nat}

lemma deeds_record (c : Connections) (e : Effect) :
    (c.record e).deeds = if e.isLog then c.deeds else c.deeds ++ [e] := by
  cases he : e.isLog <;> simp [deeds, record, List.filter_append, he]

lemma deeds_filterMap {α : Type} {f : Effect → Option α} (c : Connections)
    (hf : ∀ side r, f (.logged side r) = none) :
    c.deeds.filterMap f = c.trace.filterMap f := by
  rw [deeds, List.filterMap_filter]
  refine List.filterMap_congr fun e _ => ?_
  cases e with
  | logged side r => exact (hf side r).symm
  | _ => rfl

namespace Alike

lemma refl (c : Connections) : Alike a b c c where
  clients := List.forall₂_same.mpr fun x _ => .refl x
  inbox := rfl
  mailbox := rfl
  deeds := List.forall₂_same.mpr fun e _ => .same e

lemma record (h : Alike a b c d) {e e' : Effect} (he : e.Alike a b e') (hl : e.isLog = false) :
    Alike a b (c.record e) (d.record e') := by
  have hl' : e'.isLog = false := by
    cases he with
    | same => exact hl
    | submitted => rfl
  refine ⟨h.clients, h.inbox, h.mailbox, ?_⟩
  rw [deeds_record, deeds_record, hl, hl']
  exact List.rel_append h.deeds (.cons he .nil)

lemma log (h : Alike a b c d) (r r' : LogRecord) : Alike a b (c.log r) (d.log r') := by
  refine ⟨h.clients, h.inbox, h.mailbox, ?_⟩
  rw [Connections.log, Connections.log, deeds_record, deeds_record]
  exact h.deeds

lemma logs (h : Alike a b c d) (notes notes' : List LogRecord) :
    Alike a b (notes.foldl Connections.log c) (notes'.foldl Connections.log d) := by
  rw [logs_eq, logs_eq]
  refine ⟨h.clients, h.inbox, h.mailbox, ?_⟩
  simpa [Connections.deeds, List.filter_map, Function.comp_def] using h.deeds

lemma add (h : Alike a b c d) (client : Client Ticket) :
    Alike a b (c.add client) (d.add client) :=
  ⟨List.rel_append h.clients (.cons (.refl client) .nil), h.inbox, h.mailbox, h.deeds⟩

lemma post (h : Alike a b c d) (e : ServerEvent) : Alike a b (c.post e) (d.post e) :=
  ⟨h.clients, congrArg (· ++ [e]) h.inbox, h.mailbox, h.deeds⟩

lemma get? (h : Alike a b c d) (g : Nat) :
    c.get? g = none ∧ d.get? g = none ∨
      ∃ x y, c.get? g = some x ∧ d.get? g = some y ∧ x.Alike y := by
  have hclients := h.clients
  rw [Connections.get?, Connections.get?]
  generalize c.clients = xs at hclients
  generalize d.clients = ys at hclients
  induction hclients with
  | nil => exact .inl ⟨rfl, rfl⟩
  | @cons x y xs ys hxy _ ih =>
    rw [List.find?_cons, List.find?_cons, hxy.generation]
    split
    · exact .inr ⟨x, y, rfl, rfl, hxy⟩
    · exact ih

lemma set (h : Alike a b c d) {x y : Client Ticket} (hxy : x.Alike y) :
    Alike a b (c.set x) (d.set y) := by
  refine ⟨?_, h.inbox, h.mailbox, h.deeds⟩
  refine List.rel_map (R := Client.Alike) (fun u v huv => ?_) h.clients
  rw [huv.generation, hxy.generation]
  split
  · exact hxy
  · exact huv

lemma absorbs (h : Alike a b c d) (l : LanguageId) (g : Nat) {es es' : List (Emission Ticket)}
    (hes : List.Forall₂ (Emission.Alike a b) es es') :
    Alike a b (es.foldl (fun c e => c.absorb l g e) c) (es'.foldl (fun c e => c.absorb l g e) d) := by
  induction hes generalizing c d with
  | nil => exact h
  | @cons e e' es es' he _ ih =>
    refine ih ?_
    cases he with
    | logged side side' r r' =>
      refine ⟨h.clients, h.inbox, h.mailbox, ?_⟩
      simp only [absorb, deeds_record]
      exact h.deeds
    | submitted hm result => exact h.record (.submitted g hm result) rfl
    | same e =>
      cases e with
      | logged side r =>
        refine ⟨h.clients, h.inbox, h.mailbox, ?_⟩
        simp only [absorb, deeds_record]
        exact h.deeds
      | submitted m result => exact h.record (.same _) rfl
      | completed call outcome =>
        cases ht : call.tag with
        | caller =>
          simp only [absorb, settleCall, ht]
          exact ⟨h.clients, h.inbox, by rw [h.mailbox], h.deeds⟩
        | handshake | shutdown =>
          simp only [absorb, settleCall, ht]
          exact h.post _
      | notified | requested | ended => exact h.post _

lemma update (h : Alike a b c d) {f : Client Ticket → Client Ticket × List (Emission Ticket)}
    (hf : ∀ (c : Client Ticket) sink, f { c with sink } = ({ (f c).1 with sink }, (f c).2)) (g : Nat) :
    Alike a b (c.update g f) (d.update g f) := by
  rcases h.get? g with ⟨hx, hy⟩ | ⟨x, y, hx, hy, hxy⟩
  · simp only [Connections.update, hx, hy]
    exact h
  · obtain ⟨hclients, hemissions⟩ := hxy.reads hf
    simp only [Connections.update, hx, hy, accept, hclients.language, hclients.generation, hemissions]
    exact (h.set hclients).absorbs _ _ (List.forall₂_same.mpr fun e _ => .same e)

lemma overhear (h : Alike a b c d) (g : Nat) (o : Overture) :
    Alike a b (c.overhear g o) (d.overhear g o) := by
  have hreceive : Alike a b (c.receive g o.signals) (d.receive g o.signals) :=
    h.update (fun c sink => c.receive_sinkless sink o.signals) g
  simp only [Connections.overhear]
  split
  · exact hreceive.update (fun c sink => c.finish_sinkless sink) g
  · exact hreceive

lemma ask (h : Alike a b c d) {α : Type}
    {f f' : Client Ticket → Client.Result Ticket (Except RpcError α)}
    (hf : ∀ x y, x.Alike y → Client.Parallel a b (f x) (f' y)) (g : Nat) :
    Tandem (Alike a b) (c.ask g f) (d.ask g f') := by
  rcases h.get? g with ⟨hx, hy⟩ | ⟨x, y, hx, hy, hxy⟩
  · simp only [Connections.ask, hx, hy]
    exact ⟨h, rfl⟩
  · obtain ⟨hclients, hemissions, hresult⟩ := hf x y hxy
    simp only [Connections.ask, hx, hy, accept, hclients.language, hclients.generation]
    exact ⟨(h.set hclients).absorbs _ _ hemissions, hresult⟩

lemma call (h : Alike a b c d) (g : Nat) (method : String) (params : Json) (t : Ticket) :
    Tandem (Alike a b) (c.call g method params t) (d.call g method params t) :=
  h.ask (fun _ _ hxy => hxy.call method params t) g

lemma notify (h : Alike a b c d) (g : Nat) (method : String) {params params' : Json}
    (hm : (Outbound.notification method (Client.paramsOf params)).Alike a b
      (.notification method (Client.paramsOf params'))) :
    Tandem (Alike a b) (c.notify g method params) (d.notify g method params') :=
  h.ask (fun _ _ hxy => hxy.notify method hm) g

lemma submissions (h : Alike a b c d) :
    List.Forall₂ (Submission.Alike a b) c.submissions d.submissions := by
  rw [Connections.submissions, Connections.submissions, ← deeds_filterMap c fun _ _ => rfl,
    ← deeds_filterMap d fun _ _ => rfl]
  refine List.rel_filterMap (R := Effect.Alike a b) (fun e e' he => ?_) h.deeds
  cases he with
  | same =>
    cases e.submission? with
    | none => exact .none
    | some s => exact .some ⟨rfl, .same _, rfl⟩
  | submitted g hm result => exact .some ⟨rfl, hm, rfl⟩

lemma picked (h : Alike a b c d) {α : Type} {f : Effect → Option α}
    (hl : ∀ side r, f (.logged side r) = none)
    (hs : ∀ g m result, f (.submitted g m result) = none) :
    d.trace.filterMap f = c.trace.filterMap f := by
  have hpick : List.Forall₂ Eq (c.deeds.filterMap f) (d.deeds.filterMap f) := by
    refine List.rel_filterMap (R := Effect.Alike a b) (fun e e' he => ?_) h.deeds
    cases he with
    | same =>
      cases f e with
      | none => exact .none
      | some v => exact .some rfl
    | submitted g hm result =>
      rw [hs, hs]
      exact .none
  rw [List.forall₂_eq_eq_eq, deeds_filterMap c hl, deeds_filterMap d hl] at hpick
  exact hpick.symm

end Alike

end Connections

namespace Instance

variable {c d : Connections}

lemma connect_tandem (i : Instance) (root : Option FilePath) (env : Environment) (g : Nat)
    (plan : Nat → Verdict) (o : Overture) (h : c.Alike a b d) :
    Tandem (Connections.Alike a b) (i.connect root env g plan o c) (i.connect root env g plan o d) := by
  let note := i.note .info "language server started"
    [("generation", toString g), ("restarts", toString i.restarts)]
  have hnoted := ((h.add (.start i.language g i.settings.rpcTrace plan)).log note note).logs
    (i.options root env).1 (i.options root env).1
  obtain ⟨x, y, result, hx, hy, hxy⟩ := ((hnoted.overhear g o).call g "initialize"
    (Handshake.params env.processId root (i.options root env).2) .handshake).split
  simp only [note] at hx hy
  simp only [connect, hx, hy]
  cases result with
  | ok => exact ⟨hxy, rfl⟩
  | error e => exact ⟨hxy.post _, rfl⟩

lemma start_tandem (i : Instance) (root : Option FilePath) (env : Environment) (g : Nat)
    (h : c.Alike a b d) :
    Tandem (Connections.Alike a b) (i.start root env g c) (i.start root env g d) := by
  simp only [start]
  cases i.launchRequest root env with
  | error e => exact ⟨h, rfl⟩
  | ok request =>
    rcases hlaunch : env.launch g request with ⟨notes, launched⟩
    have hlaunched := (h.record (.same (.launched g request)) rfl).logs notes notes
    cases launched with
    | error e =>
      simp only [hlaunch]
      exact ⟨hlaunched, rfl⟩
    | ok plan =>
      cases hattach : env.attach g with
      | error e =>
        simp only [hlaunch]
        exact ⟨hlaunched.record (.same (.ended g .forceExit)) rfl, rfl⟩
      | ok =>
        simp only [hlaunch]
        exact (i.connect_tandem root env g plan _ hlaunched).map Except.ok

end Instance

namespace Document

def labelled (d : Document) (l : LanguageId) : Document := { d with language := some l }

variable (d : Document) (l : LanguageId)

@[simp] lemma labelled_id : (d.labelled l).id = d.id := rfl

@[simp] lemma labelled_language : (d.labelled l).language = some l := rfl

@[simp] lemma labelled_uriOrError : (d.labelled l).uriOrError = d.uriOrError := rfl

end Document

namespace Sync

inductive Alike (a b : LanguageId) (s : Sync) : Sync → Prop
  | intro (connections : Connections) (hc : s.connections.Alike a b connections) :
      Alike a b s { s with connections }

variable {s t : Sync}

namespace Alike

lemma server (h : Alike a b s t) : t.server = s.server := by
  obtain ⟨_, _⟩ := h
  rfl

lemma isReady (h : Alike a b s t) : t.isReady = s.isReady := by
  obtain ⟨_, _⟩ := h
  rfl

lemma log (h : Alike a b s t) (message : String) (fields fields' : List (String × String)) :
    (s.log message fields).Alike a b (t.log message fields') := by
  obtain ⟨c, hc⟩ := h
  exact .intro _ (hc.log _ _)

lemma notify (h : Alike a b s t) (operation : Operation) (method : String) {params params' : Json}
    (hm : (Outbound.notification method (Client.paramsOf params)).Alike a b
      (.notification method (Client.paramsOf params'))) :
    Tandem (Alike a b) (s.notify operation method params) (t.notify operation method params') := by
  obtain ⟨c, hc⟩ := h
  cases hg : s.server.connection with
  | none =>
    simp only [Sync.notify, hg]
    exact ⟨.intro c hc, rfl⟩
  | some g =>
    obtain ⟨hnotified, hresult⟩ := hc.notify g method hm
    simp only [Sync.notify, hg, hresult]
    exact ⟨.intro _ hnotified, rfl⟩

lemma openAs (h : Alike a b s t) (d : Document) (uri : Uri) :
    Tandem (Alike a b) (s.openAs (d.labelled a) uri) (t.openAs (d.labelled b) uri) := by
  obtain ⟨c, hc⟩ := h
  let opened (e : Connections) : Sync :=
    { server := s.server.addOpen d.id uri, versions := (s.versions.next d.path).1, connections := e }
  have hopened : (opened s.connections).Alike a b (opened c) := .intro c hc
  exact (hopened.log _ _ _).notify .didOpen "textDocument/didOpen" (.opened uri _ d.text)

lemma didOpen (h : Alike a b s t) (d : Document) :
    Tandem (Alike a b) (s.didOpen (d.labelled a)) (t.didOpen (d.labelled b)) := by
  by_cases hidle : (!s.isReady || (s.server.openUri? d.id).isSome) = true
  · simp only [Sync.didOpen, h.isReady, h.server, Document.labelled_id, hidle, if_true]
    exact ⟨h, rfl⟩
  · simp only [Sync.didOpen, h.isReady, h.server, Document.labelled_id, Document.labelled_uriOrError,
      hidle]
    cases d.uriOrError with
    | error e => exact ⟨h, rfl⟩
    | ok uri => exact (h.openAs d uri).map (·.map fun _ => true)

lemma changeOpen (h : Alike a b s t) (d : Document) (change : TextChange) (uri : Uri) :
    Tandem (Alike a b) (s.changeOpen (d.labelled a) change uri)
      (t.changeOpen (d.labelled b) change uri) := by
  obtain ⟨c, hc⟩ := h
  let counted (e : Connections) : Sync :=
    { s with versions := (s.versions.next d.path).1, connections := e }
  have hcounted : (counted s.connections).Alike a b (counted c) := .intro c hc
  exact (hcounted.log _ _ _).notify .didChange "textDocument/didChange" (.same _)

lemma didChange (h : Alike a b s t) (d : Document) (change : TextChange) :
    Tandem (Alike a b) (s.didChange (d.labelled a) change) (t.didChange (d.labelled b) change) := by
  simp only [Sync.didChange, h.isReady, h.server, Document.labelled_id]
  split
  · exact ⟨h, rfl⟩
  · cases s.server.openUri? d.id with
    | some uri => exact h.changeOpen d change uri
    | none => exact (h.didOpen d).map (·.map fun _ => ())

lemma didSave (h : Alike a b s t) (d : Document) :
    Tandem (Alike a b) (s.didSave (d.labelled a)) (t.didSave (d.labelled b)) := by
  obtain ⟨u, v, result, hu, hv, huv⟩ := (h.didOpen d).split
  simp only [Sync.didSave, h.isReady, hu, hv]
  split
  · exact ⟨h, rfl⟩
  · cases result with
    | error e => exact ⟨huv, rfl⟩
    | ok =>
      simp only [huv.server, Document.labelled_id]
      cases u.server.openUri? d.id with
      | none => exact ⟨huv, rfl⟩
      | some uri => exact huv.notify .didSave "textDocument/didSave" (.same _)

lemma didClose (h : Alike a b s t) (d : Document) :
    Tandem (Alike a b) (s.didClose (d.labelled a)) (t.didClose (d.labelled b)) := by
  obtain ⟨c, hc⟩ := h
  simp only [Sync.didClose, Document.labelled_id]
  cases s.server.openUri? d.id with
  | none => exact ⟨.intro c hc, rfl⟩
  | some uri =>
    let closed (e : Connections) : Sync := { s with server := s.server.removeOpen d.id, connections := e }
    have hclosed : (closed s.connections).Alike a b (closed c) := .intro c hc
    have hlogged := hclosed.log "closing document" [("uri", uri.text)] [("uri", uri.text)]
    have htold := hlogged.notify .didClose "textDocument/didClose"
      (.same (.notification _ (Client.paramsOf (.object [identifier uri]))))
    have hready (e : Connections) :
        ((closed e).log "closing document" [("uri", uri.text)]).isReady = s.isReady := rfl
    simp only [closed] at hlogged htold hready
    simp only [hready]
    split
    · exact htold.map (·.map fun _ => true)
    · exact ⟨hlogged, rfl⟩

end Alike

end Sync

end LanguageHost
