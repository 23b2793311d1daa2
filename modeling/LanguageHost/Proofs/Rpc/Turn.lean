import Mathlib.Data.List.Basic
import Mathlib.Tactic.Lemma
import LanguageHost.Rpc.Reader

/-! The runs of one connection. A turn is one act of a caller or one step of the reader; whatever a
turn does, it changes the table of calls in one of four ways. -/

namespace LanguageHost

variable {κ : Type}

def Emission.completion? : Emission κ → Option (PendingCall κ × Outcome)
  | .completed call outcome => some (call, outcome)
  | _ => none

def completions (es : List (Emission κ)) : List (PendingCall κ × Outcome) :=
  es.filterMap Emission.completion?

def fromServer : Outcome → Bool
  | .ok _ => true
  | .error (.server _) => true
  | .error _ => false

lemma completions_append (es fs : List (Emission κ)) :
    completions (es ++ fs) = completions es ++ completions fs := by
  simp [completions]

lemma completions_map_completed (calls : List (PendingCall κ)) (outcome : Outcome) :
    completions (calls.map (Emission.completed · outcome)) = calls.map (·, outcome) := by
  induction calls with
  | nil => rfl
  | cons call rest ih => simpa [completions, Emission.completion?] using ih

namespace Client

/-- An act of a caller, or a step of the reader. -/
inductive Act (κ : Type) where
  | call (method : String) (params : Json) (tag : κ)
  | notify (method : String) (params : Json)
  | reply (id : RequestId) (r : Reply)
  | close
  | signal (s : Frame.Signal)
  | finish

def Act.isCall : Act κ → Bool
  | .call .. => true
  | _ => false

def perform (c : Client κ) : Act κ → Result κ (Option (PendingCall κ))
  | .call method params tag =>
    match c.call method params tag with
    | (d, es, .ok id) => (d, es, some ⟨id, method, tag⟩)
    | (d, es, .error _) => (d, es, none)
  | .notify method params => ((c.notify method params).1, (c.notify method params).2.1, none)
  | .reply id r => ((c.reply id r).1, (c.reply id r).2.1, none)
  | .close => (c.close.1, c.close.2, none)
  | .signal s => ((c.feed s).1, (c.feed s).2, none)
  | .finish => (c.finish.1, c.finish.2, none)

def arrival (c : Client κ) : Act κ → Option Json
  | .signal s =>
    if c.reading then
      match Frame.feed c.phase s with
      | .more _ => none
      | .done r => (Frame.message r).toOption
    else none
  | .finish => if c.reading then (Frame.message (Frame.finish c.phase)).toOption else none
  | _ => none

structure Turn (κ : Type) where
  before : Client κ
  act : Act κ

namespace Turn

def after (t : Turn κ) : Client κ := (t.before.perform t.act).1

def completions (t : Turn κ) : List (PendingCall κ × Outcome) :=
  LanguageHost.completions (t.before.perform t.act).2.1

def accepted (t : Turn κ) : Option (PendingCall κ) := (t.before.perform t.act).2.2

def response (t : Turn κ) : Option Response :=
  match (t.before.arrival t.act).map Inbound.classify with
  | some (.ok (.response r)) => some r
  | _ => none

def Answers (t : Turn κ) (r : Response) (call : PendingCall κ) : Prop :=
  r.id = some (.number call.id) ∧ call ∈ t.before.pending ∧ t.completions = [(call, r.outcome)] ∧
    t.after = { t.before with
      phase := .start, pending := t.before.pending.filter (·.id ≠ call.id) }

def ChangesNothing (t : Turn κ) : Prop :=
  t.completions = [] ∧ t.after = { t.before with phase := .start }

end Turn

def turns (c : Client κ) : List (Act κ) → List (Turn κ)
  | [] => []
  | a :: acts => ⟨c, a⟩ :: turns (c.perform a).1 acts

def run (c : Client κ) (acts : List (Act κ)) : Client κ :=
  acts.foldl (fun c a => (c.perform a).1) c

def accepted (ts : List (Turn κ)) : List (PendingCall κ) := ts.filterMap Turn.accepted

def completed (ts : List (Turn κ)) : List (PendingCall κ × Outcome) := ts.flatMap Turn.completions

lemma run_cons (c : Client κ) (a : Act κ) (acts : List (Act κ)) :
    c.run (a :: acts) = (c.perform a).1.run acts := rfl

lemma accepted_turns_cons (c : Client κ) (a : Act κ) (acts : List (Act κ)) :
    accepted (c.turns (a :: acts)) =
      (c.perform a).2.2.toList ++ accepted ((c.perform a).1.turns acts) := by
  simp only [accepted, turns, List.filterMap_cons, Turn.accepted]
  cases (c.perform a).2.2 <;> rfl

lemma completed_turns_cons (c : Client κ) (a : Act κ) (acts : List (Act κ)) :
    completed (c.turns (a :: acts)) =
      LanguageHost.completions (c.perform a).2.1 ++ completed ((c.perform a).1.turns acts) := rfl

lemma turns_append (c : Client κ) (acts more : List (Act κ)) :
    c.turns (acts ++ more) = c.turns acts ++ (c.run acts).turns more := by
  induction acts generalizing c with
  | nil => rfl
  | cons a acts ih => simp only [List.cons_append, turns, ih, run, List.foldl_cons]

lemma run_append (c : Client κ) (acts more : List (Act κ)) :
    c.run (acts ++ more) = (c.run acts).run more := List.foldl_append

lemma length_turns (c : Client κ) (acts : List (Act κ)) : (c.turns acts).length = acts.length := by
  induction acts generalizing c with
  | nil => rfl
  | cons a acts ih => simp only [turns, List.length_cons, ih]

lemma turns_eq_append {c : Client κ} {acts : List (Act κ)} {pre post : List (Turn κ)}
    (h : c.turns acts = pre ++ post) :
    ∃ first rest, acts = first ++ rest ∧ pre = c.turns first ∧
      post = (c.run first).turns rest := by
  refine ⟨acts.take pre.length, acts.drop pre.length, (List.take_append_drop _ _).symm, ?_⟩
  have hlen : (c.turns (acts.take pre.length)).length = pre.length := by
    have hl := congrArg List.length h
    rw [length_turns, List.length_append] at hl
    rw [length_turns, List.length_take]
    omega
  rw [← List.take_append_drop pre.length acts, turns_append] at h
  have := List.append_inj h hlen
  exact ⟨this.1.symm, this.2.symm⟩

/-- How a turn changes the table: how many numbers are taken, the call that is accepted, and the calls
that are completed. -/
inductive Change (c d : Client κ) :
    Nat → Option (PendingCall κ) → List (PendingCall κ × Outcome) → Prop
  | quiet (n : Nat) (hp : d.pending = c.pending) (hn : d.nextId = c.nextId + n)
      (hc : d.closed = c.closed) (hr : d.reading = c.reading) : Change c d n none []
  | accept (call : PendingCall κ) (hid : call.id = c.nextId) (hp : d.pending = c.pending ++ [call])
      (hn : d.nextId = c.nextId + 1) (ho : c.closed = false) (hc : d.closed = c.closed)
      (hr : d.reading = c.reading) : Change c d 1 (some call) []
  | answer (call : PendingCall κ) (outcome : Outcome) (hm : call ∈ c.pending)
      (hp : d.pending = c.pending.filter (·.id ≠ call.id)) (hn : d.nextId = c.nextId)
      (hc : d.closed = c.closed) (hr : d.reading = c.reading) : Change c d 0 none [(call, outcome)]
  | drain (e : RpcError) (hp : d.pending = []) (hn : d.nextId = c.nextId) (hc : d.closed = true) :
      Change c d 0 none (c.pending.map (·, .error e))

lemma submit_fst (c : Client κ) (m : Outbound) :
    ∃ sink, (c.submit m).1 = { c with sink } := by
  cases h : c.sink with
  | none => exact ⟨none, by simp only [submit, h]; rw [← h]⟩
  | some s => exact ⟨some (s.send m.bytes).1, by simp only [submit, h]⟩

lemma completions_traceNote (c : Client κ) (side : Side) (direction : String) (text : List Char) :
    completions (c.traceNote side direction text) = [] := by
  cases h : c.traced <;> simp [traceNote, h, completions, Emission.completion?, note]

lemma completions_submit (c : Client κ) (m : Outbound) : completions (c.submit m).2.1 = [] := by
  cases h : c.sink with
  | none =>
    simp only [submit, h, completions_append, completions_traceNote]
    rfl
  | some s =>
    simp only [submit, h, completions_append, completions_traceNote]
    rfl

lemma withdraw_reserved {c : Client κ} {call : PendingCall κ} (hid : call.id = c.nextId)
    (hb : ∀ other ∈ c.pending, other.id < c.nextId) :
    (c.pending ++ [call]).filter (·.id ≠ c.nextId) = c.pending := by
  rw [List.filter_append, List.filter_eq_self.2]
  · simp [hid]
  · intro other ho
    simpa using Nat.ne_of_lt (hb other ho)

def reserved (c : Client κ) (method : String) (tag : κ) : Client κ :=
  { c with nextId := c.nextId + 1, pending := c.pending ++ [⟨c.nextId, method, tag⟩] }

lemma call_closed {c : Client κ} (hc : c.closed = true) (method : String) (params : Json) (tag : κ) :
    c.call method params tag = ({ c with nextId := c.nextId + 1 }, [], .error .cancelled) := by
  simp [call, reserve, hc]

lemma call_open {c : Client κ} (hc : c.closed = false) (method : String) (params : Json) (tag : κ) :
    ∃ sink sending es result,
      (c.reserved method tag).submit (.request c.nextId method (paramsOf params)) =
          ({ c.reserved method tag with sink }, es, result) ∧
        c.call method params tag = match result with
          | .ok () => ({ c.reserved method tag with sink }, .logged .caller sending :: es,
              .ok c.nextId)
          | .error e => ({ c.reserved method tag with sink }.withdraw c.nextId,
              .logged .caller sending :: es, .error (.transport e)) := by
  have hr : c.reserve method tag = (c.reserved method tag, some c.nextId) := by
    simp [reserve, hc, reserved]
  have hfst := submit_fst (c.reserved method tag) (.request c.nextId method (paramsOf params))
  rcases hsub : (c.reserved method tag).submit (.request c.nextId method (paramsOf params))
    with ⟨d, es, result⟩
  rw [hsub] at hfst
  obtain ⟨sink, rfl⟩ := hfst
  let sending : LogRecord := ⟨.debug, logTarget, "sending request",
    [(c.reserved method tag).languageField, (c.reserved method tag).generationField,
      ("method", method)]⟩
  refine ⟨sink, sending, es, result, rfl, ?_⟩
  cases result <;> simp only [call, hr, submitCall, hsub] <;> rfl

lemma call_change (c : Client κ) (method : String) (params : Json) (tag : κ)
    (hb : ∀ other ∈ c.pending, other.id < c.nextId) :
    Change c (c.perform (.call method params tag)).1 1 (c.perform (.call method params tag)).2.2
      (completions (c.perform (.call method params tag)).2.1) := by
  cases hc : c.closed with
  | true =>
    simp only [perform, call_closed hc]
    exact .quiet 1 rfl rfl rfl rfl
  | false =>
    obtain ⟨sink, sending, es, result, hsub, hcall⟩ := call_open hc method params tag
    have hdone := completions_submit (c.reserved method tag)
      (.request c.nextId method (paramsOf params))
    rw [hsub] at hdone
    simp only [perform, hcall]
    cases result with
    | ok =>
      rw [← List.singleton_append, completions_append, hdone]
      exact .accept ⟨c.nextId, method, tag⟩ rfl rfl rfl hc rfl rfl
    | error e =>
      rw [← List.singleton_append, completions_append, hdone]
      exact .quiet 1 (withdraw_reserved rfl hb) rfl rfl rfl

lemma completions_notify (c : Client κ) (method : String) (params : Json) :
    completions (c.notify method params).2.1 = [] := by
  have he := completions_submit c (.notification method (paramsOf params))
  simp only [notify]
  rw [← List.singleton_append, completions_append, he]
  rfl

lemma completions_reply (c : Client κ) (id : RequestId) (r : Reply) :
    completions (c.reply id r).2.1 = [] := completions_submit c (.reply id r)

lemma notify_change (c : Client κ) (method : String) (params : Json) :
    Change c (c.perform (.notify method params)).1 0 none
      (completions (c.perform (.notify method params)).2.1) := by
  obtain ⟨sink, hs⟩ := submit_fst c (.notification method (paramsOf params))
  simp only [perform, completions_notify]
  simp only [notify, hs]
  exact .quiet 0 rfl rfl rfl rfl

lemma reply_change (c : Client κ) (id : RequestId) (r : Reply) :
    Change c (c.perform (.reply id r)).1 0 none (completions (c.perform (.reply id r)).2.1) := by
  obtain ⟨sink, hs⟩ := submit_fst c (.reply id r)
  simp only [perform, completions_reply]
  simp only [reply, hs]
  exact .quiet 0 rfl rfl rfl rfl

lemma completions_close (c : Client κ) :
    completions c.close.2 = c.pending.map (·, .error .cancelled) := by
  simp only [close, drain, completions_append, completions_map_completed]
  cases h : c.pending with
  | nil => rfl
  | cons => rfl

lemma close_change (c : Client κ) :
    Change c (c.perform .close).1 0 none (completions (c.perform .close).2.1) := by
  simp only [perform, completions_close]
  exact .drain .cancelled rfl rfl rfl

end Client

end LanguageHost
