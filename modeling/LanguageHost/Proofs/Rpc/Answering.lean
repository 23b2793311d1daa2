import Mathlib.Algebra.Group.Nat.Defs
import Mathlib.Data.List.Nodup
import LanguageHost.Proofs.Rpc.Settlement

namespace LanguageHost

variable {κ : Type}

namespace Inbound

variable {ms : List (String × Json)} {n : Int} {outcome : Outcome}

/-- How the members of an answer end its call, unless the error among them cannot be read. -/
def verdict? (ms : List (String × Json)) : Option Outcome :=
  match optional readError (Members.find? "error" ms) with
  | .ok (some e) => some (.error (.server e))
  | .ok none => some (.ok ((Members.find? "result" ms).getD .null))
  | .error _ => none

structure Answers (ms : List (String × Json)) (n : Int) : Prop where
  id : Members.find? "id" ms = some (.int n)
  method : ∀ j, Members.find? "method" ms = some j → j = .null

lemma optional_absent {α : Type} (read : Json → Option α) {m : Option Json}
    (hm : ∀ j, m = some j → j = .null) : optional read m = .ok none := by
  cases m with
  | none => rfl
  | some j => rw [hm j rfl, optional]

lemma optional_some (m : Option Json) :
    ∃ v, optional some m = .ok v ∧ v.getD .null = m.getD .null := by
  cases m with
  | none => exact ⟨none, rfl, rfl⟩
  | some j =>
    cases j with
    | null => exact ⟨none, rfl, rfl⟩
    | _ => exact ⟨some _, rfl, rfl⟩

lemma optional_number (hn : -0x8000000000000000 ≤ n ∧ n ≤ 0x7fffffffffffffff) :
    optional readId (some (.int n)) = .ok (some (.number n)) := by
  simp only [optional, readId, Json.asInt64?, Json.intIn?, if_pos hn, Option.map_some]

section Classifying

variable (ha : Answers ms n) (hn : -0x8000000000000000 ≤ n ∧ n ≤ 0x7fffffffffffffff)
include ha hn

lemma readRaw_answer : ∃ params result, result.getD .null = (Members.find? "result" ms).getD .null ∧
    readRaw (.obj ms) = (optional readError (Members.find? "error" ms)).map
      fun error => ⟨some (.number n), none, params, result, error⟩ := by
  obtain ⟨params, hp, -⟩ := optional_some (Members.find? "params" ms)
  obtain ⟨result, hr, hv⟩ := optional_some (Members.find? "result" ms)
  refine ⟨params, result, hv, ?_⟩
  simp only [readRaw, bind, Except.bind, ha.id, optional_number hn, optional_absent _ ha.method, hp,
    hr]
  cases optional readError (Members.find? "error" ms) <;> rfl

lemma classify_verdict (hv : verdict? ms = some outcome) :
    ∃ r, classify (.obj ms) = .ok (.response r) ∧ r.id = some (.number n) ∧ r.outcome = outcome := by
  obtain ⟨params, result, hresult, hraw⟩ := readRaw_answer ha hn
  simp only [verdict?] at hv
  cases he : optional readError (Members.find? "error" ms) with
  | error e => simp [he] at hv
  | ok error =>
    rw [he] at hraw hv
    refine ⟨⟨some (.number n), result.getD .null, error⟩, ?_, rfl, ?_⟩
    · simp only [classify, hraw]
      rfl
    · cases error with
      | none => rw [← Option.some.inj hv, ← hresult]; rfl
      | some e => exact Option.some.inj hv

lemma classify_unreadable (hv : verdict? ms = none) : ∃ e, classify (.obj ms) = .error e := by
  obtain ⟨params, result, -, hraw⟩ := readRaw_answer ha hn
  simp only [verdict?] at hv
  cases he : optional readError (Members.find? "error" ms) with
  | error e =>
    rw [he] at hraw
    exact ⟨e, by simp only [classify, hraw]; rfl⟩
  | ok error => cases error <;> simp [he] at hv

end Classifying

end Inbound

namespace Client

variable {c : Client κ} {call : PendingCall κ} {ms : List (String × Json)}

lemma pendingOf_number (hn : (c.pending.map (·.id)).Nodup) (hp : call ∈ c.pending) :
    c.pendingOf (.number call.id) = some call := by
  have hfound : ((some (.number call.id) : Option RequestId).bind c.pendingOf) ≠ none :=
    pendingOf_ne_none hp rfl
  cases hf : c.pendingOf (.number call.id) with
  | none => exact absurd hf hfound
  | some other =>
    have hbind : (some (.number call.id) : Option RequestId).bind c.pendingOf = some other := hf
    obtain ⟨ho, hid⟩ := bind_pendingOf hbind
    have heq : other.id = call.id := by
      simp only [Option.some.injEq, RequestId.number.injEq] at hid
      omega
    exact congrArg some (List.inj_on_of_nodup_map hn ho hp heq)

/-- The message completes this call and no other, and takes it from the table. -/
structure Completes (c : Client κ) (m : Json) (call : PendingCall κ) (outcome : Outcome) :
    Prop where
  completions : completions (c.dispatch m).2 = [(call, outcome)]
  after : (c.dispatch m).1 = c.withdraw call.id
  removed : call ∉ (c.dispatch m).1.pending

structure PassesOver (c : Client κ) (m : Json) : Prop where
  completions : completions (c.dispatch m).2 = []
  after : (c.dispatch m).1 = c

lemma dispatch_answer {outcome : Outcome} {m : Json} {r : Response}
    (hn : (c.pending.map (·.id)).Nodup) (hp : call ∈ c.pending)
    (hm : Inbound.classify m = .ok (.response r)) (hid : r.id = some (.number call.id))
    (ho : r.outcome = outcome) : c.Completes m call outcome := by
  have hfind : r.id.bind c.pendingOf = some call := by
    rw [hid, Option.bind_some, pendingOf_number hn hp]
  obtain ⟨hafter, hdone⟩ := dispatch_response (c := c) hm
  obtain ⟨hwithdraw, hcall⟩ := complete_answer hfind
  refine ⟨by rw [hdone, hcall, ho], hafter.trans hwithdraw, ?_⟩
  rw [hafter, hwithdraw]
  simp [withdraw]

/-- A message that answers a pending call, and asks for nothing, completes the call whatever else is
in it, but for an error that cannot be read: then the message is passed over. -/
theorem answers_complete (l : LanguageId) (g : Nat) (traced : Bool) (plan : Nat → Verdict)
    (acts : List (Act κ)) (hb : acts.countP Act.isCall < 2 ^ 63)
    (hp : call ∈ ((start l g traced plan).run acts).pending) (ha : Inbound.Answers ms call.id) :
    (∀ outcome, Inbound.verdict? ms = some outcome →
      ((start l g traced plan).run acts).Completes (.obj ms) call outcome) ∧
    (Inbound.verdict? ms = none → ((start l g traced plan).run acts).PassesOver (.obj ms)) := by
  have hstart : Accounts (start l g traced plan : Client κ) [] [] := Accounts.start l g traced plan
  have hnext := nextId_run hstart acts
  have hrun := hstart.run acts
  have hone : (start l g traced plan : Client κ).nextId = 1 := rfl
  generalize (start l g traced plan).run acts = c at hp hnext hrun ⊢
  have hid : call.id < 2 ^ 63 := by
    have := hrun.pending_lt call hp
    omega
  have hn : -0x8000000000000000 ≤ (call.id : Int) ∧ (call.id : Int) ≤ 0x7fffffffffffffff := by
    omega
  constructor
  · intro outcome hv
    obtain ⟨r, hr, hrid, ho⟩ := Inbound.classify_verdict ha hn hv
    exact dispatch_answer hrun.pending_nodup hp hr hrid ho
  · intro hv
    obtain ⟨e, he⟩ := Inbound.classify_unreadable ha hn hv
    obtain ⟨hafter, hdone⟩ := dispatch_other (c := c) (m := .obj ms) (by simp [he])
    exact ⟨hdone, hafter⟩

namespace Sample

def waiting : Client Unit :=
  (start ⟨"go", by decide, by decide⟩ 1 false fun _ => .whole).run [.call "ask" .null ()]

def question : PendingCall Unit := ⟨1, "ask", ()⟩

def complaint : List (String × Json) := [("error", .str "no"), ("id", .int 1)]

end Sample

lemma Sample.waiting_question : Sample.question ∈ Sample.waiting.pending :=
  List.mem_singleton_self _

theorem question_completed :
    Sample.waiting.Completes (.obj [("id", .int 1), ("result", .bool true)]) Sample.question
      (.ok (.bool true)) :=
  (answers_complete ⟨"go", by decide, by decide⟩ 1 false (fun _ => .whole) [.call "ask" .null ()]
    (by decide) Sample.waiting_question
    ⟨rfl, fun j hj => by simp [Members.find?] at hj⟩).1 _ rfl

/-- The error is no object, and the call goes on waiting. -/
theorem question_stranded :
    Sample.question ∈ Sample.waiting.pending ∧ Inbound.Answers Sample.complaint Sample.question.id ∧
      Sample.question ∈ (Sample.waiting.dispatch (.obj Sample.complaint)).1.pending ∧
      completions (Sample.waiting.dispatch (.obj Sample.complaint)).2 = [] :=
  ⟨Sample.waiting_question, ⟨rfl, fun j hj => by simp [Sample.complaint, Members.find?] at hj⟩,
    Sample.waiting_question, rfl⟩

end Client

end LanguageHost
