import Mathlib.Tactic.Lemma
import LanguageHost.Proofs.Session.Traffic
import LanguageHost.Session.Sync

namespace LanguageHost

namespace Position

def read? (j : Json) : Option Position := do
  some ⟨(← (j.get? "line").bind Json.asInt?).toNat, (← (j.get? "character").bind Json.asInt?).toNat⟩

@[simp] lemma read?_toJson (p : Position) : read? p.toJson = some p := by
  simp [read?, toJson, Json.object, Members.ofList, Json.get?, Members.find?_insert, Json.asInt?]

end Position

namespace Range

def read? (j : Json) : Option Range := do
  some ⟨← (j.get? "start").bind Position.read?, ← (j.get? "end").bind Position.read?⟩

@[simp] lemma read?_toJson (r : Range) : read? r.toJson = some r := by
  simp [read?, toJson, Json.object, Members.ofList, Json.get?, Members.find?_insert]

end Range

abbrev Edit := Range → String → String → String

namespace Sync.Content

def read? (j : Json) : Option Content := do
  let text ← (j.get? "text").bind Json.asString?
  match j.get? "range" with
  | none => some ⟨none, text⟩
  | some r => (Range.read? r).map fun r => ⟨some r, text⟩

@[simp] lemma read?_toJson (c : Content) : read? c.toJson = some c := by
  obtain ⟨_ | r, text⟩ := c <;>
  simp [read?, toJson, Json.object, Members.ofList, Json.get?, Members.find?_insert, Json.asString?,
    Members.find?]

/-- A range is replaced, or all of the text. -/
def apply (edit : Edit) (text : String) (c : Content) : String :=
  match c.range with
  | some r => edit r c.text text
  | none => c.text

end Sync.Content

inductive Revision where
  | opened (text : String)
  | changed (contents : List Sync.Content)
  | closed

namespace Revision

def read? (method : String) (params : Json) : Option Revision :=
  if method = "textDocument/didOpen" then
    ((params.at? ["textDocument", "text"]).bind Json.asString?).map opened
  else if method = "textDocument/didChange" then
    (((params.get? "contentChanges").bind Json.asArray?).bind
      (·.mapM Sync.Content.read?)).map changed
  else if method = "textDocument/didClose" then some closed
  else none

/-- The text that a server has after a message; nothing while the document is not open. -/
def apply (edit : Edit) (seen : Option String) : Revision → Option String
  | opened text => some text
  | changed contents => seen.map (contents.foldl (Sync.Content.apply edit) ·)
  | closed => none

end Revision

namespace Outbound

def revision? : Outbound → Option (String × Revision)
  | notification method (some params) => do
    some (← (params.at? ["textDocument", "uri"]).bind Json.asString?,
      ← Revision.read? method params)
  | _ => none

def revises (uri : Uri) (m : Outbound) : Bool := m.revision?.any (·.1 = uri.text)

lemma revision?_open (uri : Uri) (l : LanguageId) (version : Nat) (text : String) :
    (notification "textDocument/didOpen"
      (Client.paramsOf (Sync.openParams uri l version text))).revision? =
      some (uri.text, .opened text) := by
  simp [revision?, Revision.read?, Client.paramsOf, Sync.openParams, Json.object, Members.ofList,
    Json.at?, Json.get?, Members.find?_insert, Json.asString?]

lemma revision?_change (uri : Uri) (version : Nat) (content : Sync.Content) :
    (notification "textDocument/didChange"
      (Client.paramsOf (Sync.changeParams uri version content))).revision? =
      some (uri.text, .changed [content]) := by
  simp [revision?, Revision.read?, Client.paramsOf, Sync.changeParams, Json.object, Members.ofList,
    Json.at?, Json.get?, Members.find?_insert, Json.asString?, Json.asArray?]

lemma revision?_close (uri : Uri) :
    (notification "textDocument/didClose"
      (Client.paramsOf (.object [Sync.identifier uri]))).revision? = some (uri.text, .closed) := by
  simp [revision?, Revision.read?, Client.paramsOf, Sync.identifier, Json.object, Members.ofList,
    Json.at?, Json.get?, Members.find?_insert, Json.asString?]

lemma revision?_other {method : String} (params : Option Json)
    (hm : method ≠ "textDocument/didOpen" ∧ method ≠ "textDocument/didChange" ∧
      method ≠ "textDocument/didClose") : (notification method params).revision? = none := by
  cases params <;> simp [revision?, Revision.read?, hm]

end Outbound

def revisions (ms : List Outbound) : List (String × Revision) := ms.filterMap Outbound.revision?

lemma revisions_append (ms ns : List Outbound) :
    revisions (ms ++ ns) = revisions ms ++ revisions ns := by
  simp [revisions]

lemma revisions_revises (uri : Uri) (ms : List Outbound) :
    revisions (ms.filter (·.revises uri)) = (revisions ms).filter (·.1 = uri.text) := by
  induction ms with
  | nil => rfl
  | cons m rest ih =>
    simp only [revisions, Outbound.revises] at ih ⊢
    cases hm : m.revision? with
    | none => simp [hm, ih]
    | some r =>
      by_cases hr : r.1 = uri.text
      · simp [hm, hr, ih]
      · simp [hm, hr, ih]

def replay (edit : Edit) (seen : Option String) (ms : List Outbound) : Option String :=
  (revisions ms).foldl (fun seen r => r.2.apply edit seen) seen

lemma replay_append (edit : Edit) (seen : Option String) (ms ns : List Outbound) :
    replay edit seen (ms ++ ns) = replay edit (replay edit seen ms) ns := by
  simp [replay, revisions_append]

def written (sent : List (Nat × Submission)) (g : Nat) : List Outbound :=
  sent.filterMap fun s => if s.1 = g ∧ s.2.2.isOk = true then some s.2.1 else none

lemma written_append (s t : List (Nat × Submission)) (g : Nat) :
    written (s ++ t) g = written s g ++ written t g := by
  simp [written]

def Silent (sent : List (Nat × Submission)) : Prop := ∀ s ∈ sent, s.2.1.revision? = none

lemma Silent.nil : Silent [] := by simp [Silent]

lemma Silent.revisions {sent : List (Nat × Submission)} (hs : Silent sent) (g : Nat) :
    revisions (written sent g) = [] := by
  refine List.filterMap_eq_nil_iff.mpr fun m hm => ?_
  obtain ⟨s, hmem, hsm⟩ := List.mem_filterMap.mp hm
  split at hsm
  · exact Option.some.inj hsm ▸ hs s hmem
  · cases hsm

end LanguageHost
