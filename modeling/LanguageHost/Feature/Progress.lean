import LanguageHost.Editor.Language
import LanguageHost.Feature.Shapes

/-!
Progress of long work on the servers. The title and the last percentage of a token are kept, because
later reports leave them out.
-/

namespace LanguageHost

/-- A token of a piece of work; a number and its digits name the same one. -/
abbrev ProgressToken := String

inductive ProgressStep where
  | begin_ (title : String) (message : Option String) (percentage : Option Nat)
  | report (message : Option String) (percentage : Option Nat)
  | end_ (message : Option String)
  deriving DecidableEq

namespace ProgressStep

def isEnd : ProgressStep → Bool
  | end_ _ => true
  | _ => false

end ProgressStep

structure ProgressState where
  title : Option String := none
  message : Option String := none
  percentage : Option Nat := none
  deriving DecidableEq

namespace ProgressState

def apply (s : ProgressState) : ProgressStep → ProgressState
  | .begin_ title message percentage => ⟨some title, message, percentage⟩
  | .report message percentage =>
    { s with message := message.or s.message, percentage := percentage.or s.percentage }
  | .end_ message => { s with message }

end ProgressState

structure ProgressEvent where
  language : LanguageId
  token : ProgressToken
  state : ProgressState
  finished : Bool
  deriving DecidableEq

namespace Progress

def token? : Json → Option ProgressToken
  | .str s => some s
  | j => (j.intIn? (-0x80000000) 0x7fffffff).map toString

def text? (key : String) (j : Json) : Option String := (j.get? key).bind Json.asString?

def percentage? (j : Json) : Option Nat := (j.get? "percentage").bind Position.number?

def step? (value : Json) : Option ProgressStep :=
  match text? "kind" value with
  | some "begin" => (text? "title" value).map fun title =>
    .begin_ title (text? "message" value) (percentage? value)
  | some "report" => some (.report (text? "message" value) (percentage? value))
  | some "end" => some (.end_ (text? "message" value))
  | _ => none

def read? (params : Json) : Option (ProgressToken × ProgressStep) := do
  let j ← Shapes.progress.read? params
  some (← (j.get? "token").bind token?, ← (j.get? "value").bind step?)

end Progress

structure ProgressTracker where
  entries : List ((LanguageId × ProgressToken) × ProgressState) := []

namespace ProgressTracker

abbrev Key := LanguageId × ProgressToken

def get? (t : ProgressTracker) (k : Key) : Option ProgressState :=
  (t.entries.find? (·.1 = k)).map Prod.snd

def remove (t : ProgressTracker) (k : Key) : ProgressTracker :=
  ⟨t.entries.filter (·.1 ≠ k)⟩

def set (t : ProgressTracker) (k : Key) (s : ProgressState) : ProgressTracker :=
  ⟨(k, s) :: (t.remove k).entries⟩

def create (t : ProgressTracker) (l : LanguageId) (token : ProgressToken) : ProgressTracker :=
  if (t.get? (l, token)).isSome then t else t.set (l, token) {}

def step (t : ProgressTracker) (l : LanguageId) (token : ProgressToken) (s : ProgressStep) :
    ProgressTracker × ProgressEvent :=
  let state := ((t.get? (l, token)).getD {}).apply s
  (if s.isEnd then t.remove (l, token) else t.set (l, token) state, ⟨l, token, state, s.isEnd⟩)

def update (t : ProgressTracker) (l : LanguageId) (params : Json) :
    ProgressTracker × Option ProgressEvent :=
  match Progress.read? params with
  | none => (t, none)
  | some (token, s) =>
    let (t, e) := t.step l token s
    (t, some e)

def clear (t : ProgressTracker) (l : LanguageId) : ProgressTracker :=
  ⟨t.entries.filter (·.1.1 ≠ l)⟩

def active (t : ProgressTracker) (l : LanguageId) : Nat :=
  (t.entries.filter (·.1.1 = l)).length

theorem get?_remove (t : ProgressTracker) (k k' : Key) :
    (t.remove k).get? k' = if k' = k then none else t.get? k' := by
  by_cases h : k' = k
  · subst h
    simp [remove, get?, List.find?_filter]
  · simp only [remove, get?, List.find?_filter, h, if_false]
    congr 2
    funext a
    by_cases ha : a.1 = k' <;> simp [ha, h]

theorem get?_set (t : ProgressTracker) (k k' : Key) (s : ProgressState) :
    (t.set k s).get? k' = if k' = k then some s else t.get? k' := by
  by_cases h : k' = k
  · subst h
    simp [set, get?]
  · have := get?_remove t k k'
    simp only [h, if_false] at this
    simp only [h, if_false, ← this]
    simp [set, get?, Ne.symm h]

theorem get?_clear (t : ProgressTracker) (l m : LanguageId) (token : ProgressToken) :
    (t.clear m).get? (l, token) = if m = l then none else t.get? (l, token) := by
  simp only [clear, get?, List.find?_filter]
  split
  · next hm =>
    rw [Option.map_eq_none_iff, List.find?_eq_none]
    rintro ⟨⟨n, text⟩, state⟩ -
    simp [hm]
    rintro hn rfl
    exact absurd rfl hn
  · next hm =>
    congr 2
    funext e
    by_cases he : e.1 = (l, token)
    · simp [he, Ne.symm hm]
    · simp [he]

theorem clear_clear (t : ProgressTracker) (l : LanguageId) : (t.clear l).clear l = t.clear l := by
  simp [clear]

end ProgressTracker

end LanguageHost
