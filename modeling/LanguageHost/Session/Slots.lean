import LanguageHost.Session.Instance

namespace LanguageHost

inductive Slot where
  | unused
  | servedBy (target : LanguageId)
  | dead (restarts : Nat) (reason : String)
  | active (i : Instance)

namespace Slot

def instance? : Slot → Option Instance
  | active i => some i
  | _ => none

end Slot

/-- Slots by language, in the order of the names, each language once. -/
abbrev Slots := List (LanguageId × Slot)

namespace Slots

def get? (s : Slots) (l : LanguageId) : Option Slot := (s.find? (·.1 = l)).map Prod.snd

def erase (s : Slots) (l : LanguageId) : Slots := s.filter (·.1 ≠ l)

def place (l : LanguageId) (slot : Slot) : Slots → Slots
  | [] => [(l, slot)]
  | e :: rest =>
    if l.name < e.1.name then (l, slot) :: e :: rest else e :: place l slot rest

def set (s : Slots) (l : LanguageId) (slot : Slot) : Slots := place l slot (s.erase l)

def instances (s : Slots) : List Instance := s.filterMap (·.2.instance?)

def activeLanguages (s : Slots) : List LanguageId :=
  s.filterMap fun e => e.2.instance?.map fun _ => e.1

theorem find?_place (l k : LanguageId) (slot : Slot) (s : Slots) (h : ∀ e ∈ s, e.1 ≠ l) :
    (place l slot s).find? (·.1 = k) = if l = k then some (l, slot) else s.find? (·.1 = k) := by
  induction s with
  | nil => by_cases hk : l = k <;> simp [place, hk]
  | cons e rest ih =>
    have he : e.1 ≠ l := h e (by simp)
    have hrest : ∀ e ∈ rest, e.1 ≠ l := fun e he => h e (by simp [he])
    simp only [place]
    split
    · by_cases hk : l = k <;> simp [hk]
    · by_cases hek : e.1 = k
      · have hlk : l ≠ k := fun hlk => he (hek.trans hlk.symm)
        simp [hek, hlk]
      · simp only [List.find?_cons, hek, decide_false, ih hrest]

theorem get?_erase (s : Slots) (l k : LanguageId) :
    (s.erase l).get? k = if l = k then none else s.get? k := by
  by_cases h : l = k
  · subst h
    simp [erase, get?, List.find?_filter]
  · simp only [erase, get?, List.find?_filter, h, if_false]
    congr 2
    funext e
    by_cases hk : e.1 = k
    · simp [hk, Ne.symm h]
    · simp [hk]

theorem get?_set (s : Slots) (l k : LanguageId) (slot : Slot) :
    (s.set l slot).get? k = if l = k then some slot else s.get? k := by
  have h : ∀ e ∈ s.erase l, e.1 ≠ l := by simp [erase]
  have he := get?_erase s l k
  simp only [get?] at he
  simp only [set, get?, find?_place l k slot _ h]
  by_cases hk : l = k
  · simp [hk]
  · simpa [hk] using he

end Slots

end LanguageHost
