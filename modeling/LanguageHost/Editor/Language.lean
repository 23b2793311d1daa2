import LanguageHost.Settings.Types

namespace LanguageHost

structure LanguageId where
  name : String
  nonempty : name ≠ ""
  noBlank : name.toList.any Text.isBlank = false

namespace LanguageId

instance : DecidableEq LanguageId := fun a b =>
  if h : a.name = b.name then isTrue (by cases a; cases b; cases h; rfl)
  else isFalse fun e => h (e ▸ rfl)

theorem ext_name {a b : LanguageId} (h : a.name = b.name) : a = b := by
  cases a; cases b; cases h; rfl

def parse? (input : String) : Option LanguageId :=
  let name := normaliseLanguage input
  if h : name ≠ "" ∧ name.toList.any Text.isBlank = false then some ⟨name, h.1, h.2⟩ else none

def parseMessage (input : String) : String := "invalid language identifier '" ++ input ++ "'"

theorem parse?_eq_none_iff (input : String) :
    parse? input = none ↔
      normaliseLanguage input = "" ∨ (normaliseLanguage input).toList.any Text.isBlank = true := by
  by_cases h : normaliseLanguage input = "" <;>
    cases hb : (normaliseLanguage input).toList.any Text.isBlank <;> simp [parse?, h, hb]

theorem name_of_parse? {input : String} {l : LanguageId} (h : parse? input = some l) :
    l.name = normaliseLanguage input := by
  simp only [parse?] at h
  split at h
  · cases h; rfl
  · cases h

end LanguageId

end LanguageHost
