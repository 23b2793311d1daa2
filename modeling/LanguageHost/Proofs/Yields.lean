import Mathlib.Data.List.Basic

namespace LanguageHost

def Yields {ε α : Type} (P : α → Prop) (r : Except ε α) : Prop := ∀ a, r = .ok a → P a

namespace Yields

variable {ε ε' α β : Type} {P : α → Prop} {Q : β → Prop} {a : α} {e : ε} {r : Except ε α}
  {f : α → Except ε β} {g : α → β}

lemma ok (h : P a) : Yields P (.ok a : Except ε α) := by
  rintro b hb
  exact Except.ok.inj hb ▸ h

lemma error : Yields P (.error e : Except ε α) := fun _ h => nomatch h

lemma any : Yields (fun _ => True) r := fun _ _ => trivial

lemma bind_ok (hf : ∀ a, r = .ok a → Yields Q (f a)) : Yields Q (r >>= f) := by
  rcases r with e | a
  · exact error
  · exact hf a rfl

lemma bind (h : Yields P r) (hf : ∀ a, P a → Yields Q (f a)) : Yields Q (r >>= f) :=
  bind_ok fun a ha => hf a (h a ha)

lemma map (h : Yields P r) (hg : ∀ a, P a → Q (g a)) : Yields Q (r.map g) := by
  rcases r with e | a
  · exact error
  · exact ok (hg a (h a rfl))

lemma mapError {k : ε → ε'} (h : Yields P r) : Yields P (r.mapError k) := by
  rcases r with e | a
  · exact error
  · exact ok (h a rfl)

lemma foldlM {step : β → α → Except ε β} {as : List α} {b : β}
    (hstep : ∀ b, Q b → ∀ a ∈ as, Yields Q (step b a)) (hb : Q b) :
    Yields Q (as.foldlM step b) := by
  induction as generalizing b with
  | nil => exact ok hb
  | cons a as ih =>
    rw [List.foldlM_cons]
    refine (hstep b hb a List.mem_cons_self).bind fun b hb => ih ?_ hb
    exact fun b hb a ha => hstep b hb a (List.mem_cons_of_mem _ ha)

end Yields

end LanguageHost
