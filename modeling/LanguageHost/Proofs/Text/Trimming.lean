import Mathlib.Data.List.DropRight
import Mathlib.Data.List.TakeWhile
import Mathlib.Tactic.Lemma
import LanguageHost.Text.Basic

namespace LanguageHost.Text

lemma trim_padded (before cs after : List Char) (hbefore : ∀ c ∈ before, isBlank c = true)
    (hafter : ∀ c ∈ after, isBlank c = true) (hhead : ∀ c ∈ cs.head?, isBlank c = false)
    (hlast : ∀ c ∈ cs.getLast?, isBlank c = false) : trim (before ++ cs ++ after) = cs := by
  have hleft : trimLeft (before ++ cs ++ after) = trimLeft (cs ++ after) := by
    rw [trimLeft, List.append_assoc, List.dropWhile_append_of_pos hbefore, trimLeft]
  cases cs with
  | nil =>
    have hnil : trimLeft ([] ++ after) = [] := by
      simpa [trimLeft, List.dropWhile_eq_nil_iff] using hafter
    rw [trim, hleft, hnil]
    rfl
  | cons c cs =>
    have hkeep : trimLeft (c :: cs ++ after) = c :: cs ++ after := by
      have hc := hhead c rfl
      simp [trimLeft, hc]
    rw [trim, hleft, hkeep, trimRight, List.reverse_append,
      List.dropWhile_append_of_pos (by simpa using hafter)]
    obtain ⟨front, last, hfl⟩ : ∃ front last, c :: cs = front ++ [last] :=
      ⟨_, _, (List.dropLast_concat_getLast (List.cons_ne_nil c cs)).symm⟩
    rw [hfl] at hlast ⊢
    have hl := hlast last (by simp)
    simp [hl]

lemma trimLeft_split (cs : List Char) :
    ∃ before, (∀ c ∈ before, isBlank c = true) ∧ cs = before ++ trimLeft cs ∧
      ∀ c ∈ (trimLeft cs).head?, isBlank c = false := by
  refine ⟨cs.takeWhile isBlank, fun c hc => List.mem_takeWhile_imp hc,
    List.takeWhile_append_dropWhile.symm, fun c hc => ?_⟩
  have hnot := List.head?_dropWhile_not isBlank cs
  rw [show (cs.dropWhile isBlank).head? = some c from hc] at hnot
  simpa using hnot

lemma trimRight_split (cs : List Char) :
    ∃ after, (∀ c ∈ after, isBlank c = true) ∧ cs = trimRight cs ++ after ∧
      ∀ c ∈ (trimRight cs).getLast?, isBlank c = false := by
  obtain ⟨before, hbefore, heq, hhead⟩ := trimLeft_split cs.reverse
  refine ⟨before.reverse, by simpa using hbefore, ?_, ?_⟩
  · calc cs = cs.reverse.reverse := (List.reverse_reverse cs).symm
      _ = (before ++ trimLeft cs.reverse).reverse := by rw [← heq]
      _ = trimRight cs ++ before.reverse := List.reverse_append
  · simpa [trimRight, trimLeft] using hhead

lemma trim_split (cs : List Char) :
    ∃ before after, (∀ c ∈ before, isBlank c = true) ∧ (∀ c ∈ after, isBlank c = true) ∧
      cs = before ++ trim cs ++ after ∧ (∀ c ∈ (trim cs).head?, isBlank c = false) ∧
      ∀ c ∈ (trim cs).getLast?, isBlank c = false := by
  obtain ⟨before, hbefore, hleft, hhead⟩ := trimLeft_split cs
  obtain ⟨after, hafter, hright, hlast⟩ := trimRight_split (trimLeft cs)
  refine ⟨before, after, hbefore, hafter, ?_, ?_, hlast⟩
  · rw [trim, List.append_assoc, ← hright, ← hleft]
  · intro c hc
    apply hhead
    rw [hright]
    exact List.mem_head?_append_of_mem_head? hc

lemma trim_surrounded (before cs after : List Char)
    (hbefore : ∀ c ∈ before, isBlank c = true) (hafter : ∀ c ∈ after, isBlank c = true) :
    trim (before ++ cs ++ after) = trim cs := by
  obtain ⟨b, a, hb, ha, heq, hhead, hlast⟩ := trim_split cs
  have hall : before ++ cs ++ after = (before ++ b) ++ trim cs ++ (a ++ after) := by
    conv_lhs => rw [heq]
    simp only [List.append_assoc]
  rw [hall]
  apply trim_padded _ _ _ _ _ hhead hlast
  · exact List.forall_mem_append.2 ⟨hbefore, hb⟩
  · exact List.forall_mem_append.2 ⟨ha, hafter⟩

lemma trim_trimLeft (cs : List Char) : trim (trimLeft cs) = trim cs := by
  rw [trim, trimLeft, trimLeft, List.dropWhile_idempotent]
  rfl

lemma trim_trimRight (cs : List Char) : trim (trimRight cs) = trim cs := by
  obtain ⟨after, hafter, heq, -⟩ := trimRight_split cs
  conv_rhs => rw [heq]
  exact (trim_surrounded [] _ after (by simp) hafter).symm

lemma trim_trim (cs : List Char) : trim (trim cs) = trim cs := by
  rw [show trim cs = trimRight (trimLeft cs) from rfl, trim_trimRight, trim_trimLeft, trim]

lemma trim_eq_nil_iff {cs : List Char} : trim cs = [] ↔ ∀ c ∈ cs, isBlank c = true := by
  constructor
  · intro h
    obtain ⟨before, after, hbefore, hafter, heq, -⟩ := trim_split cs
    rw [h, List.append_nil] at heq
    rw [heq]
    exact List.forall_mem_append.2 ⟨hbefore, hafter⟩
  · intro h
    have := trim_padded cs [] [] h (by simp) (by simp) (by simp)
    simpa using this

lemma trim_around {before after : List Char} {c : Char} (hc : isBlank c = false) :
    trim (before ++ c :: after) = trimLeft before ++ c :: trimRight after := by
  have hleft : trimLeft (before ++ c :: after) = trimLeft before ++ c :: after := by
    rw [trimLeft, List.dropWhile_append]
    split
    · next hempty =>
      rw [trimLeft, List.isEmpty_iff.1 hempty, List.nil_append,
        List.dropWhile_cons_of_neg (by simp [hc])]
    · rfl
  have hright (ds : List Char) : trimRight (ds ++ c :: after) = ds ++ c :: trimRight after := by
    rw [trimRight, List.reverse_append, List.reverse_cons, List.append_assoc, List.dropWhile_append]
    split
    · next hempty =>
      rw [trimRight, List.isEmpty_iff.1 hempty, List.singleton_append,
        List.dropWhile_cons_of_neg (by simp [hc])]
      simp
    · simp [trimRight]
  rw [trim, hleft, hright]

end LanguageHost.Text
