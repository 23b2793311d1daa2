import LanguageHost.Proofs.Text.Trimming

namespace LanguageHost.Text

structure IsWord (w : List Char) : Prop where
  nonempty : w ≠ []
  inked : ∀ c ∈ w, isBlank c = false

/-- A text is made of words, with blanks around them and at least one blank between two of them. -/
inductive Spaced : List Char → List (List Char) → Prop
  | nil : Spaced [] []
  | blank {c : Char} {cs : List Char} {ws : List (List Char)} (hc : isBlank c = true)
      (h : Spaced cs ws) : Spaced (c :: cs) ws
  | word {w cs : List Char} {ws : List (List Char)} (hw : IsWord w)
      (hcs : ∀ c ∈ cs.head?, isBlank c = true) (h : Spaced cs ws) : Spaced (w ++ cs) (w :: ws)

variable {cs ds w current : List Char} {ws vs : List (List Char)} {c : Char}

lemma wordsFrom_spaced (hcurrent : ∀ c ∈ current, isBlank c = false) :
    Spaced (current.reverse ++ cs) (wordsFrom current cs) := by
  have hword (h : current ≠ []) : IsWord current.reverse :=
    ⟨by simpa using h, by simpa only [List.mem_reverse] using hcurrent⟩
  induction cs generalizing current with
  | nil =>
    by_cases hempty : current = []
    · subst hempty
      exact .nil
    · simpa [wordsFrom, hempty] using Spaced.word (hword hempty) (by simp) .nil
  | cons c cs ih =>
    have hrest : Spaced cs (wordsFrom [] cs) := ih (by simp) (absurd rfl)
    rw [wordsFrom]
    cases hc : isBlank c with
    | true =>
      by_cases hempty : current = []
      · subst hempty
        exact hrest.blank hc
      · simpa [hempty] using Spaced.word (hword hempty) (by simp [hc]) (hrest.blank hc)
    | false =>
      have hmore : ∀ d ∈ c :: current, isBlank d = false :=
        List.forall_mem_cons.mpr ⟨hc, hcurrent⟩
      simpa using ih hmore fun _ => ⟨by simp, by simpa only [List.mem_reverse] using hmore⟩

lemma words_spaced (cs : List Char) : Spaced cs (words cs) :=
  wordsFrom_spaced (List.forall_mem_nil _)

lemma wordsFrom_inked (hw : ∀ c ∈ w, isBlank c = false) :
    wordsFrom current (w ++ cs) = wordsFrom (w.reverse ++ current) cs := by
  induction w generalizing current with
  | nil => rfl
  | cons c w ih =>
    obtain ⟨hc, hw⟩ := List.forall_mem_cons.mp hw
    rw [List.cons_append, wordsFrom, hc, if_neg Bool.false_ne_true, ih hw]
    simp

lemma words_word (hw : IsWord w) (hcs : ∀ c ∈ cs.head?, isBlank c = true) :
    words (w ++ cs) = w :: words cs := by
  rw [words, wordsFrom_inked hw.inked, List.append_nil]
  cases cs with
  | nil => simp [words, wordsFrom, hw.nonempty]
  | cons c cs => simp [words, wordsFrom, hw.nonempty, hcs c rfl]

lemma Spaced.words_eq (h : Spaced cs ws) : words cs = ws := by
  induction h with
  | nil => rfl
  | blank hc _ ih => simpa [words, wordsFrom, hc] using ih
  | word hw hcs _ ih => rw [words_word hw hcs, ih]

theorem words_eq_iff : words cs = ws ↔ Spaced cs ws :=
  ⟨fun h => h ▸ words_spaced cs, Spaced.words_eq⟩

namespace Spaced

lemma isWord (h : Spaced cs ws) : ∀ w ∈ ws, IsWord w := by
  induction h with
  | nil => simp
  | blank _ _ ih => exact ih
  | word hw _ _ ih => exact List.forall_mem_cons.mpr ⟨hw, ih⟩

lemma append (h : Spaced cs ws) (hds : Spaced ds vs) (hhead : ∀ c ∈ ds.head?, isBlank c = true) :
    Spaced (cs ++ ds) (ws ++ vs) := by
  induction h with
  | nil => exact hds
  | blank hc _ ih => exact .blank hc ih
  | @word w cs ws hw hcs _ ih =>
    rw [List.append_assoc]
    refine .word hw ?_ ih
    cases cs with
    | nil => exact hhead
    | cons c cs => exact hcs

lemma blanks (hblank : ∀ c ∈ ds, isBlank c = true) (h : Spaced cs ws) : Spaced (ds ++ cs) ws := by
  induction ds with
  | nil => exact h
  | cons d ds ih =>
    obtain ⟨hd, hds⟩ := List.forall_mem_cons.mp hblank
    exact .blank hd (ih hds)

lemma of_trim (h : Spaced (trim cs) ws) : Spaced cs ws := by
  obtain ⟨before, after, hbefore, hafter, heq, -⟩ := trim_split cs
  have hnone : Spaced after [] := by simpa using blanks hafter .nil
  rw [heq, List.append_assoc]
  refine blanks hbefore ?_
  simpa using h.append hnone fun c hc => hafter c (List.mem_of_mem_head? hc)

lemma trim_iff : Spaced (trim cs) ws ↔ Spaced cs ws := by
  refine ⟨of_trim, fun h => ?_⟩
  rw [← h.words_eq, (words_spaced (trim cs)).of_trim.words_eq]
  exact words_spaced (trim cs)

lemma first (h : Spaced (c :: cs) ws) (hc : isBlank c = false) :
    ∃ tail rest args, ws = (c :: tail) :: args ∧ cs = tail ++ rest ∧ IsWord (c :: tail) ∧
      (∀ d ∈ rest.head?, isBlank d = true) ∧ Spaced rest args := by
  generalize hall : c :: cs = all at h
  cases h with
  | nil => cases hall
  | blank hblank =>
    cases hall
    rw [hc] at hblank
    cases hblank
  | @word w rest args hw hrest hargs =>
    cases w with
    | nil => exact absurd rfl hw.nonempty
    | cons d tail =>
      obtain ⟨rfl, rfl⟩ := List.cons.inj hall
      exact ⟨tail, rest, args, rfl, rfl, hw, hrest, hargs⟩

end Spaced

end LanguageHost.Text
