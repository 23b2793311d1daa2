import LanguageHost.Proofs.Text.Trimming
import LanguageHost.Text.Basic

namespace LanguageHost.Text

def apart (a b : Nat × Nat) : Bool := Nat.blt a.2 b.1 || Nat.blt b.2 a.1

def Within (r : Nat × Nat) (n : Nat) : Prop := r.1 ≤ n ∧ n ≤ r.2

lemma Within.not_of_apart {a b : Nat × Nat} {n : Nat} (h : Within a n) (hab : apart a b = true) :
    ¬Within b n := by
  simp only [apart, Bool.or_eq_true, Nat.blt_eq] at hab
  rintro ⟨hfirst, hlast⟩
  obtain ⟨hn, hn'⟩ := h
  omega

lemma inRanges_eq_false {table : List (Nat × Nat)} {r : Nat × Nat} {n : Nat} (h : Within r n)
    (ht : table.all (apart r) = true) : inRanges table n = false := by
  rw [inRanges, List.any_eq_false]
  intro s hs hn
  refine h.not_of_apart (List.all_eq_true.mp ht s hs) ?_
  simpa [Within] using hn

def blankRanges : List (Nat × Nat) :=
  [(0x9, 0xD), (0x20, 0x20), (0x85, 0x85), (0xA0, 0xA0), (0x1680, 0x1680), (0x2000, 0x200A),
   (0x2028, 0x2029), (0x202F, 0x202F), (0x205F, 0x205F), (0x3000, 0x3000)]

lemma isBlank_iff {c : Char} : isBlank c = true ↔ ∃ r ∈ blankRanges, Within r c.toNat := by
  simp only [isBlank, blankRanges, Within, List.mem_cons, List.not_mem_nil, or_false,
    exists_eq_or_imp, exists_eq_left, Bool.or_eq_true, Bool.and_eq_true, decide_eq_true_eq, beq_iff_eq]
  omega

namespace CaseRow

variable {r s : CaseRow} {n : Nat}

def upper (r : CaseRow) : Nat × Nat := (r.first, r.last)

def lower (r : CaseRow) : Nat × Nat := ((r.first + r.shift).toNat, (r.last + r.shift).toNat)

def clear (r s : CaseRow) : Bool :=
  apart r.lower s.upper ||
    (Nat.blt 0 r.lower.1 && Nat.beq s.step 2 && (Nat.beq r.step 2 || Nat.beq r.first r.last) &&
      Nat.beq ((r.lower.1 + s.first) % 2) 1)

lemma within_upper (h : r.covers n = true) : Within r.upper n := by
  simp only [covers, Bool.and_eq_true, decide_eq_true_eq] at h
  exact h.1

lemma within_lower (h : r.covers n = true) : Within r.lower ((n + r.shift).toNat) := by
  obtain ⟨hfirst, hlast⟩ := within_upper h
  simp only [upper] at hfirst hlast
  simp only [Within, lower]
  omega

lemma covers_of_clear (h : r.covers n = true) (hrs : r.clear s = true) :
    s.covers (n + r.shift).toNat = false := by
  rw [clear, Bool.or_eq_true] at hrs
  rcases hrs with hapart | hbetween
  · by_contra hs
    have hs : s.covers (n + r.shift).toNat = true := by simpa using hs
    exact (within_lower h).not_of_apart hapart (within_upper hs)
  · simp only [lower, Bool.and_eq_true, Bool.or_eq_true, Nat.blt_eq, Nat.beq_eq] at hbetween
    obtain ⟨⟨⟨hpositive, hs⟩, hr⟩, hodd⟩ := hbetween
    simp only [covers, Bool.and_eq_true, decide_eq_true_eq, beq_iff_eq] at h
    obtain ⟨⟨hfirst, hlast⟩, hstep⟩ := h
    -- The lower case of a letter has the parity of that of the first one.
    have hparity : (n - r.first) % 2 = 0 := by
      rcases hr with hr | hr
      · rwa [hr] at hstep
      · omega
    simp only [covers, hs, Bool.and_eq_false_iff, decide_eq_false_iff_not, beq_eq_false_iff_ne]
    omega

end CaseRow

lemma rows_clear : (lowerRows.all fun r => lowerRows.all r.clear) = true := by decide +kernel

def dotted : Nat × Nat := (0x130, 0x130)

lemma rows_apart : (lowerRows.all fun r => (dotted :: blankRanges).all fun b =>
    apart b r.upper && apart b r.lower) = true := by decide +kernel

lemma blanks_apart : (blankRanges.all fun b =>
    apart b dotted && casedRanges.all (apart b) && caseIgnorableRanges.all (apart b)) = true := by
  decide +kernel

def IsLower (c : Char) : Prop := c.toNat ≠ 0x130 ∧ ∀ r ∈ lowerRows, r.covers c.toNat = false

instance (c : Char) : Decidable (IsLower c) := inferInstanceAs (Decidable (_ ∧ _))

variable {c d : Char} {cs ds before after : List Char}

lemma IsLower.lowerChar_eq (h : IsLower c) : lowerChar c = [c] := by
  have hrow : lowerRows.find? (·.covers c.toNat) = none := by simpa using h.2
  rw [lowerChar, if_neg h.1, hrow]

lemma IsLower.ne_sigma (h : IsLower c) : c ≠ 'Σ' := by
  rintro rfl
  exact absurd h (by decide +kernel)

lemma toNat_ofNat_cases (n : Nat) : (Char.ofNat n).toNat = n ∨ Char.ofNat n = '\x00' := by
  by_cases h : n.isValidChar
  · left
    rw [Char.ofNat, dif_pos h]
    rfl
  · right
    rw [Char.ofNat, dif_neg h]
    rfl

lemma not_within_lower {r : CaseRow} (hr : r ∈ lowerRows) {n : Nat} (h : r.covers n = true) :
    ∀ b ∈ dotted :: blankRanges, ¬Within b (n + r.shift).toNat := by
  intro b hb hwithin
  have hall := List.all_eq_true.mp (List.all_eq_true.mp rows_apart r hr) b hb
  rw [Bool.and_eq_true] at hall
  exact hwithin.not_of_apart hall.2 (CaseRow.within_lower h)

lemma lowerChar_isLower (c : Char) : ∀ d ∈ lowerChar c, IsLower d := by
  rw [lowerChar]
  split
  · rw [List.forall_mem_cons, List.forall_mem_singleton]
    decide +kernel
  next hdotted =>
  split
  · next r hfind =>
    have hr := List.mem_of_find?_eq_some hfind
    have hcovers := List.find?_some hfind
    rw [List.forall_mem_singleton]
    rcases toNat_ofNat_cases (c.toNat + r.shift).toNat with hn | hn
    · rw [IsLower, hn]
      refine ⟨fun hsame => ?_, fun s hs => ?_⟩
      · refine not_within_lower hr hcovers dotted List.mem_cons_self ?_
        rw [hsame]
        exact ⟨Nat.le_refl _, Nat.le_refl _⟩
      · exact CaseRow.covers_of_clear hcovers
          (List.all_eq_true.mp (List.all_eq_true.mp rows_clear r hr) s hs)
    · rw [hn]
      decide +kernel
  · next hfind =>
    rw [List.forall_mem_singleton]
    exact ⟨hdotted, by simpa using hfind⟩

lemma isLower_of_blank (h : isBlank c = true) : IsLower c := by
  obtain ⟨b, hb, hwithin⟩ := isBlank_iff.mp h
  constructor
  · intro hsame
    have hall := List.all_eq_true.mp blanks_apart b hb
    simp only [Bool.and_eq_true] at hall
    refine hwithin.not_of_apart hall.1.1 ?_
    rw [hsame]
    exact ⟨Nat.le_refl _, Nat.le_refl _⟩
  · intro r hr
    have hall := List.all_eq_true.mp (List.all_eq_true.mp rows_apart r hr) b
      (List.mem_cons_of_mem _ hb)
    rw [Bool.and_eq_true] at hall
    by_contra hcovers
    have hcovers : r.covers c.toNat = true := by simpa using hcovers
    exact hwithin.not_of_apart hall.1 (CaseRow.within_upper hcovers)

lemma lowerChar_ne_nil (c : Char) : lowerChar c ≠ [] := by
  rw [lowerChar]
  split
  · exact List.cons_ne_nil _ _
  split <;> exact List.cons_ne_nil _ _

lemma lowerChar_inked (h : isBlank c = false) : ∀ d ∈ lowerChar c, isBlank d = false := by
  rw [lowerChar]
  split
  · rw [List.forall_mem_cons, List.forall_mem_singleton]
    decide
  split
  · next r hfind =>
    have hr := List.mem_of_find?_eq_some hfind
    have hcovers := List.find?_some hfind
    rw [List.forall_mem_singleton]
    rcases toNat_ofNat_cases (c.toNat + r.shift).toNat with hn | hn
    · by_contra hblank
      obtain ⟨b, hb, hwithin⟩ := isBlank_iff.mp (by simpa using hblank)
      rw [hn] at hwithin
      exact not_within_lower hr hcovers b (List.mem_cons_of_mem _ hb) hwithin
    · rw [hn]
      decide
  · simpa using h

lemma lowerFrom_cons (before : List Char) (c : Char) (cs : List Char) :
    ∃ low, (low = lowerChar c ∨ c = 'Σ' ∧ (low = ['ς'] ∨ low = ['σ'])) ∧ low ≠ [] ∧
      lowerFrom before (c :: cs) = low ++ lowerFrom (c :: before) cs := by
  rw [lowerFrom]
  split
  · next hsigma =>
    split
    · exact ⟨['ς'], .inr ⟨hsigma, .inl rfl⟩, List.cons_ne_nil _ _, rfl⟩
    · exact ⟨['σ'], .inr ⟨hsigma, .inr rfl⟩, List.cons_ne_nil _ _, rfl⟩
  · exact ⟨lowerChar c, .inl rfl, lowerChar_ne_nil c, rfl⟩

lemma lowerFrom_isLower (before cs : List Char) : ∀ d ∈ lowerFrom before cs, IsLower d := by
  induction cs generalizing before with
  | nil => simp [lowerFrom]
  | cons c cs ih =>
    obtain ⟨low, hlow, -, heq⟩ := lowerFrom_cons before c cs
    rw [heq, List.forall_mem_append]
    refine ⟨?_, ih _⟩
    rcases hlow with rfl | ⟨-, rfl | rfl⟩
    · exact lowerChar_isLower c
    · exact List.forall_mem_singleton.mpr (by decide +kernel)
    · exact List.forall_mem_singleton.mpr (by decide +kernel)

lemma lowerFrom_lower (before : List Char) (h : ∀ c ∈ cs, IsLower c) : lowerFrom before cs = cs := by
  induction cs generalizing before with
  | nil => rfl
  | cons c cs ih =>
    rw [List.forall_mem_cons] at h
    rw [lowerFrom, ih _ h.2, if_neg h.1.ne_sigma, h.1.lowerChar_eq]
    rfl

theorem lower_lower (cs : List Char) : lower (lower cs) = lower cs :=
  lowerFrom_lower [] (lowerFrom_isLower [] cs)

lemma lowerFrom_inked (hc : isBlank c = false) (before cs : List Char) :
    ∃ low, low ≠ [] ∧ (∀ d ∈ low, isBlank d = false) ∧
      lowerFrom before (c :: cs) = low ++ lowerFrom (c :: before) cs := by
  obtain ⟨low, hlow, hne, heq⟩ := lowerFrom_cons before c cs
  refine ⟨low, hne, ?_, heq⟩
  rcases hlow with rfl | ⟨-, rfl | rfl⟩
  · exact lowerChar_inked hc
  · exact List.forall_mem_singleton.mpr (by decide)
  · exact List.forall_mem_singleton.mpr (by decide)

lemma not_cased_of_blank (h : isBlank c = true) : isCased c = false ∧ isCaseIgnorable c = false := by
  obtain ⟨b, hb, hwithin⟩ := isBlank_iff.mp h
  have hall := List.all_eq_true.mp blanks_apart b hb
  simp only [Bool.and_eq_true] at hall
  exact ⟨inRanges_eq_false hwithin hall.1.2, inRanges_eq_false hwithin hall.2⟩

lemma meetsCased_append (h : ∀ c ∈ ds.head?, isBlank c = true) :
    meetsCased (cs ++ ds) = meetsCased cs := by
  simp only [meetsCased, List.dropWhile_append]
  cases cs.dropWhile isCaseIgnorable with
  | cons d rest => rfl
  | nil =>
    cases ds with
    | nil => rfl
    | cons d ds =>
      obtain ⟨hcased, hignorable⟩ := not_cased_of_blank (h d rfl)
      rw [List.dropWhile_cons_of_neg (by simp [hignorable])]
      exact hcased

lemma lowerFrom_blanks (hblank : ∀ c ∈ before, isBlank c = true) (cs ds : List Char) :
    lowerFrom cs (before ++ ds) = before ++ lowerFrom (before.reverse ++ cs) ds := by
  induction before generalizing cs with
  | nil => rfl
  | cons c before ih =>
    rw [List.forall_mem_cons] at hblank
    have hlower := isLower_of_blank hblank.1
    rw [List.cons_append, lowerFrom, if_neg hlower.ne_sigma, hlower.lowerChar_eq, ih hblank.2,
      List.reverse_cons, List.append_assoc]
    rfl

lemma lowerFrom_behind (h : ∀ c ∈ after.head?, isBlank c = true) (before cs : List Char) :
    lowerFrom (before ++ after) cs = lowerFrom before cs := by
  induction cs generalizing before with
  | nil => rfl
  | cons c cs ih =>
    rw [lowerFrom, lowerFrom, meetsCased_append h, ← List.cons_append, ih]

lemma lowerFrom_append (h : ∀ c ∈ after.head?, isBlank c = true) (before cs : List Char) :
    lowerFrom before (cs ++ after) = lowerFrom before cs ++ lowerFrom (cs.reverse ++ before) after := by
  induction cs generalizing before with
  | nil => rfl
  | cons c cs ih =>
    rw [List.cons_append, lowerFrom, lowerFrom, meetsCased_append h, ih, List.reverse_cons,
      List.append_assoc, List.append_assoc]
    rfl

lemma lower_surrounded (hbefore : ∀ c ∈ before, isBlank c = true)
    (hafter : ∀ c ∈ after, isBlank c = true) (cs : List Char) :
    lower (before ++ cs ++ after) = before ++ lower cs ++ after := by
  have hback : ∀ c ∈ before.reverse.head?, isBlank c = true := fun c hc =>
    hbefore c (List.mem_reverse.mp (List.mem_of_mem_head? hc))
  have hfront : ∀ c ∈ after.head?, isBlank c = true := fun c hc =>
    hafter c (List.mem_of_mem_head? hc)
  have hkept (ds : List Char) : lowerFrom ds after = after :=
    lowerFrom_lower ds fun c hc => isLower_of_blank (hafter c hc)
  have hfirst : lowerFrom before.reverse (cs ++ after) = lowerFrom [] (cs ++ after) :=
    lowerFrom_behind hback [] _
  rw [lower, List.append_assoc, lowerFrom_blanks hbefore, List.append_nil, hfirst,
    lowerFrom_append hfront, hkept, lower, List.append_assoc]

lemma lower_head (h : ∀ c ∈ cs.head?, isBlank c = false) :
    ∀ c ∈ (lower cs).head?, isBlank c = false := by
  cases cs with
  | nil => exact h
  | cons c cs =>
    obtain ⟨low, hne, hlow, heq⟩ := lowerFrom_inked (h c rfl) [] cs
    rw [lower, heq, List.head?_append_of_ne_nil _ hne]
    exact fun d hd => hlow d (List.mem_of_mem_head? hd)

lemma lowerFrom_last (before : List Char) (h : ∀ c ∈ cs.getLast?, isBlank c = false) :
    ∀ c ∈ (lowerFrom before cs).getLast?, isBlank c = false := by
  induction cs generalizing before with
  | nil => exact h
  | cons c cs ih =>
    cases cs with
    | nil =>
      obtain ⟨low, -, hlow, heq⟩ := lowerFrom_inked (h c rfl) before []
      rw [heq, lowerFrom, List.append_nil]
      exact fun d hd => hlow d (List.mem_of_getLast? hd)
    | cons d cs =>
      obtain ⟨low, -, -, heq⟩ := lowerFrom_cons before c (d :: cs)
      obtain ⟨next, -, hne, hnext⟩ := lowerFrom_cons (c :: before) d cs
      have hrest : lowerFrom (c :: before) (d :: cs) ≠ [] := by simp [hnext, hne]
      rw [heq, List.getLast?_append_of_ne_nil _ hrest]
      exact ih _ h

theorem trim_lower (cs : List Char) : trim (lower cs) = lower (trim cs) := by
  obtain ⟨before, after, hbefore, hafter, heq, hhead, hlast⟩ := trim_split cs
  conv_lhs => rw [heq]
  rw [lower_surrounded hbefore hafter]
  exact trim_padded _ _ _ hbefore hafter (lower_head hhead) (lowerFrom_last [] hlast)

end LanguageHost.Text
