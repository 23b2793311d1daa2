import Mathlib.Tactic.Lemma
import LanguageHost.Text.Utf8

namespace LanguageHost.Utf8

lemma toNat_ofNat {n : Nat} (h : n < 0x100) : (UInt8.ofNat n).toNat = n := by
  rw [UInt8.toNat_ofNat']
  exact Nat.mod_eq_of_lt h

lemma ofNat_eq {b : UInt8} {n : Nat} (h : n = b.toNat) : UInt8.ofNat n = b := by
  rw [h, UInt8.ofNat_toNat]

lemma tail?_tail (n : Nat) : tail? (tail n) = some (n % 0x40) := by
  have hn : (tail n).toNat = 0x80 + n % 0x40 := toNat_ofNat (by omega)
  rw [tail?, hn, if_pos (by omega), Nat.add_sub_cancel_left]

lemma tail_of_tail? {b : UInt8} {t : Nat} (h : tail? b = some t) :
    t < 0x40 ∧ ∀ n, n % 0x40 = t → tail n = b := by
  rw [tail?] at h
  split at h
  · obtain rfl := Option.some.inj h
    refine ⟨by omega, fun n hn => ofNat_eq ?_⟩
    omega
  · cases h

lemma scalar?_toNat {least : Nat} {c : Char} (h : least ≤ c.toNat) :
    scalar? least c.toNat = some c := by
  have hv : c.toNat.isValidChar := c.valid
  rw [scalar?, dif_pos hv, if_pos h]
  rfl

lemma toNat_of_scalar? {least n : Nat} {c : Char} (h : scalar? least n = some c) :
    c.toNat = n ∧ least ≤ n := by
  rw [scalar?] at h
  by_cases hv : n.isValidChar
  · rw [dif_pos hv, Option.ite_none_right_eq_some] at h
    obtain ⟨hleast, hc⟩ := h
    obtain rfl := Option.some.inj hc
    exact ⟨rfl, hleast⟩
  · rw [dif_neg hv] at h
    cases h

lemma toNat_lt (c : Char) : c.toNat < 0x110000 := by
  have hv := c.valid
  simp only [UInt32.isValidChar, Nat.isValidChar] at hv
  change c.val.toNat < _
  omega

section Widths

variable {c : Char}

lemma encodeChar_one (h : c.toNat < 0x80) : encodeChar c = [UInt8.ofNat c.toNat] := by
  rw [encodeChar, if_pos h]

lemma encodeChar_two (h : 0x80 ≤ c.toNat) (hlt : c.toNat < 0x800) :
    encodeChar c = [UInt8.ofNat (0xC0 + c.toNat / 0x40), tail c.toNat] := by
  rw [encodeChar, if_neg (by omega), if_pos hlt]

lemma encodeChar_three (h : 0x800 ≤ c.toNat) (hlt : c.toNat < 0x10000) :
    encodeChar c =
      [UInt8.ofNat (0xE0 + c.toNat / 0x1000), tail (c.toNat / 0x40), tail c.toNat] := by
  rw [encodeChar, if_neg (by omega), if_neg (by omega), if_pos hlt]

lemma encodeChar_four (h : 0x10000 ≤ c.toNat) :
    encodeChar c = [UInt8.ofNat (0xF0 + c.toNat / 0x40000), tail (c.toNat / 0x1000),
      tail (c.toNat / 0x40), tail c.toNat] := by
  rw [encodeChar, if_neg (by omega), if_neg (by omega), if_neg (by omega)]

end Widths

section Leads

variable {b : UInt8}

lemma decode?_one (h : b.toNat < 0x80) (bs : Bytes) :
    decode? (b :: bs) = (decode? bs).map (Char.ofNat b.toNat :: ·) := by
  rw [decode?.eq_def]
  simp only [h, if_true]

lemma decode?_two (h : 0xC0 ≤ b.toNat) (hlt : b.toNat < 0xE0) (b₁ : UInt8) (bs : Bytes) :
    decode? (b :: b₁ :: bs) = (tail? b₁).bind fun t₁ =>
      (scalar? 0x80 ((b.toNat - 0xC0) * 0x40 + t₁)).bind fun c =>
        (decode? bs).map (c :: ·) := by
  have one : ¬ b.toNat < 0x80 := by omega
  rw [decode?.eq_def]
  simp only [one, if_false, h, hlt, and_self, if_true, Option.bind_eq_bind]

lemma decode?_three (h : 0xE0 ≤ b.toNat) (hlt : b.toNat < 0xF0) (b₁ b₂ : UInt8) (bs : Bytes) :
    decode? (b :: b₁ :: b₂ :: bs) = (tail? b₁).bind fun t₁ => (tail? b₂).bind fun t₂ =>
      (scalar? 0x800 ((b.toNat - 0xE0) * 0x1000 + t₁ * 0x40 + t₂)).bind fun c =>
        (decode? bs).map (c :: ·) := by
  have one : ¬ b.toNat < 0x80 := by omega
  have two : ¬ b.toNat < 0xE0 := by omega
  rw [decode?.eq_def]
  simp only [one, two, if_false, h, hlt, and_false, and_self, if_true, Option.bind_eq_bind]

lemma decode?_four (h : 0xF0 ≤ b.toNat) (hlt : b.toNat < 0xF8) (b₁ b₂ b₃ : UInt8) (bs : Bytes) :
    decode? (b :: b₁ :: b₂ :: b₃ :: bs) = (tail? b₁).bind fun t₁ => (tail? b₂).bind fun t₂ =>
      (tail? b₃).bind fun t₃ =>
        (scalar? 0x10000 ((b.toNat - 0xF0) * 0x40000 + t₁ * 0x1000 + t₂ * 0x40 + t₃)).bind fun c =>
          (decode? bs).map (c :: ·) := by
  have one : ¬ b.toNat < 0x80 := by omega
  have two : ¬ b.toNat < 0xE0 := by omega
  have three : ¬ b.toNat < 0xF0 := by omega
  rw [decode?.eq_def]
  simp only [one, two, three, if_false, h, hlt, and_false, and_self, if_true, Option.bind_eq_bind]

end Leads

lemma decode?_encodeChar (c : Char) (bs : Bytes) :
    decode? (encodeChar c ++ bs) = (decode? bs).map (c :: ·) := by
  have hlt := toNat_lt c
  by_cases one : c.toNat < 0x80
  · have hlead : (UInt8.ofNat c.toNat).toNat = c.toNat := toNat_ofNat (by omega)
    rw [encodeChar_one one, List.singleton_append, decode?_one (by omega), hlead, Char.ofNat_toNat]
  rw [Nat.not_lt] at one
  by_cases two : c.toNat < 0x800
  · have hlead : (UInt8.ofNat (0xC0 + c.toNat / 0x40)).toNat = 0xC0 + c.toNat / 0x40 :=
      toNat_ofNat (by omega)
    have hvalue : (0xC0 + c.toNat / 0x40 - 0xC0) * 0x40 + c.toNat % 0x40 = c.toNat := by omega
    rw [encodeChar_two one two, List.cons_append, List.singleton_append,
      decode?_two (by omega) (by omega), tail?_tail, Option.bind_some, hlead, hvalue,
      scalar?_toNat one, Option.bind_some]
  rw [Nat.not_lt] at two
  by_cases three : c.toNat < 0x10000
  · have hlead : (UInt8.ofNat (0xE0 + c.toNat / 0x1000)).toNat = 0xE0 + c.toNat / 0x1000 :=
      toNat_ofNat (by omega)
    have hvalue : (0xE0 + c.toNat / 0x1000 - 0xE0) * 0x1000 + c.toNat / 0x40 % 0x40 * 0x40 +
        c.toNat % 0x40 = c.toNat := by omega
    rw [encodeChar_three two three, List.cons_append, List.cons_append, List.singleton_append,
      decode?_three (by omega) (by omega), tail?_tail, tail?_tail, Option.bind_some,
      Option.bind_some, hlead, hvalue, scalar?_toNat two, Option.bind_some]
  · rw [Nat.not_lt] at three
    have hlead : (UInt8.ofNat (0xF0 + c.toNat / 0x40000)).toNat = 0xF0 + c.toNat / 0x40000 :=
      toNat_ofNat (by omega)
    have hvalue : (0xF0 + c.toNat / 0x40000 - 0xF0) * 0x40000 + c.toNat / 0x1000 % 0x40 * 0x1000 +
        c.toNat / 0x40 % 0x40 * 0x40 + c.toNat % 0x40 = c.toNat := by omega
    rw [encodeChar_four three, List.cons_append, List.cons_append, List.cons_append,
      List.singleton_append, decode?_four (by omega) (by omega), tail?_tail, tail?_tail, tail?_tail,
      Option.bind_some, Option.bind_some, Option.bind_some, hlead, hvalue, scalar?_toNat three,
      Option.bind_some]

lemma decode?_encode (cs : List Char) : decode? (encode cs) = some cs := by
  induction cs with
  | nil => rfl
  | cons c cs ih => rw [encode_cons, decode?_encodeChar, ih, Option.map_some]

lemma decode?_cons {b : UInt8} {bs : Bytes} {cs : List Char} (h : decode? (b :: bs) = some cs) :
    ∃ c rest ds, cs = c :: ds ∧ b :: bs = encodeChar c ++ rest ∧ decode? rest = some ds := by
  have hb := b.toNat_lt
  rw [decode?.eq_def] at h
  simp only [Option.bind_eq_bind] at h
  split at h
  · next one =>
    obtain ⟨ds, hds, rfl⟩ := Option.map_eq_some_iff.mp h
    have hc : (Char.ofNat b.toNat).toNat = b.toNat := by
      rw [Char.ofNat, dif_pos (Or.inl (by omega))]
      rfl
    refine ⟨_, bs, ds, rfl, ?_, hds⟩
    rw [encodeChar_one (by omega), hc, UInt8.ofNat_toNat, List.singleton_append]
  split at h
  case h_2 => cases h
  next b₁ bs₁ =>
  split at h
  · obtain ⟨t₁, h₁, h⟩ := Option.bind_eq_some_iff.mp h
    obtain ⟨c, hc, h⟩ := Option.bind_eq_some_iff.mp h
    obtain ⟨ds, hds, rfl⟩ := Option.map_eq_some_iff.mp h
    obtain ⟨hn, hleast⟩ := toNat_of_scalar? hc
    obtain ⟨hlt₁, htail₁⟩ := tail_of_tail? h₁
    refine ⟨c, bs₁, ds, rfl, ?_, hds⟩
    rw [encodeChar_two (by omega) (by omega), htail₁ _ (by omega), ofNat_eq (b := b) (by omega)]
    rfl
  split at h
  case h_2 => cases h
  next b₂ bs₂ =>
  split at h
  · obtain ⟨t₁, h₁, h⟩ := Option.bind_eq_some_iff.mp h
    obtain ⟨t₂, h₂, h⟩ := Option.bind_eq_some_iff.mp h
    obtain ⟨c, hc, h⟩ := Option.bind_eq_some_iff.mp h
    obtain ⟨ds, hds, rfl⟩ := Option.map_eq_some_iff.mp h
    obtain ⟨hn, hleast⟩ := toNat_of_scalar? hc
    obtain ⟨hlt₁, htail₁⟩ := tail_of_tail? h₁
    obtain ⟨hlt₂, htail₂⟩ := tail_of_tail? h₂
    refine ⟨c, bs₂, ds, rfl, ?_, hds⟩
    rw [encodeChar_three (by omega) (by omega), htail₁ _ (by omega), htail₂ _ (by omega),
      ofNat_eq (b := b) (by omega)]
    rfl
  split at h
  case h_2 => cases h
  next b₃ bs₃ =>
  split at h
  · obtain ⟨t₁, h₁, h⟩ := Option.bind_eq_some_iff.mp h
    obtain ⟨t₂, h₂, h⟩ := Option.bind_eq_some_iff.mp h
    obtain ⟨t₃, h₃, h⟩ := Option.bind_eq_some_iff.mp h
    obtain ⟨c, hc, h⟩ := Option.bind_eq_some_iff.mp h
    obtain ⟨ds, hds, rfl⟩ := Option.map_eq_some_iff.mp h
    obtain ⟨hn, hleast⟩ := toNat_of_scalar? hc
    obtain ⟨hlt₁, htail₁⟩ := tail_of_tail? h₁
    obtain ⟨hlt₂, htail₂⟩ := tail_of_tail? h₂
    obtain ⟨hlt₃, htail₃⟩ := tail_of_tail? h₃
    refine ⟨c, bs₃, ds, rfl, ?_, hds⟩
    rw [encodeChar_four (by omega), htail₁ _ (by omega), htail₂ _ (by omega), htail₃ _ (by omega),
      ofNat_eq (b := b) (by omega)]
    rfl
  · cases h

lemma encode_of_decode? {bs : Bytes} {cs : List Char} (h : decode? bs = some cs) :
    encode cs = bs := by
  induction cs generalizing bs with
  | nil =>
    cases bs with
    | nil => rfl
    | cons b bs =>
      obtain ⟨c, rest, ds, hcs, -, -⟩ := decode?_cons h
      cases hcs
  | cons c cs ih =>
    cases bs with
    | nil => cases h
    | cons b bs =>
      obtain ⟨c', rest, ds, hcs, hbs, hrest⟩ := decode?_cons h
      cases hcs
      rw [encode_cons, ih hrest, hbs]

theorem decode?_eq_some_iff {bs : Bytes} {cs : List Char} :
    decode? bs = some cs ↔ encode cs = bs := by
  constructor
  · exact encode_of_decode?
  · rintro rfl
    exact decode?_encode cs

lemma high_ofNat {n : Nat} (h : 0x80 ≤ n) (hlt : n < 0x100) : 0x80 ≤ (UInt8.ofNat n).toNat := by
  rw [toNat_ofNat hlt]
  exact h

lemma high_tail (n : Nat) : 0x80 ≤ (tail n).toNat := high_ofNat (by omega) (by omega)

lemma high_of_mem_encodeChar {c : Char} (h : 0x80 ≤ c.toNat) :
    ∀ b ∈ encodeChar c, 0x80 ≤ b.toNat := by
  have hlt := toNat_lt c
  by_cases two : c.toNat < 0x800
  · rw [encodeChar_two h two]
    simp only [List.forall_mem_cons, high_tail, List.not_mem_nil, false_imp_iff, implies_true,
      and_true]
    exact high_ofNat (by omega) (by omega)
  rw [Nat.not_lt] at two
  by_cases three : c.toNat < 0x10000
  · rw [encodeChar_three two three]
    simp only [List.forall_mem_cons, high_tail, List.not_mem_nil, false_imp_iff, implies_true,
      and_true]
    exact high_ofNat (by omega) (by omega)
  · rw [encodeChar_four (by omega)]
    simp only [List.forall_mem_cons, high_tail, List.not_mem_nil, false_imp_iff, implies_true,
      and_true]
    exact high_ofNat (by omega) (by omega)

lemma mem_encodeChar_ascii {c : Char} (h : c.toNat < 0x80) (d : Char) :
    UInt8.ofNat c.toNat ∈ encodeChar d ↔ c = d := by
  have hc : (UInt8.ofNat c.toNat).toNat = c.toNat := toNat_ofNat (by omega)
  by_cases one : d.toNat < 0x80
  · rw [encodeChar_one one, List.mem_singleton]
    constructor
    · intro heq
      have hn := congrArg UInt8.toNat heq
      rw [hc, toNat_ofNat (by omega)] at hn
      rw [← Char.ofNat_toNat c, hn, Char.ofNat_toNat]
    · rintro rfl
      rfl
  · constructor
    · intro hmem
      have := high_of_mem_encodeChar (Nat.not_lt.1 one) _ hmem
      omega
    · rintro rfl
      exact absurd h one

lemma mem_encode_ascii {c : Char} (h : c.toNat < 0x80) (cs : List Char) :
    UInt8.ofNat c.toNat ∈ encode cs ↔ c ∈ cs := by
  induction cs with
  | nil => simp
  | cons d cs ih => rw [encode_cons, List.mem_append, mem_encodeChar_ascii h, ih, List.mem_cons]

end LanguageHost.Utf8
