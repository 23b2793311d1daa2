import LanguageHost.Proofs.Feature.Narrowing
import Mathlib.Data.Nat.Bitwise

/-! The mask of a legend has a bit for each of its first 64 elements. Positions are counted before elements are
left out, so that every element keeps its own bit, and nothing is shifted out of the word. -/

namespace LanguageHost

namespace CapabilitySet

variable {types : List Json} {j : Json} {mask : UInt64} {bit i : Nat}

lemma isStructural_iff : isStructural j = true ↔ ∃ name ∈ structuralTokenTypes, j = .str name := by
  cases j <;> simp [isStructural]

def shiftsFrom (bit : Nat) (types : List Json) : List Nat :=
  (((types.take (64 - bit)).zipIdx bit).filter fun e => isStructural e.1).map Prod.snd

lemma shiftsFrom_full (h : 64 ≤ bit) : shiftsFrom bit types = [] := by
  rw [shiftsFrom, Nat.sub_eq_zero_of_le h]
  rfl

lemma shiftsFrom_cons (h : bit < 64) : shiftsFrom bit (j :: types) =
    if isStructural j then bit :: shiftsFrom (bit + 1) types else shiftsFrom (bit + 1) types := by
  have hroom : 64 - bit = (64 - (bit + 1)) + 1 := by omega
  rw [shiftsFrom, hroom, List.take_succ_cons, List.zipIdx_cons, List.filter_cons]
  split_ifs <;> rfl

lemma mem_shiftsFrom : i ∈ shiftsFrom bit types ↔
    (bit ≤ i ∧ i < 64) ∧ ∃ j, types[i - bit]? = some j ∧ isStructural j = true := by
  simp only [shiftsFrom, List.mem_map, List.mem_filter, Prod.exists, exists_eq_right,
    List.mk_mem_zipIdx_iff_le_and_getElem?_sub, List.getElem?_take, Option.ite_none_right_eq_some]
  constructor
  · rintro ⟨j, ⟨hle, hlt, hj⟩, hs⟩
    exact ⟨⟨hle, by omega⟩, j, hj, hs⟩
  · rintro ⟨⟨hle, hlt⟩, j, hj, hs⟩
    exact ⟨j, ⟨hle, by omega, hj⟩, hs⟩

def setBit (mask : UInt64) (bit : Nat) : UInt64 := mask ||| ((1 : UInt64) <<< UInt64.ofNat bit)

def HasBit (mask : UInt64) (bit : Nat) : Prop := mask.toNat.testBit bit = true

lemma maskFrom_eq : maskFrom bit types mask = (shiftsFrom bit types).foldl setBit mask := by
  induction types generalizing bit mask with
  | nil => simp [maskFrom, shiftsFrom]
  | cons j rest ih =>
    rw [maskFrom]
    split_ifs with hbit hj
    · rw [shiftsFrom_full hbit, List.foldl_nil]
    · rw [shiftsFrom_cons (by omega), if_pos hj, List.foldl_cons, ih, setBit]
    · rw [shiftsFrom_cons (by omega), if_neg hj, ih]

lemma hasBit_setBit (h : bit < 64) : HasBit (setBit mask bit) i ↔ HasBit mask i ∨ i = bit := by
  have hamount : (UInt64.ofNat bit).toNat % 64 = bit := by
    rw [UInt64.toNat_ofNat']
    omega
  have hone : (1 : UInt64).toNat <<< bit % 2 ^ 64 = 2 ^ bit := by
    rw [UInt64.toNat_one, Nat.one_shiftLeft, Nat.mod_eq_of_lt (Nat.pow_lt_pow_right (by decide) h)]
  rw [HasBit, setBit, UInt64.toNat_or, Nat.testBit_or, UInt64.toNat_shiftLeft, hamount, hone,
    Nat.testBit_two_pow, Bool.or_eq_true, decide_eq_true_iff, eq_comm (a := bit), HasBit]

lemma hasBit_foldl_setBit {bits : List Nat} (h : ∀ bit ∈ bits, bit < 64) :
    HasBit (bits.foldl setBit mask) i ↔ HasBit mask i ∨ i ∈ bits := by
  induction bits generalizing mask with
  | nil => simp
  | cons bit bits ih =>
    obtain ⟨hbit, hbits⟩ := List.forall_mem_cons.mp h
    rw [List.foldl_cons, ih hbits, hasBit_setBit hbit, List.mem_cons, or_assoc]

lemma shiftsFrom_lt : ∀ amount ∈ shiftsFrom bit types, amount < 64 :=
  fun _ h => (mem_shiftsFrom.mp h).1.2

lemma structuralMask_eq : structuralMask types = (shiftsFrom 0 types).foldl setBit 0 := maskFrom_eq

lemma hasBit_structuralMask : HasBit (structuralMask types) i ↔
    i < 64 ∧ ∃ name ∈ structuralTokenTypes, types[i]? = some (.str name) := by
  rw [structuralMask_eq, hasBit_foldl_setBit shiftsFrom_lt, mem_shiftsFrom]
  simp [HasBit, isStructural_iff, and_comm]

lemma tokenMask_negotiate (r : Json) (s : ServerSettings) : (negotiate r s).tokenMask =
    match r.at? ["capabilities", "semanticTokensProvider", "legend", "tokenTypes"] with
    | some (.arr types) => structuralMask types
    | _ => 0 := by
  rw [← at?_announced]
  rfl

/-- A bit of the mask is set exactly if it stands below the 64th and the element at its position is the
name of a structural token type. An element that is no name leaves its own bit clear and moves no other one,
equal elements have equal bits, and what comes after the first 64 elements changes nothing. Each bit is set
by one shift, always by less than 64. -/
theorem positions_masked (types : List Json) :
    (∀ i, HasBit (structuralMask types) i ↔
      i < 64 ∧ ∃ name ∈ structuralTokenTypes, types[i]? = some (.str name)) ∧
    (∀ front j back, types = front ++ j :: back → j.asString? = none →
      ¬ HasBit (structuralMask types) front.length ∧
      ∀ i, HasBit (structuralMask types) (front.length + 1 + i) ↔
        front.length + 1 + i < 64 ∧ ∃ name ∈ structuralTokenTypes, back[i]? = some (.str name)) ∧
    (∀ i k, i < 64 → k < 64 → types[i]? = types[k]? →
      (HasBit (structuralMask types) i ↔ HasBit (structuralMask types) k)) ∧
    (∀ others, others.take 64 = types.take 64 → structuralMask others = structuralMask types) ∧
    (structuralMask types = (shiftsFrom 0 types).foldl setBit 0 ∧
      ∀ amount ∈ shiftsFrom 0 types, amount < 64) ∧
    ∀ r s, r.at? ["capabilities", "semanticTokensProvider", "legend", "tokenTypes"] = some (.arr types) →
      (negotiate r s).tokenMask = structuralMask types := by
  refine ⟨fun i => hasBit_structuralMask, ?_, fun i k hi hk h => ?_, fun others h => ?_,
    ⟨structuralMask_eq, shiftsFrom_lt⟩, fun r s h => by rw [tokenMask_negotiate, h]⟩
  · rintro front j back rfl hj
    have hat : (front ++ j :: back)[front.length]? = some j := by simp
    have hbehind (i : Nat) : (front ++ j :: back)[front.length + 1 + i]? = back[i]? := by
      rw [List.getElem?_append_right (by omega)]
      simp [show front.length + 1 + i - front.length = i + 1 by omega]
    refine ⟨fun hbit => ?_, fun i => by rw [hasBit_structuralMask, hbehind]⟩
    obtain ⟨-, name, -, hname⟩ := hasBit_structuralMask.mp hbit
    obtain rfl := Option.some.inj (hat.symm.trans hname)
    cases hj
  · rw [hasBit_structuralMask, hasBit_structuralMask, h]
    simp [hi, hk]
  · rw [structuralMask_eq, structuralMask_eq, shiftsFrom, shiftsFrom, h]

end CapabilitySet

namespace Sample

def longLegend : List Json := .int 3 :: List.replicate 70 (.str "struct")

def legendAnswer : Json :=
  .obj [("capabilities", .obj [("semanticTokensProvider",
    .obj [("legend", .obj [("tokenTypes", .arr longLegend)])])])]

end Sample

theorem CapabilitySet.long_legend_masked :
    ¬ HasBit (structuralMask Sample.longLegend) 0 ∧ HasBit (structuralMask Sample.longLegend) 63 ∧
      ¬ HasBit (structuralMask Sample.longLegend) 64 ∧
      (negotiate Sample.legendAnswer {}).tokenMask = 0xfffffffffffffffe := by
  obtain ⟨hbits, hplaces, -, hrest, -, hmask⟩ := positions_masked Sample.longLegend
  obtain ⟨hnumber, hnames⟩ := hplaces [] (.int 3) (List.replicate 70 (.str "struct")) rfl rfl
  refine ⟨hnumber, (hnames 62).mpr ⟨by decide, "struct", by decide, rfl⟩,
    fun h => absurd ((hbits 64).mp h).1 (by decide), ?_⟩
  rw [hmask Sample.legendAnswer {} rfl, ← hrest (.int 3 :: List.replicate 63 (.str "struct")) rfl]
  decide +kernel

end LanguageHost
