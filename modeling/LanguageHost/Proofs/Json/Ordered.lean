import LanguageHost.Json.Basic
import Mathlib.Data.List.Induction
import Mathlib.Data.String.Basic

namespace LanguageHost

namespace Members

variable {α β : Type} {key k : String} {value v : α} {ms : List (String × α)} {e : String × α}

def Sorted (ms : List (String × α)) : Prop := ms.Pairwise fun a b => a.1 < b.1

instance : Decidable (Sorted ms) :=
  inferInstanceAs (Decidable (ms.Pairwise fun a b => a.1 < b.1))

lemma Sorted.nil : Sorted ([] : List (String × α)) := List.Pairwise.nil

lemma mem_insert (h : e ∈ insert key value ms) : e = (key, value) ∨ e ∈ ms := by
  induction ms with
  | nil => exact .inl (by simpa [insert] using h)
  | cons m rest ih =>
    rw [insert] at h
    split_ifs at h with hlt heq
    · exact List.mem_cons.mp h
    · exact (List.mem_cons.mp h).imp_right (List.mem_cons_of_mem m)
    · rcases List.mem_cons.mp h with rfl | h
      · exact .inr List.mem_cons_self
      · exact (ih h).imp_right (List.mem_cons_of_mem m)

lemma Sorted.insert (h : Sorted ms) : Sorted (insert key value ms) := by
  induction ms with
  | nil => exact List.pairwise_singleton ..
  | cons m rest ih =>
    have hm : ∀ e ∈ rest, m.1 < e.1 := fun e he => List.rel_of_pairwise_cons h he
    rw [Sorted, Members.insert]
    split_ifs with hlt heq
    · exact h.cons fun e he => (List.mem_cons.mp he).elim (fun he => he ▸ hlt)
        fun he => hlt.trans (hm e he)
    · exact h.of_cons.cons fun e he => heq ▸ hm e he
    · refine (ih h.of_cons).cons fun e he => ?_
      rcases mem_insert he with rfl | he
      · exact lt_of_le_of_ne (not_lt.mp hlt) (Ne.symm heq)
      · exact hm e he

lemma Sorted.filter (h : Sorted ms) (p : String × α → Bool) : Sorted (ms.filter p) :=
  List.Pairwise.filter p h

lemma Sorted.map_snd (h : Sorted ms) (f : α → β) : Sorted (ms.map fun e => (e.1, f e.2)) :=
  List.pairwise_map.mpr h

lemma mem_of_find? (h : find? key ms = some value) : (key, value) ∈ ms := by
  induction ms with
  | nil => simp [find?] at h
  | cons m rest ih =>
    rw [find?] at h
    split_ifs at h with hk
    · obtain rfl : m.2 = value := Option.some.inj h
      exact hk ▸ List.mem_cons_self
    · exact List.mem_cons_of_mem m (ih h)

lemma find?_eq_none (h : ∀ e ∈ ms, e.1 ≠ key) : find? key ms = none := by
  cases hf : find? key ms with
  | none => rfl
  | some value => exact absurd rfl (h _ (mem_of_find? hf))

lemma ofList_concat (entries : List (String × α)) (e : String × α) :
    ofList (entries ++ [e]) = insert e.1 e.2 (ofList entries) := by
  simp [ofList]

lemma Sorted.ofList (entries : List (String × α)) : Sorted (ofList entries) := by
  induction entries using List.reverseRecOn with
  | nil => exact .nil
  | append_singleton entries e ih =>
    rw [ofList_concat]
    exact ih.insert

lemma find?_ofList (entries : List (String × α)) (key : String) :
    find? key (ofList entries) = (entries.reverse.find? (·.1 = key)).map Prod.snd := by
  induction entries using List.reverseRecOn with
  | nil => rfl
  | append_singleton entries e ih =>
    rw [ofList_concat, find?_insert, ih, List.reverse_append, List.reverse_singleton,
      List.singleton_append, List.find?_cons]
    by_cases he : e.1 = key <;> simp [he]

lemma Sorted.find?_rest (h : Sorted ((key, value) :: ms)) : find? key ms = none :=
  find?_eq_none fun _ he => ne_of_gt (List.rel_of_pairwise_cons h he)

lemma Sorted.erase_eq (h : Sorted ms) (key : String) :
    erase key ms = ms.filter fun e => e.1 ≠ key := by
  induction ms with
  | nil => rfl
  | cons m rest ih =>
    rw [erase]
    split_ifs with hk
    · have hrest : rest.filter (fun e => e.1 ≠ key) = rest := List.filter_eq_self.mpr fun e he => by
        simpa using ne_of_gt (hk ▸ List.rel_of_pairwise_cons h he)
      rw [List.filter_cons_of_neg (by simpa using hk), hrest]
    · rw [List.filter_cons_of_pos (by simpa using hk), ih h.of_cons]

end Members

namespace Json

inductive Ordered : Json → Prop
  | table {ms : List (String × Json)} (sorted : Members.Sorted ms)
      (values : ∀ e ∈ ms, Ordered e.2) : Ordered (.obj ms)
  | leaf {j : Json} (hj : j.isObject = false) : Ordered j

variable {ms : List (String × Json)} {key : String} {j : Json}

lemma get?_object (entries : List (String × Json)) (key : String) :
    (object entries).get? key = (entries.reverse.find? (·.1 = key)).map Prod.snd :=
  Members.find?_ofList entries key

lemma Ordered.sorted (h : (obj ms).Ordered) : Members.Sorted ms := by
  cases h with
  | table sorted _ => exact sorted
  | leaf hj => exact absurd hj (by simp [isObject, asObject?])

lemma Ordered.values (h : (obj ms).Ordered) : ∀ e ∈ ms, e.2.Ordered := by
  cases h with
  | table _ values => exact values
  | leaf hj => exact absurd hj (by simp [isObject, asObject?])

lemma Ordered.find? (h : (obj ms).Ordered) (hf : Members.find? key ms = some j) : j.Ordered :=
  h.values _ (Members.mem_of_find? hf)

lemma Ordered.insert (h : (obj ms).Ordered) (hj : j.Ordered) :
    (obj (Members.insert key j ms)).Ordered :=
  .table h.sorted.insert fun e he => (Members.mem_insert he).elim (fun he => he ▸ hj) (h.values e)

lemma Ordered.empty : (obj []).Ordered := .table .nil (by simp)

end Json

end LanguageHost
