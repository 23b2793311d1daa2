import Mathlib.Data.List.Basic
import Mathlib.Data.List.Perm.Basic
import Mathlib.Tactic.Lemma
import LanguageHost.Session.Slots

namespace LanguageHost

def Slot.connection? (slot : Slot) : Option Nat := slot.instance?.bind (·.connection)

namespace Slots

variable {s : Slots} {l k : LanguageId} {slot : Slot}

def languages (s : Slots) : List LanguageId := s.map Prod.fst

def pick {α : Type} (f : Slot → Option α) (s : Slots) : List α := s.filterMap (f ·.2)

def live (s : Slots) : List Nat := s.pick Slot.connection?

lemma instances_connection (s : Slots) : s.instances.filterMap (·.connection) = s.live := by
  simp only [instances, live, pick, List.filterMap_filterMap, Slot.connection?]

lemma activeLanguages_sublist (s : Slots) : s.activeLanguages.Sublist s.languages := by
  induction s with
  | nil => exact .slnil
  | cons e rest ih =>
    cases he : e.2.instance? with
    | none =>
      rw [activeLanguages, List.filterMap_cons_none (by simp [he])]
      exact ih.cons e.1
    | some i =>
      rw [activeLanguages, List.filterMap_cons_some (b := e.1) (by simp [he])]
      exact ih.cons_cons e.1

lemma mem_of_get? (h : s.get? l = some slot) : (l, slot) ∈ s := by
  obtain ⟨e, he, rfl⟩ := Option.map_eq_some_iff.mp h
  have hl : e.1 = l := by simpa using List.find?_some he
  exact hl ▸ List.mem_of_find?_eq_some he

lemma get?_of_mem (hn : s.languages.Nodup) (h : (l, slot) ∈ s) : s.get? l = some slot := by
  induction s with
  | nil => simp at h
  | cons e rest ih =>
    simp only [languages, List.map_cons, List.nodup_cons] at hn
    rcases List.mem_cons.mp h with rfl | hr
    · simp [get?]
    · have he : e.1 ≠ l := fun he => hn.1 (List.mem_map.mpr ⟨(l, slot), hr, he.symm⟩)
      have := ih hn.2 hr
      simp only [get?] at this ⊢
      rwa [List.find?_cons_of_neg (by simpa using he)]

lemma mem_erase {e : LanguageId × Slot} : e ∈ s.erase l ↔ e ∈ s ∧ e.1 ≠ l := by
  simp [erase]

lemma place_perm (l : LanguageId) (slot : Slot) (s : Slots) :
    (place l slot s).Perm ((l, slot) :: s) := by
  induction s with
  | nil => exact .refl _
  | cons e rest ih =>
    simp only [place]
    split
    · exact .refl _
    · exact (ih.cons e).trans (.swap _ _ _)

lemma set_perm (s : Slots) (l : LanguageId) (slot : Slot) :
    (s.set l slot).Perm ((l, slot) :: s.erase l) := place_perm l slot _

lemma languages_erase_nodup (hn : s.languages.Nodup) (l : LanguageId) :
    (s.erase l).languages.Nodup :=
  (List.Sublist.map Prod.fst (List.filter_sublist)).nodup hn

lemma languages_set_nodup (hn : s.languages.Nodup) (l : LanguageId) (slot : Slot) :
    (s.set l slot).languages.Nodup := by
  have hp := (set_perm s l slot).map Prod.fst
  rw [languages, hp.nodup_iff, List.map_cons, List.nodup_cons]
  refine ⟨fun hm => ?_, languages_erase_nodup hn l⟩
  obtain ⟨e, he, hl⟩ := List.mem_map.mp hm
  exact (mem_erase.mp he).2 hl

lemma erase_set (s : Slots) (l : LanguageId) (slot : Slot) : (s.set l slot).erase l = s.erase l := by
  have hplace (t : Slots) : (place l slot t).erase l = t.erase l := by
    induction t with
    | nil => simp [place, erase]
    | cons e rest ih =>
      simp only [place]
      split
      · simp [erase]
      · simp only [erase, List.filter_cons] at ih ⊢
        rw [ih]
  rw [set, hplace]
  simp [erase]

lemma set_set (s : Slots) (l : LanguageId) (slot new : Slot) :
    (s.set l slot).set l new = s.set l new := by
  rw [set, erase_set, set]

lemma set_erase (s : Slots) (l : LanguageId) (slot : Slot) : (s.erase l).set l slot = s.set l slot := by
  simp [set, erase]

lemma perm_cons_erase (hn : s.languages.Nodup) (h : s.get? l = some slot) :
    s.Perm ((l, slot) :: s.erase l) := by
  induction s with
  | nil => simp [get?] at h
  | cons e rest ih =>
    simp only [languages, List.map_cons, List.nodup_cons] at hn
    by_cases he : e.1 = l
    · have hrest : erase rest l = rest := by
        rw [erase, List.filter_eq_self]
        intro x hx
        simpa using fun hxl => hn.1 (List.mem_map.mpr ⟨x, hx, hxl.trans he.symm⟩)
      have heq : e = (l, slot) := by
        simp only [get?, List.find?_cons, he, decide_true, Option.map_some, Option.some.injEq] at h
        exact Prod.ext he h
      subst heq
      simp only [erase, List.filter_cons, ne_eq, not_true_eq_false, decide_false,
        Bool.false_eq_true, if_false] at hrest ⊢
      rw [hrest]
    · have hr : get? rest l = some slot := by
        simpa [get?, List.find?_cons, he] using h
      have hf : erase (e :: rest) l = e :: erase rest l := by simp [erase, he]
      rw [hf]
      exact ((ih hn.2 hr).cons e).trans (.swap _ _ _)

section Pick

variable {α : Type} {f : Slot → Option α}

lemma pick_cons (e : LanguageId × Slot) (s : Slots) :
    pick f (e :: s) = (f e.2).toList ++ s.pick f := by
  simp only [pick, List.filterMap_cons]
  cases f e.2 <;> rfl

lemma pick_set (s : Slots) (l : LanguageId) (slot : Slot) :
    ((s.set l slot).pick f).Perm ((f slot).toList ++ (s.erase l).pick f) := by
  rw [← pick_cons (l, slot)]
  exact (set_perm s l slot).filterMap _

lemma pick_erase (hn : s.languages.Nodup) (h : s.get? l = some slot) :
    (s.pick f).Perm ((f slot).toList ++ (s.erase l).pick f) := by
  rw [← pick_cons (l, slot)]
  exact (perm_cons_erase hn h).filterMap _

end Pick

lemma live_set (s : Slots) (l : LanguageId) (slot : Slot) :
    (s.set l slot).live.Perm (slot.connection?.toList ++ (s.erase l).live) := pick_set s l slot

lemma live_erase (hn : s.languages.Nodup) (h : s.get? l = some slot) :
    s.live.Perm (slot.connection?.toList ++ (s.erase l).live) := pick_erase hn h

lemma live_set_same (hn : s.languages.Nodup) {old : Slot} (h : s.get? l = some old)
    (hc : slot.connection? = old.connection?) : (s.set l slot).live.Perm s.live := by
  refine (live_set s l slot).trans ?_
  rw [hc]
  exact (live_erase hn h).symm

lemma mem_live {g : Nat} (hn : s.languages.Nodup) :
    g ∈ s.live ↔ ∃ l i, s.get? l = some (.active i) ∧ i.connection = some g := by
  simp only [live, pick, List.mem_filterMap]
  constructor
  · rintro ⟨⟨l, slot⟩, hm, hc⟩
    cases slot with
    | active i => exact ⟨l, i, get?_of_mem hn hm, hc⟩
    | _ => simp [Slot.connection?, Slot.instance?] at hc
  · rintro ⟨l, i, hg, hc⟩
    exact ⟨(l, .active i), mem_of_get? hg, hc⟩

end Slots

end LanguageHost
