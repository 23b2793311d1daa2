import LanguageHost.Proofs.Settings.Overlay

namespace LanguageHost

namespace Members

variable {α : Type} {key name : String} {v w value : α} {ms front back : List (String × α)}

lemma find?_of_filter (h : find? key (ms.filter fun e => e.1 ≠ name) = some w) :
    find? key ms = some w := by
  induction ms with
  | nil => exact h
  | cons e rest ih =>
    by_cases he : e.1 = name
    · rw [List.filter_cons_of_neg (by simpa using he)] at h
      -- What is found behind the members that were dropped has another name.
      have hname : key ≠ name := by
        simpa using (List.mem_filter.mp (mem_of_find? h)).2
      rw [find?, if_neg fun hk : e.1 = key => hname (hk.symm.trans he)]
      exact ih h
    · rw [List.filter_cons_of_pos (by simpa using he), find?] at h
      rw [find?]
      split_ifs at h ⊢ with hk
      · exact h
      · exact ih h

lemma find?_changed (h : find? key (front ++ (name, w) :: back) = some value) :
    find? key (front ++ (name, v) :: back) = some value ∨
      find? key (front ++ (name, v) :: back) = some v ∧ value = w := by
  induction front with
  | nil =>
    simp only [List.nil_append, find?] at h ⊢
    split_ifs at h ⊢
    · exact .inr ⟨rfl, (Option.some.inj h).symm⟩
    · exact .inl h
  | cons e rest ih =>
    simp only [List.cons_append, find?] at h ⊢
    split_ifs at h ⊢
    · exact .inl h
    · exact ih h

end Members

namespace Json

variable {j k v w : Json} {key : String} {ms : List (String × Json)} {items : List Json}

lemma at?_single : j.at? [key] = j.get? key := by
  rw [at?_cons]
  cases j.get? key <;> rfl

lemma at?_append (p q : List String) : j.at? (p ++ q) = (j.at? p).bind (at? q) := by
  induction p generalizing j with
  | nil => rfl
  | cons key p ih =>
    rw [List.cons_append, at?_cons, at?_cons, Option.bind_assoc]
    exact Option.bind_congr fun v _ => ih

inductive Deletes : Json → Json → Prop
  | here (key : String) (ms : List (String × Json)) :
      Deletes (.obj ms) (.obj (ms.filter fun e => e.1 ≠ key))
  | member (front back : List (String × Json)) (key : String) {j k : Json} (h : Deletes j k) :
      Deletes (.obj (front ++ (key, j) :: back)) (.obj (front ++ (key, k) :: back))
  | item (front back : List Json) {j k : Json} (h : Deletes j k) :
      Deletes (.arr (front ++ j :: back)) (.arr (front ++ k :: back))

lemma Deletes.asString?_eq (h : j.Deletes k) : j.asString? = k.asString? := by
  cases h <;> rfl

lemma Deletes.of_obj (h : j.Deletes (.obj ms)) : ∃ ns, j = .obj ns := by
  cases h with
  | here => exact ⟨_, rfl⟩
  | member => exact ⟨_, rfl⟩

lemma Deletes.of_arr (h : j.Deletes (.arr items)) :
    ∃ js, j = .arr js ∧ js.filterMap asString? = items.filterMap asString? := by
  cases h with
  | item front back h =>
    exact ⟨_, rfl, by simp only [List.filterMap_append, List.filterMap_cons, h.asString?_eq]⟩

lemma Deletes.not_bool {b : Bool} (h : j.Deletes (.bool b)) : False := nomatch h

lemma Deletes.not_int {i : Int} (h : j.Deletes (.int i)) : False := nomatch h

lemma Deletes.get? (h : j.Deletes k) (hk : k.get? key = some w) :
    ∃ v, j.get? key = some v ∧ (v = w ∨ v.Deletes w) := by
  cases h with
  | here => exact ⟨w, Members.find?_of_filter hk, .inl rfl⟩
  | member front back name h =>
    rcases Members.find?_changed hk with hj | ⟨hj, rfl⟩
    · exact ⟨w, hj, .inl rfl⟩
    · exact ⟨_, hj, .inr h⟩
  | item => cases hk

lemma Deletes.at? {p : List String} (h : j.Deletes k) (hk : k.at? p = some w) :
    ∃ v, j.at? p = some v ∧ (v = w ∨ v.Deletes w) := by
  induction p generalizing j k with
  | nil =>
    obtain rfl := Option.some.inj hk
    exact ⟨j, rfl, .inr h⟩
  | cons key p ih =>
    obtain ⟨k', hk', hk⟩ := Option.bind_eq_some_iff.mp hk
    obtain ⟨j', hj', heq | h'⟩ := h.get? hk'
    · exact ⟨w, by rw [at?_cons, hj', Option.bind_some, heq, hk], .inl rfl⟩
    · obtain ⟨v, hv, hvw⟩ := ih h' hk
      exact ⟨v, by rw [at?_cons, hj', Option.bind_some, hv], hvw⟩

end Json

end LanguageHost
