import LanguageHost.Proofs.Json.Ordered
import LanguageHost.Settings.Layer

/-! What becomes of the value at the end of a path when tables are laid over each other: the last
table that has a say in the path decides. -/

namespace LanguageHost

namespace Json

variable {key : String} {p : List String} {j v m : Json} {ms : List (String × Json)}

def Blocks (p : List String) (j : Json) : Prop :=
  ∃ q v, q <+: p ∧ q ≠ p ∧ j.at? q = some v ∧ v.isObject = false

/-- A value has a say in a path: it has a value at its end, or blocks it. -/
def Touches (p : List String) (j : Json) : Prop := (∃ v, j.at? p = some v) ∨ j.Blocks p

/-- What `m` has at the end of a path is what `j` demands there. -/
structure Decides (p : List String) (j m : Json) : Prop where
  value : ∀ v, j.at? p = some v → v.isObject = false → m.at? p = some v
  table : ∀ v, j.at? p = some v → v.isObject = true → ∃ w, m.at? p = some w ∧ w.isObject = true
  blocked : j.Blocks p → m.at? p = none

@[simp] lemma isObject_obj : (obj ms).isObject = true := rfl

lemma exists_obj (h : j.isObject = true) : ∃ ms, j = obj ms := by
  cases j with
  | obj ms => exact ⟨ms, rfl⟩
  | _ => cases h

@[simp] lemma get?_obj : (obj ms).get? key = Members.find? key ms := rfl

lemma get?_leaf (h : j.isObject = false) : j.get? key = none := by
  cases j with
  | obj ms => cases h
  | _ => rfl

lemma at?_cons : j.at? (key :: p) = (j.get? key).bind (at? p) := rfl

lemma not_blocks_nil : ¬ j.Blocks [] := by
  rintro ⟨q, v, hq, hne, -⟩
  exact hne (List.prefix_nil.mp hq)

lemma blocks_cons : j.Blocks (key :: p) ↔
    j.isObject = false ∨ ∃ v, j.get? key = some v ∧ v.Blocks p := by
  constructor
  · rintro ⟨q, v, hq, hne, hat, hv⟩
    rcases List.prefix_cons_iff.mp hq with rfl | ⟨q, rfl, hrest⟩
    · exact .inl (Option.some.inj hat ▸ hv)
    · obtain ⟨w, hw, hat⟩ := Option.bind_eq_some_iff.mp hat
      exact .inr ⟨w, hw, q, v, hrest, fun h => hne (h ▸ rfl), hat, hv⟩
  · rintro (hj | ⟨w, hw, q, v, hq, hne, hat, hv⟩)
    · exact ⟨[], j, List.nil_prefix, by simp, rfl, hj⟩
    · exact ⟨key :: q, v, List.cons_prefix_cons.mpr ⟨rfl, hq⟩, by simpa using hne,
        by rw [at?_cons, hw, Option.bind_some, hat], hv⟩

lemma touches_nil : j.Touches [] := .inl ⟨j, rfl⟩

lemma touches_leaf (h : j.isObject = false) : j.Touches (key :: p) :=
  .inr (blocks_cons.mpr (.inl h))

lemma touches_obj :
    (obj ms).Touches (key :: p) ↔ ∃ v, Members.find? key ms = some v ∧ v.Touches p := by
  cases hf : Members.find? key ms <;> simp [Touches, at?_cons, blocks_cons, hf]

lemma Decides.of_at? {m' : Json} (h : j.Decides p m) (hm : m'.at? p = m.at? p) : j.Decides p m' :=
  ⟨fun v => hm ▸ h.value v, fun v => hm ▸ h.table v, fun hb => hm ▸ h.blocked hb⟩

lemma Decides.member {w : Json} (h : v.Decides p w) (hj : j.get? key = some v)
    (hm : m.get? key = some w) : j.Decides (key :: p) m := by
  have hobj : j.isObject ≠ false := fun hobj => by simp [get?_leaf hobj] at hj
  exact ⟨by simpa [at?_cons, hj, hm] using h.value, by simpa [at?_cons, hj, hm] using h.table,
    by simpa [at?_cons, blocks_cons, hj, hm, hobj] using h.blocked⟩

end Json

namespace SettingsTable

variable {old : Option Json} {o t base : SettingsTable} {ts : List SettingsTable} {k : String}
  {p : List String} {j v : Json}

lemma overlay_leaf (h : j.isObject = false) : overlay old j = j := by
  cases j with
  | obj ms => cases h
  | _ => rfl

lemma overlay_none : overlay none j = j := by
  cases j <;> rfl

lemma overlay_onto_leaf (h : v.isObject = false) : overlay (some v) j = j := by
  cases v with
  | obj ms => cases h
  | _ => cases j <;> rfl

lemma overlay_isObject : (overlay old j).isObject = j.isObject := by
  rcases old with _ | v
  · rw [overlay_none]
  · cases v with
    | obj ms => cases j <;> rfl
    | _ => rw [overlay_onto_leaf rfl]

lemma find?_merge (ht : Members.Sorted t) : Members.find? k (merge o t) =
    match Members.find? k t with
    | some j => some (overlay (Members.find? k o) j)
    | none => Members.find? k o := by
  induction t generalizing o with
  | nil => rfl
  | cons e rest ih =>
    obtain ⟨key, j⟩ := e
    rw [merge, ih ht.of_cons, Members.find?, Members.find?_insert]
    by_cases hk : key = k
    · subst hk
      simp [ht.find?_rest]
    · simp [hk]

lemma get?_overlay (ht : Members.Sorted t) : (overlay old (.obj t)).get? k =
    match Members.find? k t with
    | some j => some (overlay (old.bind (Json.get? k)) j)
    | none => old.bind (Json.get? k) := by
  rcases old with _ | v
  · rw [overlay_none, Json.get?_obj]
    cases Members.find? k t <;> simp [overlay_none]
  · rcases hv : v.isObject with _ | _
    · rw [overlay_onto_leaf hv, Json.get?_obj, Option.bind_some, Json.get?_leaf hv]
      cases Members.find? k t <;> simp [overlay_none]
    · obtain ⟨o, rfl⟩ := Json.exists_obj hv
      exact find?_merge ht

lemma at?_overlay_other (hj : j.Ordered) (h : ¬ j.Touches p) :
    (overlay old j).at? p = old.bind (Json.at? p) := by
  -- Further down the path the old value is the member of the one before, if there is any.
  induction p generalizing old j with
  | nil => exact absurd Json.touches_nil h
  | cons key p ih =>
    cases hj with
    | leaf hleaf => exact absurd (Json.touches_leaf hleaf) h
    | @table ms sorted values =>
      have hbind :
          old.bind (Json.at? (key :: p)) = (old.bind (Json.get? key)).bind (Json.at? p) := by
        cases old <;> rfl
      rw [Json.at?_cons, get?_overlay sorted, hbind]
      cases hf : Members.find? key ms with
      | none => rfl
      | some v =>
        have hv : ¬ v.Touches p := fun hv => h (Json.touches_obj.mpr ⟨v, hf, hv⟩)
        exact ih (values _ (Members.mem_of_find? hf)) hv

lemma decides_overlay (hj : j.Ordered) (h : j.Touches p) : j.Decides p (overlay old j) := by
  induction p generalizing old j with
  | nil =>
    refine ⟨?_, ?_, fun hb => absurd hb Json.not_blocks_nil⟩
    · rintro v hv hleaf
      obtain rfl := Option.some.inj hv
      rw [overlay_leaf hleaf, hv]
    · rintro v hv hobj
      obtain rfl := Option.some.inj hv
      exact ⟨_, rfl, overlay_isObject.trans hobj⟩
  | cons key p ih =>
    cases hj with
    | leaf hleaf =>
      rw [overlay_leaf hleaf]
      have hat : j.at? (key :: p) = none := by rw [Json.at?_cons, Json.get?_leaf hleaf]; rfl
      exact ⟨fun v hv => by simp [hat] at hv, fun v hv => by simp [hat] at hv, fun _ => hat⟩
    | @table ms sorted values =>
      obtain ⟨v, hf, hv⟩ := Json.touches_obj.mp h
      have hmember : v.Decides p (overlay (old.bind (Json.get? key)) v) :=
        ih (values _ (Members.mem_of_find? hf)) hv
      exact hmember.member hf (by rw [get?_overlay sorted, hf])

lemma merge_ordered (hb : (Json.obj base).Ordered)
    (hover : ∀ e ∈ t, ∀ old, (∀ v ∈ old, v.Ordered) → (overlay old e.2).Ordered) :
    (Json.obj (merge base t)).Ordered := by
  induction t generalizing base with
  | nil => exact hb
  | cons e rest ih =>
    rw [merge]
    refine ih (hb.insert (hover e List.mem_cons_self _ fun v hv => hb.find? hv)) ?_
    exact fun e he => hover e (List.mem_cons_of_mem _ he)

lemma overlay_ordered (hj : j.Ordered) (ho : ∀ v ∈ old, v.Ordered) : (overlay old j).Ordered := by
  induction hj generalizing old with
  | leaf hleaf =>
    rw [overlay_leaf hleaf]
    exact .leaf hleaf
  | @table ms sorted values ih =>
    rcases old with _ | v
    · rw [overlay_none]
      exact .table sorted values
    · rcases hv : v.isObject with _ | _
      · rw [overlay_onto_leaf hv]
        exact .table sorted values
      · obtain ⟨o, rfl⟩ := Json.exists_obj hv
        exact merge_ordered (ho _ rfl) fun e he old hold => ih e he hold

lemma foldl_merge_ordered (hts : ∀ t ∈ ts, (Json.obj t).Ordered) (hb : (Json.obj base).Ordered) :
    (Json.obj (ts.foldl merge base)).Ordered := by
  induction ts generalizing base with
  | nil => exact hb
  | cons t ts ih =>
    have ht : (overlay (some (.obj base)) (.obj t)).Ordered :=
      overlay_ordered (hts t List.mem_cons_self) fun v hv => Option.some.inj hv ▸ hb
    exact ih (fun t ht => hts t (List.mem_cons_of_mem _ ht)) ht

theorem mergeAll_ordered (hts : ∀ t ∈ ts, (Json.obj t).Ordered) :
    (Json.obj (mergeAll ts)).Ordered :=
  foldl_merge_ordered hts .empty

lemma at?_foldl_merge_other (hts : ∀ t ∈ ts, (Json.obj t).Ordered)
    (h : ∀ t ∈ ts, ¬ (Json.obj t).Touches p) :
    (Json.obj (ts.foldl merge base)).at? p = (Json.obj base).at? p := by
  induction ts generalizing base with
  | nil => rfl
  | cons t ts ih =>
    have hstep : (overlay (some (.obj base)) (.obj t)).at? p = (Json.obj base).at? p :=
      at?_overlay_other (hts t List.mem_cons_self) (h t List.mem_cons_self)
    rw [List.foldl_cons, ih (fun t ht => hts t (List.mem_cons_of_mem _ ht))
      fun t ht => h t (List.mem_cons_of_mem _ ht)]
    exact hstep

theorem mergeAll_decides {front back : List SettingsTable}
    (hts : ∀ u ∈ front ++ t :: back, (Json.obj u).Ordered) (ht : (Json.obj t).Touches p)
    (hback : ∀ u ∈ back, ¬ (Json.obj u).Touches p) :
    (Json.obj t).Decides p (.obj (mergeAll (front ++ t :: back))) := by
  have hlast : (Json.obj t).Decides p (overlay (some (.obj (mergeAll front))) (.obj t)) :=
    decides_overlay (hts t (by simp)) ht
  refine hlast.of_at? ?_
  rw [mergeAll, List.foldl_append, List.foldl_cons]
  exact at?_foldl_merge_other (fun u hu => hts u (by simp [hu])) hback

theorem mergeAll_untouched (hts : ∀ u ∈ ts, (Json.obj u).Ordered)
    (h : ∀ u ∈ ts, ¬ (Json.obj u).Touches p) (hp : p ≠ []) :
    (Json.obj (mergeAll ts)).at? p = none := by
  rw [mergeAll, at?_foldl_merge_other hts h]
  cases p with
  | nil => exact absurd rfl hp
  | cons key p => rfl

end SettingsTable

end LanguageHost
