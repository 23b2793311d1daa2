import LanguageHost.Proofs.Json.Ordered
import LanguageHost.Proofs.Yields
import LanguageHost.Toml.Document

namespace LanguageHost

namespace Toml

mutual

inductive Node.Ordered : Node → Prop
  | value {j : Json} (h : j.Ordered) : Node.Ordered (.value j)
  | table {t : Table} (h : Table.Ordered t) : Node.Ordered (.table t)
  | tables {newest : Table} {older : List Table} (h : Table.Ordered newest) :
    Node.Ordered (.tables newest older)

inductive Table.Ordered : Table → Prop
  | mk {explicit dotted : Bool} {es : List (String × Node)} (sorted : Members.Sorted es)
      (nodes : ∀ e ∈ es, Node.Ordered e.2) : Table.Ordered (.mk explicit dotted es)

end

lemma Node.Ordered.inner {t : Table} : Node.Ordered (.table t) → t.Ordered
  | .table h => h

lemma Node.Ordered.newest {newest : Table} {older : List Table} :
    Node.Ordered (.tables newest older) → newest.Ordered
  | .tables h => h

lemma entriesToMembers_eq (es : List (String × Node)) :
    entriesToMembers es = es.map fun e => (e.1, e.2.toJson) := by
  induction es with
  | nil => rfl
  | cons e es ih => rw [entriesToMembers, ih, List.map_cons]

mutual

lemma Node.Ordered.toJson : ∀ {n : Node}, n.Ordered → n.toJson.Ordered
  | _, .value h => h
  | _, .table h => h.toMembers
  | _, .tables _ => .leaf rfl

lemma Table.Ordered.toMembers : ∀ {t : Table}, t.Ordered → (Json.obj t.toMembers).Ordered
  | _, .mk sorted nodes => by
    rw [Table.toMembers, entriesToMembers_eq]
    refine .table (sorted.map_snd _) fun e he => ?_
    obtain ⟨entry, hentry, rfl⟩ := List.mem_map.mp he
    exact (nodes entry hentry).toJson

end

namespace Table

variable {t : Table} {n : Node} {key : String} {k : Key} {path : List String} {byKey : Bool}
  {j : Json} {f : Table → Result Table}

lemma Ordered.sorted : t.Ordered → Members.Sorted t.entries
  | .mk sorted _ => sorted

lemma Ordered.nodes : t.Ordered → ∀ e ∈ t.entries, e.2.Ordered
  | .mk _ nodes => nodes

lemma Ordered.node (h : t.Ordered) (hn : t.get? key = some n) : n.Ordered :=
  h.nodes _ (Members.mem_of_find? hn)

lemma Ordered.set (h : t.Ordered) (hn : n.Ordered) : (t.set key n).Ordered :=
  .mk h.sorted.insert fun e he => (Members.mem_insert he).elim (fun he => he ▸ hn) (h.nodes e)

lemma new_ordered : new.Ordered := .mk .nil (by simp)

lemma modifyAt_ordered (hf : ∀ t : Table, t.Ordered → Yields Ordered (f t)) (h : t.Ordered) :
    Yields Ordered (modifyAt byKey f path t) := by
  induction path generalizing t with
  | nil => exact hf t h
  | cons key path ih =>
    have hchild : ((t.get? key).getD (.table (passage byKey))).Ordered := by
      cases hn : t.get? key with
      | none => exact .table (.mk .nil (by simp))
      | some n => exact h.node hn
    rw [modifyAt]
    revert hchild
    cases (t.get? key).getD (.table (passage byKey)) with
    | value j => exact fun _ => .error
    | tables newest older =>
      intro hchild
      exact (ih hchild.newest).bind fun newest hnewest => .ok (h.set (.tables hnewest))
    | table inner =>
      intro hchild
      simp only
      split
      · exact .error
      · exact (ih hchild.inner).bind fun inner hinner => .ok (h.set (.table hinner))

lemma setValue_ordered (h : t.Ordered) (hj : j.Ordered) : Yields Ordered (t.setValue k j) := by
  refine modifyAt_ordered (fun inner hinner => ?_) h
  split
  · exact .error
  · split
    · exact .error
    · exact .ok (hinner.set (.value hj))

lemma openTable_ordered (h : t.Ordered) : Yields Ordered (t.openTable k) := by
  refine modifyAt_ordered (fun parent hparent => ?_) h
  split
  · exact .ok (hparent.set (.table new_ordered))
  · rename_i inner hinner
    have hopened : inner.Ordered := (hparent.node hinner).inner
    split
    · exact .error
    · exact .ok (hparent.set (.table (.mk hopened.sorted hopened.nodes)))
  · exact .error

lemma openElement_ordered (h : t.Ordered) : Yields Ordered (t.openElement k) := by
  refine modifyAt_ordered (fun parent hparent => ?_) h
  split
  · exact .ok (hparent.set (.tables new_ordered))
  · exact .ok (hparent.set (.tables new_ordered))
  · exact .error

end Table

variable {d : Dialect} {s : List Char}

lemma fail_yields {α : Type} {P : α → Prop} : Yields P (fail s) := by
  cases s <;> exact .error

def Bare (x : Parsed Json) : Prop := x.1.isObject = false

lemma int64_bare {i : Int} : Yields (fun j => j.isObject = false) (int64 i) := by
  rw [int64]
  split
  · exact .ok rfl
  · exact .error

lemma radixInteger_bare {base : Nat} : Yields Bare (radixInteger base s) := by
  rw [radixInteger]
  split
  · exact .error
  · exact int64_bare.bind fun j hj => .ok hj

lemma decimal_bare {negative : Bool} : Yields Bare (decimal d negative s) := by
  rw [decimal]
  simp only
  split
  · exact .error
  · exact .error
  · refine Yields.any.bind fun ds _ => Yields.any.bind fun e _ => ?_
    split
    · exact int64_bare.bind fun j hj => .ok hj
    · split
      · exact .ok rfl
      · exact Yields.any.bind fun x _ => .ok rfl

lemma number_bare : Yields Bare (number d s) := by
  rw [number.eq_def]
  split
  · exact radixInteger_bare
  · exact radixInteger_bare
  · exact radixInteger_bare
  · simp only
    split
    · exact .ok rfl
    · exact .ok rfl
    · exact decimal_bare

lemma literal_bare {w : List Char} {j : Json} (hj : j.isObject = false) :
    Yields Bare (literal w j s) := by
  rw [literal]
  split
  · exact .ok hj
  · exact fail_yields

lemma scalar_ordered : Yields (fun x => x.1.Ordered) (scalar d s) := by
  have hbare : ∀ r : Result (Parsed Json), Yields Bare r → Yields (fun x => x.1.Ordered) r :=
    fun r hr x hx => .leaf (hr x hx)
  rw [scalar.eq_def]
  split
  · refine Yields.any.bind fun t _ => .ok ?_
    exact .table (List.pairwise_singleton ..) (by simpa using .leaf rfl)
  · split
    · exact .error
    · split
      · exact hbare _ (literal_bare rfl)
      · split
        · exact hbare _ (literal_bare rfl)
        · exact hbare _ number_bare

lemma inlineTable_ordered {ps : List (Key × Json)} (h : ∀ p ∈ ps, p.2.Ordered) :
    Yields Json.Ordered (inlineTable ps) := by
  have hfold : Yields Table.Ordered
      (ps.foldlM (fun (t : Table) p => t.setValue p.1 p.2) Table.new) :=
    .foldlM (fun _ ht p hp => Table.setValue_ordered ht (h p hp)) Table.new_ordered
  exact hfold.bind fun t ht => .ok ht.toMembers

lemma container_ordered (fuel : Nat) :
    (∀ depth s, Yields (fun x => x.1.Ordered) (value d fuel depth s)) ∧
    (∀ depth done s, Yields (fun x => x.1.Ordered) (items d fuel depth done s)) ∧
    (∀ depth done s, (∀ p ∈ done, p.2.Ordered) →
      Yields (fun x => x.1.Ordered) (pairs d fuel depth done s)) := by
  -- The three readers call each other with less fuel.
  induction fuel with
  | zero => exact ⟨fun _ _ => .error, fun _ _ _ => .error, fun _ _ _ _ => .error⟩
  | succ fuel ih =>
    obtain ⟨hvalue, hitems, hpairs⟩ := ih
    refine ⟨fun depth s => ?_, fun depth done s => ?_, fun depth done s hdone => ?_⟩
    · rw [value.eq_def]
      simp only
      split
      · exact Yields.any.bind fun _ _ => .ok (.leaf rfl)
      · exact Yields.any.bind fun _ _ => .ok (.leaf rfl)
      · split
        · exact .error
        · exact hitems _ _ _
      · split
        · exact .error
        · split
          · exact .ok .empty
          · exact hpairs _ _ _ (by simp)
      · exact scalar_ordered
    · rw [items]
      split
      · exact .ok (.leaf rfl)
      · refine Yields.any.bind fun x _ => ?_
        simp only
        split
        · exact hitems _ _ _
        · exact .ok (.leaf rfl)
        · exact fail_yields
    · rw [pairs]
      refine Yields.any.bind fun key _ => ?_
      simp only
      split
      · refine (hvalue _ _).bind fun x hx => ?_
        have hcons : ∀ p ∈ (key.1, x.1) :: done, p.2.Ordered := 
          List.forall_mem_cons.mpr ⟨hx, hdone⟩
        split
        · exact hpairs _ _ _ hcons
        · refine Yields.bind (inlineTable_ordered fun p hp => ?_) fun j hj => .ok hj
          exact hcons p (List.mem_reverse.mp hp)
        · exact fail_yields
      · exact fail_yields

def Line.Ordered : Line → Prop
  | .pair _ j => j.Ordered
  | _ => True

lemma line_ordered : Yields (fun x => x.1.Ordered) (line d s) := by
  rw [line.eq_def]
  split
  · refine Yields.any.bind fun k _ => ?_
    simp only
    split
    · exact Yields.any.bind fun _ _ => .ok trivial
    · exact fail_yields
  · refine Yields.any.bind fun k _ => ?_
    simp only
    split
    · exact Yields.any.bind fun _ _ => .ok trivial
    · exact fail_yields
  · split
    · exact .ok trivial
    · refine Yields.any.bind fun k _ => ?_
      simp only
      split
      · refine ((container_ordered _).1 _ _).bind fun x hx => ?_
        exact Yields.any.bind fun _ _ => .ok hx
      · exact fail_yields

lemma Progress.add_ordered {p : Progress} {l : Line} (hp : p.root.Ordered) (hl : l.Ordered) :
    Yields (fun p => p.root.Ordered) (p.add l) := by
  cases l with
  | empty => exact .ok hp
  | pair k j =>
    refine (Table.modifyAt_ordered (fun t ht => Table.setValue_ordered ht hl) hp).bind ?_
    exact fun root hroot => .ok hroot
  | table k => exact (Table.openTable_ordered hp).bind fun root hroot => .ok hroot
  | element k => exact (Table.openElement_ordered hp).bind fun root hroot => .ok hroot

lemma lines_ordered {p : Progress} (fuel : Nat) (hp : p.root.Ordered) :
    Yields (fun p => p.root.Ordered) (lines d fuel p s) := by
  induction fuel generalizing p s with
  | zero => exact .ok hp
  | succ fuel ih =>
    rw [lines]
    split
    · exact .ok hp
    · refine line_ordered.bind fun x hx => ?_
      exact (Progress.add_ordered hp hx).bind fun p hp => ih hp

theorem parse_ordered {text : String} : Yields (fun ms => (Json.obj ms).Ordered) (parse d text) :=
  (lines_ordered _ Table.new_ordered).bind fun _ hp => .ok hp.toMembers

end Toml

end LanguageHost
