import LanguageHost.Proofs.Toml.Ordered

/-! The keys of a TOML document in the order in which they stand. Every table of the document that is at
most two keys deep is named by one of them. -/

namespace LanguageHost

def Json.HasTable (p : List String) (j : Json) : Prop := ∃ ms, j.at? p = some (.obj ms)

lemma Json.hasTable_leaf {j : Json} (hj : j.isObject = false) (p : List String) : ¬ j.HasTable p := by
  rintro ⟨ms, h⟩
  cases p with
  | nil =>
    obtain rfl := Option.some.inj h
    cases hj
  | cons key p =>
    cases j with
    | obj ms => cases hj
    | _ => simp [at?, get?] at h

namespace Toml

variable {d : Dialect} {fuel depth : Nat} {s : List Char} {j : Json} {k : Key} {q path : List String}
  {key : String} {t : Table} {n : Node} {f : Table → Result Table} {byKey : Bool}

def Key.parts (k : Key) : List String := k.path ++ [k.last]

def pairList (d : Dialect) (fuel depth : Nat) (done : List (Key × Json)) (s : List Char) :
    Result (Parsed (List (Key × Json))) :=
  match fuel with
  | 0 => .error .unexpectedEnd
  | fuel + 1 => do
    let (k, rest) ← Toml.key s
    match rest with
    | '=' :: rest => do
      let (j, rest) ← value d fuel depth (skipBlank rest)
      match skipBlank rest with
      | ',' :: rest => pairList d fuel depth ((k, j) :: done) rest
      | '\x7d' :: rest => .ok (((k, j) :: done).reverse, rest)
      | s => fail s
    | s => fail s

def valueKeys (d : Dialect) : Nat → List Char → List (List String)
  | fuel + 1, '\x7b' :: rest =>
    match pairList d fuel 1 [] rest with
    | .ok (ps, _) => ps.map (·.1.parts)
    | .error _ => []
  | _, _ => []

def lineKeys (d : Dialect) (current : List String) (s : List Char) : List (List String) :=
  match line d s with
  | .ok (.table k, _) => [k.parts]
  | .ok (.element k, _) => [k.parts]
  | .ok (.pair k _, _) =>
    -- The line is kept without its text, and the keys within the value are read again.
    match Toml.key (skipBlank s) with
    | .ok (_, _ :: rest) =>
      let rest := skipBlank rest
      (current ++ k.parts) ::
        (valueKeys d (2 * rest.length + 2) rest).map (current ++ k.parts ++ ·)
    | _ => []
  | _ => []

def linesKeys (d : Dialect) : Nat → Progress → List Char → List (List String)
  | 0, _, _ => []
  | fuel + 1, p, s =>
    match line d s with
    | .ok (l, rest) =>
      match p.add l with
      | .ok p' => lineKeys d p.current s ++ linesKeys d fuel p' rest
      | .error _ => []
    | .error _ => []

def keys (d : Dialect) (text : String) : List (List String) :=
  let s := dropMark text.toList
  linesKeys d (s.length + 1) ⟨Table.new, []⟩ s

namespace Table

def HasTable (p : List String) (t : Table) : Prop := (Json.obj t.toMembers).HasTable p

lemma find?_toMembers (t : Table) (key : String) :
    Members.find? key t.toMembers = (t.get? key).map Node.toJson := by
  obtain ⟨explicit, dotted, es⟩ := t
  rw [toMembers, entriesToMembers_eq, get?, entries]
  induction es with
  | nil => rfl
  | cons e es ih =>
    rw [List.map_cons, Members.find?, Members.find?, ih]
    split <;> rfl

lemma hasTable_cons : t.HasTable (key :: q) ↔ ∃ n, t.get? key = some n ∧ n.toJson.HasTable q := by
  simp only [HasTable, Json.HasTable, Json.at?, Json.get?, find?_toMembers]
  cases t.get? key <;> simp

lemma get?_set (t : Table) (key : String) (n : Node) (k : String) :
    (t.set key n).get? k = if key = k then some n else t.get? k :=
  Members.find?_insert key k n t.entries

lemma hasTable_nil : t.HasTable [] := ⟨_, rfl⟩

lemma hasTable_set : (t.set key n).HasTable q ↔
    if q.head? = some key then n.toJson.HasTable q.tail else t.HasTable q := by
  cases q with
  | nil => simp [hasTable_nil]
  | cons k q =>
    rw [hasTable_cons, get?_set]
    by_cases hk : key = k
    · simp [hk]
    · simp [hk, Ne.symm hk, hasTable_cons]

def Gains (W : List String → Prop) (t t' : Table) : Prop := ∀ q, t'.HasTable q → t.HasTable q ∨ W q

lemma Gains.mono {V W : List String → Prop} {t' : Table} (h : Gains V t t') (hvw : ∀ q, V q → W q) :
    Gains W t t' := fun q hq => (h q hq).imp_right (hvw q)

lemma hasTable_empty {explicit dotted : Bool} (h : (mk explicit dotted []).HasTable q) : q = [] := by
  cases q with
  | nil => rfl
  | cons key q =>
    obtain ⟨n, hn, -⟩ := hasTable_cons.mp h
    cases hn

lemma modifyAt_gains {W : List String → Prop} (hf : ∀ t, Yields (Gains W t) (f t)) (path : List String)
    (t : Table) : Yields (Gains (fun q => q <+: path ∨ ∃ r, q = path ++ r ∧ W r) t)
      (modifyAt byKey f path t) := by
  induction path generalizing t with
  | nil => exact fun t' ht' => (hf t t' ht').mono fun q hq => .inr ⟨q, rfl, hq⟩
  | cons key path ih =>
    -- Below the first key the path is the rest of the way.
    have hset {n : Node} (hn : ∀ q, n.toJson.HasTable q →
        t.HasTable (key :: q) ∨ q <+: path ∨ ∃ r, q = path ++ r ∧ W r) :
        Gains (fun q => q <+: key :: path ∨ ∃ r, q = key :: path ++ r ∧ W r) t (t.set key n) := by
      intro q hq
      rw [hasTable_set] at hq
      split at hq
      · next hkey =>
        obtain ⟨q, rfl⟩ : ∃ r, q = key :: r := ⟨q.tail, (List.cons_head?_tail hkey).symm⟩
        rcases hn q hq with hq | hq | ⟨r, rfl, hr⟩
        · exact .inl hq
        · exact .inr (.inl (List.cons_prefix_cons.mpr ⟨rfl, hq⟩))
        · exact .inr (.inr ⟨r, rfl, hr⟩)
      · exact .inl hq
    rw [modifyAt]
    cases hchild : t.get? key with
    | none =>
      simp only [Option.getD_none]
      split
      · exact .error
      · refine Yields.bind (ih (passage byKey)) fun inner hinner => .ok (hset fun q hq => ?_)
        rcases hinner q hq with hq | hq
        · exact .inr (.inl (hasTable_empty hq ▸ List.nil_prefix))
        · exact .inr hq
    | some child =>
      cases child with
      | value j => exact .error
      | tables newest older =>
        -- The tables of a list are not at the end of any path of keys.
        refine Yields.bind (ih newest) fun newest _ => .ok (hset fun q hq => ?_)
        exact absurd hq (Json.hasTable_leaf rfl q)
      | table inner =>
        simp only [Option.getD_some]
        split
        · exact .error
        · refine Yields.bind (ih inner) fun inner' hinner => .ok (hset fun q hq => ?_)
          exact (hinner q hq).imp_left fun hq => hasTable_cons.mpr ⟨_, hchild, hq⟩

lemma setValue_gains (k : Key) (j : Json) (t : Table) : Yields
    (Gains (fun q => q <+: k.parts ∨ ∃ r, q = k.parts ++ r ∧ j.HasTable r) t) (t.setValue k j) := by
  intro t' ht'
  refine (modifyAt_gains (W := fun q => ∃ r, q = k.last :: r ∧ j.HasTable r) (fun t => ?_)
    k.path t t' ht').mono ?_
  · split
    · exact .error
    · split
      · exact .error
      · refine .ok fun q hq => ?_
        rw [hasTable_set] at hq
        split at hq
        · next hkey => exact .inr ⟨q.tail, (List.cons_head?_tail hkey).symm, hq⟩
        · exact .inl hq
  · rintro q (hq | ⟨_, rfl, r, rfl, hr⟩)
    · exact .inl (hq.trans (List.prefix_append ..))
    · exact .inr ⟨r, by simp [Key.parts], hr⟩

lemma header_gains (k : Key) {f : Table → Result Table}
    (hf : ∀ t, Yields (fun t' => ∃ n, t' = t.set k.last n ∧
      ∀ q, n.toJson.HasTable q → q = [] ∨ t.HasTable (k.last :: q)) (f t)) (t : Table) :
    Yields (Gains (· <+: k.parts) t) (modifyAt false f k.path t) := by
  have hlast (t : Table) : Yields (Gains (· = [k.last]) t) (f t) := by
    refine fun t' ht' q hq => ?_
    obtain ⟨n, rfl, hn⟩ := hf t t' ht'
    rw [hasTable_set] at hq
    split at hq
    · next hkey =>
      obtain ⟨q, rfl⟩ : ∃ r, q = k.last :: r := ⟨q.tail, (List.cons_head?_tail hkey).symm⟩
      exact (hn q hq).symm.imp_right fun hq => by rw [hq]
    · exact .inl hq
  refine fun t' ht' => (modifyAt_gains hlast k.path t t' ht').mono fun q hq => ?_
  rcases hq with hq | ⟨_, rfl, rfl⟩
  · exact hq.trans (List.prefix_append ..)
  · exact List.prefix_rfl

lemma openTable_gains (k : Key) (t : Table) : Yields (Gains (· <+: k.parts) t) (t.openTable k) := by
  refine header_gains k (fun t => ?_) t
  split
  · exact .ok ⟨_, rfl, fun q hq => .inl (hasTable_empty hq)⟩
  · next inner hinner =>
    split
    · exact .error
    · obtain ⟨explicit, dotted, entries⟩ := inner
      exact .ok ⟨_, rfl, fun q hq => .inr (hasTable_cons.mpr ⟨_, hinner, hq⟩)⟩
  · exact .error

lemma openElement_gains (k : Key) (t : Table) :
    Yields (Gains (· <+: k.parts) t) (t.openElement k) := by
  refine header_gains k (fun t => ?_) t
  split
  · exact .ok ⟨_, rfl, fun q hq => absurd hq (Json.hasTable_leaf rfl q)⟩
  · exact .ok ⟨_, rfl, fun q hq => absurd hq (Json.hasTable_leaf rfl q)⟩
  · exact .error

end Table

lemma scalar_flat : Yields (fun x => ∀ key, ¬ x.1.HasTable [key]) (scalar d s) := by
  have hflat (r : Result (Parsed Json)) (hr : Yields Bare r) :
      Yields (fun x => ∀ key, ¬ x.1.HasTable [key]) r :=
    fun x hx key => Json.hasTable_leaf (hr x hx) [key]
  rw [scalar.eq_def]
  split
  · refine Yields.any.bind fun t _ => .ok fun key => ?_
    rintro ⟨ms, h⟩
    by_cases hkey : Datetime.memberName = key <;>
      simp [Datetime.toJson, Json.at?, Json.get?, Members.find?, hkey] at h
  · split
    · exact .error
    · split
      · exact hflat _ (literal_bare rfl)
      · split
        · exact hflat _ (literal_bare rfl)
        · exact hflat _ number_bare

lemma items_flat (fuel depth : Nat) (done : List Json) (s : List Char) :
    Yields (fun x => x.1.isObject = false) (items d fuel depth done s) := by
  induction fuel generalizing depth done s with
  | zero => exact .error
  | succ fuel ih =>
    rw [items]
    split
    · exact .ok rfl
    · refine Yields.any.bind fun x _ => ?_
      simp only
      split
      · exact ih _ _ _
      · exact .ok rfl
      · exact fail_yields

lemma pairs_list (fuel depth : Nat) (done : List (Key × Json)) (s : List Char) :
    Yields (fun x => ∃ ps, pairList d fuel depth done s = .ok (ps, x.2) ∧ inlineTable ps = .ok x.1)
      (pairs d fuel depth done s) := by
  induction fuel generalizing done s with
  | zero => exact .error
  | succ fuel ih =>
    rw [pairs]
    refine Yields.bind_ok fun x hk => ?_
    obtain ⟨k, rest⟩ := x
    simp only
    split
    · refine Yields.bind_ok fun y hv => ?_
      obtain ⟨j, rest⟩ := y
      simp only
      split
      · next hsep =>
        simp only [pairList, hk, hv, hsep, bind, Except.bind]
        exact ih _ _
      · next hend =>
        refine Yields.bind_ok fun j hj => .ok ?_
        exact ⟨_, by simp only [pairList, hk, hv, hend, bind, Except.bind], hj⟩
      · exact fail_yields
    · exact fail_yields

lemma parts_prefix {key : String} {r : List String} (h : [key] = k.parts ++ r) : [key] <+: k.parts := by
  have hparts : 0 < k.parts.length := by simp [Key.parts]
  have hlen := congrArg List.length h
  obtain rfl : r = [] := by
    rw [List.length_append, List.length_singleton] at hlen
    exact List.eq_nil_of_length_eq_zero (by omega)
  exact ⟨[], by simpa using h⟩

lemma foldlM_gains {ps : List (Key × Json)} (t : Table) :
    Yields (fun t' => ∀ key, t'.HasTable [key] → t.HasTable [key] ∨ ∃ p ∈ ps, [key] <+: p.1.parts)
      (ps.foldlM (fun (t : Table) p => t.setValue p.1 p.2) t) := by
  induction ps generalizing t with
  | nil => exact .ok fun key hkey => .inl hkey
  | cons p ps ih =>
    rw [List.foldlM_cons]
    refine Yields.bind (Table.setValue_gains p.1 p.2 t) fun t' ht' t'' ht'' key hkey => ?_
    rcases ih t' t'' ht'' key hkey with hkey | ⟨p', hp', hkey⟩
    · rcases ht' _ hkey with hkey | hkey | ⟨r, hr, -⟩
      · exact .inl hkey
      · exact .inr ⟨p, List.mem_cons_self, hkey⟩
      · exact .inr ⟨p, List.mem_cons_self, parts_prefix hr⟩
    · exact .inr ⟨p', List.mem_cons_of_mem p hp', hkey⟩

lemma inlineTable_named {ps : List (Key × Json)} :
    Yields (fun j => ∀ key, j.HasTable [key] → ∃ p ∈ ps, [key] <+: p.1.parts) (inlineTable ps) := by
  refine Yields.bind (foldlM_gains Table.new) fun t ht => .ok fun key hkey => ?_
  refine (ht key hkey).resolve_left fun hnew => ?_
  cases Table.hasTable_empty hnew

def Names (ks : List (List String)) (q : List String) : Prop := ∃ k ∈ ks, q <+: k

lemma value_named (fuel : Nat) (s : List Char) :
    Yields (fun x => ∀ key, x.1.HasTable [key] → Names (valueKeys d fuel s) [key])
      (value d fuel 0 s) := by
  have hflat {r : Result (Parsed Json)} {ks : List (List String)}
      (hr : Yields (fun x => x.1.isObject = false) r) :
      Yields (fun x => ∀ key, x.1.HasTable [key] → Names ks [key]) r :=
    fun x hx key hkey => absurd hkey (Json.hasTable_leaf (hr x hx) [key])
  cases fuel with
  | zero => exact .error
  | succ fuel =>
    rw [value.eq_def]
    simp only
    split
    · exact hflat (Yields.any.bind fun _ _ => .ok rfl)
    · exact hflat (Yields.any.bind fun _ _ => .ok rfl)
    · split
      · exact .error
      · exact hflat (items_flat _ _ _ _)
    · next rest =>
      split
      · exact .error
      · split
        · refine .ok fun key hkey => ?_
          have hnew : Table.new.HasTable [key] := hkey
          cases Table.hasTable_empty hnew
        · intro x hx key hkey
          obtain ⟨ps, hps, hj⟩ := pairs_list _ _ _ _ x hx
          obtain ⟨p, hp, hprefix⟩ := inlineTable_named _ hj key hkey
          refine ⟨p.1.parts, ?_, hprefix⟩
          rw [valueKeys, hps]
          exact List.mem_map.mpr ⟨p, hp, rfl⟩
    · exact fun x hx key hkey => absurd hkey (scalar_flat x hx key)

lemma line_pair : Yields (fun x => ∀ k j, x.1 = .pair k j → ∃ c rest after,
    Toml.key (skipBlank s) = .ok (k, c :: rest) ∧
      value d (2 * (skipBlank rest).length + 2) 0 (skipBlank rest) = .ok (j, after)) (line d s) := by
  rw [line.eq_def]
  split
  · refine Yields.any.bind fun k _ => ?_
    simp only
    split
    · exact Yields.any.bind fun _ _ => .ok (by simp)
    · exact fail_yields
  · refine Yields.any.bind fun k _ => ?_
    simp only
    split
    · exact Yields.any.bind fun _ _ => .ok (by simp)
    · exact fail_yields
  · split
    · exact .ok (by simp)
    · refine Yields.bind_ok fun x hk => ?_
      obtain ⟨k, rest⟩ := x
      simp only
      split
      · next rest =>
        refine Yields.bind_ok fun y hv => Yields.any.bind fun _ _ => .ok ?_
        rintro k' j' ⟨⟩
        exact ⟨_, rest, y.2, hk, hv⟩
      · exact fail_yields

lemma add_named {p : Progress} {l : Line} {rest : List Char} (hl : line d s = .ok (l, rest)) :
    Yields (fun p' => ∀ a b, p'.root.HasTable [a, b] →
      p.root.HasTable [a, b] ∨ Names (lineKeys d p.current s) [a, b]) (p.add l) := by
  cases l with
  | empty => exact .ok fun a b => .inl
  | table k =>
    refine Yields.bind (Table.openTable_gains k p.root) fun root hroot => .ok fun a b ht => ?_
    exact (hroot _ ht).imp_right fun hq => ⟨k.parts, by simp [lineKeys, hl], hq⟩
  | element k =>
    refine Yields.bind (Table.openElement_gains k p.root) fun root hroot => .ok fun a b ht => ?_
    exact (hroot _ ht).imp_right fun hq => ⟨k.parts, by simp [lineKeys, hl], hq⟩
  | pair k j =>
    obtain ⟨c, rest, after, hk, hv⟩ := line_pair _ hl k j rfl
    have hkeys : lineKeys d p.current s = (p.current ++ k.parts) ::
        (valueKeys d (2 * (skipBlank rest).length + 2) (skipBlank rest)).map
          (p.current ++ k.parts ++ ·) := by
      simp only [lineKeys, hl, hk]
    rw [hkeys]
    refine Yields.bind (Table.modifyAt_gains (Table.setValue_gains k j) p.current p.root)
      fun root hroot => .ok fun a b ht => ?_
    rcases hroot _ ht with ht | hq | ⟨_, hq, hr | ⟨r, rfl, hr⟩⟩
    · exact .inl ht
    · exact .inr ⟨_, List.mem_cons_self, hq.trans (List.prefix_append ..)⟩
    · exact .inr ⟨_, List.mem_cons_self, hq ▸ (List.prefix_append_right_inj _).mpr hr⟩
    · -- The table stands in the value, and at most one of the two keys leads to it there.
      rw [← List.append_assoc] at hq
      rw [hq]
      rcases r with - | ⟨key, - | ⟨key', r⟩⟩
      · exact .inr ⟨_, List.mem_cons_self, by simp⟩
      · obtain ⟨ks, hks, hkey⟩ := value_named _ _ _ hv key hr
        exact .inr ⟨_, List.mem_cons_of_mem _ (List.mem_map.mpr ⟨ks, hks, rfl⟩),
          (List.prefix_append_right_inj _).mpr hkey⟩
      · have hlen := congrArg List.length hq
        simp only [Key.parts, List.length_append, List.length_cons, List.length_nil] at hlen
        omega

lemma lines_named (fuel : Nat) (p : Progress) (s : List Char) :
    Yields (fun p' => ∀ a b, p'.root.HasTable [a, b] →
      p.root.HasTable [a, b] ∨ Names (linesKeys d fuel p s) [a, b]) (lines d fuel p s) := by
  induction fuel generalizing p s with
  | zero => exact .ok fun a b => .inl
  | succ fuel ih =>
    rw [lines]
    split
    · exact .ok fun a b => .inl
    · refine Yields.bind_ok fun x hx => ?_
      refine Yields.bind_ok fun p' hp' => ?_
      intro p'' hp'' a b ht
      rw [linesKeys, hx]
      simp only [hp']
      rcases ih p' x.2 p'' hp'' a b ht with ht | ⟨k, hk, hq⟩
      · obtain ht | ⟨k, hk, hq⟩ := add_named hx p' hp' a b ht
        · exact .inl ht
        · exact .inr ⟨k, List.mem_append_left _ hk, hq⟩
      · exact .inr ⟨k, List.mem_append_right _ hk, hq⟩

/-- A table that is two keys deep in a document is named in it. -/
theorem parse_named (text : String) : Yields (fun root => ∀ a b, (Json.obj root).HasTable [a, b] →
    Names (keys d text) [a, b]) (parse d text) := by
  refine Yields.bind (lines_named _ ⟨Table.new, []⟩ (dropMark text.toList)) fun p hp => .ok ?_
  intro a b ht
  refine (hp a b ht).resolve_left fun hnew => ?_
  cases Table.hasTable_empty hnew

end Toml

end LanguageHost
