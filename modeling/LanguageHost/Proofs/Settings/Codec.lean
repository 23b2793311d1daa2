import LanguageHost.Proofs.Settings.Fields
import LanguageHost.Settings.Encode
import Mathlib.Data.List.Nodup
import Mathlib.Data.List.Pairwise

/-! Codecs: how values are read from JSON and written to it. A codec reads back what it has written, and what
it reads it can write. A table has such a codec if its settings have one and do not get in each other's way. -/

namespace LanguageHost

/-- How a value is read and written, and which values can be written. -/
structure Codec (α : Type) where
  read : Json → Decode.Result α
  write : α → Json
  Legal : α → Prop
  read_write : ∀ a, Legal a → read (write a) = .ok a
  legal : ∀ j, Yields Legal (read j)

namespace Decode

variable {α : Type} {c : Codec α}

lemma readItems_write (as : List α) (h : ∀ a ∈ as, c.Legal a) (index : Nat) :
    readItems c.read index (as.map c.write) = .ok as := by
  induction as generalizing index with
  | nil => rfl
  | cons a as ih =>
    obtain ⟨ha, has⟩ := List.forall_mem_cons.mp h
    rw [List.map_cons, readItems, c.read_write a ha, ih has]
    rfl

lemma readItems_legal (items : List Json) (index : Nat) :
    Yields (fun as => ∀ a ∈ as, c.Legal a) (readItems c.read index items) := by
  induction items generalizing index with
  | nil => exact .ok (by simp)
  | cons j rest ih =>
    refine Yields.bind (Yields.mapError (c.legal j)) fun a ha => ?_
    exact (ih (index + 1)).bind fun as has => .ok (List.forall_mem_cons.mpr ⟨ha, has⟩)

lemma readMembers_write (es : List (String × α)) (h : ∀ e ∈ es, c.Legal e.2) :
    readMembers c.read (es.map fun e => (e.1, c.write e.2)) = .ok es := by
  induction es with
  | nil => rfl
  | cons e es ih =>
    obtain ⟨he, hes⟩ := List.forall_mem_cons.mp h
    rw [List.map_cons, readMembers, c.read_write e.2 he, ih hes]
    rfl

end Decode

namespace Codec

variable {α σ : Type}

def bool : Codec Bool where
  read := Decode.bool
  write := .bool
  Legal _ := True
  read_write _ _ := rfl
  legal _ _ _ := trivial

def string : Codec String where
  read := Decode.string
  write := .str
  Legal _ := True
  read_write _ _ := rfl
  legal _ _ _ := trivial

def path : Codec FilePath where
  read := Decode.path
  write p := .str p.text
  Legal _ := True
  read_write _ _ := rfl
  legal _ _ _ := trivial

def word32 : Codec Nat where
  read := Decode.word32
  write := .ofNat
  Legal n := n ≤ 0xffffffff
  read_write n h := by
    have hrange : (0 : Int) ≤ n ∧ (n : Int) ≤ 0xffffffff := by omega
    rw [Json.ofNat, Decode.word32, if_pos hrange]
    rfl
  legal j := by
    cases j with
    | int i =>
      rw [Decode.word32]
      split_ifs with h
      · exact .ok (by omega)
      · exact .error
    | _ => exact .error

def optional (c : Codec α) (hnull : ∀ a, c.write a ≠ .null) : Codec (Option α) where
  read := Decode.optional c.read
  write := .ofOption c.write
  Legal o := ∀ a ∈ o, c.Legal a
  read_write o h := by
    cases o with
    | none => rfl
    | some a =>
      have hread : Decode.optional c.read (c.write a) = (c.read (c.write a)).map some := by
        cases hj : c.write a with
        | null => exact absurd hj (hnull a)
        | _ => rfl
      rw [Json.ofOption, hread, c.read_write a (h a rfl)]
      rfl
  legal j := by
    cases j with
    | null => exact .ok (by simp)
    | _ => exact (c.legal _).map fun a ha => by simpa using ha

def list (c : Codec α) : Codec (List α) where
  read := Decode.list c.read
  write as := .arr (as.map c.write)
  Legal as := ∀ a ∈ as, c.Legal a
  read_write as h := Decode.readItems_write as h 0
  legal j := by
    cases j with
    | arr items => exact Decode.readItems_legal items 0
    | _ => exact .error

def map (c : Codec α) : Codec (List (String × α)) where
  read := Decode.map c.read
  write es := .obj (es.map fun e : String × α => (e.1, c.write e.2))
  Legal es := ∀ e ∈ es, c.Legal e.2
  read_write es h := Decode.readMembers_write es h
  legal j := by
    cases j with
    | obj ms => exact fun es h => (Decode.readMembers_yields (fun e _ => c.legal e.2) es h).2
    | _ => exact .error

def choice (surplus : Decode.Surplus) (typeName : String) (label : α → String) (choices : List α)
    (h : ∀ a, Decode.choose label choices (label a) = .ok a) : Codec α where
  read := Decode.choice surplus typeName label choices
  write a := .str (label a)
  Legal _ := True
  read_write a _ := h a
  legal _ _ _ := trivial

variable {c : Codec α} {surplus : Decode.Surplus} {typeName : String} {label : α → String}
  {choices : List α}

@[simp] lemma legal_bool {b : Bool} : bool.Legal b := trivial

@[simp] lemma legal_string {s : String} : string.Legal s := trivial

@[simp] lemma legal_path {p : FilePath} : path.Legal p := trivial

@[simp] lemma legal_word32 {n : Nat} : word32.Legal n ↔ n ≤ 0xffffffff := .rfl

@[simp] lemma legal_optional {h : ∀ a, c.write a ≠ .null} {o : Option α} :
    (c.optional h).Legal o ↔ ∀ a ∈ o, c.Legal a := .rfl

@[simp] lemma legal_list {as : List α} : c.list.Legal as ↔ ∀ a ∈ as, c.Legal a := .rfl

@[simp] lemma legal_map {es : List (String × α)} : c.map.Legal es ↔ ∀ e ∈ es, c.Legal e.2 := .rfl

@[simp] lemma legal_choice {h : ∀ a, Decode.choose label choices (label a) = .ok a} {a : α} :
    (choice surplus typeName label choices h).Legal a := trivial

end Codec

structure Setting (σ : Type) where
  Value : Type
  key : String
  codec : Codec Value
  get : σ → Value
  put : Value → σ → σ

namespace Setting

variable {σ : Type} {xs : List (Setting σ)} {x : Setting σ} {s start : σ} {ms : List (String × Json)}

def field (x : Setting σ) : Decode.Field σ := Decode.field x.key x.codec.read x.put

def write (s : σ) (x : Setting σ) : Json := x.codec.write (x.get s)

def Legal (s : σ) (x : Setting σ) : Prop := x.codec.Legal (x.get s)

def copy (s start : σ) (x : Setting σ) : σ := x.put (x.get s) start

lemma read_write (h : x.Legal s) : x.codec.read (x.write s) = .ok (x.get s) := x.codec.read_write _ h

@[simp] lemma field_name : x.field.name = x.key := rfl

lemma field_set {j : Json} (h : x.codec.read j = .ok (x.get s)) :
    x.field.set j start = .ok (x.copy s start) :=
  congrArg (Except.map (x.put · start)) h

def Apart (x y : Setting σ) : Prop :=
  (∀ a s, x.get (y.put a s) = x.get s) ∧ ∀ a s, y.get (x.put a s) = y.get s

instance : Std.Symm (Apart (σ := σ)) := ⟨fun _ _ h => ⟨h.2, h.1⟩⟩

structure Complete (xs : List (Setting σ)) : Prop where
  keys : (xs.map key).Nodup
  own : ∀ x ∈ xs, ∀ a s, x.get (x.put a s) = a
  apart : xs.Pairwise Apart
  whole : ∀ s start, xs.foldl (copy s) start = s

namespace Complete

lemma eq_of_key (h : Complete xs) {x y : Setting σ} (hx : x ∈ xs) (hy : y ∈ xs)
    (hk : x.key = y.key) : x = y :=
  List.inj_on_of_nodup_map h.keys hx hy hk

lemma other (h : Complete xs) {x y : Setting σ} (hx : x ∈ xs) (hy : y ∈ xs) (hxy : x ≠ y)
    (a : y.Value) (s : σ) : x.get (y.put a s) = x.get s :=
  (h.apart.forall hx hy hxy).1 a s

lemma ext (h : Complete xs) {s s' : σ} (hs : ∀ x ∈ xs, x.get s = x.get s') : s = s' := by
  have hcopy : xs.foldl (copy s) s = xs.foldl (copy s') s :=
    List.foldl_ext _ _ _ fun start x hx => by rw [copy, copy, hs x hx]
  rw [← h.whole s s, hcopy, h.whole]

lemma get_copy (h : Complete xs) {x y : Setting σ} (hx : x ∈ xs) (hy : y ∈ xs) :
    y.get (x.copy s start) = if y.key = x.key then y.get s else y.get start := by
  split_ifs with hk
  · obtain rfl := h.eq_of_key hy hx hk
    exact h.own y hy _ _
  · exact h.other hy hx (fun he => hk (he ▸ rfl)) _ _

lemma stated_copy (h : Complete xs) {j : Json} (hx : x ∈ xs)
    (hms : Members.Sorted ((x.key, j) :: ms))
    (hs : ∀ y ∈ xs, Decode.stated y.key y.codec.read (y.get start) ((x.key, j) :: ms) = .ok (y.get s)) :
    ∀ y ∈ xs, Decode.stated y.key y.codec.read (y.get (x.copy s start)) ms = .ok (y.get s) := by
  intro y hy
  rw [h.get_copy hx hy]
  split_ifs with hk
  · rw [Decode.stated, hk, hms.find?_rest]
  · rw [← hs y hy, Decode.stated_other (Ne.symm hk)]

lemma setMembers_ok (h : Complete xs) (hms : Members.Sorted ms)
    (hs : ∀ x ∈ xs, Decode.stated x.key x.codec.read (x.get start) ms = .ok (x.get s)) :
    Decode.setMembers (xs.map field) ms start = .ok s := by
  induction ms generalizing start with
  | nil =>
    have heq : start = s := h.ext fun x hx => Except.ok.inj (hs x hx)
    rw [Decode.setMembers, heq]
  | cons e rest ih =>
    obtain ⟨key, j⟩ := e
    rw [Decode.setMembers]
    cases hf : (xs.map field).find? fun f => f.name = key with
    | none =>
      refine ih hms.of_cons fun x hx => ?_
      have hk : key ≠ x.key := by
        simpa [eq_comm] using List.find?_eq_none.mp hf _ (List.mem_map_of_mem hx)
      rw [← hs x hx, Decode.stated_other hk]
    | some f =>
      have hname : f.name = key := by simpa using List.find?_some hf
      obtain ⟨x, hx, rfl⟩ := List.mem_map.mp (List.mem_of_find?_eq_some hf)
      obtain rfl : x.key = key := hname
      have hread : x.codec.read j = .ok (x.get s) := by
        simpa [Decode.stated, Members.find?] using hs x hx
      simp only [field_set hread]
      exact ih hms.of_cons (h.stated_copy hx hms hs)

lemma setItems_write (h : ∀ x ∈ xs, x.Legal s) (index : Nat) (start : σ) :
    Decode.setItems index (xs.map field) (xs.map (write s)) start = .ok (xs.foldl (copy s) start) := by
  induction xs generalizing index start with
  | nil => rfl
  | cons x xs ih =>
    obtain ⟨hx, hxs⟩ := List.forall_mem_cons.mp h
    rw [List.map_cons, List.map_cons, Decode.setItems, field_set (read_write hx), List.foldl_cons]
    exact ih hxs (index + 1) (x.copy s start)

lemma table_legal (h : Complete xs) {surplus : Decode.Surplus} {typeName : String}
    (hstart : ∀ x ∈ xs, x.Legal start) (j : Json) :
    Yields (fun s => ∀ x ∈ xs, x.Legal s) (Decode.table surplus typeName (xs.map field) start j) := by
  refine Decode.table_yields (List.forall_mem_map.mpr fun x hx j s hs => ?_) hstart j
  refine (x.codec.legal j).map fun a ha y hy => ?_
  by_cases hxy : y = x
  · subst hxy
    rwa [Legal, h.own y hy]
  · rw [Legal, h.other hy hx hxy]
    exact hs y hy

end Complete

/-- A table can be written with the names of its settings, or as the array of their values. -/
inductive Form where
  | members
  | items
  deriving DecidableEq

def entry (s : σ) (x : Setting σ) : String × Json := (x.key, x.write s)

def written (xs : List (Setting σ)) (s : σ) : Form → Json
  | .members => .object (xs.map (entry s))
  | .items => .arr (xs.map (write s))

namespace Complete

lemma find?_entry (h : Complete xs) (hx : x ∈ xs) :
    Members.find? x.key (Members.ofList (xs.map (entry s))) = some (x.write s) := by
  rw [Members.find?_ofList, ← List.map_reverse, List.find?_map]
  cases hf : xs.reverse.find? ((fun e => decide (e.1 = x.key)) ∘ entry s) with
  | none => simpa [entry] using List.find?_eq_none.mp hf x (List.mem_reverse.mpr hx)
  | some y =>
    have hk : (entry s y).1 = x.key := by simpa using List.find?_some hf
    rw [h.eq_of_key (List.mem_reverse.mp (List.mem_of_find?_eq_some hf)) hx hk]
    rfl

lemma table_written (h : Complete xs) {surplus : Decode.Surplus} {typeName : String} {form : Form}
    (hs : ∀ x ∈ xs, x.Legal s) :
    Decode.table surplus typeName (xs.map field) start (written xs s form) = .ok s := by
  cases form with
  | members =>
    refine h.setMembers_ok (Members.Sorted.ofList _) fun x hx => ?_
    rw [Decode.stated, h.find?_entry hx]
    exact read_write (hs x hx)
  | items =>
    have hlength : ¬ (xs.map field).length < (xs.map (write s)).length := by simp
    rw [written, Decode.table, if_neg fun hsurplus => hlength hsurplus.2, setItems_write hs, h.whole]

end Complete

end Setting

def Codec.table {σ : Type} (surplus : Decode.Surplus) (typeName : String) (form : Setting.Form)
    (xs : List (Setting σ)) (start : σ) (h : Setting.Complete xs) (hstart : ∀ x ∈ xs, x.Legal start) :
    Codec σ where
  read := Decode.table surplus typeName (xs.map Setting.field) start
  write s := Setting.written xs s form
  Legal s := ∀ x ∈ xs, x.Legal s
  read_write _ hs := h.table_written hs
  legal := h.table_legal hstart

@[simp] lemma Codec.legal_table {σ : Type} {surplus : Decode.Surplus} {typeName : String}
    {form : Setting.Form} {xs : List (Setting σ)} {start s : σ} {h : Setting.Complete xs}
    {hstart : ∀ x ∈ xs, x.Legal start} :
    (table surplus typeName form xs start h hstart).Legal s ↔ ∀ x ∈ xs, x.Legal s := .rfl

end LanguageHost
