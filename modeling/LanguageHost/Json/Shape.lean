import LanguageHost.Json.Basic

/-!
Shapes of JSON values: which values a part of the protocol allows, and the canonical form in which
an allowed value is written back. Members that a shape does not know are left out, and so are
optional members that are `null`.
-/

namespace LanguageHost.Json

inductive Presence where
  | required
  | optional
  | nullable
  deriving DecidableEq

inductive Shape where
  | any
  | bool
  | text
  | int (least greatest : Int)
  | textThat (test : String → Bool)
  | oneOf (names : List String)
  | list (item : Shape)
  | chunks (size : Nat) (item : Shape)
  | tuple (items : List Shape)
  | map (test : String → Bool) (value : Shape)
  | record (fields : List (String × Presence × Shape))
  | tagged (key : String) (kinds : List (String × List (String × Presence × Shape)))
  | either (alternatives : List Shape)
  | nullOr (s : Shape)
  | again

namespace Shape

abbrev Fields := List (String × Presence × Shape)

def word32 : Shape := .int 0 0xffffffff

def int32 : Shape := .int (-0x80000000) 0x7fffffff

def absent? (key : String) : Presence → Option (List (String × Json))
  | .required => none
  | .optional => some []
  | .nullable => some [(key, .null)]

def kind? (kinds : List (String × Fields)) : Json → Option (String × Fields)
  | .str s => kinds.find? (·.1 = s)
  | .int (.ofNat n) => kinds[n]?
  | _ => none

mutual

/-- The canonical form of a value of the shape `s`, inside the shape `whole`; `none` if the value
does not fit. -/
def canonical? (whole : Shape) (fuel : Nat) (s : Shape) (j : Json) : Option Json :=
  match fuel with
  | 0 => none
  | fuel + 1 =>
    match s, j with
    | .any, j => some j
    | .bool, .bool b => some (.bool b)
    | .text, .str t => some (.str t)
    | .int least greatest, .int i => if least ≤ i ∧ i ≤ greatest then some (.int i) else none
    | .textThat test, .str t => if test t then some (.str t) else none
    | .oneOf names, .str t => if names.contains t then some (.str t) else none
    | .oneOf names, .obj [(t, .null)] => if names.contains t then some (.str t) else none
    | .list item, .arr items => (each? whole fuel item items).map .arr
    | .chunks size item, .arr items =>
      if items.length % size = 0 then (each? whole fuel item items).map .arr else none
    | .tuple shapes, .arr items =>
      if shapes.length = items.length then (zip? whole fuel shapes items).map .arr else none
    | .map test value, .obj ms => (values? whole fuel test value ms).map .obj
    | .record fields, .obj ms => (named? whole fuel fields ms).map .object
    | .record fields, .arr items =>
      if fields.length = items.length then (placed? whole fuel fields items).map .object else none
    | .tagged key kinds, .obj ms => do
      let (name, fields) ← (Members.find? key ms).bind (kind? kinds)
      let rest ← named? whole fuel fields (Members.erase key ms)
      some (.object ((key, .str name) :: rest))
    | .tagged key kinds, .arr (tag :: items) => do
      let (name, fields) ← kind? kinds tag
      if fields.length = items.length then
        let rest ← placed? whole fuel fields items
        some (.object ((key, .str name) :: rest))
      else none
    | .either alternatives, j => first? whole fuel alternatives j
    | .nullOr _, .null => some .null
    | .nullOr s, j => canonical? whole fuel s j
    | .again, j => canonical? whole fuel whole j
    | _, _ => none

def each? (whole : Shape) (fuel : Nat) (item : Shape) (js : List Json) : Option (List Json) :=
  match fuel with
  | 0 => none
  | fuel + 1 =>
    match js with
    | [] => some []
    | j :: rest => do
      let c ← canonical? whole fuel item j
      some (c :: (← each? whole fuel item rest))

def zip? (whole : Shape) (fuel : Nat) (shapes : List Shape) (js : List Json) :
    Option (List Json) :=
  match fuel with
  | 0 => none
  | fuel + 1 =>
    match shapes, js with
    | s :: shapes, j :: rest => do
      let c ← canonical? whole fuel s j
      some (c :: (← zip? whole fuel shapes rest))
    | _, _ => some []

def values? (whole : Shape) (fuel : Nat) (test : String → Bool) (value : Shape)
    (ms : List (String × Json)) : Option (List (String × Json)) :=
  match fuel with
  | 0 => none
  | fuel + 1 =>
    match ms with
    | [] => some []
    | (key, j) :: rest =>
      if test key then do
        let c ← canonical? whole fuel value j
        some ((key, c) :: (← values? whole fuel test value rest))
      else none

def member? (whole : Shape) (fuel : Nat) (key : String) (presence : Presence) (s : Shape)
    (j : Json) : Option (List (String × Json)) :=
  match fuel with
  | 0 => none
  | fuel + 1 =>
    if presence ≠ .required ∧ j.isNull then absent? key presence
    else (canonical? whole fuel s j).map fun c => [(key, c)]

def named? (whole : Shape) (fuel : Nat) (fields : Fields) (ms : List (String × Json)) :
    Option (List (String × Json)) :=
  match fuel with
  | 0 => none
  | fuel + 1 =>
    match fields with
    | [] => some []
    | (key, presence, s) :: fields => do
      let here ← match Members.find? key ms with
        | some j => member? whole fuel key presence s j
        | none => absent? key presence
      some (here ++ (← named? whole fuel fields ms))

def placed? (whole : Shape) (fuel : Nat) (fields : Fields) (js : List Json) :
    Option (List (String × Json)) :=
  match fuel with
  | 0 => none
  | fuel + 1 =>
    match fields, js with
    | (key, presence, s) :: fields, j :: rest => do
      let here ← member? whole fuel key presence s j
      some (here ++ (← placed? whole fuel fields rest))
    | _, _ => some []

def first? (whole : Shape) (fuel : Nat) (alternatives : List Shape) (j : Json) : Option Json :=
  match fuel with
  | 0 => none
  | fuel + 1 =>
    match alternatives with
    | [] => none
    | s :: rest => (canonical? whole fuel s j).or (first? whole fuel rest j)

end

mutual

/-- A bound for the work on a value: every step goes to a smaller part of it, to one of the few
alternatives, or to one of the few fields. -/
def size : Json → Nat
  | .arr items => 1 + sizeOfItems items
  | .obj ms => 1 + sizeOfMembers ms
  | _ => 1

def sizeOfItems : List Json → Nat
  | [] => 0
  | j :: rest => size j + sizeOfItems rest

def sizeOfMembers : List (String × Json) → Nat
  | [] => 0
  | (_, j) :: rest => size j + sizeOfMembers rest

end

def read? (s : Shape) (j : Json) : Option Json := canonical? s (64 * size j + 64) s j

end Shape

end LanguageHost.Json
