import LanguageHost.Toml.Datetime
import LanguageHost.Toml.Text

namespace LanguageHost.Toml

open Json.Reader (natOf hexValue?)

def digits (good : Char → Bool) : List Char → List Char × List Char
  | [] => ([], [])
  | '_' :: c :: s =>
    if good c then
      let (ds, rest) := digits good s
      (c :: ds, rest)
    else ([], '_' :: c :: s)
  | c :: s =>
    if good c then
      let (ds, rest) := digits good s
      (c :: ds, rest)
    else ([], c :: s)

def digitRun (good : Char → Bool) (s : List Char) : List Char × List Char :=
  match s with
  | '_' :: _ => ([], s)
  | _ => digits good s

def int64 (i : Int) : Result Json :=
  if -0x8000000000000000 ≤ i ∧ i ≤ 0x7fffffffffffffff then .ok (.int i) else .error .badNumber

def radixValue (base : Nat) (ds : List Char) : Nat :=
  ds.foldl (fun n c => n * base + (hexValue? c).getD 0) 0

def isRadixDigit (base : Nat) (c : Char) : Bool := (hexValue? c).any (· < base)

def radixInteger (base : Nat) (s : List Char) : Result (Parsed Json) :=
  match digitRun (isRadixDigit base) s with
  | ([], _) => .error .badNumber
  | (ds, rest) => do .ok (← int64 (radixValue base ds), rest)

def sign : List Char → Bool × List Char
  | '-' :: s => (true, s)
  | '+' :: s => (false, s)
  | s => (false, s)

def floatJson (d : Double) : Json := .float d

def fraction : List Char → Result (Parsed (Option (List Char)))
  | '.' :: s =>
    match digitRun Char.isDigit s with
    | ([], _) => .error .badNumber
    | (ds, rest) => .ok (some ds, rest)
  | s => .ok (none, s)

def exponent : List Char → Result (Parsed (Option Int))
  | c :: s =>
    if c = 'e' ∨ c = 'E' then
      let (negative, s) := sign s
      match digitRun Char.isDigit s with
      | ([], _) => .error .badNumber
      | (ds, rest) => .ok (some (if negative then -(natOf ds : Int) else natOf ds), rest)
    else .ok (none, c :: s)
  | [] => .ok (none, [])

def overflow (d : Dialect) (negative : Bool) : Result Double :=
  if negative && d.negativeOverflow then .ok (.infinity true) else .error .badNumber

def decimal (d : Dialect) (negative : Bool) (s : List Char) : Result (Parsed Json) := do
  let (whole, rest) := digitRun Char.isDigit s
  match whole with
  | [] => .error .badNumber
  | '0' :: _ :: _ => .error .badNumber
  | _ =>
    let (ds, rest) ← fraction rest
    let (e, rest) ← exponent rest
    match ds, e with
    | none, none =>
      let i ← int64 (if negative then -(natOf whole : Int) else natOf whole)
      .ok (i, rest)
    | _, _ =>
      let ds := ds.getD []
      match Double.ofDecimal? negative (natOf (whole ++ ds)) (e.getD 0 - ds.length) with
      | some x => .ok (floatJson x, rest)
      | none => do .ok (floatJson (← overflow d negative), rest)

def number (d : Dialect) (s : List Char) : Result (Parsed Json) :=
  match s with
  | '0' :: 'x' :: rest => radixInteger 16 rest
  | '0' :: 'o' :: rest => radixInteger 8 rest
  | '0' :: 'b' :: rest => radixInteger 2 rest
  | _ =>
    let (negative, rest) := sign s
    match rest with
    | 'i' :: 'n' :: 'f' :: rest => .ok (floatJson (.infinity negative), rest)
    | 'n' :: 'a' :: 'n' :: rest => .ok (floatJson (.nan negative), rest)
    | _ => decimal d negative rest

def literal (w : List Char) (j : Json) (s : List Char) : Result (Parsed Json) :=
  if w.isPrefixOf s then .ok (j, s.drop w.length) else fail s

def scalar (d : Dialect) (s : List Char) : Result (Parsed Json) :=
  match datetime? s with
  | some read => do
    let (t, rest) ← read
    .ok (t.toJson, rest)
  | none =>
    match s with
    | [] => .error .unexpectedEnd
    | c :: _ =>
      if c = 't' then literal ['t', 'r', 'u', 'e'] (.bool true) s
      else if c = 'f' then literal ['f', 'a', 'l', 's', 'e'] (.bool false) s
      else number d s

end LanguageHost.Toml
