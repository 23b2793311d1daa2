import LanguageHost.Toml.Lexeme

namespace LanguageHost.Toml

open Json.Reader (natOf)

structure Date where
  year : Nat
  month : Nat
  day : Nat

structure TimeOfDay where
  hour : Nat
  minute : Nat
  second : Nat
  nanosecond : Nat

inductive Zone where
  | utc
  | offset (minutes : Int)

inductive Datetime where
  | date (d : Date)
  | time (t : TimeOfDay)
  | local_ (d : Date) (t : TimeOfDay)
  | zoned (d : Date) (t : TimeOfDay) (z : Zone)

def padded (width n : Nat) : List Char :=
  let ds := Nat.toDigits 10 n
  List.replicate (width - ds.length) '0' ++ ds

namespace Date

def chars (d : Date) : List Char := padded 4 d.year ++ '-' :: padded 2 d.month ++ '-' :: padded 2 d.day

end Date

namespace TimeOfDay

def fraction (t : TimeOfDay) : List Char :=
  if t.nanosecond = 0 then []
  else '.' :: ((padded 9 t.nanosecond).reverse.dropWhile (· = '0')).reverse

def chars (t : TimeOfDay) : List Char :=
  padded 2 t.hour ++ ':' :: padded 2 t.minute ++ ':' :: padded 2 t.second ++ t.fraction

end TimeOfDay

namespace Zone

def chars : Zone → List Char
  | utc => ['Z']
  | offset m =>
    (if m < 0 then '-' else '+') :: padded 2 (m.natAbs / 60) ++ ':' :: padded 2 (m.natAbs % 60)

end Zone

namespace Datetime

def chars : Datetime → List Char
  | date d => d.chars
  | time t => t.chars
  | local_ d t => d.chars ++ 'T' :: t.chars
  | zoned d t z => d.chars ++ 'T' :: t.chars ++ z.chars

def text (d : Datetime) : String := String.ofList d.chars

def memberName : String := "$__toml_private_datetime"

def toJson (d : Datetime) : Json := .obj [(memberName, .str d.text)]

end Datetime

def field (count least greatest : Nat) (s : List Char) : Option (Parsed Nat) :=
  let ds := s.take count
  let n := natOf ds
  if ds.length = count ∧ ds.all Char.isDigit ∧ least ≤ n ∧ n ≤ greatest then
    some (n, s.drop count)
  else none

def daysInMonth (year month : Nat) : Nat :=
  if month = 2 then
    if year % 4 = 0 ∧ (year % 100 ≠ 0 ∨ year % 400 = 0) then 29 else 28
  else if month = 4 ∨ month = 6 ∨ month = 9 ∨ month = 11 then 30
  else 31

def hyphen : List Char → Option (List Char)
  | '-' :: s => some s
  | _ => none

def colon : List Char → Option (List Char)
  | ':' :: s => some s
  | _ => none

def date (s : List Char) : Option (Parsed Date) := do
  let (year, s) ← field 4 0 9999 s
  let (month, s) ← field 2 1 12 (← hyphen s)
  let (day, s) ← field 2 1 (daysInMonth year month) (← hyphen s)
  some (⟨year, month, day⟩, s)

def offset (s : List Char) : Option (Parsed Nat) := do
  let (hours, s) ← field 2 0 23 s
  let (minutes, s) ← field 2 0 59 (← colon s)
  some (hours * 60 + minutes, s)

def nanoseconds (ds : List Char) : Nat :=
  let kept := ds.take 9
  natOf kept * Nat.pow 10 (9 - kept.length)

def secondFraction (s : List Char) : Parsed Nat :=
  match s with
  | '.' :: rest =>
    match rest.span Char.isDigit with
    | ([], _) => (0, s)
    | (ds, rest) => (nanoseconds ds, rest)
  | _ => (0, s)

def time (s : List Char) : Option (Parsed TimeOfDay) := do
  let (hour, s) ← field 2 0 23 s
  let (minute, s) ← field 2 0 59 (← colon s)
  let (second, s) ← field 2 0 60 (← colon s)
  let (nanosecond, s) := secondFraction s
  some (⟨hour, minute, second, nanosecond⟩, s)

def startsDate (s : List Char) : Bool :=
  match field 4 0 9999 s with
  | some (_, '-' :: _) => true
  | _ => false

def startsTime (s : List Char) : Bool :=
  match field 2 0 23 s with
  | some (_, ':' :: _) => true
  | _ => false

def orFail {α : Type} : Option α → Result α
  | some a => .ok a
  | none => .error .badDatetime

def zone (s : List Char) : Result (Parsed (Option Zone)) :=
  match s with
  | 'Z' :: rest => .ok (some .utc, rest)
  | 'z' :: rest => .ok (some .utc, rest)
  | '+' :: rest => do
    let (minutes, rest) ← orFail (offset rest)
    .ok (some (.offset minutes), rest)
  | '-' :: rest => do
    let (minutes, rest) ← orFail (offset rest)
    .ok (some (.offset (-minutes)), rest)
  | _ => .ok (none, s)

def isTimeMark (c : Char) : Bool := c = 'T' || c = 't' || c = ' '

def timeOfDate (d : Date) (s : List Char) : Result (Parsed Datetime) := do
  let (t, rest) ← orFail (time s)
  match ← zone rest with
  | (some z, rest) => .ok (.zoned d t z, rest)
  | (none, rest) => .ok (.local_ d t, rest)

def dateFirst (s : List Char) : Result (Parsed Datetime) := do
  let (d, rest) ← orFail (date s)
  match rest with
  | c :: more =>
    if isTimeMark c && startsTime more then timeOfDate d more else .ok (.date d, rest)
  | [] => .ok (.date d, [])

def datetime? (s : List Char) : Option (Result (Parsed Datetime)) :=
  if startsDate s then some (dateFirst s)
  else if startsTime s then some do
    let (t, rest) ← orFail (time s)
    .ok (.time t, rest)
  else none

end LanguageHost.Toml
