import LanguageHost.Decimal.Scaled
import LanguageHost.Json.Basic
import LanguageHost.Text.Utf8

/-!
Strict JSON text: no comments, no trailing commas, no control characters in strings, at most 127
arrays and objects inside each other. Integers of 64 bits stay integers; any other number is read
with a significand of 64 bits.
-/

namespace LanguageHost.Json

inductive SyntaxError where
  | unexpectedEnd
  | unexpected (c : Char)
  | controlCharacter
  | badEscape
  | loneSurrogate
  | badNumber
  | outOfRange
  | tooDeep
  | trailing (c : Char)
  | notUtf8
  deriving DecidableEq

def SyntaxError.message : SyntaxError → String
  | unexpectedEnd => "unexpected end of text"
  | unexpected c => "unexpected character " ++ c.toString
  | controlCharacter => "control character in a string"
  | badEscape => "invalid escape"
  | loneSurrogate => "lone surrogate in a string"
  | badNumber => "invalid number"
  | outOfRange => "number out of range"
  | tooDeep => "too many nested values"
  | trailing c => "unexpected character after the value: " ++ c.toString
  | notUtf8 => "the text is not UTF-8"

namespace Reader

abbrev Parsed (α : Type) := α × List Char

abbrev Result := Except SyntaxError

def isBlank (c : Char) : Bool := c = ' ' || c = '\t' || c = '\n' || c = '\r'

def skipBlank (s : List Char) : List Char := s.dropWhile isBlank

def hexValue? (c : Char) : Option Nat :=
  if c.isDigit then some (c.toNat - '0'.toNat)
  else if 'a' ≤ c ∧ c ≤ 'f' then some (c.toNat - 'a'.toNat + 10)
  else if 'A' ≤ c ∧ c ≤ 'F' then some (c.toNat - 'A'.toNat + 10)
  else none

def hex4 : List Char → Result (Parsed Nat)
  | a :: b :: c :: d :: rest =>
    match hexValue? a, hexValue? b, hexValue? c, hexValue? d with
    | some a, some b, some c, some d => .ok (((a * 16 + b) * 16 + c) * 16 + d, rest)
    | _, _, _, _ => .error .badEscape
  | _ => .error .unexpectedEnd

def unicodeEscape (s : List Char) : Result (Parsed Char) := do
  let (n, rest) ← hex4 s
  if 0xDC00 ≤ n ∧ n < 0xE000 then .error .loneSurrogate
  else if 0xD800 ≤ n ∧ n < 0xDC00 then
    match rest with
    | '\\' :: 'u' :: rest => do
      let (m, rest) ← hex4 rest
      if 0xDC00 ≤ m ∧ m < 0xE000 then
        .ok (Char.ofNat (0x10000 + (n - 0xD800) * 0x400 + (m - 0xDC00)), rest)
      else .error .loneSurrogate
    | _ => .error .loneSurrogate
  else .ok (Char.ofNat n, rest)

def simpleEscape? : Char → Option Char
  | '"' => some '"'
  | '\\' => some '\\'
  | '/' => some '/'
  | 'b' => some '\x08'
  | 'f' => some '\x0c'
  | 'n' => some '\n'
  | 'r' => some '\r'
  | 't' => some '\t'
  | _ => none

def stringBody : Nat → List Char → List Char → Result (Parsed String)
  | 0, _, _ => .error .unexpectedEnd
  | fuel + 1, done, s =>
    match s with
    | [] => .error .unexpectedEnd
    | '"' :: rest => .ok (String.ofList done.reverse, rest)
    | '\\' :: 'u' :: rest => do
      let (c, rest) ← unicodeEscape rest
      stringBody fuel (c :: done) rest
    | '\\' :: c :: rest =>
      match simpleEscape? c with
      | some c => stringBody fuel (c :: done) rest
      | none => .error .badEscape
    | c :: rest =>
      if c.toNat < 0x20 then .error .controlCharacter else stringBody fuel (c :: done) rest

def digitsOf (s : List Char) : List Char × List Char := (s.takeWhile Char.isDigit, s.dropWhile Char.isDigit)

def digitValue (c : Char) : Nat := c.toNat - '0'.toNat

def natOf (digits : List Char) : Nat := digits.foldl (fun n c => n * 10 + digitValue c) 0

def fractionPart : List Char → Result (Parsed (Option (List Char)))
  | '.' :: s =>
    match digitsOf s with
    | ([], _) => .error .badNumber
    | (ds, rest) => .ok (some ds, rest)
  | s => .ok (none, s)

def signedExponent (negative : Bool) (s : List Char) : Result (Parsed (Option Int)) :=
  match digitsOf s with
  | ([], _) => .error .badNumber
  | (ds, rest) => .ok (some (if negative then -(natOf ds : Int) else natOf ds), rest)

def exponentPart : List Char → Result (Parsed (Option Int))
  | c :: s =>
    if c = 'e' ∨ c = 'E' then
      match s with
      | '+' :: s => signedExponent false s
      | '-' :: s => signedExponent true s
      | s => signedExponent false s
    else .ok (none, c :: s)
  | [] => .ok (none, [])

def integer? (negative : Bool) (n : Nat) : Option Int :=
  if negative then
    if 0 < n ∧ n ≤ 0x8000000000000000 then some (-(n : Int)) else none
  else if n < UInt64.size then some n else none

def numberValue (negative : Bool) (whole : List Char) (fraction : Option (List Char))
    (exponent : Option Int) : Except SyntaxError Json :=
  let asFloat : Except SyntaxError Json :=
    let decimal := Scaled.ofDigits (whole.map digitValue) ((fraction.getD []).map digitValue)
      (exponent.getD 0)
    match decimal.toDouble? negative with
    | some d => .ok (.float d)
    | none => .error .outOfRange
  match fraction, exponent with
  | none, none =>
    match integer? negative (natOf whole) with
    | some i => .ok (.int i)
    | none => asFloat
  | _, _ => asFloat

def number (negative : Bool) (s : List Char) : Result (Parsed Json) := do
  let (whole, rest) := digitsOf s
  match whole with
  | [] => .error .badNumber
  | '0' :: _ :: _ => .error .badNumber
  | _ =>
    let (fraction, rest) ← fractionPart rest
    let (exponent, rest) ← exponentPart rest
    let j ← numberValue negative whole fraction exponent
    .ok (j, rest)

def word (w : List Char) (j : Json) (s : List Char) : Result (Parsed Json) :=
  if w.isPrefixOf s then .ok (j, s.drop w.length)
  else if s.isPrefixOf w then .error .unexpectedEnd
  else .error (.unexpected (s.headD ' '))

mutual

/-- A value inside at most `depth` further arrays and objects. -/
def value (fuel depth : Nat) (s : List Char) : Result (Parsed Json) :=
  match fuel with
  | 0 => .error .unexpectedEnd
  | fuel + 1 =>
    match skipBlank s with
    | [] => .error .unexpectedEnd
    | '"' :: rest => do
      let (t, rest) ← stringBody (rest.length + 1) [] rest
      .ok (.str t, rest)
    | '[' :: rest =>
      match depth with
      | 0 => .error .tooDeep
      | depth + 1 =>
        match skipBlank rest with
        | ']' :: rest => .ok (.arr [], rest)
        | rest => items fuel depth [] rest
    | '\x7b' :: rest =>
      match depth with
      | 0 => .error .tooDeep
      | depth + 1 =>
        match skipBlank rest with
        | '\x7d' :: rest => .ok (.obj [], rest)
        | rest => members fuel depth [] rest
    | '-' :: rest => number true rest
    | c :: rest =>
      if c = 't' then word ['t', 'r', 'u', 'e'] (.bool true) (c :: rest)
      else if c = 'f' then word ['f', 'a', 'l', 's', 'e'] (.bool false) (c :: rest)
      else if c = 'n' then word ['n', 'u', 'l', 'l'] .null (c :: rest)
      else if c.isDigit then number false (c :: rest)
      else .error (.unexpected c)

def items (fuel depth : Nat) (done : List Json) (s : List Char) : Result (Parsed Json) :=
  match fuel with
  | 0 => .error .unexpectedEnd
  | fuel + 1 => do
    let (j, rest) ← value fuel depth s
    match skipBlank rest with
    | ',' :: rest => items fuel depth (j :: done) rest
    | ']' :: rest => .ok (.arr (j :: done).reverse, rest)
    | c :: _ => .error (.unexpected c)
    | [] => .error .unexpectedEnd

def members (fuel depth : Nat) (done : List (String × Json)) (s : List Char) : Result (Parsed Json) :=
  match fuel with
  | 0 => .error .unexpectedEnd
  | fuel + 1 =>
    match skipBlank s with
    | '"' :: rest => do
      let (k, rest) ← stringBody (rest.length + 1) [] rest
      match skipBlank rest with
      | ':' :: rest => do
        let (j, rest) ← value fuel depth rest
        match skipBlank rest with
        | ',' :: rest => members fuel depth ((k, j) :: done) rest
        | '\x7d' :: rest => .ok (.object ((k, j) :: done).reverse, rest)
        | c :: _ => .error (.unexpected c)
        | [] => .error .unexpectedEnd
      | c :: _ => .error (.unexpected c)
      | [] => .error .unexpectedEnd
    | c :: _ => .error (.unexpected c)
    | [] => .error .unexpectedEnd

end

end Reader

def maxDepth : Nat := 127

def parseChars (s : List Char) : Except SyntaxError Json := do
  let (j, rest) ← Reader.value (2 * s.length + 2) maxDepth s
  match Reader.skipBlank rest with
  | [] => .ok j
  | c :: _ => .error (.trailing c)

def parse (s : String) : Except SyntaxError Json := parseChars s.toList

def parseBytes (bs : Bytes) : Except SyntaxError Json :=
  match Utf8.decode? bs with
  | some s => parseChars s
  | none => .error .notUtf8

end LanguageHost.Json
