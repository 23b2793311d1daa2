import LanguageHost.Json.Reader

namespace LanguageHost.Toml

inductive SyntaxError where
  | unexpectedEnd
  | unexpected (c : Char)
  | badString
  | badEscape
  | badNumber
  | badDatetime
  | badKey
  | tooDeep
  | duplicateKey (key : String)
  | notATable (key : String)
  deriving DecidableEq

def SyntaxError.message : SyntaxError → String
  | unexpectedEnd => "unexpected end of text"
  | unexpected c => "unexpected character " ++ c.toString
  | badString => "invalid string"
  | badEscape => "invalid escape"
  | badNumber => "invalid number"
  | badDatetime => "invalid date or time"
  | badKey => "invalid key"
  | tooDeep => "too many nested values"
  | duplicateKey key => "duplicate key " ++ key
  | notATable key => key ++ " is not a table"

structure Dialect where
  negativeOverflow : Bool

namespace Dialect

def layer : Dialect := ⟨true⟩

def file : Dialect := ⟨false⟩

end Dialect

def depthLimit : Nat := 79

abbrev Result := Except SyntaxError

abbrev Parsed (α : Type) := α × List Char

def isBlank (c : Char) : Bool := c = ' ' || c = '\t'

def skipBlank (s : List Char) : List Char := s.dropWhile isBlank

def isPrintable (c : Char) : Bool := c = '\t' || (0x20 ≤ c.toNat && c.toNat != 0x7F)

def skipComment : List Char → List Char
  | '#' :: s => s.dropWhile isPrintable
  | s => s

def newline? : List Char → Option (List Char)
  | '\n' :: s => some s
  | '\r' :: '\n' :: s => some s
  | _ => none

def endOfLine (s : List Char) : Result (List Char) :=
  match skipComment (skipBlank s) with
  | [] => .ok []
  | c :: rest =>
    match newline? (c :: rest) with
    | some rest => .ok rest
    | none => .error (.unexpected c)

def skipLines : Nat → List Char → List Char
  | 0, s => s
  | fuel + 1, s =>
    let s := skipComment (skipBlank s)
    match newline? s with
    | some rest => skipLines fuel rest
    | none => s

def isKeyChar (c : Char) : Bool := c.isAlphanum || c = '_' || c = '-'

def fail {α : Type} : List Char → Result α
  | [] => .error .unexpectedEnd
  | c :: _ => .error (.unexpected c)

end LanguageHost.Toml
