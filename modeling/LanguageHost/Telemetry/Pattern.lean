import LanguageHost.Text.Basic

/-!
Which texts are patterns for the value of a field. Only the form counts here: groups and classes are
closed, a repetition has something to repeat, and an escape is known. Classes of characters that
need tables of the Unicode standard are not known.
-/

namespace LanguageHost.Telemetry.Pattern

def isHex (c : Char) : Bool :=
  c.isDigit || ('a' ≤ c && c ≤ 'f') || ('A' ≤ c && c ≤ 'F')

def codePoint? (count : Nat) (s : List Char) : Option (List Char) :=
  let ds := s.take count
  if ds.length = count ∧ ds.all isHex then some (s.drop count) else none

def escape? : List Char → Option (List Char)
  | [] => none
  | 'x' :: s => codePoint? 2 s
  | 'u' :: s => codePoint? 4 s
  | 'U' :: s => codePoint? 8 s
  | c :: s =>
    if ['a', 'f', 't', 'n', 'r', 'v'].contains c then some s
    else if c.toNat < 0x80 && !c.isAlphanum && c != '<' && c != '>' then some s
    else none

def isAnchor (c : Char) : Bool := c = 'A' || c = 'z'

def class? : Nat → Nat → Bool → List Char → Option (List Char)
  | 0, _, _, _ => none
  | fuel + 1, depth, first, s =>
    match s with
    | [] => none
    | '^' :: rest => class? fuel depth first rest
    | '[' :: rest => class? fuel (depth + 1) true rest
    | ']' :: rest =>
      if first then class? fuel depth false rest
      else match depth with
        | 0 => some rest
        | depth + 1 => class? fuel depth false rest
    | '\\' :: rest => (escape? rest).bind (class? fuel depth false)
    | a :: '-' :: b :: rest =>
      if b = ']' ∨ b = '[' ∨ b = '-' ∨ b = '\\' then class? fuel depth false ('-' :: b :: rest)
      else if a ≤ b then class? fuel depth false rest
      else none
    | _ :: rest => class? fuel depth false rest

def isFlag (c : Char) : Bool := ['m', 's', 'u', 'U', 'x', 'R', '-'].contains c

def groupHead? : List Char → Option (Bool × List Char)
  | '?' :: 'P' :: '<' :: s => name s
  | '?' :: '<' :: s => name s
  | '?' :: s =>
    match s.dropWhile isFlag with
    | ':' :: rest => some (false, rest)
    | ')' :: rest => if s.head? = some ')' then none else some (true, rest)
    | _ => none
  | s => some (false, s)
where
  name (s : List Char) : Option (Bool × List Char) :=
    match s.span fun c => c.isAlphanum || c = '_' with
    | (c :: _, '>' :: rest) => if c.isDigit then none else some (false, rest)
    | _ => none

def isRepetition (c : Char) : Bool := c = '*' || c = '+' || c = '?'

def scan : Nat → Nat → Bool → List Char → Bool
  | 0, _, _, _ => false
  | fuel + 1, depth, repeatable, s =>
    match s with
    | [] => depth = 0
    | '\\' :: c :: rest =>
      if isAnchor c then scan fuel depth true rest
      else match escape? (c :: rest) with
        | some rest => scan fuel depth true rest
        | none => false
    | '\\' :: [] => false
    | '[' :: rest =>
      match class? fuel 0 true rest with
      | some rest => scan fuel depth true rest
      | none => false
    | '(' :: rest =>
      match groupHead? rest with
      | some (false, rest) => scan fuel (depth + 1) false rest
      | some (true, rest) => scan fuel depth false rest
      | none => false
    | ')' :: rest =>
      match depth with
      | 0 => false
      | depth + 1 => scan fuel depth true rest
    | '|' :: rest => scan fuel depth false rest
    | '\x7b' :: _ => false
    | c :: rest => if isRepetition c then repeatable && scan fuel depth true rest
      else scan fuel depth true rest

def isPattern (s : List Char) : Bool := scan (s.length + 1) 0 false s

end LanguageHost.Telemetry.Pattern
