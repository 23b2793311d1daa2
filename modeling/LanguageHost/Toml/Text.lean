import LanguageHost.Toml.Lexeme

namespace LanguageHost.Toml

open Json.Reader (hexValue?)

def hexDigits : Nat → Nat → List Char → Result (Parsed Nat)
  | 0, n, s => .ok (n, s)
  | count + 1, n, c :: s =>
    match hexValue? c with
    | some d => hexDigits count (n * 16 + d) s
    | none => .error .badEscape
  | _ + 1, _, [] => .error .unexpectedEnd

def codePoint (count : Nat) (s : List Char) : Result (Parsed Char) := do
  let (n, rest) ← hexDigits count 0 s
  if h : n.isValidChar then .ok (Char.ofNatAux n h, rest) else .error .badEscape

def escape : List Char → Result (Parsed Char)
  | 'b' :: s => .ok ('\x08', s)
  | 't' :: s => .ok ('\t', s)
  | 'n' :: s => .ok ('\n', s)
  | 'f' :: s => .ok ('\x0c', s)
  | 'r' :: s => .ok ('\r', s)
  | '"' :: s => .ok ('"', s)
  | '\\' :: s => .ok ('\\', s)
  | 'u' :: s => codePoint 4 s
  | 'U' :: s => codePoint 8 s
  | [] => .error .unexpectedEnd
  | _ => .error .badEscape

def basicBody : Nat → List Char → List Char → Result (Parsed String)
  | 0, _, _ => .error .unexpectedEnd
  | fuel + 1, done, s =>
    match s with
    | [] => .error .unexpectedEnd
    | '"' :: rest => .ok (String.ofList done.reverse, rest)
    | '\\' :: rest => do
      let (c, rest) ← escape rest
      basicBody fuel (c :: done) rest
    | c :: rest => if isPrintable c then basicBody fuel (c :: done) rest else .error .badString

def literalBody (s : List Char) : Result (Parsed String) :=
  match s.span fun c => isPrintable c && c != '\x27' with
  | (body, '\x27' :: rest) => .ok (String.ofList body, rest)
  | (_, []) => .error .unexpectedEnd
  | _ => .error .badString

def countQuotes (q : Char) (s : List Char) : Nat := min 5 (s.takeWhile (· = q)).length

def skipFold (s : List Char) : List Char :=
  s.dropWhile fun c => c = ' ' || c = '\t' || c = '\n' || c = '\r'

def pairedReturns : List Char → Bool
  | [] => true
  | '\r' :: '\n' :: s => pairedReturns s
  | c :: s => c != '\r' && pairedReturns s

def foldsLine (s : List Char) : Bool := (newline? (skipBlank s)).isSome

/-- The rest of a string of several lines. A run of three to five quotes ends it, and all but the
last three belong to it. -/
def multiLineBody (quote : Char) : Nat → List Char → List Char → Result (Parsed String)
  | 0, _, _ => .error .unexpectedEnd
  | fuel + 1, done, s =>
    match s with
    | [] => .error .unexpectedEnd
    | c :: rest =>
      if c = quote then
        let n := countQuotes quote s
        let done := List.replicate (if 3 ≤ n then n - 3 else n) quote ++ done
        if 3 ≤ n then .ok (String.ofList done.reverse, s.drop n)
        else multiLineBody quote fuel done (s.drop n)
      else if c = '\\' ∧ quote = '"' then
        if foldsLine rest then
          let folded := (skipBlank rest).takeWhile fun c =>
            c = ' ' || c = '\t' || c = '\n' || c = '\r'
          if pairedReturns folded then multiLineBody quote fuel done (skipFold rest)
          else .error .badString
        else do
          let (c, rest) ← escape rest
          multiLineBody quote fuel (c :: done) rest
      else
        match newline? s with
        | some rest => multiLineBody quote fuel ('\n' :: done) rest
        | none =>
          if isPrintable c then multiLineBody quote fuel (c :: done) rest else .error .badString

def multiLine (quote : Char) (s : List Char) : Result (Parsed String) :=
  let s := (newline? s).getD s
  multiLineBody quote (s.length + 1) [] s

def lineString : List Char → Result (Parsed String)
  | '"' :: s => basicBody (s.length + 1) [] s
  | '\x27' :: s => literalBody s
  | s => fail s

def string : List Char → Result (Parsed String)
  | '"' :: '"' :: '"' :: s => multiLine '"' s
  | '\x27' :: '\x27' :: '\x27' :: s => multiLine '\x27' s
  | s => lineString s

def keyPart (s : List Char) : Result (Parsed String) :=
  match s with
  | '"' :: _ => lineString s
  | '\x27' :: _ => lineString s
  | _ =>
    match s.span isKeyChar with
    | ([], _) => .error .badKey
    | (part, rest) => .ok (String.ofList part, rest)

def keyParts : Nat → List Char → Result (Parsed (List String))
  | 0, _ => .error .unexpectedEnd
  | fuel + 1, s => do
    let (part, rest) ← keyPart (skipBlank s)
    match skipBlank rest with
    | '.' :: rest => do
      let (parts, rest) ← keyParts fuel rest
      .ok (part :: parts, rest)
    | rest => .ok ([part], rest)

structure Key where
  path : List String
  last : String

def key (s : List Char) : Result (Parsed Key) := do
  let (parts, rest) ← keyParts (s.length + 1) s
  match parts.getLast? with
  | none => .error .badKey
  | some last =>
    if depthLimit < parts.length then .error .tooDeep else .ok (⟨parts.dropLast, last⟩, rest)

end LanguageHost.Toml
