import LanguageHost.Supervisor.Tool.Basic

namespace LanguageHost.Tool.Echo

def isOption (s : String) : Bool :=
  match s.toList with
  | '-' :: c :: cs => (c :: cs).all fun c => c = 'n' || c = 'e' || c = 'E'
  | _ => false

def octal? (c : Char) : Option Nat := if '0' ≤ c ∧ c ≤ '7' then some (c.toNat - 48) else none

def hex? (c : Char) : Option Nat :=
  if c.isDigit then some (c.toNat - 48)
  else if 'a' ≤ c ∧ c ≤ 'f' then some (c.toNat - 87)
  else if 'A' ≤ c ∧ c ≤ 'F' then some (c.toNat - 55)
  else none

def digits (digit? : Char → Option Nat) (base : Nat) : Nat → Nat → List Char → Nat × List Char
  | 0, n, cs => (n, cs)
  | _ + 1, n, [] => (n, [])
  | count + 1, n, c :: cs =>
    match digit? c with
    | some d => digits digit? base count (n * base + d) cs
    | none => (n, c :: cs)

def named? : Char → Option UInt8
  | 'a' => some 7
  | 'b' => some 8
  | 'e' => some 27
  | 'f' => some 12
  | 'n' => some 10
  | 'r' => some 13
  | 't' => some 9
  | 'v' => some 11
  | '\\' => some 92
  | _ => none

def escape? : List Char → Option (UInt8 × List Char)
  | [] => none
  | 'x' :: c :: cs =>
    (hex? c).map fun d =>
      let (n, rest) := digits hex? 16 1 d cs
      (UInt8.ofNat n, rest)
  | '0' :: cs =>
    let (n, rest) := digits octal? 8 3 0 cs
    some (UInt8.ofNat n, rest)
  | c :: cs =>
    match octal? c with
    | some d =>
      let (n, rest) := digits octal? 8 2 d cs
      some (UInt8.ofNat n, rest)
    | none => (named? c).map fun b => (b, cs)

def expand : Nat → List Char → Bytes × Bool
  | 0, _ => ([], false)
  | fuel + 1, s =>
    match s with
    | [] => ([], false)
    | '\\' :: 'c' :: _ => ([], true)
    | c :: cs =>
      match (if c = '\\' then escape? cs else none) with
      | some (b, rest) =>
        let (bs, ended) := expand fuel rest
        (b :: bs, ended)
      | none =>
        let (bs, ended) := expand fuel cs
        (Utf8.encodeChar c ++ bs, ended)

def escapes (options : List Char) : Bool :=
  (options.reverse.find? fun c => c = 'e' || c = 'E') = some 'e'

def output (args : List String) : Bytes :=
  let options := (args.takeWhile isOption).flatMap String.toList
  let text := (String.intercalate " " (args.dropWhile isOption)).toList
  let ending := if options.contains 'n' then [] else [newline]
  if escapes options then
    let (bs, ended) := expand (text.length + 1) text
    if ended then bs else bs ++ ending
  else Utf8.encode text ++ ending

end LanguageHost.Tool.Echo
