import LanguageHost.Supervisor.Tool.Basic

namespace LanguageHost.Tool.Cat

structure Style where
  number : Bool
  numberNonblank : Bool
  squeeze : Bool
  showEnds : Bool
  showTabs : Bool
  showNonprinting : Bool

def letters : List Char := ['A', 'b', 'e', 'E', 'n', 's', 't', 'T', 'u', 'v']

def longOptions : List (String × String) :=
  [("--show-all", "-A"), ("--number-nonblank", "-b"), ("--show-ends", "-E"), ("--number", "-n"),
    ("--squeeze-blank", "-s"), ("--show-tabs", "-T"), ("--show-nonprinting", "-v")]

def short (arg : String) : String := ((longOptions.find? (·.1 = arg)).map Prod.snd).getD arg

def Style.of (a : Arguments) : Style where
  number := a.has 'n'
  numberNonblank := a.has 'b'
  squeeze := a.has 's'
  showEnds := a.has 'E' || a.has 'e' || a.has 'A'
  showTabs := a.has 'T' || a.has 't' || a.has 'A'
  showNonprinting := a.has 'v' || a.has 'e' || a.has 't' || a.has 'A'

def caret (n : Nat) : Bytes :=
  if n < 32 then [94, UInt8.ofNat (n + 64)] else if n = 127 then [94, 63] else [UInt8.ofNat n]

def byte (s : Style) (b : UInt8) : Bytes :=
  let n := b.toNat
  if b = 9 then if s.showTabs then caret n else [b]
  else if !s.showNonprinting then [b]
  else if n < 128 then caret n
  else [77, 45] ++ caret (n - 128)

def lineEnd (s : Style) (cut : Bool) : Bytes :=
  if !cut then [] else if s.showEnds then [36, newline] else [newline]

def body (s : Style) (cut : Bool) (l : Bytes) : Bytes :=
  match l.reverse with
  | 13 :: front =>
    if cut && s.showEnds then front.reverse.flatMap (byte s) ++ caret 13 else l.flatMap (byte s)
  | _ => l.flatMap (byte s)

def label (n : Nat) : Bytes :=
  let ds := Nat.toDigits 10 n
  Utf8.encode (List.replicate (6 - ds.length) ' ' ++ ds ++ ['\t'])

def write (s : Style) : Nat → Bool → List Bytes → Bytes
  | _, _, [] => []
  | count, blank, l :: ls =>
    let isBlank := l = [newline]
    if isBlank && blank && s.squeeze then write s count true ls
    else
      let cut := l.getLast? = some newline
      let numbered := if s.numberNonblank then !isBlank else s.number
      (if numbered then label (count + 1) else [])
        ++ body s cut (if cut then l.dropLast else l) ++ lineEnd s cut
        ++ write s (if numbered then count + 1 else count) isBlank ls

def output (args : List String) (s : Surroundings) : Bytes :=
  let a := Arguments.ofList (args.map short)
  if a.within letters then
    write (.of a) 0 false (splitLines ((sources s a.operands).flatMap Prod.snd))
  else []

def waits (args : List String) : Bool :=
  let a := Arguments.ofList (args.map short)
  a.within letters && (a.operands.isEmpty || a.operands.contains "-")

def streams (args : List String) : Bool :=
  let a := Arguments.ofList (args.map short)
  waits args && (a.operands.isEmpty || (a.operands.takeWhile (· ≠ "-")).length + 1 = a.operands.length)

end LanguageHost.Tool.Cat
