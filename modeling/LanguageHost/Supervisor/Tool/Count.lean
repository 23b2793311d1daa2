import LanguageHost.Supervisor.Tool.Basic

namespace LanguageHost.Tool.Count

structure Counts where
  lines : Nat
  words : Nat
  bytes : Nat

def Counts.add (a b : Counts) : Counts := ⟨a.lines + b.lines, a.words + b.words, a.bytes + b.bytes⟩

def isSpace (b : UInt8) : Bool := b = 32 || (9 ≤ b && b ≤ 13)

def isGraphic (b : UInt8) : Bool := 33 ≤ b && b ≤ 126

def wordCount (inWord : Bool) : Bytes → Nat
  | [] => 0
  | b :: bs =>
    if isSpace b then wordCount false bs
    else if isGraphic b && !inWord then wordCount true bs + 1
    else wordCount inWord bs

def Counts.of (bs : Bytes) : Counts := ⟨bs.count newline, wordCount false bs, bs.length⟩

def letters : List Char := ['c', 'l', 'w']

def shown (a : Arguments) (c : Counts) : List Nat :=
  let all := a.options.isEmpty
  (if all || a.has 'l' then [c.lines] else []) ++ (if all || a.has 'w' then [c.words] else [])
    ++ if all || a.has 'c' then [c.bytes] else []

def padded (width n : Nat) : String :=
  let ds := Nat.toDigits 10 n
  String.ofList (List.replicate (width - ds.length) ' ' ++ ds)

def row (width : Nat) (a : Arguments) (c : Counts) (name : List String) : Bytes :=
  line (String.intercalate " " ((shown a c).map (padded width) ++ name))

def isDirectory (s : Surroundings) (path : String) : Bool :=
  match s.files.lookup ⟨path⟩ with
  | .ok (_, .directory) => true
  | _ => false

def width (a : Arguments) (s : Surroundings) (operands : List String) : Nat :=
  if operands.length = 1 ∧ (shown a ⟨0, 0, 0⟩).length = 1 then 1
  else
    let total := (operands.filterMap (fileBytes? s)).foldr (·.length + ·) 0
    let ds := (Nat.toDigits 10 total).length
    if operands.any fun p => p = "-" || isDirectory s p then max 7 ds else ds

def countsOf (s : Surroundings) : List String → List (String × Counts)
  | [] => []
  | path :: rest =>
    if path ≠ "-" ∧ isDirectory s path then (path, Counts.of []) :: countsOf s rest
    else
      let others := countsOf (if path = "-" then { s with input := [] } else s) rest
      (contents s [path]).map (fun f => (f.1, Counts.of f.2)) ++ others

def output (args : List String) (s : Surroundings) : Bytes :=
  let a := Arguments.ofList args
  if a.within letters then
    let operands := if a.operands.isEmpty then ["-"] else a.operands
    let w := width a s operands
    let rows := countsOf s operands
    let name (path : String) : List String := if a.operands.isEmpty then [] else [path]
    rows.flatMap (fun r => row w a r.2 (name r.1))
      ++ if operands.length ≤ 1 then []
        else row w a ((rows.map Prod.snd).foldl Counts.add ⟨0, 0, 0⟩) ["total"]
  else []

def waits (args : List String) : Bool :=
  let a := Arguments.ofList args
  a.within letters && (a.operands.isEmpty || a.operands.contains "-")

end LanguageHost.Tool.Count
