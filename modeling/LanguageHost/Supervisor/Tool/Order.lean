import LanguageHost.Supervisor.Tool.Basic

namespace LanguageHost.Tool.Order

def reversed (args : List String) (s : Surroundings) : Bytes :=
  (sources s (Arguments.ofList args).operands).flatMap fun f => (splitLines f.2).reverse.flatten

def lessEq : Bytes → Bytes → Bool
  | [], _ => true
  | _ :: _, [] => false
  | a :: as, b :: bs => a < b || (a = b && lessEq as bs)

def sortLetters : List Char := ['r', 'u']

def sorted (args : List String) (s : Surroundings) : Bytes :=
  let a := Arguments.ofList args
  if a.within sortLetters then
    let text := (sources s a.operands).flatMap fun f =>
      if f.2.isEmpty ∨ f.2.getLast? = some newline then f.2 else f.2 ++ [newline]
    let up := ((splitLines text).map List.dropLast).mergeSort lessEq
    let up := if a.has 'u' then up.eraseDups else up
    (if a.has 'r' then up.reverse else up).flatMap (· ++ [newline])
  else []

def waits (args : List String) : Bool :=
  let a := Arguments.ofList args
  a.operands.isEmpty || a.operands.contains "-"

def rows (first step last : Int) : Bytes :=
  if step = 0 then []
  else
    let count := (last - first).fdiv step + 1
    (List.range count.toNat).flatMap fun (i : Nat) => line (toString (first + i * step))

def numbers (args : List String) : Bytes :=
  match args.map String.toInt? with
  | [some last] => rows 1 1 last
  | [some first, some last] => rows first 1 last
  | [some first, some step, some last] => rows first step last
  | _ => []

end LanguageHost.Tool.Order
