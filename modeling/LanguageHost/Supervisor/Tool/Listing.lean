import LanguageHost.Supervisor.Tool.Basic

namespace LanguageHost.Tool.Listing

structure Style where
  hidden : Bool
  dots : Bool
  reverse : Bool
  asFiles : Bool

def letters : List Char := ['1', 'a', 'A', 'd', 'r']

def Style.of (a : Arguments) : Style :=
  ⟨a.has 'a' || a.has 'A', a.has 'a', a.has 'r', a.has 'd'⟩

def isHidden (name : String) : Bool := name.toList.head? = some '.'

def sorted (s : Style) (names : List String) : List String :=
  let up := names.mergeSort fun a b => a ≤ b
  if s.reverse then up.reverse else up

def names (s : Style) (t : FileTree) (directory : List String) : List String :=
  let children := t.entries.filterMap fun e =>
    if e.1.dropLast = directory && !e.1.isEmpty then e.1.getLast? else none
  sorted s ((if s.dots then [".", ".."] else []) ++ children.filter fun n => s.hidden || !isHidden n)

inductive Found where
  | file (path : String)
  | directory (path : String) (names : List String)

def Found.path : Found → String
  | file p => p
  | directory p _ => p

def find? (s : Style) (t : FileTree) (path : String) : Option Found :=
  match t.lookup ⟨path⟩ with
  | .ok (names, .directory) => some (if s.asFiles then .file path else .directory path names)
  | .ok _ => some (.file path)
  | .error _ => none

def linesOf (names : List String) : Bytes := names.flatMap line

def headed (s : Style) (t : FileTree) : Bool → List (String × List String) → Bytes
  | _, [] => []
  | first, (path, directory) :: rest =>
    (if first then [] else [newline]) ++ line (path ++ ":") ++ linesOf (names s t directory)
      ++ headed s t false rest

def listed (s : Style) (t : FileTree) (operands : List String) : Bytes :=
  let found := operands.filterMap (find? s t)
  let files := found.filterMap fun
    | .file p => some p
    | .directory .. => none
  let directories := found.filterMap fun
    | .file _ => none
    | .directory p names => some (p, names)
  let order := sorted s (directories.map Prod.fst)
  let directories := order.filterMap fun p => directories.find? (·.1 = p)
  match files, directories, operands with
  | [], [(_, directory)], [_] => linesOf (names s t directory)
  | files, directories, _ => linesOf (sorted s files) ++ headed s t files.isEmpty directories

def output (args : List String) (s : Surroundings) : Bytes :=
  let a := Arguments.ofList args
  if a.within letters then
    listed (.of a) s.files (if a.operands.isEmpty then ["."] else a.operands)
  else []

end LanguageHost.Tool.Listing
