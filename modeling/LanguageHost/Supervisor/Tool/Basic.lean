import LanguageHost.Files.Tree

namespace LanguageHost

structure Surroundings where
  files : FileTree
  env : List (String × String)
  input : Bytes

namespace Tool

structure Arguments where
  options : List Char := []
  operands : List String := []

def Arguments.ofList : List String → Arguments
  | [] => {}
  | "--" :: rest => { operands := rest }
  | arg :: rest =>
    let others := ofList rest
    match arg.toList with
    | '-' :: c :: cs => { others with options := c :: cs ++ others.options }
    | _ => { others with operands := arg :: others.operands }

namespace Arguments

def has (a : Arguments) (c : Char) : Bool := a.options.contains c

def within (a : Arguments) (known : List Char) : Bool := a.options.all known.contains

end Arguments

def line (s : String) : Bytes := Utf8.encodeString (s ++ "\n")

def newline : UInt8 := 10

def fileBytes? (s : Surroundings) (path : String) : Option Bytes :=
  match s.files.lookup ⟨path⟩ with
  | .ok (_, .file bytes) => some bytes
  | _ => none

def contents (s : Surroundings) : List String → List (String × Bytes)
  | [] => []
  | "-" :: rest => ("-", s.input) :: contents { s with input := [] } rest
  | path :: rest =>
    match fileBytes? s path with
    | some bytes => (path, bytes) :: contents s rest
    | none => contents s rest

def sources (s : Surroundings) (operands : List String) : List (String × Bytes) :=
  contents s (if operands.isEmpty then ["-"] else operands)

def splitLines : Bytes → List Bytes
  | [] => []
  | b :: bs =>
    if b = newline then [b] :: splitLines bs
    else match splitLines bs with
      | l :: ls => (b :: l) :: ls
      | [] => [[b]]

theorem flatten_splitLines (bs : Bytes) : (splitLines bs).flatten = bs := by
  induction bs with
  | nil => rfl
  | cons b bs ih =>
    unfold splitLines
    split
    · simp [ih]
    · split
      next l ls h => simpa [h] using ih
      next h => simpa [h] using ih

end Tool

end LanguageHost
