import LanguageHost.Path.Basic
import LanguageHost.Text.Utf8

namespace LanguageHost

inductive FileFault where
  | notFound
  | notADirectory
  | invalidInput
  | invalidData
  | nameTooLong
  | permissionDenied
  | other
  deriving DecidableEq

namespace FileFault

def kind : FileFault → String
  | notFound => "NotFound"
  | notADirectory => "NotADirectory"
  | invalidInput => "InvalidInput"
  | invalidData => "InvalidData"
  | nameTooLong => "InvalidFilename"
  | permissionDenied => "PermissionDenied"
  | other => "Other"

def message : FileFault → String
  | notFound => "No such file or directory (os error 2)"
  | notADirectory => "Not a directory (os error 20)"
  | invalidInput => "invalid input"
  | invalidData => "stream did not contain valid UTF-8"
  | nameTooLong => "File name too long (os error 36)"
  | permissionDenied => "Permission denied (os error 13)"
  | other => "other error"

end FileFault

inductive FileEntry where
  | directory
  | file (content : Bytes)
  | special

structure FileTree where
  entries : List (List String × FileEntry)
  working : List String

namespace FileTree

def find? (names : List String) : List (List String × FileEntry) → Option FileEntry
  | [] => none
  | (k, e) :: rest => if k = names then some e else find? names rest

def entry? (t : FileTree) (names : List String) : Option FileEntry :=
  if names.isEmpty then some .directory else find? names t.entries

def put (t : FileTree) (names : List String) (e : FileEntry) : FileTree :=
  { t with entries := (names, e) :: t.entries.filter (·.1 != names) }

def makeDirectory (t : FileTree) (names : List String) : FileTree :=
  (List.range names.length).foldl (fun (t : FileTree) n =>
    let front := names.take (n + 1)
    if (t.entry? front).isSome then t else t.put front .directory) t

def writeFile (t : FileTree) (names : List String) (content : Bytes) : FileTree :=
  (t.makeDirectory names.dropLast).put names (.file content)

def below (root names : List String) : Bool := root.isPrefixOf names

def remove (t : FileTree) (names : List String) : FileTree :=
  { t with entries := t.entries.filter fun e => !below names e.1 }

def maxNameBytes : Nat := 255

def maxPathBytes : Nat := 4095

def walk (t : FileTree) : List String → List (List Char) → Except FileFault (List String × FileEntry)
  | here, [] =>
    match t.entry? here with
    | some e => .ok (here, e)
    | none => .error .notFound
  | here, piece :: rest =>
    match t.entry? here with
    | none => .error .notFound
    | some .directory =>
      if piece = [] ∨ piece = ['.'] then walk t here rest
      else if piece = ['.', '.'] then walk t here.dropLast rest
      else if maxNameBytes < (String.ofList piece).utf8ByteSize then .error .nameTooLong
      else walk t (here ++ [String.ofList piece]) rest
    | some _ => .error .notADirectory

def lookup (t : FileTree) (p : FilePath) : Except FileFault (List String × FileEntry) :=
  let cs := p.text.toList
  if cs.contains '\x00' then .error .invalidInput
  else if cs.isEmpty then .error .notFound
  else if maxPathBytes < p.text.utf8ByteSize then .error .nameTooLong
  else walk t (if p.isAbsolute then [] else t.working) (FilePath.pieces cs)

def pathOf (names : List String) : FilePath :=
  ⟨if names.isEmpty then "/" else String.join (names.map ("/" ++ ·))⟩

def namesOf (p : FilePath) : List String :=
  p.components.foldl (fun names c =>
    match c with
    | .normal name => names ++ [name]
    | .parent => names.dropLast
    | _ => names) []

def content? : FileEntry → Except FileFault String
  | .file bytes =>
    match Utf8.decodeString? bytes with
    | some s => .ok s
    | none => .error .invalidData
  | .directory => .error .other
  | .special => .error .other

def readText (t : FileTree) (p : FilePath) : Except FileFault String := do
  let (_, e) ← t.lookup p
  content? e

end FileTree

end LanguageHost
