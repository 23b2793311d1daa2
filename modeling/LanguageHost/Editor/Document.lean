import LanguageHost.Editor.Language
import LanguageHost.Path.Uri

namespace LanguageHost

structure DocumentId where
  number : Nat
  deriving DecidableEq

structure Document where
  id : DocumentId
  language : Option LanguageId
  path : Option FilePath
  text : String
  modified : Bool := false

namespace Document

def setText (d : Document) (text : String) : Document := { d with text, modified := true }

def uri (d : Document) : Except String Uri :=
  match d.path with
  | some p => Uri.ofPath p
  | none =>
    match Uri.parse? (Uri.untitled d.id.number) with
    | some u => .ok u
    | none => .error (Uri.untitled d.id.number)

end Document

structure WorkspaceEdit where
  value : Json

structure Workspace where
  documents : List Document := []
  active : Option DocumentId := none
  edits : List WorkspaceEdit := []
  acceptsEdits : Bool := false

namespace Workspace

def insert (w : Workspace) (d : Document) : Workspace :=
  { w with documents := w.documents.filter (·.id ≠ d.id) ++ [d] }

def get? (w : Workspace) (id : DocumentId) : Option Document := w.documents.find? (·.id = id)

def modify? (w : Workspace) (id : DocumentId) (f : Document → Document) : Option Workspace :=
  if (w.get? id).isSome then
    some { w with documents := w.documents.map fun d => if d.id = id then f d else d }
  else none

def applyEdit (w : Workspace) (e : WorkspaceEdit) : Workspace × Bool :=
  ({ w with edits := w.edits ++ [e] }, w.acceptsEdits)

theorem get?_insert_self (w : Workspace) (d : Document) : (w.insert d).get? d.id = some d := by
  have h : w.documents.find? (fun _ => false) = none := by simp
  simp [insert, get?, List.find?_append, List.find?_filter, h]

end Workspace

end LanguageHost
