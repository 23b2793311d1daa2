namespace LanguageHost

structure FilePath where
  text : String
  deriving DecidableEq, Inhabited

namespace FilePath

inductive Component where
  | root
  | current
  | parent
  | normal (name : String)
  deriving DecidableEq

def Component.text : Component → String
  | root => "/"
  | current => "."
  | parent => ".."
  | normal name => name

def pieces : List Char → List (List Char)
  | [] => [[]]
  | '/' :: cs => [] :: pieces cs
  | c :: cs =>
    match pieces cs with
    | p :: ps => (c :: p) :: ps
    | [] => [[c]]

def isAbsolute (p : FilePath) : Bool := p.text.toList.head? = some '/'

def component? (piece : List Char) : Option Component :=
  if piece = [] ∨ piece = ['.'] then none
  else if piece = ['.', '.'] then some .parent
  else some (.normal (String.ofList piece))

def components (p : FilePath) : List Component :=
  let ps := pieces p.text.toList
  let first := if p.isAbsolute then [Component.root]
    else if ps.head? = some ['.'] then [Component.current]
    else []
  first ++ ps.filterMap component?

def join (p q : FilePath) : FilePath :=
  if q.isAbsolute || p.text.isEmpty then q
  else if p.text.toList.getLast? = some '/' then ⟨p.text ++ q.text⟩
  else ⟨p.text ++ "/" ++ q.text⟩

def startsWith (p root : FilePath) : Bool := root.components.isPrefixOf p.components

def fileName? (p : FilePath) : Option String :=
  match p.components.getLast? with
  | some (.normal name) => some name
  | _ => none

def same (p q : FilePath) : Bool := p.components == q.components

theorem same_iff (p q : FilePath) : p.same q = true ↔ p.components = q.components := by
  simp [same]

end FilePath

end LanguageHost
