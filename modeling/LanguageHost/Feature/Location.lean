import LanguageHost.Json.Shape
import LanguageHost.Path.Uri

namespace LanguageHost

structure Position where
  line : Nat
  character : Nat
  deriving DecidableEq, Inhabited

namespace Position

def toJson (p : Position) : Json :=
  .object [("line", .int p.line), ("character", .int p.character)]

def number? (j : Json) : Option Nat := (j.intIn? 0 0xffffffff).map Int.toNat

def ofJson? : Json → Option Position
  | .obj ms => do
    some ⟨← (Members.find? "line" ms).bind number?, ← (Members.find? "character" ms).bind number?⟩
  | .arr [line, character] => do some ⟨← number? line, ← number? character⟩
  | _ => none

end Position

structure Range where
  start : Position
  stop : Position
  deriving DecidableEq, Inhabited

namespace Range

def toJson (r : Range) : Json := .object [("start", r.start.toJson), ("end", r.stop.toJson)]

def ofJson? : Json → Option Range
  | .obj ms => do
    some ⟨← (Members.find? "start" ms).bind Position.ofJson?,
      ← (Members.find? "end" ms).bind Position.ofJson?⟩
  | .arr [start, stop] => do some ⟨← Position.ofJson? start, ← Position.ofJson? stop⟩
  | _ => none

end Range

def Uri.ofJson? : Json → Option Uri
  | .str s => Uri.parse? s
  | _ => none

structure Location where
  uri : Uri
  range : Range
  deriving DecidableEq, Inhabited

namespace Location

def toJson (l : Location) : Json := .object [("uri", .str l.uri.text), ("range", l.range.toJson)]

def ofJson? : Json → Option Location
  | .obj ms => do
    some ⟨← (Members.find? "uri" ms).bind Uri.ofJson?,
      ← (Members.find? "range" ms).bind Range.ofJson?⟩
  | .arr [uri, range] => do some ⟨← Uri.ofJson? uri, ← Range.ofJson? range⟩
  | _ => none

end Location

structure LocationLink where
  originSelectionRange : Option Range
  targetUri : Uri
  targetRange : Range
  targetSelectionRange : Range
  deriving DecidableEq

namespace LocationLink

def origin? : Option Json → Option (Option Range)
  | none => some none
  | some .null => some none
  | some j => (Range.ofJson? j).map some

def toJson (l : LocationLink) : Json :=
  .object ([("targetUri", .str l.targetUri.text), ("targetRange", l.targetRange.toJson),
    ("targetSelectionRange", l.targetSelectionRange.toJson)]
    ++ (l.originSelectionRange.toList.map fun r => ("originSelectionRange", r.toJson)))

def ofJson? : Json → Option LocationLink
  | .obj ms => do
    some ⟨← origin? (Members.find? "originSelectionRange" ms),
      ← (Members.find? "targetUri" ms).bind Uri.ofJson?,
      ← (Members.find? "targetRange" ms).bind Range.ofJson?,
      ← (Members.find? "targetSelectionRange" ms).bind Range.ofJson?⟩
  | .arr [origin, uri, range, selection] => do
    some ⟨← origin? (some origin), ← Uri.ofJson? uri, ← Range.ofJson? range,
      ← Range.ofJson? selection⟩
  | _ => none

def location (l : LocationLink) : Location := ⟨l.targetUri, l.targetSelectionRange⟩

end LocationLink

def Location.ofItem? (j : Json) : Option Location :=
  ((LocationLink.ofJson? j).map LocationLink.location).or (Location.ofJson? j)

inductive Locations where
  | empty
  | single (l : Location)
  | multiple (first second : Location) (rest : List Location)
  deriving DecidableEq

namespace Locations

def ofList : List Location → Locations
  | [] => empty
  | [l] => single l
  | a :: b :: rest => multiple a b rest

def toList : Locations → List Location
  | empty => []
  | single l => [l]
  | multiple a b rest => a :: b :: rest

def label : Locations → String
  | empty => "empty"
  | single _ => "single"
  | multiple .. => "multiple"

def ofJson? : Json → Option Locations
  | .null => some empty
  | .arr items =>
    match items.mapM Location.ofItem? with
    | some ls => some (ofList ls)
    | none => (Location.ofItem? (.arr items)).map single
  | j => (Location.ofItem? j).map single

@[simp] theorem toList_ofList (ls : List Location) : (ofList ls).toList = ls := by
  match ls with
  | [] => rfl
  | [_] => rfl
  | _ :: _ :: _ => rfl

end Locations

inductive GotoKind where
  | definition
  | declaration
  | typeDefinition
  | implementation
  | references
  deriving DecidableEq

namespace GotoKind

def method : GotoKind → String
  | definition => "textDocument/definition"
  | declaration => "textDocument/declaration"
  | typeDefinition => "textDocument/typeDefinition"
  | implementation => "textDocument/implementation"
  | references => "textDocument/references"

def listsInline : GotoKind → Bool
  | implementation => true
  | references => true
  | _ => false

end GotoKind

inductive GotoOutcome where
  | nothing
  | navigate (l : Location)
  | choose (ls : List Location)
  | listInline (ls : List Location)
  deriving DecidableEq

namespace GotoOutcome

def of (kind : GotoKind) : Locations → GotoOutcome
  | .empty => nothing
  | .single l => navigate l
  | .multiple a b rest =>
    if kind.listsInline then listInline (a :: b :: rest) else choose (a :: b :: rest)

def label : GotoOutcome → String
  | nothing => "nothing"
  | navigate _ => "navigate"
  | choose _ => "choose"
  | listInline _ => "list_inline"

def locations : GotoOutcome → List Location
  | nothing => []
  | navigate l => [l]
  | choose ls => ls
  | listInline ls => ls

theorem locations_of (kind : GotoKind) (ls : Locations) : (of kind ls).locations = ls.toList := by
  cases ls with
  | empty => rfl
  | single _ => rfl
  | multiple => cases h : kind.listsInline <;> simp [of, locations, Locations.toList, h]

end GotoOutcome

end LanguageHost
