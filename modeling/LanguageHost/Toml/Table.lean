import LanguageHost.Toml.Scalar

/-!
The tables of a TOML document while it is read. A table remembers how it came about, because that
decides which later lines may add to it.
-/

namespace LanguageHost.Toml

mutual

inductive Node where
  | value (j : Json)
  | table (t : Table)
  | tables (newest : Table) (older : List Table)

/-- A table that is not `explicit` came about on the way to another key; it is `dotted` if that
key was written with points. -/
inductive Table where
  | mk (explicit dotted : Bool) (entries : List (String × Node))

end

namespace Table

def explicit : Table → Bool
  | mk e _ _ => e

def dotted : Table → Bool
  | mk _ d _ => d

def entries : Table → List (String × Node)
  | mk _ _ es => es

def withEntries (t : Table) (es : List (String × Node)) : Table := mk t.explicit t.dotted es

def get? (t : Table) (key : String) : Option Node := Members.find? key t.entries

def set (t : Table) (key : String) (n : Node) : Table :=
  t.withEntries (Members.insert key n t.entries)

def new : Table := mk true false []

def passage (dotted : Bool) : Table := mk false dotted []

/-- Changes the table at the end of a path. A path of a key with points may not enter a table that
has a header of its own; any path enters the newest table of an array. -/
def modifyAt (byKey : Bool) (f : Table → Result Table) : List String → Table → Result Table
  | [], t => f t
  | key :: path, t => do
    let child := (t.get? key).getD (.table (passage byKey))
    match child with
    | .value _ => .error (.notATable key)
    | .tables newest older => do
      let newest ← modifyAt byKey f path newest
      .ok (t.set key (.tables newest older))
    | .table inner =>
      if byKey && inner.explicit then .error (.duplicateKey key)
      else do
        let inner ← modifyAt byKey f path inner
        .ok (t.set key (.table inner))

def setValue (k : Key) (j : Json) (t : Table) : Result Table :=
  modifyAt true (fun inner =>
    if inner.dotted == k.path.isEmpty then .error (.duplicateKey k.last)
    else match inner.get? k.last with
      | some _ => .error (.duplicateKey k.last)
      | none => .ok (inner.set k.last (.value j))) k.path t

def openTable (k : Key) (t : Table) : Result Table :=
  modifyAt false (fun parent =>
    match parent.get? k.last with
    | none => .ok (parent.set k.last (.table new))
    | some (.table inner) =>
      if inner.explicit || inner.dotted then .error (.duplicateKey k.last)
      else .ok (parent.set k.last (.table (mk true false inner.entries)))
    | some _ => .error (.duplicateKey k.last)) k.path t

def openElement (k : Key) (t : Table) : Result Table :=
  modifyAt false (fun parent =>
    match parent.get? k.last with
    | none => .ok (parent.set k.last (.tables new []))
    | some (.tables newest older) => .ok (parent.set k.last (.tables new (newest :: older)))
    | some _ => .error (.duplicateKey k.last)) k.path t

end Table

mutual

def Node.toJson : Node → Json
  | .value j => j
  | .table t => .obj t.toMembers
  | .tables newest older => .arr (Table.listToJson older [.obj newest.toMembers])

def Table.toMembers : Table → List (String × Json)
  | .mk _ _ es => entriesToMembers es

def entriesToMembers : List (String × Node) → List (String × Json)
  | [] => []
  | (k, n) :: rest => (k, n.toJson) :: entriesToMembers rest

def Table.listToJson : List Table → List Json → List Json
  | [], done => done
  | t :: older, done => Table.listToJson older (.obj t.toMembers :: done)

end

end LanguageHost.Toml
