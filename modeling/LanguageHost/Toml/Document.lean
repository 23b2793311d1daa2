import LanguageHost.Toml.Table

namespace LanguageHost.Toml

def inlineTable (pairs : List (Key × Json)) : Result Json := do
  let t ← pairs.foldlM (fun (t : Table) p => t.setValue p.1 p.2) Table.new
  .ok (.obj t.toMembers)

mutual

def value (d : Dialect) (fuel depth : Nat) (s : List Char) : Result (Parsed Json) :=
  match fuel with
  | 0 => .error .unexpectedEnd
  | fuel + 1 =>
    match s with
    | '"' :: _ => do
      let (t, rest) ← string s
      .ok (.str t, rest)
    | '\x27' :: _ => do
      let (t, rest) ← string s
      .ok (.str t, rest)
    | '[' :: rest =>
      if depthLimit ≤ depth then .error .tooDeep
      else items d fuel (depth + 1) [] rest
    | '\x7b' :: rest =>
      if depthLimit ≤ depth then .error .tooDeep
      else match skipBlank rest with
        | '\x7d' :: rest => .ok (.obj [], rest)
        | _ => pairs d fuel (depth + 1) [] rest
    | _ => scalar d s

def items (d : Dialect) (fuel depth : Nat) (done : List Json) (s : List Char) :
    Result (Parsed Json) :=
  match fuel with
  | 0 => .error .unexpectedEnd
  | fuel + 1 =>
    match skipLines (s.length + 1) s with
    | ']' :: rest => .ok (.arr done.reverse, rest)
    | s => do
      let (j, rest) ← value d fuel depth s
      match skipLines (rest.length + 1) rest with
      | ',' :: rest => items d fuel depth (j :: done) rest
      | ']' :: rest => .ok (.arr (j :: done).reverse, rest)
      | s => fail s

def pairs (d : Dialect) (fuel depth : Nat) (done : List (Key × Json)) (s : List Char) :
    Result (Parsed Json) :=
  match fuel with
  | 0 => .error .unexpectedEnd
  | fuel + 1 => do
    let (k, rest) ← key s
    match rest with
    | '=' :: rest => do
      let (j, rest) ← value d fuel depth (skipBlank rest)
      match skipBlank rest with
      | ',' :: rest => pairs d fuel depth ((k, j) :: done) rest
      | '\x7d' :: rest => do
        let j ← inlineTable ((k, j) :: done).reverse
        .ok (j, rest)
      | s => fail s
    | s => fail s

end

inductive Line where
  | empty
  | pair (k : Key) (j : Json)
  | table (k : Key)
  | element (k : Key)

def line (d : Dialect) (s : List Char) : Result (Parsed Line) :=
  match skipBlank s with
  | '[' :: '[' :: rest => do
    let (k, rest) ← key rest
    match rest with
    | ']' :: ']' :: rest => .ok (.element k, ← endOfLine rest)
    | s => fail s
  | '[' :: rest => do
    let (k, rest) ← key rest
    match rest with
    | ']' :: rest => .ok (.table k, ← endOfLine rest)
    | s => fail s
  | s =>
    match endOfLine s with
    | .ok rest => .ok (.empty, rest)
    | .error _ => do
      let (k, rest) ← key s
      match rest with
      | '=' :: rest => do
        let rest := skipBlank rest
        let (j, rest) ← value d (2 * rest.length + 2) 0 rest
        .ok (.pair k j, ← endOfLine rest)
      | s => fail s

structure Progress where
  root : Table
  current : List String

def Progress.add (p : Progress) : Line → Result Progress
  | .empty => .ok p
  | .pair k j => do
    let root ← p.root.modifyAt false (Table.setValue k j) p.current
    .ok { p with root }
  | .table k => do .ok ⟨← p.root.openTable k, k.path ++ [k.last]⟩
  | .element k => do .ok ⟨← p.root.openElement k, k.path ++ [k.last]⟩

def lines (d : Dialect) : Nat → Progress → List Char → Result Progress
  | 0, p, _ => .ok p
  | fuel + 1, p, s =>
    if s.isEmpty then .ok p
    else do
      let (l, rest) ← line d s
      lines d fuel (← p.add l) rest

def dropMark : List Char → List Char
  | c :: s => if c.toNat = 0xFEFF then s else c :: s
  | [] => []

def parse (d : Dialect) (text : String) : Result (List (String × Json)) := do
  let s := dropMark text.toList
  let p ← lines d (s.length + 1) ⟨Table.new, []⟩ s
  .ok p.root.toMembers

end LanguageHost.Toml
