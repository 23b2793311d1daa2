import LanguageHost.Supervisor.Tool.Basic

namespace LanguageHost.Tool.Part

inductive Side where
  | front
  | back
  deriving DecidableEq

structure Extent where
  bytes : Bool := false
  complement : Bool := false
  count : Nat := 10

structure Request where
  extent : Extent := {}
  operands : List String := []

def number? (cs : List Char) : Option Nat :=
  if cs.isEmpty || !cs.all Char.isDigit then none
  else some (cs.foldl (fun n c => n * 10 + (c.toNat - 48)) 0)

def extent? (side : Side) (bytes : Bool) (cs : List Char) : Option Extent :=
  match side, cs with
  | .front, '-' :: ds => (number? ds).map (⟨bytes, true, ·⟩)
  | .back, '+' :: ds => (number? ds).map fun n => ⟨bytes, true, n - 1⟩
  | .back, '-' :: ds => (number? ds).map (⟨bytes, false, ·⟩)
  | _, ds => (number? ds).map (⟨bytes, false, ·⟩)

def request? (side : Side) : List String → Option Request
  | [] => some {}
  | "--" :: rest => some { operands := rest }
  | "-n" :: n :: rest => put side (extent? side false n.toList) rest
  | "-c" :: n :: rest => put side (extent? side true n.toList) rest
  | arg :: rest =>
    match arg.toList with
    | '-' :: 'n' :: ds => put side (extent? side false ds) rest
    | '-' :: 'c' :: ds => put side (extent? side true ds) rest
    | '-' :: d :: ds => put side ((number? (d :: ds)).map (⟨false, false, ·⟩)) rest
    | _ => (request? side rest).map fun r => { r with operands := arg :: r.operands }
where
  put (side : Side) (e : Option Extent) (rest : List String) : Option Request :=
    match e, others? side rest with
    | some e, some operands => some ⟨e, operands⟩
    | _, _ => none
  others? (side : Side) : List String → Option (List String)
    | [] => some []
    | "--" :: rest => some rest
    | arg :: rest =>
      match arg.toList with
      | '-' :: _ :: _ => none
      | _ => (others? side rest).map (arg :: ·)

def take (side : Side) (e : Extent) (pieces : List Bytes) : List Bytes :=
  let n := e.count
  match side, e.complement with
  | .front, false => pieces.take n
  | .front, true => pieces.take (pieces.length - n)
  | .back, false => pieces.drop (pieces.length - n)
  | .back, true => pieces.drop n

def cut (side : Side) (e : Extent) (bs : Bytes) : Bytes :=
  (take side e (if e.bytes then bs.map (fun b => [b]) else splitLines bs)).flatten

def title (path : String) : String := if path = "-" then "standard input" else path

def headed (side : Side) (e : Extent) : Bool → List (String × Bytes) → Bytes
  | _, [] => []
  | first, (path, bs) :: rest =>
    (if first then [] else [newline]) ++ line ("==> " ++ title path ++ " <==") ++ cut side e bs
      ++ headed side e false rest

def output (side : Side) (args : List String) (s : Surroundings) : Bytes :=
  match request? side args with
  | none => []
  | some r =>
    let files := sources s r.operands
    if r.operands.length ≤ 1 then files.flatMap fun f => cut side r.extent f.2
    else headed side r.extent true files

def waits (side : Side) (args : List String) : Bool :=
  match request? side args with
  | none => false
  | some r => r.operands.isEmpty || r.operands.contains "-"

end LanguageHost.Tool.Part
