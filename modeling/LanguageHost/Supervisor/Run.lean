import LanguageHost.Supervisor.Program
import LanguageHost.Supervisor.Tool.Cat
import LanguageHost.Supervisor.Tool.Count
import LanguageHost.Supervisor.Tool.Format
import LanguageHost.Supervisor.Tool.Listing
import LanguageHost.Supervisor.Tool.Order
import LanguageHost.Supervisor.Tool.Part
import LanguageHost.Text.Basic

/-!
Running a program: what it writes when its input is closed, whether it goes on running while the
input is open, and whether it writes then. A program may change the variables and run another one.
-/

namespace LanguageHost.Supervisor

open Tool (line)

structure Run where
  output : Bytes := []
  lingers : Bool := false
  written : Bytes := if lingers then [] else output

def valueOf (s : Surroundings) (name : String) : Bytes :=
  match s.env.find? (·.1 = name) with
  | some (_, value) => line value
  | none => []

def environment (s : Surroundings) : Bytes := s.env.flatMap fun e => line (e.1 ++ "=" ++ e.2)

def lastName : List String → Bytes
  | [] => []
  | path :: endings =>
    let cs := path.toList.reverse.dropWhile (· = '/')
    let name := cs.takeWhile (· ≠ '/')
    let less := match endings with
      | [e] => if e.toList.reverse.isPrefixOf name then name.drop e.toList.length else name
      | _ => name
    if cs.isEmpty then line (if path.isEmpty then "" else "/")
    else line (String.ofList (if less.isEmpty then name else less).reverse)

def directoryName (path : String) : Bytes :=
  let above := (path.toList.reverse.dropWhile (· = '/')).dropWhile (· ≠ '/')
  match (above.dropWhile (· = '/')).reverse with
  | [] => line (if path.toList.head? = some '/' then "/" else ".")
  | cs => line (String.ofList cs)

def change (env : List (String × String)) : List String → Option (List (String × String) × List String)
  | [] => some (env, [])
  | "-i" :: rest => change [] rest
  | "-" :: rest => change [] rest
  | "--ignore-environment" :: rest => change [] rest
  | "-u" :: name :: rest => change (env.filter (·.1 ≠ name)) rest
  | "--" :: rest => some (assign env rest)
  | arg :: rest =>
    if arg.toList.head? = some '-' then none else some (assign env (arg :: rest))
where
  put (env : List (String × String)) (name value : String) : List (String × String) :=
    if env.any (·.1 = name) then env.map fun e => if e.1 = name then (name, value) else e
    else env ++ [(name, value)]
  assign (env : List (String × String)) : List String → List (String × String) × List String
    | [] => (env, [])
    | arg :: rest =>
      match arg.toList.span (· != '=') with
      | (name, _ :: value) => assign (put env (String.ofList name) (String.ofList value)) rest
      | _ => (env, arg :: rest)

def Run.andThen (first : Run) (next : Run) : Run where
  output := first.output ++ next.output
  lingers := first.lingers || next.lingers
  written := if first.lingers then first.written else first.written ++ next.written

def commands (script : String) : List (List String) :=
  go ((script.splitOn "\n").map fun l => (Text.words l.toList).map String.ofList)
where
  go : List (List String) → List (List String)
    | [] => []
    | [] :: rest => go rest
    | ("exec" :: command) :: _ => [command]
    | command :: rest => command :: go rest

def textOf (files : FileTree) (path : String) : String :=
  match files.readText ⟨path⟩ with
  | .ok text => text
  | .error _ => ""

/-- Runs a program; at most `fuel` programs start each other. -/
def run : Nat → Program → List String → Surroundings → Run
  | 0, _, _, _ => {}
  | fuel + 1, p, args, s =>
    match p with
    | .basename => { output := lastName args }
    | .cat =>
      let output := Tool.Cat.output args s
      let lingers := Tool.Cat.waits args
      { output, lingers, written := if lingers && !Tool.Cat.streams args then [] else output }
    | .dirname => { output := args.flatMap directoryName }
    | .echo => { output := Tool.Echo.output args }
    | .env =>
      match change s.env args with
      | none => {}
      | some (env, []) => { output := environment { s with env } }
      | some (env, command :: args) =>
        match findProgram s.files env command with
        | .ok p => run fuel p args { s with env }
        | .error _ => {}
    | .head =>
      { output := Tool.Part.output .front args s, lingers := Tool.Part.waits .front args }
    | .ls => { output := Tool.Listing.output args s }
    | .printenv =>
      { output := if args.isEmpty then environment s else args.flatMap (valueOf s) }
    | .printf => { output := Tool.Format.output args }
    | .pwd => { output := line (FileTree.pathOf s.files.working).text }
    | .seq => { output := Tool.Order.numbers args }
    | .sh =>
      (commands ((args.head?.map (textOf s.files)).getD "")).foldl (fun (r : Run) command =>
        match command with
        | [] => r
        | name :: args =>
          match findProgram s.files s.env name with
          | .ok p => r.andThen (run fuel p args s)
          | .error _ => r) {}
    | .sleep => { lingers := !args.isEmpty }
    | .sort => { output := Tool.Order.sorted args s, lingers := Tool.Order.waits args }
    | .tac => { output := Tool.Order.reversed args s, lingers := Tool.Order.waits args }
    | .tail => { output := Tool.Part.output .back args s, lingers := Tool.Part.waits .back args }
    | .wc => { output := Tool.Count.output args s, lingers := Tool.Count.waits args }
    | .falsity | .truth => {}

end LanguageHost.Supervisor
