import LanguageHost.Session.Launch
import LanguageHost.Supervisor.Run

namespace LanguageHost.Supervisor

def target : String := "tessera_lsp::supervisor"

def enter (t : FileTree) : Option FilePath → Except FileFault FileTree
  | none => .ok t
  | some dir =>
    match t.lookup dir with
    | .ok (names, .directory) => .ok { t with working := names }
    | .ok _ => .error .notADirectory
    | .error fault => .error fault

structure Child where
  program : Program
  args : List String
  files : FileTree
  env : List (String × String)

def environmentOf (inherited : List (String × String)) (request : LaunchRequest) :
    List (String × String) :=
  request.env ++ inherited.filter fun e => request.env.all (·.1 ≠ e.1)

def hasNul (s : String) : Bool := s.toList.contains '\x00'

def isUnspeakable (request : LaunchRequest) : Bool :=
  hasNul request.command.program || request.command.args.any hasNul
    || request.env.any (fun e => hasNul e.1 || hasNul e.2)
    || request.workingDirectory.any (hasNul ·.text)

def spawnError (program : String) : FileFault → LaunchError
  | .notFound => .binaryNotFound program
  | fault => .spawnFailed program fault.message

def spawn (t : FileTree) (inherited : List (String × String)) (request : LaunchRequest) :
    Except LaunchError Child :=
  let program := request.command.program
  if isUnspeakable request then
    .error (.spawnFailed program "nul byte found in provided data")
  else
    let env := environmentOf inherited request
    match enter t request.workingDirectory with
    | .error fault => .error (spawnError program fault)
    | .ok files =>
      match findProgram files env program with
      | .error fault => .error (spawnError program fault)
      | .ok found => .ok ⟨found, request.command.args, files, env⟩

def note (level : LogLevel) (language : LanguageId) (message : String)
    (fields : List (String × String)) : LogRecord :=
  ⟨level, target, message, ("language", language.name) :: fields⟩

def launch (t : FileTree) (inherited : List (String × String)) (request : LaunchRequest) :
    List LogRecord × Except LaunchError Child :=
  let spawning := note .debug request.language "spawning language server process"
    [("command", request.command.program)]
  match spawn t inherited request with
  | .error e => ([spawning], .error e)
  | .ok child =>
    ([spawning, note .debug request.language "language server process spawned" []], .ok child)

def Child.run (c : Child) (input : Bytes) : Run :=
  Supervisor.run (c.args.length + 1) c.program c.args ⟨c.files, c.env, input⟩

def Child.output (c : Child) (input : Bytes) : Bytes := (c.run input).output

def Child.written (c : Child) (input : Bytes) : Bytes := (c.run input).written

def Child.exits (c : Child) : Bool := !(c.run []).lingers

def Child.overture (c : Child) : Overture :=
  { signals := (c.written []).map .byte, ended := c.exits }

def Child.finish (c : Child) (language : LanguageId) (closed : Bool) (how : Ending) :
    List LogRecord :=
  if closed || c.exits then [note .debug language "language server exited" []]
  else match how with
    | .terminate =>
      [note .warn language "language server still running, waiting before killing" []]
    | .forceExit => []

def launcher (t : FileTree) (inherited : List (String × String)) :
    Nat → LaunchRequest → List LogRecord × Except LaunchError (Nat → Verdict) :=
  fun _ request =>
    let (notes, child) := launch t inherited request
    (notes, child.map fun _ _ => .whole)

end LanguageHost.Supervisor
