import LanguageHost.Editor.Language
import LanguageHost.Files.Tree
import LanguageHost.LogRecord
import LanguageHost.Text.Basic
import LanguageHost.Wire.Frame

namespace LanguageHost

structure CommandLine where
  program : String
  args : List String
  deriving DecidableEq

namespace CommandLine

def expand (home : Option String) (cs : List Char) : List Char :=
  match cs, home with
  | '~' :: '/' :: rest, some home => home.toList ++ '/' :: rest
  | cs, _ => cs

def parse? (home : Option String) (input : String) : Option CommandLine :=
  match Text.words (expand home (Text.trim input.toList)) with
  | [] => none
  | program :: args => some ⟨String.ofList program, args.map String.ofList⟩

end CommandLine

inductive Lifecycle where
  | stopped
  | starting
  | awaitingInitialize
  | ready
  | shuttingDown
  deriving DecidableEq

def Lifecycle.label : Lifecycle → String
  | stopped => "stopped"
  | starting => "starting"
  | awaitingInitialize => "awaiting initialize response"
  | ready => "ready"
  | shuttingDown => "shutting down"

def maxRestarts : Nat := 5

def shutdownTimeout : Nat := 2000

def terminationGrace : Nat := 200

structure LaunchRequest where
  language : LanguageId
  command : CommandLine
  env : List (String × String)
  showStderr : Bool
  workingDirectory : Option FilePath

inductive LaunchError where
  | emptyCommand
  | binaryNotFound (command : String)
  | spawnFailed (command : String) (reason : String)
  | connection (e : TransportError)
  | missingPipe (stream : String)

def LaunchError.message : LaunchError → String
  | emptyCommand => "language server command line is empty"
  | binaryNotFound command => "language server binary not found: " ++ command
  | spawnFailed command reason =>
    "failed to spawn language server '" ++ command ++ "': " ++ reason
  | connection e => "failed to connect to language server: " ++ e.message
  | missingPipe stream => "language server process is missing its " ++ stream ++ " pipe"

inductive Ending where
  | terminate
  | forceExit
  deriving DecidableEq

/-- The output of a new server that its reader takes before the handshake is submitted. -/
structure Overture where
  signals : List Frame.Signal := []
  ended : Bool := false

/-- Everything that a session learns from outside. A launcher is given the number of the attempt and
answers with what becomes of the frames sent to the new server. -/
structure Environment where
  processId : Nat
  home : Option String
  launch : Nat → LaunchRequest → List LogRecord × Except LaunchError (Nat → Verdict)
  attach : Nat → Except TransportError Unit := fun _ => .ok ()
  readText : FilePath → Except FileFault String
  early : Nat → LaunchRequest → Overture := fun _ _ => {}
  lead : Nat := 0
  complaint : Json → String := fun _ => "invalid parameters"

def Environment.overture (e : Environment) (generation : Nat) (request : LaunchRequest) : Overture :=
  let o := e.early generation request
  { o with signals := o.signals.take e.lead }

end LanguageHost
