import LanguageHost.Json.Reader
import LanguageHost.Session.Connections
import LanguageHost.Session.Error
import LanguageHost.Session.Handshake

/-!
One server of one language: launch, handshake, shutdown and end. A restart replaces the whole
instance and keeps only the count of restarts.
-/

namespace LanguageHost

structure Instance where
  language : LanguageId
  settings : ServerSettings
  state : Lifecycle := .stopped
  capabilities : CapabilitySet := {}
  restarts : Nat := 0
  connection : Option Nat := none
  opened : List (DocumentId × Uri) := []
  handshake : Option Json := none
  deadline : Option Nat := none

def sessionTarget : String := "tessera_lsp::session"

namespace Instance

def languageField (i : Instance) : String × String := ("language", i.language.name)

def note (i : Instance) (level : LogLevel) (message : String) (fields : List (String × String)) :
    LogRecord :=
  ⟨level, sessionTarget, message, i.languageField :: fields⟩

def openUri? (i : Instance) (id : DocumentId) : Option Uri :=
  (i.opened.find? (·.1 = id)).map Prod.snd

def addOpen (i : Instance) (id : DocumentId) (uri : Uri) : Instance :=
  { i with opened := i.opened ++ [(id, uri)] }

def removeOpen (i : Instance) (id : DocumentId) : Instance :=
  { i with opened := i.opened.filter (·.1 ≠ id) }

def optionsFile (i : Instance) (root : Option FilePath) : Option FilePath :=
  i.settings.initializationOptionsFile.map fun p =>
    match root with
    | some r => if p.isAbsolute then p else r.join p
    | none => p

def options (i : Instance) (root : Option FilePath) (env : Environment) : List LogRecord × Json :=
  match i.optionsFile root with
  | none => ([], .obj [])
  | some p =>
    match (env.readText p).toOption.bind fun text => (Json.parse text).toOption with
    | some (.obj ms) => ([], .obj ms)
    | some _ =>
      ([i.note .warn "initialization options must be a JSON object; ignoring" []], .obj [])
    | none => ([i.note .warn "cannot load initialization options; ignoring" []], .obj [])

def launchRequest (i : Instance) (root : Option FilePath) (env : Environment) :
    Except LaunchError LaunchRequest :=
  match i.settings.commandLine?.bind (CommandLine.parse? env.home) with
  | none => .error .emptyCommand
  | some command =>
    .ok ⟨i.language, command, i.settings.env, i.settings.showServerStderr, root⟩

/-- Attaches a new connection and begins the handshake on it. The reader runs already while the
options are read; where it has stopped by then, the handshake is refused. -/
def connect (i : Instance) (root : Option FilePath) (env : Environment) (generation : Nat)
    (plan : Nat → Verdict) (o : Overture) (c : Connections) : Connections × Instance :=
  let c := c.add (.start i.language generation i.settings.rpcTrace plan)
  let c := c.log (i.note .info "language server started"
    [("generation", toString generation), ("restarts", toString i.restarts)])
  let (notes, options) := i.options root env
  let c := (notes.foldl Connections.log c).overhear generation o
  let c :=
    match c.call generation "initialize" (Handshake.params env.processId root options)
      .handshake with
    | (c, .ok _) => c
    | (c, .error e) => c.post ⟨i.language, generation, .initializeResponse (.error e)⟩
  (c, { i with connection := some generation, state := .awaitingInitialize })

def start (i : Instance) (root : Option FilePath) (env : Environment) (generation : Nat)
    (c : Connections) : Connections × Except LaunchError Instance :=
  match i.launchRequest root env with
  | .error e => (c, .error e)
  | .ok request =>
    let (notes, launched) := env.launch generation request
    let c := notes.foldl Connections.log (c.record (.launched generation request))
    match launched with
    | .error e => (c, .error e)
    | .ok plan =>
      match env.attach generation with
      | .error e => (c.record (.ended generation .forceExit), .error (.connection e))
      | .ok () =>
        let (c, i) := i.connect root env generation plan (env.overture generation request) c
        (c, .ok i)

def notify (i : Instance) (method : String) (params : Json) (c : Connections) :
    Connections × Except RpcError Unit :=
  match i.connection with
  | some generation => c.notify generation method params
  | none => (c, .error .cancelled)

def featureNote (i : Instance) (f : Feature × FeatureSource) : LogRecord :=
  i.note .debug "negotiated feature"
    [("feature", f.1.label), ("enabled", toString f.2.isEnabled), ("source", f.2.label)]

def initializeSucceeded (i : Instance) (response : Json) (c : Connections) :
    Connections × Instance × Except RpcError Unit :=
  let capabilities := CapabilitySet.negotiate response i.settings
  let i := { i with capabilities, handshake := some response, state := .ready }
  let c := capabilities.features.foldl (fun c f => c.log (i.featureNote f)) c
  let (c, sent) := i.notify "initialized" (.obj []) c
  (c, i, sent)

def reset (i : Instance) : Instance :=
  { i with connection := none, state := .stopped, opened := [], deadline := none }

def finish (i : Instance) (how : Ending) (c : Connections) : Connections × Instance :=
  (match i.connection with
    | some generation => c.finish generation how
    | none => c,
    i.reset)

def teardown (i : Instance) (c : Connections) : Connections × Instance := i.finish .terminate c

def forceStop (i : Instance) (c : Connections) : Connections × Instance := i.finish .forceExit c

/-- Asks the server to shut down. The answer is whether it has stopped already. -/
def beginShutdown (i : Instance) (now : Nat) (c : Connections) : Connections × Instance × Bool :=
  match i.connection with
  | none => (c, { i with state := .stopped }, true)
  | some generation =>
    let i := { i with state := .shuttingDown, deadline := some (now + shutdownTimeout) }
    match c.call generation "shutdown" .null .shutdown with
    | (c, .ok _) => (c, i, false)
    | (c, .error _) =>
      let c := c.log (i.note .warn "cannot send shutdown; killing language server" [])
      let (c, i) := i.forceStop c
      (c, i, true)

/-- Takes the answer to `shutdown`. The answer is whether the server has stopped; otherwise it was
told to exit. -/
def shutdownAcknowledged (i : Instance) (outcome : Outcome) (c : Connections) :
    Connections × Instance × Bool :=
  let (c, sent) :=
    match outcome with
    | .ok _ => i.notify "exit" .null c
    | .error e => (c, .error e)
  match sent with
  | .ok _ => (c, i, false)
  | .error _ =>
    let c := c.log (i.note .warn "shutdown failed; killing language server" [])
    let (c, i) := i.forceStop c
    (c, i, true)

def isOverdue (i : Instance) (now : Nat) : Bool :=
  i.state = .shuttingDown && i.deadline.any (· ≤ now)

end Instance

end LanguageHost
