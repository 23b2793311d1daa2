import LanguageHost.Scripted.Server
import LanguageHost.Session.Documents
import LanguageHost.Session.Pump
import LanguageHost.Session.Request

/-!
A session among scripted servers, or among child processes. What the session does is shown to the
servers; what they put out is delivered piece by piece, or at once while the session waits.
-/

namespace LanguageHost

structure Stage where
  host : Host
  workspace : Workspace := {}
  script : Script := {}
  children : Option (LaunchRequest → Option Supervisor.Child) := none
  servers : List ScriptedServer := []
  seen : Nat := 0

namespace Stage

def launcher (s : Script) : Nat → LaunchRequest → List LogRecord × Except LaunchError (Nat → Verdict) :=
  fun _ request => ([], s.launched request)

def pipeSize : Nat := 65536

def longOptions : Nat := 1000000

/-- Whether the handshake with the server of a request is held up by its options. -/
def dawdles (host : Host) (t : FileTree) (request : LaunchRequest) : Bool :=
  match (host.settings.server request.language.name).toOption with
  | none => false
  | some settings =>
    match ({ language := request.language, settings : Instance }.optionsFile host.root) with
    | none => false
    | some path =>
      match (t.lookup path).toOption with
      | some (_, .file content) => longOptions ≤ content.length
      | _ => false

def withChildren (s : Stage) (t : FileTree) (inherited : List (String × String)) : Stage :=
  let child (request : LaunchRequest) := (Supervisor.spawn t inherited request).toOption
  let early (request : LaunchRequest) : Overture :=
    if dawdles s.host t request then ((child request).map (·.overture)).getD {} else {}
  let environment := { s.host.environment with
    launch := Supervisor.launcher t inherited
    readText := t.readText
    early := fun _ => early
    lead := pipeSize }
  { s with host := { s.host with environment }, children := some child }

def setFiles (s : Stage) (t : FileTree) (inherited : List (String × String)) : Stage :=
  if s.children.isSome then s.withChildren t inherited
  else { s with
    host := { s.host with environment := { s.host.environment with readText := t.readText } } }

def setScript (s : Stage) (script : Script) : Stage :=
  { s with
    script
    host := { s.host with environment := { s.host.environment with launch := launcher script } } }

def updateServer (s : Stage) (launch : Nat) (f : ScriptedServer → ScriptedServer) : Stage :=
  { s with servers := s.servers.map fun server => if server.launch = launch then f server else server }

def newcomer (s : Stage) (generation : Nat) (request : LaunchRequest) : Option ScriptedServer :=
  match s.children with
  | some child =>
    (child request).map (.ofChild generation (s.host.environment.overture generation request))
  | none =>
    if s.script.launch = .ok then some { launch := generation, script := s.script } else none

def witness (s : Stage) : Effect → Stage
  | .launched generation request =>
    { s with servers := s.servers ++ (s.newcomer generation request).toList }
  | .submitted generation m (.ok ()) => s.updateServer generation (·.hear m)
  | .submitted _ _ (.error _) => s
  | .ended generation _ => s.updateServer generation ScriptedServer.kill
  | .logged .. => s

def react (s : Stage) : Stage :=
  let fresh := s.host.connections.trace.drop s.seen
  { fresh.foldl witness s with seen := s.host.connections.trace.length }

def withConnections (s : Stage) (f : Connections → Connections) : Stage :=
  { s with host := { s.host with connections := f s.host.connections } }

def hand (s : Stage) (launch : Nat) : Output → Stage
  | .bytes arrivals => s.withConnections (·.receive launch (Frame.signals arrivals))
  | .finish => s.withConnections (·.endOutput launch)

def deliverOne (s : Stage) : Option Stage :=
  match s.servers.find? fun server => !server.outbox.isEmpty with
  | none => none
  | some server =>
    match server.outbox with
    | [] => none
    | output :: rest =>
      some ((s.updateServer server.launch fun server => { server with outbox := rest }).hand
        server.launch output)

def backlog (s : Stage) : Nat := s.servers.foldr (·.outbox.length + ·) 0

def deliverMany : Nat → Stage → Stage
  | 0, s => s
  | fuel + 1, s =>
    match s.deliverOne with
    | none => s
    | some s => deliverMany fuel s

def deliver (s : Stage) : Stage := deliverMany s.backlog s

def act {α : Type} (s : Stage) (f : Host → Host × α) : Stage × α :=
  let (host, a) := f s.host
  ({ s with host }.react, a)

def act_ (s : Stage) (f : Host → Host) : Stage := { s with host := f s.host }.react

def process (s : Stage) : Stage × List HostEvent :=
  let (host, workspace, events) := s.host.processEvents s.workspace
  ({ s with host, workspace }.react, events)

def patience : Nat := 100000

def pumpMany : Nat → Stage → Stage × List HostEvent
  | 0, s => s.process
  | fuel + 1, s =>
    let (s, events) := s.process
    match s.deliverOne with
    | none => (s, events)
    | some s =>
      let (s, more) := pumpMany fuel s
      (s, events ++ more)

def pump (s : Stage) : Stage × List HostEvent := pumpMany patience s

def pumpWait (s : Stage) (limit : Nat) : Stage × List HostEvent :=
  let s := s.deliver
  let (host, workspace, events) := s.host.pumpEvents s.workspace limit
  ({ s with host, workspace }.react, events)

def answerAtOnce (s : Stage) : Stage := s.react.deliver

def handleMany : Nat → Stage → Stage
  | 0, s => s
  | fuel + 1, s =>
    match s.host.handleNext s.workspace with
    | none => s
    | some (host, workspace) => handleMany fuel { s with host, workspace }.answerAtOnce

def turn (s : Stage) (limit : Nat) : Stage :=
  let s := if s.host.connections.inbox.isEmpty then { s with host := s.host.pass limit } else s
  let s := handleMany patience s
  { s with host := s.host.settle s.workspace }.answerAtOnce

def waitReadyMany : Nat → Nat → LanguageId → Stage → Stage × Except HostError Unit
  | 0, _, l, s => (s, .error (.timeout l .initialise))
  | fuel + 1, deadline, l, s =>
    let (host, r) := s.host.readiness l
    let s := { s with host }
    match r with
    | .ready => (s, .ok ())
    | .failed e => (s, .error e)
    | .waiting serving =>
      if deadline ≤ s.host.now then (s, .error (.timeout serving .initialise))
      else waitReadyMany fuel deadline l (s.turn (deadline - s.host.now))

def waitReady (s : Stage) (l : LanguageId) (limit : Nat) : Stage × Except HostError Unit :=
  let s := s.deliver
  waitReadyMany patience (s.host.now + limit) l s

def waitStopped : Nat → Nat → Stage → Stage
  | 0, _, s => s
  | fuel + 1, deadline, s =>
    if s.host.hasRunning && s.host.now < deadline then
      waitStopped fuel deadline (s.turn (deadline - s.host.now))
    else s

def isStopped : HostEvent → Bool
  | .stopped _ => true
  | _ => false

def stoppedName : HostEvent → String
  | .stopped l => l.name
  | _ => ""

def stoppedLast (events : List HostEvent) : List HostEvent :=
  let (stopped, others) := events.partition isStopped
  others ++ stopped.mergeSort fun a b => stoppedName a ≤ stoppedName b

def shutdownAll (s : Stage) (limit : Nat) : Stage × List HostEvent :=
  let s := s.deliver
  let deadline := s.host.now + limit
  let s := { s with host := s.host.beginShutdownAll }.answerAtOnce
  let s := waitStopped patience deadline s
  let (host, events) := s.host.finishShutdownAll
  ({ s with host }.answerAtOnce, stoppedLast events)

def latest (s : Stage) : Option Nat := (s.servers.getLast?).map (·.launch)

def breakInput (s : Stage) (launch : Nat) (f : Fault) : Stage :=
  s.withConnections (·.setPlan launch (Sink.broken f))

def takeEffects (s : Stage) : Stage × List Effect :=
  ({ s.withConnections ({ · with trace := [] }) with seen := 0 }, s.host.connections.trace)

end Stage

end LanguageHost
