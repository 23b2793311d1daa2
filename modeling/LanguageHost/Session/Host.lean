import LanguageHost.Session.Slots
import LanguageHost.Session.Sync
import LanguageHost.Settings.Loader

/-!
A session: every language server of an editor and the documents that they know. Servers are started
when a document needs them, one connection after the other, each with a generation of its own.
-/

namespace LanguageHost

structure Host where
  settings : Settings
  root : Option FilePath
  environment : Environment
  slots : Slots := []
  retiring : List Instance := []
  versions : Versions := {}
  progress : ProgressTracker := {}
  queued : List HostEvent := []
  connections : Connections := {}
  nextGeneration : Nat := 1
  shuttingDown : Bool := false
  restartRequested : Bool := false
  now : Nat := 0

namespace Host

def queue (h : Host) (e : HostEvent) : Host := { h with queued := h.queued ++ [e] }

def log (h : Host) (level : LogLevel) (message : String) (fields : List (String × String)) : Host :=
  let r : LogRecord := ⟨level, sessionTarget, message, fields⟩
  { h with connections := h.connections.log r }

def instance? (h : Host) (l : LanguageId) : Option Instance :=
  (h.slots.get? l).bind Slot.instance?

def setSlot (h : Host) (l : LanguageId) (slot : Slot) : Host :=
  { h with slots := h.slots.set l slot }

def setInstance (h : Host) (l : LanguageId) (i : Instance) : Host := h.setSlot l (.active i)

def eraseSlot (h : Host) (l : LanguageId) : Host := { h with slots := h.slots.erase l }

def configure (s : Settings) (l : LanguageId) : List LogRecord × Except HostError Slot :=
  let note (message : String) : List LogRecord :=
    [⟨.debug, sessionTarget, message, [("language", l.name)]⟩]
  let own (server : ServerSettings) : List LogRecord × Except HostError Slot :=
    if server.commandLine?.isNone then (note "no command configured; language unused", .ok .unused)
    else ([], .ok (.active { language := l, settings := server }))
  match s.server l.name with
  | .error e => ([], .error (.settings l e))
  | .ok server =>
    match server.alias? with
    | none => own server
    | some name =>
      match LanguageId.parse? name with
      | none => ([], .error (.notConfigured l))
      | some target =>
        if target = l then own server
        else
          ([⟨.debug, sessionTarget, "language served by alias",
            [("language", l.name), ("target", target.name)]⟩], .ok (.servedBy target))

def slot (h : Host) (l : LanguageId) : Host × Except HostError Slot :=
  match h.slots.get? l with
  | some slot => (h, .ok slot)
  | none =>
    let (notes, made) := configure h.settings l
    let h := { h with connections := notes.foldl Connections.log h.connections }
    match made with
    | .ok slot => (h.setSlot l slot, .ok slot)
    | .error e => (h, .error e)

/-- The language whose server serves a language. Only one step is taken to another language. -/
def resolve (h : Host) (l : LanguageId) : Host × Except HostError LanguageId :=
  match h.slot l with
  | (h, .error e) => (h, .error e)
  | (h, .ok (.active _)) => (h, .ok l)
  | (h, .ok .unused) => (h, .error (.notConfigured l))
  | (h, .ok (.dead ..)) => (h, .error (.serverUnavailable l))
  | (h, .ok (.servedBy target)) =>
    match h.slot target with
    | (h, .error e) => (h, .error e)
    | (h, .ok (.active _)) => (h, .ok target)
    | (h, .ok (.dead ..)) => (h, .error (.serverUnavailable target))
    | (h, .ok _) => (h, .error (.notConfigured l))

def kill (h : Host) (l : LanguageId) (restarts : Nat) (reason : String) : Host :=
  ({ h with progress := h.progress.clear l }.setSlot l (.dead restarts reason)).queue
    (.fatal l reason)

def launchFailed (h : Host) (l : LanguageId) (restarts : Nat) (e : LaunchError) : Host :=
  (h.log .error "failed to launch language server" [("language", l.name)]).kill l restarts
    ("failed to launch: " ++ e.message)

def ensureStarted (h : Host) (l : LanguageId) : Host × Except HostError Unit :=
  if h.shuttingDown then (h, .ok ())
  else match h.instance? l with
    | none => (h, .ok ())
    | some i =>
      if i.state ≠ .stopped then (h, .ok ())
      else
        let generation := h.nextGeneration
        let (connections, started) := i.start h.root h.environment generation h.connections
        let h := { h with connections, nextGeneration := generation + 1 }
        match started with
        | .ok i => (h.setInstance l i, .ok ())
        | .error e => (h.launchFailed l i.restarts e, .error (.launch l e))

def eligible (root : Option FilePath) (s : ServerSettings) (d : Document) : Bool :=
  match root with
  | none => s.useWithoutProject
  | some r => s.useOutsideProjectDir || d.path.any (·.startsWith r)

def inScope (h : Host) (l : LanguageId) (d : Document) : Bool :=
  (h.instance? l).any fun i => eligible h.root i.settings d

def attach (h : Host) (d : Document) : Host × Except HostError (Option LanguageId) :=
  match d.language with
  | none => (h, .ok none)
  | some l =>
    match h.resolve l with
    | (h, .error (.notConfigured _)) => (h, .ok none)
    | (h, .error e) => (h, .error e)
    | (h, .ok serving) =>
      if h.inScope serving d then
        match h.ensureStarted serving with
        | (h, .error e) => (h, .error e)
        | (h, .ok ()) => (h, .ok (some serving))
      else
        (h.log .debug "document is outside the server's project scope"
          [("language", serving.name)], .ok none)

def withSync {α : Type} (h : Host) (l : LanguageId) (f : Sync → Sync.Result α) :
    Host × Except HostError (Option α) :=
  match h.instance? l with
  | none => (h, .ok none)
  | some i =>
    let (s, result) := f ⟨i, h.versions, h.connections⟩
    ({ h with versions := s.versions, connections := s.connections }.setInstance l s.server,
      result.map some)

def syncOnly {α : Type} (h : Host) (l : LanguageId) (f : Sync → Sync.Result α) :
    Host × Except HostError Unit :=
  let (h, result) := h.withSync l f
  (h, result.map fun _ => ())

end Host

end LanguageHost
