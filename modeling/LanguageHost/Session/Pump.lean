import LanguageHost.Session.Shutdown

/-!
Handling what the connections have posted. Events of connections that are gone are ignored; events
of a server that was replaced can do no more than let it stop. The work that is left bounds how
many events can follow.
-/

namespace LanguageHost.Host

def swapRemove {α : Type} (xs : List α) (index : Nat) : List α :=
  match xs.getLast? with
  | none => xs
  | some last => (xs.set index last).dropLast

/-- An event of a server that was replaced. The answer is whether the server has stopped. -/
def stepRetiring (i : Instance) (kind : ServerEventKind) (c : Connections) :
    Connections × Instance × Bool :=
  match kind with
  | .shutdownResponse outcome => i.shutdownAcknowledged outcome c
  | .closed _ =>
    let (c, i) := i.teardown c
    (c, i, true)
  | _ => (c, i, false)

def handleRetiring (h : Host) (index : Nat) (i : Instance) (kind : ServerEventKind) : Host :=
  let (connections, i, stopped) := stepRetiring i kind h.connections
  let h := { h with connections }
  if stopped then
    { h with retiring := swapRemove h.retiring index }.queue (.stopped i.language)
  else { h with retiring := h.retiring.set index i }

def handleCurrent (h : Host) (w : Workspace) (l : LanguageId) : ServerEventKind → Host × Workspace
  | .initializeResponse (.ok response) => (h.onInitialized w l response, w)
  | .initializeResponse (.error e) => (h.onInitializeFailed l e, w)
  | .shutdownResponse outcome => (h.onShutdownResponse l outcome, w)
  | .notification method params => (h.onNotification l method params, w)
  | .request id method params => h.onRequest w l id method params
  | .closed error => (h.onClosed l error, w)

def findRetiring (h : Host) (generation : Nat) : Option (Nat × Instance) :=
  (h.retiring.findIdx? (·.connection = some generation)).bind fun index =>
    h.retiring[index]?.map fun i => (index, i)

def isCurrent (h : Host) (l : LanguageId) (generation : Nat) : Bool :=
  (h.instance? l).any (·.connection = some generation)

def handleEvent (h : Host) (w : Workspace) (e : ServerEvent) : Host × Workspace :=
  match h.findRetiring e.generation with
  | some (index, i) => (h.handleRetiring index i e.kind, w)
  | none =>
    if h.isCurrent e.language e.generation then h.handleCurrent w e.language e.kind
    else
      (h.log .debug "ignoring event from a replaced server"
        [languageField e.language, ("generation", toString e.generation)], w)

def handleNext (h : Host) (w : Workspace) : Option (Host × Workspace) :=
  match h.connections.inbox with
  | [] => none
  | e :: rest =>
    some ({ h with connections := { h.connections with inbox := rest } }.handleEvent w e)

def clientWork (c : Client Ticket) : Nat := c.pending.length + if c.reading then 1 else 0

/-- What the restarts of a server can still bring, each with a handshake, an end and what is heard
before the handshake. -/
def restartWork (lead : Nat) (i : Instance) : Nat :=
  if i.connection.isSome then (3 + lead) * (maxRestarts + 1 - i.restarts) else 0

/-- A bound for the events that are left to handle. -/
def work (h : Host) : Nat :=
  h.connections.inbox.length + h.connections.clients.foldr (clientWork · + ·) 0
    + h.slots.instances.foldr (restartWork h.environment.lead · + ·) 0

def handleMany : Nat → Host → Workspace → Host × Workspace
  | 0, h, w => (h, w)
  | fuel + 1, h, w =>
    match h.handleNext w with
    | none => (h, w)
    | some (h, w) => handleMany fuel h w

def expire (h : Host) (l : LanguageId) : Host :=
  let h := h.log .warn "language server did not shut down in time; killing it" [languageField l]
  let h := match h.instance? l with
    | none => h
    | some i =>
      let (connections, i) := i.forceStop h.connections
      { h with connections }.setInstance l i
  h.finishStop l

def overdueLanguages (h : Host) : List LanguageId :=
  h.slots.activeLanguages.filter fun l => (h.instance? l).any (·.isOverdue h.now)

def expireShutdowns (h : Host) : Host :=
  let h := h.overdueLanguages.foldl expire h
  let (expired, retained) := h.retiring.partition (·.isOverdue h.now)
  expired.foldl retireByForce { h with retiring := retained }

def settle (h : Host) (w : Workspace) : Host :=
  let h := h.expireShutdowns
  if h.restartRequested then { h with restartRequested := false }.restartAll w else h

def drain (h : Host) (w : Workspace) : Host × Workspace :=
  let (h, w) := handleMany h.work h w
  (h.settle w, w)

def takeQueued (h : Host) : Host × List HostEvent := ({ h with queued := [] }, h.queued)

def processEvents (h : Host) (w : Workspace) : Host × Workspace × List HostEvent :=
  let (h, w) := h.drain w
  let (h, events) := h.takeQueued
  (h, w, events)

def nextDeadline (h : Host) : Option Nat :=
  ((h.slots.instances ++ h.retiring).filterMap (·.deadline)).min?

def pass (h : Host) (limit : Nat) : Host :=
  match h.nextDeadline with
  | none => { h with now := h.now + limit }
  | some deadline => { h with now := min (h.now + limit) (max h.now deadline) }

def waitForEvent (h : Host) (w : Workspace) (limit : Nat) : Host × Workspace :=
  match h.handleNext w with
  | some (h, w) => h.drain w
  | none => (h.pass limit).drain w

def pumpEvents (h : Host) (w : Workspace) (limit : Nat) : Host × Workspace × List HostEvent :=
  let (h, w) := if h.queued.isEmpty then h.waitForEvent w limit else (h, w)
  h.processEvents w

inductive Readiness where
  | ready
  | failed (e : HostError)
  | waiting (serving : LanguageId)

def readiness (h : Host) (l : LanguageId) : Host × Readiness :=
  match h.resolve l with
  | (h, .error e) => (h, .failed e)
  | (h, .ok serving) =>
    match ((h.instance? serving).map (·.state)).getD .stopped with
    | .ready => (h, .ready)
    | .stopped => (h, .failed (.serverNotReady serving .stopped))
    | .shuttingDown => (h, .failed (.serverNotReady serving .shuttingDown))
    | _ => (h, .waiting serving)

end LanguageHost.Host
