import Mathlib.Logic.Relation
import Mathlib.Tactic.Lemma
import LanguageHost.Session.Documents
import LanguageHost.Session.Pump
import LanguageHost.Session.Request

/-! The steps of which everything that a session does is made. Each step says what it presupposes and
what it leaves; invariants are shown once for every step. -/

namespace LanguageHost

def Connections.tell (c : Connections) (generation : Option Nat) (method : String) (params : Json) :
    Connections :=
  match generation with
  | none => c
  | some g => (c.notify g method params).1

namespace Instance

def leaving (i : Instance) (now : Nat) : Instance :=
  { i with state := .shuttingDown, deadline := some (now + shutdownTimeout) }

def greeting (i : Instance) (generation : Nat) : Instance :=
  { i with connection := some generation, state := .awaitingInitialize }

def welcomed (i : Instance) (response : Json) : Instance :=
  { i with
    capabilities := CapabilitySet.negotiate response i.settings
    handshake := some response
    state := .ready }

def successor (i : Instance) (l : LanguageId) : Instance :=
  { language := l, settings := i.settings, restarts := i.restarts + 1 }

end Instance

def HostEvent.isFateful : HostEvent → Bool
  | .notice .. => true
  | .fatal .. => true
  | .stopped .. => true
  | _ => false

/-- What a step is about: no server changes hands, or a document, or an edit of it, or the server of
a language, or the connection of a generation. -/
inductive Deed where
  | quiet
  | about (d : Document)
  | edit (d : Document) (change : TextChange)
  | launch (l : LanguageId)
  | welcome (l : LanguageId) (g : Nat) (response : Json)
  | loss (l : LanguageId)
  | stop (l : LanguageId)
  /-- A server that was asked to stop is asked again. -/
  | again (g : Nat)
  /-- A server that agreed to stop is told to exit. -/
  | release (g : Nat)
  | hear (g : Nat) (signals : List Frame.Signal)
  | progress (l : LanguageId) (g : Nat) (params : Json)
  /-- A server has stopped as it was asked to, and its slot is forgotten. -/
  | part (l : LanguageId)
  /-- A server without a process is asked to stop, and its slot is forgotten. -/
  | excuse (l : LanguageId)
  /-- A server is removed by force, and its slot is forgotten. -/
  | evict (l : LanguageId)
  /-- A slot is forgotten for a restart, and the server that it had is replaced. -/
  | discard
  /-- A server that could not be asked to stop is ended for a restart, and the editor is not told. -/
  | mute (g : Nat)
  /-- A server that was replaced has stopped. -/
  | depart
  | renew
  | surround
  /-- The editor takes what it has to be told. -/
  | take

namespace Host

/-- The server of `l` is the one for the document. -/
def Serves (h : Host) (l : LanguageId) (d : Document) : Prop :=
  ∃ k, d.language = some k ∧ (k = l ∨ h.slots.get? k = some (.servedBy l))

def Admits (h : Host) (l : LanguageId) (d : Document) : Prop :=
  h.Serves l d ∧ h.inScope l d = true

def launching (h : Host) (request : LaunchRequest) (notes : List LogRecord) : Connections :=
  notes.foldl Connections.log (h.connections.record (.launched h.nextGeneration request))

def connecting (h : Host) (i : Instance) (request : LaunchRequest) (notes : List LogRecord)
    (plan : Nat → Verdict) : Connections :=
  (i.connect h.root h.environment h.nextGeneration plan
    (h.environment.overture h.nextGeneration request) (h.launching request notes)).1

inductive Step (h : Host) : Deed → Host → Prop
  | logged (r : LogRecord) : Step h .quiet { h with connections := h.connections.log r }
  | told (e : HostEvent) (he : e.isFateful = false) : Step h .quiet (h.queue e)
  | taken : Step h .take { h with queued := [] }
  | progressed (l : LanguageId) (i : Instance) (g : Nat) (params : Json)
      (hi : h.instance? l = some i) (hg : i.connection = some g) :
      Step h (.progress l g params) { h with progress := (h.progress.update l params).1 }
  | announced (l : LanguageId) (i : Instance) (g : Nat) (token : ProgressToken)
      (hi : h.instance? l = some i) (hg : i.connection = some g) :
      Step h .quiet { h with progress := h.progress.create l token }
  | requested (b : Bool) : Step h .quiet { h with restartRequested := b }
  | elapsed (t : Nat) : Step h .quiet { h with now := t }
  | surrounded (environment : Environment) (hl : environment.lead = h.environment.lead) :
      Step h .surround { h with environment }
  | popped (e : ServerEvent) (rest : List ServerEvent) (hq : h.connections.inbox = e :: rest) :
      Step h .quiet { h with connections := { h.connections with inbox := rest } }
  | received (g : Nat) (signals : List Frame.Signal) :
      Step h (.hear g signals) { h with connections := h.connections.receive g signals }
  | ended (g : Nat) : Step h .quiet { h with connections := h.connections.endOutput g }
  | planned (g : Nat) (plan : Nat → Verdict) :
      Step h .quiet { h with connections := h.connections.setPlan g plan }
  | collected (name : CallName) :
      Step h .quiet { h with connections := (h.connections.collect name).1 }
  | configured (l : LanguageId) (slot : Slot) (notes : List LogRecord) (hn : h.slots.get? l = none)
      (hc : configure h.settings l = (notes, .ok slot)) :
      Step h .quiet
        ({ h with connections := notes.foldl Connections.log h.connections }.setSlot l slot)
  | touched (l : LanguageId) (i : Instance) (hi : h.instance? l = some i) :
      Step h .quiet (h.setInstance l i)
  | replied (l : LanguageId) (i : Instance) (g : Nat) (id : RequestId) (r : Reply)
      (hi : h.instance? l = some i) (hg : i.connection = some g) :
      Step h .quiet { h with connections := (h.connections.reply g id r).1 }
  | searched (l : LanguageId) (i : Instance) (g : Nat) (query : String)
      (hi : h.instance? l = some i) (hr : i.state = .ready) (hg : i.connection = some g)
      (he : i.capabilities.isEnabled .workspaceSymbols = true) :
      Step h .quiet
        { h with
          connections := (h.connections.call g "workspace/symbol"
            (.object [("query", .str query)]) .caller).1 }
  | asked (l : LanguageId) (i : Instance) (g : Nat) (kind : RequestKind) (d : Document) (uri : Uri)
      (p : Position) (hi : h.instance? l = some i) (hr : i.state = .ready)
      (hg : i.connection = some g) (he : i.capabilities.isEnabled kind.feature = true)
      (ha : h.Admits l d) (ho : (i.openUri? d.id).isSome = true) (hu : d.uriOrError = .ok uri) :
      Step h (.about d)
        { h with
          connections :=
            (h.connections.call g kind.method (kind.documentParams uri p) .caller).1 }
  | opened (l : LanguageId) (i : Instance) (d : Document) (uri : Uri)
      (hi : h.instance? l = some i) (hr : i.state = .ready) (ho : i.openUri? d.id = none)
      (ha : h.Admits l d) (hu : d.uriOrError = .ok uri) :
      Step h (.about d)
        ({ h with
          versions := (h.versions.next d.path).1
          connections := h.connections.tell i.connection "textDocument/didOpen"
            (Sync.openParams uri (d.language.getD i.language) (h.versions.next d.path).2
              d.text) }.setInstance l (i.addOpen d.id uri))
  | changed (l : LanguageId) (i : Instance) (d : Document) (change : TextChange) (uri : Uri)
      (hi : h.instance? l = some i) (hr : i.state = .ready) (ho : i.openUri? d.id = some uri)
      (ha : h.Admits l d) :
      Step h (.edit d change)
        ({ h with
          versions := (h.versions.next d.path).1
          connections := h.connections.tell i.connection "textDocument/didChange"
            (Sync.changeParams uri (h.versions.next d.path).2
              (Sync.contentOf ⟨i, h.versions, h.connections⟩ d change)) }.setInstance l i)
  | saved (l : LanguageId) (i : Instance) (d : Document) (uri : Uri) (hi : h.instance? l = some i)
      (hr : i.state = .ready) (ho : i.openUri? d.id = some uri) (ha : h.Admits l d) :
      Step h (.about d)
        ({ h with
          connections := h.connections.tell i.connection "textDocument/didSave"
            (Sync.saveParams uri d.text) }.setInstance l i)
  | closed (l : LanguageId) (i : Instance) (d : Document) (uri : Uri) (hi : h.instance? l = some i)
      (hr : i.state = .ready) (ho : i.openUri? d.id = some uri) :
      Step h (.about d)
        ({ h with
          connections := h.connections.tell i.connection "textDocument/didClose"
            (.object [Sync.identifier uri]) }.setInstance l (i.removeOpen d.id))
  | unlisted (l : LanguageId) (i : Instance) (d : Document) (hi : h.instance? l = some i)
      (hr : i.state ≠ .ready) : Step h (.about d) (h.setInstance l (i.removeOpen d.id))
  | launched (l : LanguageId) (i : Instance) (request : LaunchRequest) (notes : List LogRecord)
      (plan : Nat → Verdict) (hi : h.instance? l = some i) (hs : i.state = .stopped)
      (hd : h.shuttingDown = false) (hr : i.launchRequest h.root h.environment = .ok request)
      (hl : h.environment.launch h.nextGeneration request = (notes, .ok plan))
      (ha : h.environment.attach h.nextGeneration = .ok ()) :
      Step h (.launch l)
        ({ h with
          connections := h.connecting i request notes plan
          nextGeneration := h.nextGeneration + 1 }.setInstance l (i.greeting h.nextGeneration))
  | unlaunched (l : LanguageId) (i : Instance) (e : LaunchError) (hi : h.instance? l = some i)
      (hs : i.state = .stopped) (hd : h.shuttingDown = false)
      (hr : i.launchRequest h.root h.environment = .error e) :
      Step h (.launch l)
        ({ h with nextGeneration := h.nextGeneration + 1 }.launchFailed l i.restarts e)
  | failed (l : LanguageId) (i : Instance) (request : LaunchRequest) (notes : List LogRecord)
      (e : LaunchError) (hi : h.instance? l = some i) (hs : i.state = .stopped)
      (hd : h.shuttingDown = false) (hr : i.launchRequest h.root h.environment = .ok request)
      (hl : h.environment.launch h.nextGeneration request = (notes, .error e)) :
      Step h (.launch l)
        ({ h with
          connections := h.launching request notes
          nextGeneration := h.nextGeneration + 1 }.launchFailed l i.restarts e)
  | unattached (l : LanguageId) (i : Instance) (request : LaunchRequest) (notes : List LogRecord)
      (plan : Nat → Verdict) (e : TransportError) (hi : h.instance? l = some i)
      (hs : i.state = .stopped) (hd : h.shuttingDown = false)
      (hr : i.launchRequest h.root h.environment = .ok request)
      (hl : h.environment.launch h.nextGeneration request = (notes, .ok plan))
      (ha : h.environment.attach h.nextGeneration = .error e) :
      Step h (.launch l)
        ({ h with
          connections := (h.launching request notes).record (.ended h.nextGeneration .forceExit)
          nextGeneration := h.nextGeneration + 1 }.launchFailed l i.restarts (.connection e))
  | welcomed (l : LanguageId) (i : Instance) (g : Nat) (response : Json)
      (hi : h.instance? l = some i) (hs : i.state = .awaitingInitialize)
      (hg : i.connection = some g) :
      Step h (.welcome l g response)
        ({ h with connections := (i.initializeSucceeded response h.connections).1 }.setInstance l
          (i.welcomed response))
  | lost (l : LanguageId) (i : Instance) (reason : String) (hi : h.instance? l = some i)
      (hs : i.state ≠ .shuttingDown) (hm : i.restarts + 1 ≤ maxRestarts) :
      Step h (.loss l)
        ({ h with
          queued := h.queued ++ [HostEvent.notice l reason]
          progress := h.progress.clear l
          connections := (i.forceStop h.connections).1 }.setInstance l (i.successor l))
  | abandoned (l : LanguageId) (i : Instance) (reason last : String) (hi : h.instance? l = some i)
      (hs : i.state ≠ .shuttingDown) (hm : maxRestarts < i.restarts + 1) :
      Step h (.loss l)
        ({ h with
          queued := h.queued ++ [HostEvent.notice l reason, HostEvent.fatal l last]
          progress := h.progress.clear l
          connections := (i.forceStop h.connections).1 }.setSlot l (.dead (i.restarts + 1) last))
  | stopping (l : LanguageId) (i : Instance) (g : Nat) (hi : h.instance? l = some i)
      (hg : i.connection = some g) (hs : i.state ≠ .shuttingDown) :
      Step h (.stop l)
        ({ h with
          connections := (h.connections.call g "shutdown" .null .shutdown).1 }.setInstance l
            (i.leaving h.now))
  | reminded (l : LanguageId) (i : Instance) (g : Nat) (hi : h.instance? l = some i)
      (hg : i.connection = some g) (hs : i.state = .shuttingDown) :
      Step h (.again g)
        { h with
          connections := (h.connections.call g "shutdown" .null .shutdown).1
          slots := h.slots.erase l
          progress := h.progress.clear l
          retiring := h.retiring ++ [i.leaving h.now] }
  | acknowledged (l : LanguageId) (i : Instance) (g : Nat) (hi : h.instance? l = some i)
      (hg : i.connection = some g) (hs : i.state = .shuttingDown) :
      Step h (.release g) { h with connections := (i.notify "exit" .null h.connections).1 }
  | dropped (l : LanguageId) (i : Instance) (how : Ending) (hi : h.instance? l = some i)
      (hs : i.state = .shuttingDown) :
      Step h (.part l)
        { h with
          connections := (i.finish how h.connections).1
          slots := h.slots.erase l
          progress := h.progress.clear l
          queued := h.queued ++ [HostEvent.stopped l] }
  | excused (l : LanguageId) (i : Instance) (hi : h.instance? l = some i)
      (hg : i.connection = none) :
      Step h (.excuse l)
        { h with
          slots := h.slots.erase l
          progress := h.progress.clear l
          queued := h.queued ++ [HostEvent.stopped l] }
  | idled (l : LanguageId) (i : Instance) (hi : h.instance? l = some i) (hg : i.connection = none) :
      Step h .discard { h with slots := h.slots.erase l, progress := h.progress.clear l }
  | muted (l : LanguageId) (i : Instance) (g : Nat) (hi : h.instance? l = some i)
      (hg : i.connection = some g) (hs : i.state = .shuttingDown) :
      Step h (.mute g)
        { h with
          connections := (i.forceStop h.connections).1
          slots := h.slots.erase l
          progress := h.progress.clear l }
  | retired (l : LanguageId) (i : Instance) (hi : h.instance? l = some i)
      (hs : i.state = .shuttingDown) :
      Step h .discard
        { h with
          slots := h.slots.erase l
          progress := h.progress.clear l
          retiring := h.retiring ++ [i] }
  | evicted (l : LanguageId) (i : Instance) (hi : h.instance? l = some i) :
      Step h (.evict l)
        { h with
          connections := (i.forceStop h.connections).1
          slots := h.slots.erase l
          queued := h.queued ++ if isRunning i then [HostEvent.stopped l] else [] }
  | forgotten (l : LanguageId) (hi : h.instance? l = none) :
      Step h .discard { h with slots := h.slots.erase l }
  | sealed (hs : ∀ l i, h.instance? l = some i → i.state = .stopped ∨ i.state = .shuttingDown) :
      Step h .quiet { h with shuttingDown := true }
  | replaced (settings : Settings) (hs : h.slots = []) :
      Step h .renew { h with settings, shuttingDown := false }
  | shuffled (retiring : List Instance) (hp : h.retiring.Perm retiring) :
      Step h .quiet { h with retiring }
  | released (i : Instance) (g : Nat) (hi : i ∈ h.retiring) (hg : i.connection = some g) :
      Step h (.release g) { h with connections := (i.notify "exit" .null h.connections).1 }
  | departed (i : Instance) (rest : List Instance) (how : Ending)
      (hp : h.retiring.Perm (i :: rest)) :
      Step h .depart
        { h with
          connections := (i.finish how h.connections).1
          retiring := rest
          queued := h.queued ++ [HostEvent.stopped i.language] }
  | expelled (i : Instance) (g : Nat) (rest : List Instance) (hp : h.retiring.Perm (i :: rest))
      (hg : i.connection = some g) :
      Step h (.mute g)
        { h with connections := (i.forceStop h.connections).1, retiring := rest }

def Walk (P : Deed → Prop) : Host → Host → Prop :=
  Relation.ReflTransGen fun h k => ∃ d, P d ∧ Step h d k

namespace Walk

variable {P Q : Deed → Prop} {h k m : Host}

lemma refl (h : Host) : Walk P h h := Relation.ReflTransGen.refl

lemma trans (hk : Walk P h k) (hm : Walk P k m) : Walk P h m := Relation.ReflTransGen.trans hk hm

lemma step {d : Deed} (hs : Step h d k) (hd : P d) : Walk P h k :=
  Relation.ReflTransGen.single ⟨d, hd, hs⟩

lemma mono (hk : Walk P h k) (hpq : ∀ d, P d → Q d) : Walk Q h k :=
  Relation.ReflTransGen.mono (fun _ _ ⟨d, hd, hs⟩ => ⟨d, hpq d hd, hs⟩) _ _ hk

lemma keeps {I : Host → Prop} (hk : Walk P h k) (hi : I h)
    (hs : ∀ {a b : Host} {d : Deed}, P d → Step a d b → I a → I b) : I k := by
  induction hk with
  | refl => exact hi
  | tail _ hlast ih =>
    obtain ⟨d, hd, hstep⟩ := hlast
    exact hs hd hstep ih

lemma foldl {α : Type} {f : Host → α → Host} (hf : ∀ k x, Walk P k (f k x)) (xs : List α)
    (h : Host) : Walk P h (xs.foldl f h) := by
  induction xs generalizing h with
  | nil => exact .refl h
  | cons x rest ih => exact (hf h x).trans (ih (f h x))

end Walk

end Host

end LanguageHost
