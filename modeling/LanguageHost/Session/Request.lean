import LanguageHost.Feature.Location
import LanguageHost.Session.Host

namespace LanguageHost

inductive RequestKind where
  | goto (kind : GotoKind)
  | hover
  | completion
  | signatureHelp
  | highlight
  | documentSymbols
  | semanticTokens
  | workspaceSymbols
  deriving DecidableEq

inductive Answer where
  | places (kind : GotoKind) (ls : Locations)
  | value (j : Json)

namespace RequestKind

def feature : RequestKind → Feature
  | goto _ => .goto
  | hover => .hover
  | completion => .autocomplete
  | signatureHelp => .signatureHelp
  | highlight => .highlighting
  | documentSymbols => .documentSymbols
  | semanticTokens => .semanticTokens
  | workspaceSymbols => .workspaceSymbols

def operation : RequestKind → Operation
  | goto _ => .goto
  | hover => .hover
  | completion => .completion
  | signatureHelp => .signatureHelp
  | highlight => .highlight
  | documentSymbols => .documentSymbols
  | semanticTokens => .semanticTokens
  | workspaceSymbols => .workspaceSymbols

def method : RequestKind → String
  | goto kind => kind.method
  | hover => "textDocument/hover"
  | completion => "textDocument/completion"
  | signatureHelp => "textDocument/signatureHelp"
  | highlight => "textDocument/documentHighlight"
  | documentSymbols => "textDocument/documentSymbol"
  | semanticTokens => "textDocument/semanticTokens/full"
  | workspaceSymbols => "workspace/symbol"

def orNull (read : Json → Option Json) : Json → Option Answer
  | .null => some (.value .null)
  | j => (read j).map .value

def decode : RequestKind → Json → Option Answer
  | goto kind, j => (Locations.ofJson? j).map (.places kind)
  | hover, j => orNull Shapes.hover.read? j
  | completion, j => orNull Shapes.completion.read? j
  | signatureHelp, j => orNull Shapes.signatureHelp.read? j
  | highlight, j => orNull Shapes.highlights.read? j
  | documentSymbols, j => orNull Shapes.readDocumentSymbols? j
  | semanticTokens, j => orNull Shapes.semanticTokens.read? j
  | workspaceSymbols, j => orNull Shapes.workspaceSymbols.read? j

def documentParams (kind : RequestKind) (uri : Uri) (p : Position) : Json :=
  let position := ("position", p.toJson)
  match kind with
  | documentSymbols | semanticTokens => .object [Sync.identifier uri]
  | goto .references =>
    .object [Sync.identifier uri, position,
      ("context", .object [("includeDeclaration", .bool true)])]
  | _ => .object [Sync.identifier uri, position]

end RequestKind

structure PendingRequest where
  name : CallName
  language : LanguageId
  kind : RequestKind

namespace PendingRequest

def finish (p : PendingRequest) (outcome : Outcome) : Except HostError Answer :=
  match outcome with
  | .error e => .error (.rpc p.language p.kind.operation e)
  | .ok j =>
    match p.kind.decode j with
    | some a => .ok a
    | none => .error (.rpc p.language p.kind.operation .decode)

end PendingRequest

namespace Host

/-- Checks that a feature can be used; the answer is the language whose server has it. -/
def gate (h : Host) (l : LanguageId) (f : Feature) : Host × Except HostError LanguageId :=
  match h.resolve l with
  | (h, .error e) => (h, .error e)
  | (h, .ok serving) =>
    match h.instance? serving with
    | none => (h, .error (.notConfigured l))
    | some i =>
      if i.state ≠ .ready then (h, .error (.serverNotReady serving i.state))
      else
        let source := i.capabilities.sourceOf f
        if source.isEnabled then (h, .ok serving)
        else (h, .error (.featureUnavailable serving f source))

def issue (h : Host) (serving : LanguageId) (kind : RequestKind) (params : Json) :
    Host × Except HostError PendingRequest :=
  match (h.instance? serving).bind (·.connection) with
  | none => (h, .error (.serverNotReady serving .stopped))
  | some generation =>
    let (connections, called) := h.connections.call generation kind.method params .caller
    ({ h with connections },
      match called with
      | .ok id => .ok ⟨⟨generation, id⟩, serving, kind⟩
      | .error e => .error (.rpc serving kind.operation e))

def request (h : Host) (kind : RequestKind) (d : Document) (p : Position) :
    Host × Except HostError PendingRequest :=
  match d.language with
  | none => (h, .error .unknownLanguage)
  | some l =>
    match h.gate l kind.feature with
    | (h, .error e) => (h, .error e)
    | (h, .ok serving) =>
      match d.uriOrError with
      | .error e => (h, .error e)
      | .ok uri =>
        if h.inScope serving d then
          match h.syncOnly serving (·.didOpen d) with
          | (h, .error e) => (h, .error e)
          | (h, .ok ()) => h.issue serving kind (kind.documentParams uri p)
        else (h, .error (.outsideProject serving))

def workspaceSymbols (h : Host) (l : LanguageId) (query : String) :
    Host × Except HostError PendingRequest :=
  match h.gate l .workspaceSymbols with
  | (h, .error e) => (h, .error e)
  | (h, .ok serving) => h.issue serving .workspaceSymbols (.object [("query", .str query)])

def collect (h : Host) (p : PendingRequest) : Host × Except HostError Answer :=
  let (connections, outcome) := h.connections.collect p.name
  ({ h with connections },
    match outcome with
    | some o => p.finish o
    | none => .error (.timeout p.language p.kind.operation))

end Host

inductive ServerStatus where
  | unused
  | servedBy (target : LanguageId)
  | dead (restarts : Nat) (reason : String)
  | active (state : Lifecycle) (restarts : Nat)
  deriving DecidableEq

def Slot.status : Slot → ServerStatus
  | unused => .unused
  | servedBy target => .servedBy target
  | dead restarts reason => .dead restarts reason
  | active i => .active i.state i.restarts

namespace Host

def status (h : Host) (l : LanguageId) : Option ServerStatus :=
  (h.slots.get? l).map Slot.status

def capabilities (h : Host) (l : LanguageId) : Option CapabilitySet :=
  match h.slots.get? l with
  | none => none
  | some slot =>
    let serving := match slot with
      | .servedBy target => target
      | _ => l
    ((h.instance? serving).filter (·.state = .ready)).map Instance.capabilities

def handshakes (h : Host) : Json :=
  .object (h.slots.filterMap fun e => do
    let response ← (← e.2.instance?).handshake
    some (e.1.name, response))

end Host

end LanguageHost
