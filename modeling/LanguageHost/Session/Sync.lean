import LanguageHost.Feature.Location
import LanguageHost.Session.Instance
import LanguageHost.Session.Versions

namespace LanguageHost

structure TextChange where
  range : Option Range
  text : String

/-- A server, the versions, and the connections: all that synchronisation touches. -/
structure Sync where
  server : Instance
  versions : Versions
  connections : Connections

namespace Sync

abbrev Result (α : Type) := Sync × Except HostError α

def target : String := "tessera_lsp::sync"

def isReady (s : Sync) : Bool := s.server.state = .ready

def log (s : Sync) (message : String) (fields : List (String × String)) : Sync :=
  let r : LogRecord := ⟨.debug, target, message, s.server.languageField :: fields⟩
  { s with connections := s.connections.log r }

def notify (s : Sync) (operation : Operation) (method : String) (params : Json) : Result Unit :=
  match s.server.connection with
  | none => (s, .ok ())
  | some generation =>
    let (connections, sent) := s.connections.notify generation method params
    ({ s with connections }, sent.mapError (.rpc s.server.language operation))

def identifier (uri : Uri) : String × Json :=
  ("textDocument", .object [("uri", .str uri.text)])

def openParams (uri : Uri) (language : LanguageId) (version : Nat) (text : String) : Json :=
  .object [("textDocument", .object [("uri", .str uri.text), ("languageId", .str language.name),
    ("version", .int version), ("text", .str text)])]

structure Content where
  range : Option Range
  text : String

def Content.toJson (content : Content) : Json :=
  .object (("text", .str content.text) :: content.range.toList.map fun r => ("range", r.toJson))

def changeParams (uri : Uri) (version : Nat) (content : Content) : Json :=
  .object [
    ("textDocument", .object [("uri", .str uri.text), ("version", .int version)]),
    ("contentChanges", .arr [content.toJson])]

def saveParams (uri : Uri) (text : String) : Json :=
  .object [identifier uri, ("text", .str text)]

def openAs (s : Sync) (d : Document) (uri : Uri) : Result Unit :=
  let (versions, version) := s.versions.next d.path
  let s := { s with versions }.log "opening document"
    [("uri", uri.text), ("version", toString version)]
  let s := { s with server := s.server.addOpen d.id uri }
  s.notify .didOpen "textDocument/didOpen"
    (openParams uri (d.language.getD s.server.language) version d.text)

def didOpen (s : Sync) (d : Document) : Result Bool :=
  if !s.isReady || (s.server.openUri? d.id).isSome then (s, .ok false)
  else match d.uriOrError with
    | .error e => (s, .error e)
    | .ok uri =>
      let (s, result) := s.openAs d uri
      (s, result.map fun _ => true)

def contentOf (s : Sync) (d : Document) (change : TextChange) : Content :=
  if change.range.isSome && s.server.capabilities.incrementalSync then
    ⟨change.range, change.text⟩
  else ⟨none, d.text⟩

def changeOpen (s : Sync) (d : Document) (change : TextChange) (uri : Uri) : Result Unit :=
  let (versions, version) := s.versions.next d.path
  let content := s.contentOf d change
  let s := { s with versions }.log "sending document change"
    [("uri", uri.text), ("version", toString version),
      ("incremental", toString content.range.isSome)]
  s.notify .didChange "textDocument/didChange" (changeParams uri version content)

def didChange (s : Sync) (d : Document) (change : TextChange) : Result Unit :=
  if !s.isReady then (s, .ok ())
  else match s.server.openUri? d.id with
    | some uri => s.changeOpen d change uri
    | none =>
      let (s, result) := s.didOpen d
      (s, result.map fun _ => ())

def didSave (s : Sync) (d : Document) : Result Unit :=
  if !s.isReady then (s, .ok ())
  else match s.didOpen d with
    | (s, .error e) => (s, .error e)
    | (s, .ok _) =>
      match s.server.openUri? d.id with
      | none => (s, .ok ())
      | some uri => s.notify .didSave "textDocument/didSave" (saveParams uri d.text)

def didClose (s : Sync) (d : Document) : Result Bool :=
  match s.server.openUri? d.id with
  | none => (s, .ok false)
  | some uri =>
    let s := { s with server := s.server.removeOpen d.id }.log "closing document"
      [("uri", uri.text)]
    if s.isReady then
      let (s, result) := s.notify .didClose "textDocument/didClose" (.object [identifier uri])
      (s, result.map fun _ => true)
    else (s, .ok true)

end Sync

end LanguageHost
