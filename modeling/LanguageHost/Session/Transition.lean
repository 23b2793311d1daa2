import LanguageHost.Session.Inbound

namespace LanguageHost.Host

def wantsCatchUp (w : Workspace) (d : Document) : Bool := d.modified || w.active = some d.id

def catchUpOne (h : Host) (l : LanguageId) (d : Document) : Host :=
  match d.language with
  | none => h
  | some language =>
    match h.resolve language with
    | (h, .error _) => h
    | (h, .ok serving) =>
      if serving = l ∧ h.inScope l d then
        match h.withSync l (·.didOpen d) with
        | (h, .ok _) => h
        | (h, .error _) =>
          h.log .warn "failed to open document after initialisation" [languageField l]
      else h

/-- Opens every modified or active document of a server that has become ready. -/
def catchUp (h : Host) (w : Workspace) (l : LanguageId) : Host :=
  (w.documents.filter (wantsCatchUp w)).foldl (fun h d => h.catchUpOne l d) h

def onInitialized (h : Host) (w : Workspace) (l : LanguageId) (response : Json) : Host :=
  match h.instance? l with
  | none => h
  | some i =>
    if i.state ≠ .awaitingInitialize then h
    else
      let (connections, i, sent) := i.initializeSucceeded response h.connections
      let h := { h with connections }.setInstance l i
      let h := match sent with
        | .ok () => h
        | .error _ => h.log .warn "failed to send initialized notification" [languageField l]
      let h := h.log .info "language server ready" [languageField l]
      (h.queue (.ready l)).catchUp w l

def replace (h : Host) (l : LanguageId) (previous : Instance) (restarts : Nat) : Host :=
  let h := h.log .info "restarting language server"
    [languageField l, ("restarts", toString restarts)]
  let h := h.setInstance l { language := l, settings := previous.settings, restarts }
  match h.ensureStarted l with
  | (h, .ok ()) => h
  | (h, .error _) => h.log .debug "restart failed" [languageField l]

def giveUp (h : Host) (l : LanguageId) (restarts : Nat) (reason : String) : Host :=
  let h := h.log .error "language server keeps failing; giving up"
    [languageField l, ("restarts", toString restarts)]
  h.kill l restarts
    ("language server failed " ++ toString restarts ++ " times; last error: " ++ reason)

/-- Replaces the server of a language by a new one that keeps only the count of restarts, or gives
the language up when there were too many. -/
def restart (h : Host) (l : LanguageId) (reason : String) : Host :=
  match h.instance? l with
  | none => h
  | some previous =>
    let (connections, _) := previous.forceStop h.connections
    let h := { h.eraseSlot l with connections, progress := h.progress.clear l }
    let restarts := previous.restarts + 1
    if maxRestarts < restarts then h.giveUp l restarts reason
    else h.replace l previous restarts

def lose (h : Host) (l : LanguageId) (reason : String) : Host :=
  (h.queue (.notice l reason)).restart l reason

def onInitializeFailed (h : Host) (l : LanguageId) (e : RpcError) : Host :=
  if (h.instance? l).any (·.state = .awaitingInitialize) then
    (h.log .warn "initialize failed" [languageField l]).lose l ("initialize failed: " ++ e.message)
  else h

def finishStop (h : Host) (l : LanguageId) : Host :=
  let h := match h.instance? l with
    | none => h
    | some i =>
      let (connections, _) := i.teardown h.connections
      { h.eraseSlot l with connections }
  let h := { h with progress := h.progress.clear l }
  (h.log .info "language server stopped" [languageField l]).queue (.stopped l)

def onShutdownResponse (h : Host) (l : LanguageId) (outcome : Outcome) : Host :=
  match h.instance? l with
  | none => h
  | some i =>
    if i.state ≠ .shuttingDown then h
    else
      let (connections, i, stopped) := i.shutdownAcknowledged outcome h.connections
      let h := { h with connections }.setInstance l i
      if stopped then h.finishStop l else h

def lossReason : Option TransportError → String
  | some e => e.message
  | none => "language server exited unexpectedly"

def onClosed (h : Host) (l : LanguageId) (error : Option TransportError) : Host :=
  match h.instance? l with
  | none => h
  | some i =>
    if i.state = .shuttingDown then h.finishStop l
    else
      let reason := lossReason error
      (h.log .warn "lost connection to language server"
        [languageField l, ("state", i.state.label), ("reason", reason)]).lose l reason

end LanguageHost.Host
