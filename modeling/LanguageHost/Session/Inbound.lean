import LanguageHost.Session.Host

namespace LanguageHost.Host

def languageField (l : LanguageId) : String × String := ("language", l.name)

def onDiagnostics (h : Host) (l : LanguageId) (params : Json) : Host :=
  if (h.instance? l).any (·.settings.diagnostics.enable) then
    match Shapes.publishDiagnostics.read? params with
    | some params => h.queue (.diagnostics l params)
    | none => h.log .warn "malformed diagnostics notification" [languageField l]
  else h

def onMessage (h : Host) (l : LanguageId) (params : Json) (attention : Bool) : Host :=
  match (Shapes.message.read? params).bind fun m => do
      some (← (← m.get? "type").asInt?, ← (← m.get? "message").asString?) with
  | none => h
  | some (kind, text) =>
    let severity := Severity.ofNumber kind
    (h.log .debug text [languageField l, ("severity", severity.label)]).queue
      (.serverMessage l severity text attention)

def onProgress (h : Host) (l : LanguageId) (params : Json) : Host :=
  let (progress, event) := h.progress.update l params
  let h := { h with progress }
  match event with
  | some e => h.queue (.progress e)
  | none => h.log .debug "ignoring unrecognised progress payload" [languageField l]

def onNotification (h : Host) (l : LanguageId) (method : String) (params : Json) : Host :=
  if method = "textDocument/publishDiagnostics" then h.onDiagnostics l params
  else if method = "window/logMessage" then h.onMessage l params false
  else if method = "window/showMessage" then h.onMessage l params true
  else if method = "$/progress" then h.onProgress l params
  else h.log .debug "ignoring server notification" [languageField l, ("method", method)]

def configurationReply (params : Json) : Reply :=
  let items := ((params.get? "items").bind Json.asArray?).getD []
  .result (.arr (items.map fun _ => .null))

def answer (h : Host) (w : Workspace) (l : LanguageId) (method : String) (params : Json) :
    Host × Workspace × Reply :=
  if method = "window/workDoneProgress/create" then
    match (Shapes.createProgress.read? params).bind fun p =>
        (p.get? "token").bind Progress.token? with
    | some token => ({ h with progress := h.progress.create l token }, w, .result .null)
    | none => (h, w, .result .null)
  else if method = "workspace/applyEdit" then
    match (Shapes.applyEdit.read? params).bind (·.get? "edit") with
    | some edit =>
      let (w, applied) := w.applyEdit ⟨edit⟩
      (h, w, .result (.object [("applied", .bool applied)]))
    | none => (h, w, .error invalidParams (h.environment.complaint params))
  else if method = "workspace/configuration" then (h, w, configurationReply params)
  else if method = "client/registerCapability" ∨ method = "client/unregisterCapability" then
    (h, w, .result .null)
  else
    (h.log .debug "rejecting unsupported server request" [languageField l, ("method", method)], w,
      .error methodNotFound ("unsupported method: " ++ method))

def sendReply (h : Host) (l : LanguageId) (id : RequestId) (method : String) (r : Reply) : Host :=
  match (h.instance? l).bind (·.connection) with
  | none => h
  | some generation =>
    let (connections, sent) := h.connections.reply generation id r
    let h := { h with connections }
    match sent with
    | .ok () => h
    | .error _ =>
      h.log .warn "failed to answer server request" [languageField l, ("method", method)]

def onRequest (h : Host) (w : Workspace) (l : LanguageId) (id : RequestId) (method : String)
    (params : Json) : Host × Workspace :=
  let (h, w, r) := h.answer w l method params
  (h.sendReply l id method r, w)

end LanguageHost.Host
