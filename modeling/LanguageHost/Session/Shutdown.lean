import LanguageHost.Session.Transition

namespace LanguageHost.Host

def shutdown (h : Host) (l : LanguageId) : Host :=
  match h.instance? l with
  | none => h
  | some i =>
    if i.state = .shuttingDown then h
    else
      let h := h.log .info "shutting down language server" [languageField l]
      let (connections, i, stopped) := i.beginShutdown h.now h.connections
      let h := { h with connections }.setInstance l i
      if stopped then h.finishStop l else h

def beginShutdownAll (h : Host) : Host :=
  h.slots.activeLanguages.foldl shutdown { h with shuttingDown := true }

def isRunning (i : Instance) : Bool := i.state ≠ .stopped

def hasRunning (h : Host) : Bool := !h.retiring.isEmpty || h.slots.instances.any isRunning

def removeByForce (h : Host) (l : LanguageId) : Host :=
  match h.instance? l with
  | none => h
  | some i =>
    let (connections, _) := i.forceStop h.connections
    let h := { h.eraseSlot l with connections }
    if isRunning i then h.queue (.stopped l) else h

def retireByForce (h : Host) (i : Instance) : Host :=
  let (connections, _) := i.forceStop h.connections
  { h with connections }.queue (.stopped i.language)

def finishShutdownAll (h : Host) : Host × List HostEvent :=
  let h := h.slots.activeLanguages.foldl removeByForce h
  let h := h.retiring.foldl retireByForce { h with retiring := [] }
  ({ h with queued := [] }, h.queued)

def retire (h : Host) (e : LanguageId × Slot) : Host :=
  match e.2 with
  | .active i =>
    let h := { h with progress := h.progress.clear e.1 }
    let (connections, i, stopped) := i.beginShutdown h.now h.connections
    let h := { h with connections }
    if stopped then h else { h with retiring := h.retiring ++ [i] }
  | _ => h

def reattach (h : Host) (d : Document) : Host :=
  match h.attach d with
  | (h, .ok _) => h
  | (h, .error _) => h.log .warn "failed to restart language server for document" []

def restartAll (h : Host) (w : Workspace) : Host :=
  let h := h.log .info "restarting all language servers" []
  let h := h.slots.foldl retire { h with slots := [] }
  w.documents.foldl reattach h

/-- Replaces the settings and starts again. Servers may be started from now on. -/
def reconfigure (h : Host) (s : Settings) (w : Workspace) : Host :=
  { h with settings := s, shuttingDown := false }.restartAll w

end LanguageHost.Host
