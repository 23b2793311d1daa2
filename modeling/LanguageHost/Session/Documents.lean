import LanguageHost.Session.Host

namespace LanguageHost.Host

def attachAndSync {α : Type} (h : Host) (d : Document) (f : Sync → Sync.Result α) :
    Host × Except HostError Unit :=
  match h.attach d with
  | (h, .error e) => (h, .error e)
  | (h, .ok none) => (h, .ok ())
  | (h, .ok (some serving)) => h.syncOnly serving f

def didOpen (h : Host) (d : Document) : Host × Except HostError Unit :=
  h.attachAndSync d (·.didOpen d)

def didChange (h : Host) (d : Document) (change : TextChange) : Host × Except HostError Unit :=
  h.attachAndSync d (·.didChange d change)

def isOptionsFile (h : Host) (p : FilePath) : Bool :=
  h.slots.instances.any fun i => (i.optionsFile h.root).any p.same

/-- A save of a file with options for a handshake lets all servers start again. -/
def noteSaved (h : Host) (d : Document) : Host :=
  if d.path.any h.isOptionsFile then
    { h.log .info "initialization options changed; restarting language servers" [] with
      restartRequested := true }
  else h

def didSave (h : Host) (d : Document) : Host × Except HostError Unit :=
  (h.noteSaved d).attachAndSync d (·.didSave d)

def closeOn (h : Host) (l : LanguageId) (d : Document) : Host × Except HostError Unit :=
  match h.resolve l with
  | (h, .error _) => (h, .ok ())
  | (h, .ok serving) => h.syncOnly serving (·.didClose d)

def didClose (h : Host) (d : Document) : Host × Except HostError Unit :=
  match d.language with
  | none => (h, .ok ())
  | some l => h.closeOn l d

def documentReloaded (h : Host) (d : Document) : Host × Except HostError Unit :=
  match h.didClose d with
  | (h, .error e) => (h, .error e)
  | (h, .ok ()) => h.didOpen d

def documentLanguageChanged (h : Host) (d : Document) (previous : LanguageId) :
    Host × Except HostError Unit :=
  match h.closeOn previous d with
  | (h, .error e) => (h, .error e)
  | (h, .ok ()) => h.didOpen d

end LanguageHost.Host
