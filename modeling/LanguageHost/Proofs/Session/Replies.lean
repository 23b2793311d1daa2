import LanguageHost.Proofs.Session.Parting

namespace LanguageHost

namespace Connections

def replies (c : Connections) : List (Nat × Submission) := c.submissions.filter (·.2.1.isReply)

variable {c d : Connections} {sent : List (Nat × Submission)}

lemma Evolves.replies (he : Evolves c d sent) (hs : ∀ s ∈ sent, s.2.1.isReply = false) :
    d.replies = c.replies := by
  have hnone : sent.filter (·.2.1.isReply) = [] :=
    List.filter_eq_nil_iff.mpr fun s hm => by simp [hs s hm]
  rw [Connections.replies, he.submissions, List.filter_append, hnone, List.append_nil,
    Connections.replies]

lemma replies_of_submissions (hs : d.submissions = c.submissions) : d.replies = c.replies := by
  rw [replies, hs, replies]

lemma call_replies (c : Connections) (g : Nat) (method : String) (params : Json) (t : Ticket) :
    (c.call g method params t).1.replies = c.replies := by
  obtain ⟨sent, he, hs⟩ := call_evolves c g method params t
  refine he.replies fun s hm => ?_
  obtain ⟨-, id, hid⟩ := hs s hm
  rw [hid]
  rfl

lemma notify_replies (c : Connections) (g : Nat) (method : String) (params : Json) :
    (c.notify g method params).1.replies = c.replies := by
  obtain ⟨sent, he, hs⟩ := notify_evolves' c g method params
  refine he.replies fun s hm => ?_
  rw [hs s hm]
  rfl

end Connections

namespace Instance

variable (i : Instance) (c : Connections)

lemma finish_replies (how : Ending) : (i.finish how c).1.replies = c.replies :=
  (i.finish_evolves how c).replies (by simp)

lemma initializeSucceeded_replies (response : Json) :
    (i.initializeSucceeded response c).1.replies = c.replies := by
  obtain ⟨sent, he, hs⟩ := i.initializeSucceeded_evolves response c
  refine he.replies fun s hm => ?_
  rw [hs s hm]
  rfl

lemma connect_replies (root : Option FilePath) (env : Environment) (g : Nat)
    (plan : Nat → Verdict) (o : Overture) : (i.connect root env g plan o c).1.replies = c.replies := by
  have hcall : ((i.ungreeted root env g plan o c).call g "initialize"
      (Handshake.params env.processId root (i.options root env).2) .handshake).1.replies =
        c.replies :=
    (Connections.call_replies _ g _ _ _).trans
      ((i.ungreeted_evolves root env g plan o c).replies (by simp))
  rcases i.connect_cases root env g plan o c rfl with hd | ⟨e, hd⟩ <;> rw [hd]
  · exact hcall
  · exact hcall

lemma beginShutdown_replies (now : Nat) : (i.beginShutdown now c).1.replies = c.replies := by
  cases hg : i.connection with
  | none => simp only [beginShutdown, hg]
  | some g =>
    have hcall := c.call_replies g "shutdown" .null .shutdown
    rcases hc : c.call g "shutdown" .null .shutdown with ⟨d, e | id⟩ <;> rw [hc] at hcall
    · simp only [beginShutdown, hg, hc]
      refine (finish_replies _ _ .forceExit).trans ?_
      exact ((Connections.log_evolves d _).replies (by simp)).trans hcall
    · simpa only [beginShutdown, hg, hc] using hcall

end Instance

namespace Sync

variable (s : Sync) (d : Document)

lemma notify_replies (operation : Operation) (method : String) (params : Json) :
    (s.notify operation method params).1.connections.replies = s.connections.replies := by
  cases hg : s.server.connection with
  | none => simp only [notify, hg]
  | some g => simpa only [notify, hg] using s.connections.notify_replies g method params

lemma log_replies (message : String) (fields : List (String × String)) :
    (s.log message fields).connections.replies = s.connections.replies :=
  (Connections.log_evolves _ _).replies (by simp)

lemma openAs_replies (uri : Uri) :
    (s.openAs d uri).1.connections.replies = s.connections.replies :=
  (notify_replies _ _ _ _).trans (log_replies { s with versions := (s.versions.next d.path).1 } _ _)

lemma didOpen_replies : (s.didOpen d).1.connections.replies = s.connections.replies := by
  simp only [didOpen]
  split
  · rfl
  · split
    · rfl
    · exact openAs_replies s d _

lemma didChange_replies (change : TextChange) :
    (s.didChange d change).1.connections.replies = s.connections.replies := by
  simp only [didChange]
  split
  · rfl
  · split
    · exact (notify_replies _ _ _ _).trans
        (log_replies { s with versions := (s.versions.next d.path).1 } _ _)
    · exact didOpen_replies s d

lemma didSave_replies : (s.didSave d).1.connections.replies = s.connections.replies := by
  have hopen := didOpen_replies s d
  simp only [didSave]
  split
  · rfl
  · rcases ho : s.didOpen d with ⟨t, e | b⟩ <;> rw [ho] at hopen
    · exact hopen
    · simp only
      split
      · exact hopen
      · exact (notify_replies t _ _ _).trans hopen

lemma didClose_replies : (s.didClose d).1.connections.replies = s.connections.replies := by
  simp only [didClose]
  split
  · rfl
  · have hlog := log_replies { s with server := s.server.removeOpen d.id } "closing document"
    split
    · exact (notify_replies _ _ _ _).trans (hlog _)
    · exact hlog _

end Sync

namespace Host

def Mute (h k : Host) : Prop := k.connections.replies = h.connections.replies

variable {h k m : Host} {l : LanguageId}

lemma Mute.refl (h : Host) : h.Mute h := rfl

lemma Mute.trans (hk : h.Mute k) (hm : k.Mute m) : h.Mute m := Eq.trans hm hk

lemma Mute.foldl {α : Type} {f : Host → α → Host} (hf : ∀ (k : Host) x, k.Mute (f k x)) (xs : List α)
    (h : Host) : h.Mute (xs.foldl f h) := by
  induction xs generalizing h with
  | nil => exact .refl h
  | cons x rest ih => exact (hf h x).trans (ih (f h x))

lemma Consults.mute (hk : h.Consults k) : h.Mute k :=
  Connections.replies_of_submissions hk.quiet.1

lemma log_mute (h : Host) (level : LogLevel) (message : String) (fields : List (String × String)) :
    h.Mute (h.log level message fields) :=
  (Connections.log_evolves _ _).replies (by simp)

lemma resolve_mute (h : Host) (l : LanguageId) : h.Mute (h.resolve l).1 := (resolve_consults h l).mute

section Launching

lemma launching_mute (h : Host) (request : LaunchRequest) (notes : List LogRecord) :
    (h.launching request notes).replies = h.connections.replies :=
  ((Connections.logs_evolves notes _).replies (by simp)).trans
    (Connections.replies_of_submissions (by simp [Connections.submissions, Connections.record,
      Effect.submission?]))

lemma launchFailed_mute (h : Host) (l : LanguageId) (restarts : Nat) (e : LaunchError) :
    h.Mute (h.launchFailed l restarts e) :=
  log_mute h .error "failed to launch language server" [("language", l.name)]

lemma ensureStarted_mute (h : Host) (l : LanguageId) : h.Mute (h.ensureStarted l).1 := by
  cases hd : h.shuttingDown with
  | true =>
    rw [ensureStarted_shut hd]
    exact .refl h
  | false =>
    by_cases hn : ∀ i, h.instance? l = some i → i.state ≠ .stopped
    · rw [ensureStarted_running hn]
      exact .refl h
    push Not at hn
    obtain ⟨i, hi, hs⟩ := hn
    rcases hr : i.launchRequest h.root h.environment with e | request
    · rw [ensureStarted_unlaunched hi hs hd hr]
      exact launchFailed_mute _ l _ e
    have hlaunching (notes : List LogRecord) (n : Nat) :
        h.Mute { h with connections := h.launching request notes, nextGeneration := n } :=
      launching_mute h request notes
    rcases hl : h.environment.launch h.nextGeneration request with ⟨notes, e | plan⟩
    · rw [ensureStarted_failed hi hs hd hr hl]
      exact (hlaunching notes _).trans (launchFailed_mute _ l _ e)
    rcases ha : h.environment.attach h.nextGeneration with e | _
    · rw [ensureStarted_unattached hi hs hd hr hl ha]
      refine Mute.trans ?_ (launchFailed_mute _ l _ (.connection e))
      exact ((Connections.record_evolves _ rfl rfl).replies (by simp)).trans (hlaunching notes 0)
    · rw [ensureStarted_launched hi hs hd hr hl ha]
      exact (i.connect_replies _ _ _ _ _ _).trans (hlaunching notes 0)

lemma attach_mute (h : Host) (d : Document) : h.Mute (h.attach d).1 := by
  cases hd : d.language with
  | none =>
    simp only [attach, hd]
    exact .refl h
  | some l =>
    have hw := resolve_mute h l
    rcases hr : h.resolve l with ⟨k, e | serving⟩ <;> rw [hr] at hw
    · cases e <;> simpa only [attach, hd, hr] using hw
    by_cases hs : k.inScope serving d = true
    · have hm := hw.trans (ensureStarted_mute k serving)
      rcases he : k.ensureStarted serving with ⟨m, e | u⟩ <;> rw [he] at hm <;>
        simpa only [attach, hd, hr, hs, if_true, he] using hm
    · simp only [attach, hd, hr, hs]
      exact hw.trans (log_mute k _ _ _)

end Launching

section Documents

variable {α : Type} {f : Sync → Sync.Result α}
  (hf : ∀ s : Sync, (f s).1.connections.replies = s.connections.replies)
include hf

lemma syncOnly_mute (h : Host) (l : LanguageId) : h.Mute (h.syncOnly l f).1 := by
  cases hi : h.instance? l with
  | none =>
    simp only [syncOnly, withSync, hi]
    exact .refl h
  | some i =>
    rw [syncOnly_fst hi]
    exact hf (h.syncing i)

lemma attachAndSync_mute (h : Host) (d : Document) : h.Mute (h.attachAndSync d f).1 := by
  have hw := attach_mute h d
  rcases ha : h.attach d with ⟨k, e | _ | serving⟩ <;> rw [ha] at hw
  · simpa only [attachAndSync, ha] using hw
  · simpa only [attachAndSync, ha] using hw
  · simp only [attachAndSync, ha]
    exact hw.trans (syncOnly_mute hf k serving)

end Documents

section Editing

variable (h : Host) (d : Document)

lemma didOpen_mute : h.Mute (h.didOpen d).1 := attachAndSync_mute (·.didOpen_replies d) h d

lemma closeOn_mute (l : LanguageId) : h.Mute (h.closeOn l d).1 := by
  have hw := resolve_mute h l
  rcases hr : h.resolve l with ⟨k, e | serving⟩ <;> rw [hr] at hw
  · simpa only [closeOn, hr] using hw
  · simp only [closeOn, hr]
    exact hw.trans (syncOnly_mute (·.didClose_replies d) k serving)

lemma didClose_mute : h.Mute (h.didClose d).1 := by
  simp only [didClose]
  split
  · exact .refl h
  · exact closeOn_mute h d _

lemma didSave_mute : h.Mute (h.didSave d).1 := by
  have hnote : h.Mute (h.noteSaved d) := by
    simp only [noteSaved]
    split
    · exact log_mute h _ _ _
    · exact .refl h
  exact hnote.trans (attachAndSync_mute (·.didSave_replies d) _ d)

lemma documentReloaded_mute : h.Mute (h.documentReloaded d).1 := by
  have hw := didClose_mute h d
  rcases hc : h.didClose d with ⟨k, e | u⟩ <;> rw [hc] at hw
  · simpa only [documentReloaded, hc] using hw
  · simp only [documentReloaded, hc]
    exact hw.trans (didOpen_mute k d)

lemma documentLanguageChanged_mute (previous : LanguageId) :
    h.Mute (h.documentLanguageChanged d previous).1 := by
  have hw := closeOn_mute h d previous
  rcases hc : h.closeOn previous d with ⟨k, e | u⟩ <;> rw [hc] at hw
  · simpa only [documentLanguageChanged, hc] using hw
  · simp only [documentLanguageChanged, hc]
    exact hw.trans (didOpen_mute k d)

end Editing

section Asking

variable (h : Host) (kind : RequestKind)

lemma issue_mute (serving : LanguageId) (params : Json) : h.Mute (h.issue serving kind params).1 := by
  simp only [issue]
  split
  · exact .refl h
  · exact Connections.call_replies _ _ _ _ _

lemma request_mute (d : Document) (p : Position) : h.Mute (h.request kind d p).1 := by
  simp only [request]
  split
  · exact .refl h
  · next l _ =>
    have hw := (gate_consults h l kind.feature).mute
    rcases hg : h.gate l kind.feature with ⟨k, e | serving⟩ <;> rw [hg] at hw
    · exact hw
    simp only
    split
    · exact hw
    · split
      · have hs := hw.trans (syncOnly_mute (·.didOpen_replies d) k serving)
        rcases ho : k.syncOnly serving (·.didOpen d) with ⟨m, e | u⟩ <;> rw [ho] at hs
        · exact hs
        · exact hs.trans (issue_mute m kind serving _)
      · exact hw

lemma workspaceSymbols_mute (l : LanguageId) (query : String) :
    h.Mute (h.workspaceSymbols l query).1 := by
  have hw := (gate_consults h l .workspaceSymbols).mute
  rcases hg : h.gate l .workspaceSymbols with ⟨k, e | serving⟩ <;> rw [hg] at hw
  · simpa only [workspaceSymbols, hg] using hw
  · simp only [workspaceSymbols, hg]
    exact hw.trans (issue_mute k .workspaceSymbols serving _)

lemma readiness_mute (l : LanguageId) : h.Mute (h.readiness l).1 := by
  have hw := resolve_mute h l
  rcases hr : h.resolve l with ⟨k, e | serving⟩ <;> rw [hr] at hw
  · simpa only [readiness, hr] using hw
  · simp only [readiness, hr]
    split <;> exact hw

end Asking

section Stopping

variable (h : Host) (l : LanguageId)

lemma finishStop_mute : h.Mute (h.finishStop l) := by
  simp only [finishStop]
  refine Mute.trans ?_ (log_mute _ .info "language server stopped" [languageField l])
  cases hi : h.instance? l with
  | none => exact .refl h
  | some i => exact i.finish_replies h.connections .terminate

lemma shutdown_mute : h.Mute (h.shutdown l) := by
  cases hi : h.instance? l with
  | none =>
    simp only [shutdown, hi]
    exact .refl h
  | some i =>
    simp only [shutdown, hi]
    split
    · exact .refl h
    · have hlog := log_mute h .info "shutting down language server" [languageField l]
      have hbegun := Eq.trans (i.beginShutdown_replies _ h.now) hlog
      split
      · exact Eq.trans (finishStop_mute _ l) hbegun
      · exact hbegun

lemma removeByForce_mute : h.Mute (h.removeByForce l) := by
  simp only [removeByForce]
  split
  · exact .refl h
  · next i _ =>
    have hend := i.finish_replies h.connections .forceExit
    split <;> exact hend

lemma retireByForce_mute (i : Instance) : h.Mute (h.retireByForce i) :=
  i.finish_replies h.connections .forceExit

lemma finishShutdownAll_mute : h.Mute h.finishShutdownAll.1 := by
  have hremoved := Mute.foldl removeByForce_mute h.slots.activeLanguages h
  exact Eq.trans (Mute.foldl retireByForce_mute _ _) hremoved

lemma retire_mute (e : LanguageId × Slot) : h.Mute (h.retire e) := by
  simp only [retire]
  split
  · next i _ =>
    have hbegun := i.beginShutdown_replies h.connections h.now
    split <;> exact hbegun
  · exact .refl h

lemma restartAll_mute (w : Workspace) : h.Mute (h.restartAll w) := by
  have hreattach (k : Host) (d : Document) : k.Mute (k.reattach d) := by
    have hw := attach_mute k d
    rcases ha : k.attach d with ⟨m, e | s⟩ <;> rw [ha] at hw
    · simp only [reattach, ha]
      exact hw.trans (log_mute m _ _ _)
    · simpa only [reattach, ha] using hw
  have hlog := log_mute h .info "restarting all language servers" []
  have hretired := Mute.foldl retire_mute (h.log .info "restarting all language servers" []).slots
    { h.log .info "restarting all language servers" [] with slots := [] }
  exact (hlog.trans hretired).trans (Mute.foldl hreattach w.documents _)

lemma expire_mute : h.Mute (h.expire l) := by
  have hlog := log_mute h .warn "language server did not shut down in time; killing it"
    [languageField l]
  simp only [expire]
  refine Mute.trans ?_ (finishStop_mute _ l)
  split
  · exact hlog
  · next i _ => exact Eq.trans (i.finish_replies _ .forceExit) hlog

lemma settle_mute (w : Workspace) : h.Mute (h.settle w) := by
  have hexpired : h.Mute h.expireShutdowns :=
    Eq.trans (Mute.foldl retireByForce_mute _ _) (Mute.foldl expire_mute h.overdueLanguages h)
  simp only [settle]
  split
  · exact hexpired.trans (restartAll_mute { h.expireShutdowns with restartRequested := false } w)
  · exact hexpired

end Stopping

section Events

variable (h : Host) (w : Workspace) (l : LanguageId)

lemma onNotification_mute (method : String) (params : Json) :
    h.Mute (h.onNotification l method params) := by
  have hmessage (attention : Bool) : h.Mute (h.onMessage l params attention) := by
    simp only [onMessage]
    split
    · exact .refl h
    · exact log_mute h _ _ _
  simp only [onNotification]
  split
  · simp only [onDiagnostics]
    split
    · split
      · exact .refl h
      · exact log_mute h _ _ _
    · exact .refl h
  · split
    · exact hmessage false
    · split
      · exact hmessage true
      · split
        · simp only [onProgress]
          split
          · exact .refl h
          · exact log_mute h _ _ _
        · exact log_mute h _ _ _

lemma catchUpOne_mute (d : Document) : h.Mute (h.catchUpOne l d) := by
  simp only [catchUpOne]
  split
  · exact .refl h
  · next n _ =>
    have hw := resolve_mute h n
    rcases hr : h.resolve n with ⟨k, e | serving⟩ <;> rw [hr] at hw
    · exact hw
    simp only
    split
    · have hs := hw.trans (syncOnly_mute (·.didOpen_replies d) k l)
      simp only [syncOnly] at hs
      rcases ho : k.withSync l (·.didOpen d) with ⟨m, e | b⟩ <;> rw [ho] at hs
      · exact hs.trans (log_mute m _ _ _)
      · exact hs
    · exact hw

lemma onInitialized_mute (response : Json) : h.Mute (h.onInitialized w l response) := by
  simp only [onInitialized]
  split
  · exact .refl h
  · next i _ =>
    split
    · exact .refl h
    · refine Mute.trans ?_ (Mute.foldl (fun h d => catchUpOne_mute h l d) _ _)
      refine Mute.trans ?_ (log_mute _ .info "language server ready" [languageField l])
      have hsent := i.initializeSucceeded_replies h.connections response
      split
      · exact hsent
      · exact Eq.trans (log_mute _ .warn "failed to send initialized notification" _) hsent

lemma retried_mute : h.Mute (h.retried l) := by
  have hw := ensureStarted_mute h l
  rcases he : h.ensureStarted l with ⟨k, e | u⟩ <;> rw [he] at hw
  · simp only [retried, he]
    exact hw.trans (log_mute k _ _ _)
  · simpa only [retried, he] using hw

lemma lose_mute (reason : String) : h.Mute (h.lose l reason) := by
  cases hi : h.instance? l with
  | none =>
    have hl : (h.queue (.notice l reason)).instance? l = none := hi
    simp only [lose, restart, hl]
    exact .refl h
  | some i =>
    have hend := i.finish_replies h.connections .forceExit
    by_cases hm : i.restarts + 1 ≤ maxRestarts
    · rw [lose_replaced hi hm]
      exact Eq.trans (retried_mute _ l) (Eq.trans (log_mute (h.bereft l i reason) _ _ _) hend)
    · obtain ⟨last, r, hl⟩ := lose_forsaken hi (Nat.lt_of_not_le hm) reason
      rw [hl]
      exact ((Connections.log_evolves _ r).replies (by simp)).trans hend

lemma onClosed_mute (error : Option TransportError) : h.Mute (h.onClosed l error) := by
  simp only [onClosed]
  split
  · exact .refl h
  · split
    · exact finishStop_mute h l
    · exact (log_mute h _ _ _).trans (lose_mute _ l _)

lemma onInitializeFailed_mute (e : RpcError) : h.Mute (h.onInitializeFailed l e) := by
  simp only [onInitializeFailed]
  split
  · exact (log_mute h _ _ _).trans (lose_mute _ l _)
  · exact .refl h

variable {h}

lemma Exits.mute {g : Nat} (he : h.Exits k g) : h.Mute k := by
  obtain ⟨sent, hsent, hs⟩ := he
  refine hsent.replies fun s hm => ?_
  rcases hs with rfl | ⟨result, rfl⟩
  · cases hm
  · obtain rfl := List.mem_singleton.mp hm
    rfl

lemma handleEvent_mute (hc : h.Coherent) (e : ServerEvent)
    (he : ∀ id method params, e.kind = .request id method params →
      h.isCurrent e.language e.generation = false) :
    h.Mute (h.handleEvent w e).1 := by
  obtain ⟨l, g, kind⟩ := e
  rcases hf : h.findRetiring g with _ | ⟨n, i⟩
  · cases hcur : h.isCurrent l g with
    | false =>
      simp only [handleEvent, hf, hcur, Bool.false_eq_true, if_false]
      exact log_mute h _ _ _
    | true =>
      simp only [handleEvent, hf, hcur, if_true]
      obtain ⟨i, hi, hg⟩ := isCurrent_iff.mp hcur
      cases kind with
      | initializeResponse outcome =>
        rcases outcome with e | response
        · exact onInitializeFailed_mute h l e
        · exact onInitialized_mute h w l response
      | shutdownResponse outcome => exact (onShutdownResponse_exits hc hi hg outcome).mute
      | notification method params => exact onNotification_mute h l method params
      | request id method params => exact absurd hcur (by simp [he id method params rfl])
      | closed error => exact onClosed_mute h l error
  · simp only [handleEvent, hf]
    obtain ⟨hn, hg⟩ := findRetiring_some hf
    exact Exits.mute (handleRetiring_confines hc hn hg kind).exits

lemma perform_mute_unprompted {m : Move} (hin : h.incoming m = none) : h.Mute (h.perform m) := by
  have hquiet {d : Connections} (he : h.connections.Evolves d []) :
      d.replies = h.connections.replies := he.replies (by simp)
  cases m with
  | didOpen d => exact didOpen_mute h d
  | didChange d change => exact attachAndSync_mute (·.didChange_replies d change) h d
  | didSave d => exact didSave_mute h d
  | didClose d => exact didClose_mute h d
  | reloaded d => exact documentReloaded_mute h d
  | languageChanged d previous => exact documentLanguageChanged_mute h d previous
  | request kind d p => exact request_mute h kind d p
  | workspaceSymbols l query => exact workspaceSymbols_mute h l query
  | collect p => exact hquiet (Connections.collect_evolves h.connections p.name)
  | readiness l => exact readiness_mute h l
  | shutdown l => exact shutdown_mute h l
  | beginShutdownAll => exact Mute.foldl shutdown_mute _ { h with shuttingDown := true }
  | finishShutdownAll => exact finishShutdownAll_mute h
  | restartAll w => exact restartAll_mute h w
  | reconfigure s w => exact restartAll_mute { h with settings := s, shuttingDown := false } w
  | handle w =>
    have hq : h.connections.inbox = [] := List.head?_eq_none_iff.mp hin
    simp only [perform, handleNext, hq]
    exact .refl h
  | stray g kind w =>
    have hl : h.connections.language? g = none := Option.map_eq_none_iff.mp hin
    simp only [perform, hl]
    exact .refl h
  | catchUp l d => exact catchUpOne_mute h l d
  | settle w => exact settle_mute h w
  | takeQueued | pass | surround => exact .refl h
  | receive g signals => exact hquiet (Connections.receive_evolves h.connections g signals)
  | endOutput g => exact hquiet (Connections.endOutput_evolves h.connections g)
  | setPlan g plan => exact hquiet (Connections.setPlan_evolves h.connections g plan)

end Events

end Host

end LanguageHost
