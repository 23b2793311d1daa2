import LanguageHost.Proofs.Session.Documents
import LanguageHost.Proofs.Session.Stopping

/-! How events are handled, as walks, and what every move may do: first what it is made for, on the
servers that are concerned, and then steps by which no server is lost, stopped or welcomed. -/

namespace LanguageHost

def Host.Asks (h : Host) (l : LanguageId) : Move → Prop
  | .shutdown k => l = k
  | .beginShutdownAll | .finishShutdownAll | .restartAll _ | .reconfigure .. => True
  | .settle _ => h.restartRequested = true
  | _ => False

def Move.ShutsDown (m : Move) (l : LanguageId) : Prop := m = .shutdown l ∨ m = .beginShutdownAll

lemma Move.ShutsDown.asks {m : Move} {l : LanguageId} (hm : m.ShutsDown l) (h : Host) : h.Asks l m := by
  rcases hm with rfl | rfl
  · rfl
  · trivial

def Host.Reminds (h : Host) (g : Nat) : Move → Prop
  | .restartAll _ | .reconfigure .. => h.IsStopping g
  | .settle _ => h.restartRequested = true ∧ h.expireShutdowns.IsStopping g
  | _ => False

def Host.clearing (h : Host) : Move → Option Host
  | .restartAll _ | .reconfigure .. => some h
  | .settle _ => if h.restartRequested then some h.expireShutdowns else none
  | _ => none

def Host.Forgets (h : Host) (l : LanguageId) (m : Move) : Prop :=
  (h.clearing m).isSome = true ∨
    (h.slots.get? l).isSome = true ∧ (h.perform m).slots.get? l = none

/-- The steps with which a move begins. -/
def Host.Stirs (h : Host) (m : Move) : Deed → Prop
  | .quiet => True
  | .about _ => False
  | .edit .. => False
  | .launch _ => False
  | .welcome l g response =>
    h.incoming m = some ⟨l, g, .initializeResponse (.ok response)⟩ ∧ h.isCurrent l g = true
  | .loss l =>
    ∃ e, h.incoming m = some e ∧ e.language = l ∧ h.isCurrent l e.generation = true ∧
      ((∃ error, e.kind = .closed error) ∨
        (∃ error, e.kind = .initializeResponse (.error error)) ∧
          (h.instance? l).any (·.state = .awaitingInitialize) = true)
  | .stop l => h.Asks l m
  | .again g => h.Reminds g m
  | .release g => ∃ l v, h.incoming m = some ⟨l, g, .shutdownResponse (.ok v)⟩
  | .hear g signals => m = .receive g signals
  | .progress l g params =>
    h.incoming m = some ⟨l, g, .notification "$/progress" params⟩ ∧ h.isCurrent l g = true
  | .part l => h.Forgets l m
  | .excuse l => h.Forgets l m ∧ m.ShutsDown l ∧ ∃ i, h.instance? l = some i ∧ i.connection = none
  | .evict l => m = .finishShutdownAll ∧ h.Forgets l m
  | .discard => (h.clearing m).isSome = true
  | .mute g => ∃ k l, h.clearing m = some k ∧ k.isCurrent l g = true
  | .depart => True
  | .renew => ∃ s w, m = .reconfigure s w
  | .surround => ∃ environment, m = .surround environment
  | .take => m = .takeQueued ∨ m = .finishShutdownAll

namespace Host

variable {P : Deed → Prop} {h k : Host} {l : LanguageId} {i : Instance}

section Events

lemma onProgress_walk (hq : P .quiet) {g : Nat} (hi : h.instance? l = some i)
    (hg : i.connection = some g) {params : Json} (hp : P (.progress l g params)) :
    Walk P h (h.onProgress l params) := by
  have hw := Walk.step (P := P) (.progressed l i g params hi hg) hp
  simp only [onProgress]
  split
  · exact hw.trans (.step (.told _ rfl) hq)
  · exact hw.trans (log_walk hq _ _ _ _)

lemma onNotification_walk (hq : P .quiet) {g : Nat} (hi : h.instance? l = some i)
    (hg : i.connection = some g) {method : String} {params : Json}
    (hp : method = "$/progress" → P (.progress l g params)) :
    Walk P h (h.onNotification l method params) := by
  have hmessage (attention : Bool) : Walk P h (h.onMessage l params attention) := by
    simp only [onMessage]
    split
    · exact .refl h
    · exact (log_walk hq h _ _ _).trans (.step (.told _ rfl) hq)
  simp only [onNotification]
  split
  · simp only [onDiagnostics]
    split
    · split
      · exact .step (.told _ rfl) hq
      · exact log_walk hq h _ _ _
    · exact .refl h
  · split
    · exact hmessage false
    · split
      · exact hmessage true
      · split
        · next hmethod => exact onProgress_walk hq hi hg (hp hmethod)
        · exact log_walk hq h _ _ _

lemma answer_walk (hq : P .quiet) {g : Nat} (hi : h.instance? l = some i)
    (hg : i.connection = some g) (w : Workspace) (method : String) (params : Json) :
    Walk P h (h.answer w l method params).1 := by
  simp only [answer]
  split
  · split
    · exact .step (.announced l i g _ hi hg) hq
    · exact .refl h
  · split
    · split <;> exact .refl h
    · split
      · exact .refl h
      · split
        · exact .refl h
        · exact log_walk hq h _ _ _

lemma sendReply_walk (hq : P .quiet) (h : Host) (l : LanguageId) (id : RequestId) (method : String)
    (r : Reply) : Walk P h (h.sendReply l id method r) := by
  cases hi : h.instance? l with
  | none =>
    simp only [sendReply, hi, Option.bind_none]
    exact .refl h
  | some i =>
    cases hg : i.connection with
    | none =>
      simp only [sendReply, hi, Option.bind_some, hg]
      exact .refl h
    | some g =>
      have hw := Walk.step (.replied l i g id r hi hg) hq
      simp only [sendReply, hi, Option.bind_some, hg]
      split
      · exact hw
      · exact hw.trans (log_walk hq _ _ _ _)

lemma onInitialized_walk (hq : P .quiet) {g : Nat} {response : Json}
    (hp : P (.welcome l g response)) (hi : h.instance? l = some i) (hg : i.connection = some g)
    (w : Workspace) : Walk P h (h.onInitialized w.bare l response) := by
  by_cases hs : i.state = .awaitingInitialize
  · have hw := Walk.step (.welcomed l i g response hi hs hg) hp
    simp only [onInitialized, hi, hs, ne_eq, not_true_eq_false, if_false, catchUp,
      Workspace.bare, List.filter_nil, List.foldl_nil]
    refine Walk.trans ?_ (.step (.told (.ready l) rfl) hq)
    refine Walk.trans ?_ (log_walk hq _ _ _ _)
    split
    · exact hw
    · exact hw.trans (log_walk hq _ _ _ _)
  · simp only [onInitialized, hi, hs, ne_eq, not_false_eq_true, if_true]
    exact .refl h

def bereft (h : Host) (l : LanguageId) (i : Instance) (reason : String) : Host :=
  { h with
    queued := h.queued ++ [HostEvent.notice l reason]
    progress := h.progress.clear l
    connections := (i.forceStop h.connections).1 }.setInstance l (i.successor l)

def retried (h : Host) (l : LanguageId) : Host :=
  match h.ensureStarted l with
  | (h, .ok ()) => h
  | (h, .error _) => h.log .debug "restart failed" [languageField l]

lemma lose_replaced (hi : h.instance? l = some i) (hm : i.restarts + 1 ≤ maxRestarts)
    (reason : String) :
    h.lose l reason = ((h.bereft l i reason).log .info "restarting language server"
      [languageField l, ("restarts", toString (i.restarts + 1))]).retried l := by
  have hl : (h.queue (.notice l reason)).instance? l = some i := hi
  simp only [lose, restart, hl, Nat.not_lt.mpr hm, if_false]
  refine congrArg (retried · l) ?_
  simp only [bereft, setInstance, setSlot, log, eraseSlot, queue, Slots.set_erase, Instance.successor]

def forsaken (h : Host) (l : LanguageId) (i : Instance) (reason last : String) : Host :=
  { h with
    queued := h.queued ++ [HostEvent.notice l reason, HostEvent.fatal l last]
    progress := h.progress.clear l
    connections := (i.forceStop h.connections).1 }.setSlot l (.dead (i.restarts + 1) last)

lemma lose_forsaken (hi : h.instance? l = some i) (hm : maxRestarts < i.restarts + 1)
    (reason : String) :
    ∃ last r, h.lose l reason =
      { h.forsaken l i reason last with
        connections := (h.forsaken l i reason last).connections.log r } := by
  have hl : (h.queue (.notice l reason)).instance? l = some i := hi
  refine ⟨"language server failed " ++ toString (i.restarts + 1) ++ " times; last error: " ++ reason,
    ⟨.error, sessionTarget, "language server keeps failing; giving up",
      [languageField l, ("restarts", toString (i.restarts + 1))]⟩, ?_⟩
  simp only [lose, restart, hl, hm, if_true]
  simp only [giveUp, kill, queue, log, eraseSlot, setSlot, forsaken, Slots.set_erase,
    List.append_assoc, List.cons_append, List.nil_append, ProgressTracker.clear_clear]

lemma retried_calm (h : Host) (l : LanguageId) : Walk (Deed.Calm none) h (h.retried l) := by
  have hw := ensureStarted_walk (P := Deed.Calm none) (l := l) trivial h
  rcases he : h.ensureStarted l with ⟨k, e | u⟩ <;> rw [he] at hw
  · simp only [retried, he]
    exact hw.trans (log_walk trivial k _ _ _)
  · simpa only [retried, he] using hw

lemma lose_walk (hq : P .quiet) (hp : P (.loss l)) (reason : String)
    (hi : h.instance? l = some i) (hs : i.state ≠ .shuttingDown) :
    ∃ k, Walk P h k ∧ Walk (Deed.Calm none) k (h.lose l reason) := by
  by_cases hm : i.restarts + 1 ≤ maxRestarts
  · have hw := Walk.step (.lost l i reason hi hs hm) hp
    exact ⟨_, hw.trans (log_walk hq _ .info "restarting language server"
      [languageField l, ("restarts", toString (i.restarts + 1))]),
      by rw [lose_replaced hi hm]; exact retried_calm _ l⟩
  · obtain ⟨last, r, hl⟩ := lose_forsaken hi (Nat.lt_of_not_le hm) reason
    have hw := Walk.step (.abandoned l i reason last hi hs (Nat.lt_of_not_le hm)) hp
    refine ⟨_, hw.trans (.step (.logged r) hq), ?_⟩
    rw [hl]
    exact .refl _

lemma shutdownAcknowledged_result (i : Instance) (outcome : Outcome) (c : Connections) :
    (∃ j, outcome = .ok j ∧
      i.shutdownAcknowledged outcome c = ((i.notify "exit" .null c).1, i, false)) ∨
    ∃ r d, (d = c ∨ (∃ j, outcome = .ok j) ∧ d = (i.notify "exit" .null c).1) ∧
      i.shutdownAcknowledged outcome c = ((i.forceStop (d.log r)).1, i.reset, true) := by
  rcases outcome with e | j
  · simp only [Instance.shutdownAcknowledged]
    exact .inr ⟨_, c, .inl rfl, by trivial⟩
  · rcases hn : i.notify "exit" .null c with ⟨d, e | u⟩
    · simp only [Instance.shutdownAcknowledged, hn]
      exact .inr ⟨_, d, .inr ⟨⟨j, rfl⟩, rfl⟩, rfl⟩
    · simp only [Instance.shutdownAcknowledged, hn]
      exact .inl ⟨j, rfl, trivial⟩

lemma onShutdownResponse_walk (hq : P .quiet) {g : Nat} (hi : h.instance? l = some i)
    (hg : i.connection = some g) (outcome : Outcome)
    (hp : ∀ v, outcome = .ok v → P (.release g))
    (hgone : (h.onShutdownResponse l outcome).slots.get? l = none → P (.part l)) :
    Walk P h (h.onShutdownResponse l outcome) := by
  by_cases hs : i.state = .shuttingDown
  · simp only [onShutdownResponse, hi, hs, ne_eq, not_true_eq_false, if_false] at hgone ⊢
    have htold (v : Json) (hv : outcome = .ok v) :
        Walk P h { h with connections := (i.notify "exit" .null h.connections).1 } :=
      .step (.acknowledged l i g hi hg hs) (hp v hv)
    rcases shutdownAcknowledged_result i outcome h.connections with ⟨j, hj, ha⟩ | ⟨r, d, hd, ha⟩
    · simp only [ha, Bool.false_eq_true, if_false]
      exact (htold j hj).trans (.step (.touched l i hi) hq)
    · simp only [ha, if_true] at hgone ⊢
      rw [finishStop_reset h l _ rfl] at hgone ⊢
      have hpart : P (.part l) := hgone (by rw [rid_get?, if_pos rfl])
      have hk : Walk P h { h with connections := d.log r } := by
        rcases hd with rfl | ⟨⟨j, hj⟩, rfl⟩
        · exact .step (.logged r) hq
        · exact (htold j hj).trans (.step (.logged r) hq)
      exact hk.trans
        (rid_walk (h := { h with connections := d.log r }) hq hpart hi hs .forceExit)
  · simp only [onShutdownResponse, hi, hs, ne_eq, not_false_eq_true, if_true]
    exact .refl h

lemma onClosed_lost (hi : h.instance? l = some i) (hs : i.state ≠ .shuttingDown)
    (error : Option TransportError) :
    h.onClosed l error = (h.log .warn "lost connection to language server"
      [languageField l, ("state", i.state.label), ("reason", lossReason error)]).lose l
        (lossReason error) := by
  simp only [onClosed, hi, hs, if_false]

lemma onInitializeFailed_lost (hi : h.instance? l = some i) (hs : i.state = .awaitingInitialize)
    (e : RpcError) :
    h.onInitializeFailed l e = (h.log .warn "initialize failed" [languageField l]).lose l
      ("initialize failed: " ++ e.message) := by
  simp [onInitializeFailed, hi, hs]

lemma swapRemove_perm {α : Type} {xs : List α} {x : α} {n : Nat} (hx : xs[n]? = some x) :
    xs.Perm (x :: swapRemove xs n) := by
  obtain ⟨hn, hx⟩ := List.getElem?_eq_some_iff.mp hx
  have hne : xs ≠ [] := List.ne_nil_of_length_pos (Nat.zero_lt_of_lt hn)
  obtain ⟨ys, last, rfl⟩ := (List.eq_nil_or_concat' xs).resolve_left hne
  have hlast : (ys ++ [last]).getLast? = some last := List.getLast?_concat
  have hswap : swapRemove (ys ++ [last]) n = ((ys ++ [last]).set n last).dropLast := by
    simp only [swapRemove, hlast]
  rw [hswap]
  rcases Nat.lt_or_ge n ys.length with hlt | hge
  · have hy : ys[n] = x := by rwa [List.getElem_append_left hlt] at hx
    rw [List.set_append_left _ _ hlt, List.dropLast_concat]
    have hp : ys.Perm (x :: ys.eraseIdx n) := hy ▸ (List.getElem_cons_eraseIdx_perm hlt).symm
    have hset : (last :: ys.eraseIdx n).Perm (ys.set n last) :=
      (List.set_perm_cons_eraseIdx hlt last).symm
    calc ys ++ [last]
      _ |>.Perm (last :: ys) := List.perm_append_singleton last ys
      _ |>.Perm (last :: x :: ys.eraseIdx n) := hp.cons last
      _ |>.Perm (x :: last :: ys.eraseIdx n) := .swap _ _ _
      _ |>.Perm (x :: ys.set n last) := hset.cons x
  · have hy : last = x := by
      rw [List.getElem_append_right hge] at hx
      simpa using hx
    have hend : n = ys.length := by
      rw [List.length_append, List.length_singleton] at hn
      omega
    rw [hend, List.set_append_right _ _ (Nat.le_refl _), hy]
    simp

lemma findRetiring_some {g n : Nat} (hf : h.findRetiring g = some (n, i)) :
    h.retiring[n]? = some i ∧ i.connection = some g := by
  simp only [findRetiring, Option.bind_eq_some_iff, Option.map_eq_some_iff, Prod.mk.injEq] at hf
  obtain ⟨m, hm, j, hj, rfl, rfl⟩ := hf
  obtain ⟨hlt, hp, -⟩ := List.findIdx?_eq_some_iff_getElem.mp hm
  have hget : h.retiring[m] = j := by simpa [hlt] using hj
  exact ⟨hj, by simpa [hget] using hp⟩

lemma handleRetiring_walk (hq : P .quiet) (hd : P .depart) {g n : Nat}
    (hf : h.findRetiring g = some (n, i)) (kind : ServerEventKind)
    (hp : ∀ v, kind = .shutdownResponse (.ok v) → P (.release g)) :
    Walk P h (h.handleRetiring n i kind) := by
  obtain ⟨hn, hg⟩ := findRetiring_some hf
  have hmem := List.mem_of_getElem? hn
  have hset : h.retiring.set n i = h.retiring := by
    obtain ⟨hlt, hi⟩ := List.getElem?_eq_some_iff.mp hn
    rw [← hi, List.set_getElem_self]
  have hgone (how : Ending) (c : Connections) (hw : Walk P h { h with connections := c }) :
      Walk P h ({ h with
        connections := (i.finish how c).1
        retiring := swapRemove h.retiring n }.queue (.stopped i.language)) :=
    hw.trans (.step (.departed (h := { h with connections := c }) i _ how (swapRemove_perm hn)) hd)
  cases kind with
  | closed error => exact hgone .terminate h.connections (.refl h)
  | shutdownResponse outcome =>
    simp only [handleRetiring, stepRetiring]
    have htold (v : Json) (hv : outcome = .ok v) :
        Walk P h { h with connections := (i.notify "exit" .null h.connections).1 } :=
      .step (.released i g hmem hg) (hp v (by rw [hv]))
    rcases shutdownAcknowledged_result i outcome h.connections with ⟨j, hj, ha⟩ | ⟨r, d, hd, ha⟩
    · simp only [ha, Bool.false_eq_true, if_false, hset]
      exact htold j hj
    · simp only [ha, if_true]
      refine hgone .forceExit (d.log r) ?_
      rcases hd with rfl | ⟨⟨j, hj⟩, rfl⟩
      · exact .step (.logged r) hq
      · exact (htold j hj).trans (.step (.logged r) hq)
  | _ =>
    simp only [handleRetiring, stepRetiring, Bool.false_eq_true, if_false, hset]
    exact .refl h

lemma handleCurrent_walk (hq : P .quiet) (w : Workspace) {g : Nat} (hi : h.instance? l = some i)
    (hg : i.connection = some g) (kind : ServerEventKind)
    (hw : ∀ response, kind = .initializeResponse (.ok response) → P (.welcome l g response))
    (hp : ∀ v, kind = .shutdownResponse (.ok v) → P (.release g))
    (hl : (∃ error, kind = .closed error) ∨
      (∃ error, kind = .initializeResponse (.error error)) ∧ i.state = .awaitingInitialize →
      P (.loss l))
    (hprogress : ∀ params, kind = .notification "$/progress" params → P (.progress l g params))
    (hgone : (h.handleCurrent w.bare l kind).1.slots.get? l = none → P (.part l)) :
    ∃ k, Walk P h k ∧ Walk (Deed.Calm none) k (h.handleCurrent w.bare l kind).1 := by
  cases kind with
  | initializeResponse outcome =>
    rcases outcome with e | response
    · simp only [handleCurrent]
      by_cases hs : i.state = .awaitingInitialize
      · rw [onInitializeFailed_lost hi hs]
        have hlog := log_walk hq h .warn "initialize failed" [languageField l]
        obtain ⟨k, hk, hc⟩ := lose_walk (P := P) (h := h.log .warn "initialize failed"
          [languageField l]) hq (hl (.inr ⟨⟨e, rfl⟩, hs⟩)) ("initialize failed: " ++ e.message) hi
          (by simp [hs])
        exact ⟨k, hlog.trans hk, hc⟩
      · simp only [onInitializeFailed, hi, Option.any_some, hs, decide_false, Bool.false_eq_true,
          if_false]
        exact ⟨h, .refl h, .refl h⟩
    · exact ⟨_, onInitialized_walk hq (hw response rfl) hi hg w, .refl _⟩
  | shutdownResponse outcome =>
    exact ⟨_, onShutdownResponse_walk hq hi hg outcome (fun v hv => hp v (by rw [hv])) hgone,
      .refl _⟩
  | notification method params =>
    exact ⟨_, onNotification_walk hq hi hg fun hm => hprogress params (by rw [hm]), .refl _⟩
  | request id method params =>
    exact ⟨_, (answer_walk hq hi hg w.bare method params).trans (sendReply_walk hq _ l id method _),
      .refl _⟩
  | closed error =>
    simp only [handleCurrent] at hgone ⊢
    by_cases hs : i.state = .shuttingDown
    · simp only [onClosed, hi, hs, if_true] at hgone ⊢
      rw [finishStop_eq hi] at hgone ⊢
      have hpart : P (.part l) := hgone (by rw [rid_get?, if_pos rfl])
      exact ⟨_, rid_walk hq hpart hi hs .terminate, .refl _⟩
    · rw [onClosed_lost hi hs]
      generalize hk : h.log .warn "lost connection to language server" _ = k
      have hlog : Walk P h k := hk ▸ log_walk hq h _ _ _
      have hki : k.instance? l = some i := by rw [← hk]; exact hi
      obtain ⟨m, hm, hc⟩ := lose_walk (P := P) hq (hl (.inl ⟨error, rfl⟩)) (lossReason error) hki hs
      exact ⟨m, hlog.trans hm, hc⟩

lemma handleEvent_walk (hq : P .quiet) (hd : P .depart) (w : Workspace) (e : ServerEvent)
    (hw : ∀ response, e.kind = .initializeResponse (.ok response) →
      h.isCurrent e.language e.generation = true → P (.welcome e.language e.generation response))
    (hp : ∀ v, e.kind = .shutdownResponse (.ok v) → P (.release e.generation))
    (hl : h.isCurrent e.language e.generation = true → (∃ error, e.kind = .closed error) ∨
      (∃ error, e.kind = .initializeResponse (.error error)) ∧
        (h.instance? e.language).any (·.state = .awaitingInitialize) = true →
      P (.loss e.language))
    (hprogress : ∀ params, e.kind = .notification "$/progress" params →
      h.isCurrent e.language e.generation = true → P (.progress e.language e.generation params))
    (hgone : h.isCurrent e.language e.generation = true →
      (h.handleEvent w.bare e).1.slots.get? e.language = none → P (.part e.language)) :
    ∃ k, Walk P h k ∧ Walk (Deed.Calm none) k (h.handleEvent w.bare e).1 := by
  obtain ⟨l, g, kind⟩ := e
  rcases hf : h.findRetiring g with _ | ⟨n, i⟩
  · by_cases hc : h.isCurrent l g = true
    · simp only [handleEvent, hf, hc, if_true] at hgone ⊢
      obtain ⟨i, hi, hg⟩ := isCurrent_iff.mp hc
      refine handleCurrent_walk hq w hi hg kind (fun response hr => hw response hr hc) hp
        (fun hk => ?_) (fun params hk => hprogress params hk hc) (hgone trivial)
      obtain he | ⟨he, hs⟩ := hk
      · exact hl hc (.inl he)
      · exact hl hc (.inr ⟨he, by simp [hi, hs]⟩)
    · simp only [handleEvent, hf, hc, Bool.false_eq_true, if_false]
      exact ⟨_, log_walk hq h _ _ _, .refl _⟩
  · simp only [handleEvent, hf]
    exact ⟨_, handleRetiring_walk hq hd hf kind hp, .refl _⟩

end Events

section Settling

def chiding (h : Host) (l : LanguageId) : Host :=
  h.log .warn "language server did not shut down in time; killing it" [languageField l]

lemma expire_eq (hi : h.instance? l = some i) :
    h.expire l = (h.chiding l).rid l (i.forceStop (h.chiding l).connections).1 := by
  have hk : (h.chiding l).instance? l = some i := hi
  simp only [chiding] at hk
  simp only [expire, hk]
  exact finishStop_reset (h.chiding l) l _ rfl

lemma expire_none (hi : h.instance? l = none) : h.expire l = (h.chiding l).finishStop l := by
  have hk : (h.chiding l).instance? l = none := hi
  simp only [chiding] at hk
  simp only [expire, hk, chiding]

lemma expire_walk (hq : P .quiet) (hp : P (.part l)) (hi : h.instance? l = some i)
    (hs : i.state = .shuttingDown) : Walk P h (h.expire l) := by
  rw [expire_eq hi]
  exact (log_walk hq h _ _ _).trans
    (rid_walk (h := h.chiding l) hq hp hi hs .forceExit)

lemma expire_get? (h : Host) (l k : LanguageId) :
    (h.expire l).slots.get? k =
      if l = k ∧ (h.instance? l).isSome = true then none else h.slots.get? k := by
  cases hi : h.instance? l with
  | none =>
    have hk : (h.chiding l).instance? l = none := hi
    rw [expire_none hi, finishStop, hk]
    simp [chiding, queue, log]
  | some i =>
    rw [expire_eq hi, rid_get?]
    simp [chiding, log]

lemma expires_walk (hq : P .quiet) (ls : List LanguageId) (h : Host) (hn : ls.Nodup)
    (hs : ∀ l ∈ ls, P (.part l) ∧ ∃ i, h.instance? l = some i ∧ i.state = .shuttingDown) :
    Walk P h (ls.foldl expire h) := by
  induction ls generalizing h with
  | nil => exact .refl h
  | cons l rest ih =>
    obtain ⟨hp, i, hi, hst⟩ := hs l List.mem_cons_self
    refine (expire_walk hq hp hi hst).trans (ih _ (List.nodup_cons.mp hn).2 fun k hk => ?_)
    obtain ⟨hpk, j, hj, hjst⟩ := hs k (List.mem_cons_of_mem l hk)
    have hlk : l ≠ k := fun hlk => (List.nodup_cons.mp hn).1 (hlk ▸ hk)
    exact ⟨hpk, j, by simpa [instance?, expire_get?, hlk] using hj, hjst⟩

lemma mem_overdue : l ∈ h.overdueLanguages ↔
    ∃ i, h.instance? l = some i ∧ i.isOverdue h.now = true := by
  simp only [overdueLanguages, List.mem_filter, Option.any_eq_true]
  exact ⟨And.right, fun ho => ⟨let ⟨_, hi, _⟩ := ho; mem_activeLanguages hi, ho⟩⟩

lemma overdue_leaving {now : Nat} (ho : i.isOverdue now = true) : i.state = .shuttingDown := by
  simp only [Instance.isOverdue, Bool.and_eq_true, decide_eq_true_eq] at ho
  exact ho.1

lemma overdue_nodup (hn : h.slots.languages.Nodup) : h.overdueLanguages.Nodup :=
  ((Slots.activeLanguages_sublist _).nodup hn).filter _

lemma expireShutdowns_walk (hq : P .quiet) (hd : P .depart) (hn : h.slots.languages.Nodup)
    (hp : ∀ l ∈ h.overdueLanguages, P (.part l)) : Walk P h h.expireShutdowns := by
  refine (expires_walk hq h.overdueLanguages h (overdue_nodup hn) fun l hl => ?_).trans ?_
  · obtain ⟨i, hi, ho⟩ := mem_overdue.mp hl
    exact ⟨hp l hl, i, hi, overdue_leaving ho⟩
  rw [expireShutdowns]
  generalize h.overdueLanguages.foldl expire h = k
  simp only [List.partition_eq_filter_filter]
  have hshuffle := Walk.step (P := P) (.shuffled (h := k) _
    (List.filter_append_perm (·.isOverdue k.now) k.retiring).symm) hq
  exact hshuffle.trans (retireByForce_walk hd _ _ _ rfl)

lemma expireShutdowns_get? (h : Host) (k : LanguageId) :
    h.expireShutdowns.slots.get? k = if k ∈ h.overdueLanguages then none else h.slots.get? k := by
  rw [expireShutdowns, retireByForce_slots]
  refine (vacates_get? expire_get? h.overdueLanguages h k).trans ?_
  refine if_congr (and_iff_left_of_imp fun hk => ?_) rfl rfl
  obtain ⟨i, hi, -⟩ := mem_overdue.mp hk
  simp [hi]

lemma expire_requested (h : Host) (l : LanguageId) :
    (h.expire l).restartRequested = h.restartRequested := by
  cases hi : h.instance? l with
  | none =>
    have hk : (h.chiding l).instance? l = none := hi
    rw [expire_none hi, finishStop, hk]
    rfl
  | some i =>
    rw [expire_eq hi]
    rfl

lemma expireShutdowns_requested (h : Host) :
    h.expireShutdowns.restartRequested = h.restartRequested := by
  have hexpire (ls : List LanguageId) (k : Host) :
      (ls.foldl expire k).restartRequested = k.restartRequested := by
    induction ls generalizing k with
    | nil => rfl
    | cons l rest ih => rw [List.foldl_cons, ih, expire_requested]
  have hretire (is : List Instance) (k : Host) :
      (is.foldl retireByForce k).restartRequested = k.restartRequested := by
    induction is generalizing k with
    | nil => rfl
    | cons i rest ih =>
      rw [List.foldl_cons, ih]
      rfl
  rw [expireShutdowns, hretire]
  exact hexpire _ h

lemma settle_walk (hq : P .quiet) (hd : P .depart) (hn : h.slots.languages.Nodup)
    (hpart : ∀ l ∈ h.overdueLanguages, P (.part l))
    (hdiscard : h.restartRequested = true → P .discard)
    (hp : h.restartRequested = true → ∀ l, P (.stop l))
    (hm : h.restartRequested = true → ∀ l g, h.expireShutdowns.isCurrent l g = true → P (.mute g))
    (ha : h.restartRequested = true → ∀ g, h.expireShutdowns.IsStopping g → P (.again g))
    (w : Workspace) : ∃ k, Walk P h k ∧ Walk (Deed.Calm none) k (h.settle w) ∧
      (h.restartRequested = true → k.slots = []) := by
  have hw := expireShutdowns_walk hq hd hn hpart
  have hk := hw.nodup hn
  cases hr : h.restartRequested with
  | false =>
    simp only [settle, expireShutdowns_requested, hr, Bool.false_eq_true, if_false]
    exact ⟨_, hw, .refl _, by simp⟩
  | true =>
    simp only [settle, expireShutdowns_requested, hr, if_true]
    have hrequested := Walk.step (P := P) (.requested (h := h.expireShutdowns) false) hq
    obtain ⟨k, hwalk, hcalm, hslots⟩ := restartAll_walk (P := P)
      (h := { h.expireShutdowns with restartRequested := false }) hq (hdiscard hr) (hp hr) (hm hr)
      (ha hr) hk w
    exact ⟨k, (hw.trans hrequested).trans hwalk, hcalm, fun _ => hslots⟩

lemma settle_forgets (hl : l ∈ h.overdueLanguages) (w : Workspace) : h.Forgets l (.settle w) := by
  cases hr : h.restartRequested with
  | true => exact .inl (by simp [clearing, hr])
  | false =>
    obtain ⟨i, hi, -⟩ := mem_overdue.mp hl
    refine .inr ⟨by simp [instance?_eq_some.mp hi], ?_⟩
    simp only [perform, settle, expireShutdowns_requested, hr, Bool.false_eq_true, if_false]
    rw [expireShutdowns_get?, if_pos hl]

end Settling

lemma active_some (hn : h.slots.languages.Nodup) (hl : l ∈ h.slots.activeLanguages) :
    (h.slots.get? l).isSome = true := by
  obtain ⟨i, hi⟩ := instance?_of_active hn hl
  simp [instance?_eq_some.mp hi]

lemma forgets_vacated {m : Move} (hi : h.instance? l = some i)
    (hl : (h.perform m).slots.get? l = none) : h.Forgets l m :=
  .inr ⟨by simp [instance?_eq_some.mp hi], hl⟩

lemma concludes (hn : h.slots.languages.Nodup) :
    Walk (fun d => h.Stirs .finishShutdownAll d ∧ d ≠ .take) h h.concluding := by
  refine concluding_walk ⟨trivial, by simp⟩ h fun l hl => ⟨⟨rfl, .inr ⟨active_some hn hl, ?_⟩⟩, by simp⟩
  exact (concluding_get? hn l).trans (if_pos hl)

def performing (h : Host) : Move → Host
  | .finishShutdownAll => h.concluding
  | .takeQueued => h
  | m => h.perform m

/-- A move first does what it is made for, and then nothing by which a server is lost, stopped or
welcomed. What the editor has to be told is taken last. A move that forgets every slot has done so
before the second part. -/
theorem performing_walk (hn : h.slots.languages.Nodup) (m : Move) :
    ∃ k, Walk (fun d => h.Stirs m d ∧ d ≠ .take) h k ∧
      Walk (Deed.Calm m.subject) k (h.performing m) ∧
        ((h.clearing m).isSome = true → k.slots = []) := by
  have hplain {k : Host} (hw : Walk (fun d => h.Stirs m d ∧ d ≠ .take) h k)
      (hcalm : Walk (Deed.Calm m.subject) k (h.performing m)) (hm : h.clearing m = none) :
      ∃ k, Walk (fun d => h.Stirs m d ∧ d ≠ .take) h k ∧
        Walk (Deed.Calm m.subject) k (h.performing m) ∧
          ((h.clearing m).isSome = true → k.slots = []) := ⟨k, hw, hcalm, by simp [hm]⟩
  have hq : h.Stirs m .quiet ∧ Deed.quiet ≠ .take := ⟨trivial, by simp⟩
  have hd : h.Stirs m .depart ∧ Deed.depart ≠ .take := ⟨trivial, by simp⟩
  -- Whether an event is one of a loss is decided by the slots, which taking it leaves alone.
  have hevent (w : Workspace) (e : ServerEvent) (he : h.incoming m = some e) (k : Host)
      (hk : Walk (fun d => h.Stirs m d ∧ d ≠ .take) h k) (hslots : k.slots = h.slots)
      (hlast : (k.handleEvent w.bare e).1 = h.perform m) :
      ∃ n, Walk (fun d => h.Stirs m d ∧ d ≠ .take) h n ∧ Walk (Deed.Calm none) n (h.perform m) := by
    have hi (l : LanguageId) : k.instance? l = h.instance? l := by simp only [instance?, hslots]
    have hcurrent (l : LanguageId) (g : Nat) : k.isCurrent l g = h.isCurrent l g := by
      simp only [isCurrent, hi]
    have hslot (hcur : k.isCurrent e.language e.generation = true) :
        (h.slots.get? e.language).isSome = true := by
      obtain ⟨i, hi, -⟩ := isCurrent_iff.mp hcur
      simp [← hslots, instance?_eq_some.mp hi]
    obtain ⟨n, hn, hc⟩ := handleEvent_walk (P := fun d => h.Stirs m d ∧ d ≠ .take) (h := k) hq hd w e
      (fun response hr hcur => ⟨⟨by rw [he, ← hr], hcurrent _ _ ▸ hcur⟩, by simp⟩)
      (fun v hv => ⟨⟨e.language, v, by rw [he, ← hv]⟩, by simp⟩)
      (fun hcur hkind => ⟨⟨e, he, rfl, hcurrent _ _ ▸ hcur, by simpa only [hi] using hkind⟩, by simp⟩)
      (fun params hp hcur => ⟨⟨by rw [he, ← hp], hcurrent _ _ ▸ hcur⟩, by simp⟩)
      (fun hcur hgone => ⟨.inr ⟨hslot hcur, hlast ▸ hgone⟩, by simp⟩)
    exact ⟨n, hk.trans hn, hlast ▸ hc⟩
  cases m with
  | didOpen d => exact hplain (.refl h) (didOpen_gentle h d).calm rfl
  | didChange d change => exact hplain (.refl h) (didChange_calm h d change) rfl
  | didSave d => exact hplain (.refl h) (didSave_gentle h d).calm rfl
  | didClose d => exact hplain (.refl h) (didClose_gentle h d).calm rfl
  | reloaded d => exact hplain (.refl h) (documentReloaded_gentle h d).calm rfl
  | languageChanged d previous =>
    exact hplain (.refl h) (documentLanguageChanged_gentle h d previous).calm rfl
  | request kind d p => exact hplain (.refl h) (request_gentle h kind d p).calm rfl
  | workspaceSymbols l query => exact hplain (workspaceSymbols_walk hq h l query) (.refl _) rfl
  | collect p => exact hplain (.step (.collected p.name) hq) (.refl _) rfl
  | readiness l => exact hplain (readiness_walk hq h l) (.refl _) rfl
  | shutdown l =>
    refine hplain (shutdown_walk hq ⟨rfl, by simp⟩ h fun i hi hgone => ?_) (.refl _) rfl
    have hforgets := forgets_vacated (m := .shutdown l) hi hgone
    exact ⟨⟨hforgets, by simp⟩, fun hg => ⟨⟨hforgets, .inl rfl, i, hi, hg⟩, by simp⟩⟩
  | beginShutdownAll =>
    refine hplain (beginShutdownAll_walk hq (fun _ => ⟨trivial, by simp⟩) h hn
      fun l i hi hgone => ?_) (.refl _) rfl
    have hforgets := forgets_vacated (m := .beginShutdownAll) hi hgone
    exact ⟨⟨hforgets, by simp⟩, fun hg => ⟨⟨hforgets, .inr rfl, i, hi, hg⟩, by simp⟩⟩
  | finishShutdownAll => exact hplain (concludes hn) (.refl _) rfl
  | restartAll w =>
    obtain ⟨k, hw, hcalm, hslots⟩ := restartAll_walk (P := fun d => h.Stirs (.restartAll w) d ∧
      d ≠ .take) hq ⟨rfl, by simp⟩ (fun _ => ⟨trivial, by simp⟩)
      (fun l g hc => ⟨⟨h, l, rfl, hc⟩, by simp⟩) (fun _ hs => ⟨hs, by simp⟩) hn w
    exact ⟨k, hw, hcalm, fun _ => hslots⟩
  | reconfigure s w =>
    obtain ⟨k, hw, hcalm, hslots⟩ := reconfigure_walk (P := fun d => h.Stirs (.reconfigure s w) d ∧
      d ≠ .take) hq ⟨rfl, by simp⟩ (fun _ => ⟨trivial, by simp⟩)
      (fun l g hc => ⟨⟨h, l, rfl, hc⟩, by simp⟩) (fun _ hs => ⟨hs, by simp⟩) hn
      ⟨⟨s, w, rfl⟩, by simp⟩ s w
    exact ⟨k, hw, hcalm, fun _ => hslots⟩
  | handle w =>
    cases hin : h.connections.inbox with
    | nil =>
      have hstays : h.performing (.handle w) = h := by simp only [performing, perform, handleNext, hin]
      exact hplain (.refl h) (hstays.symm ▸ .refl h) rfl
    | cons e rest =>
      obtain ⟨n, hw, hcalm⟩ := hevent w e (by simp [incoming, hin]) _ (.step (.popped e rest hin) hq)
        rfl (by simp only [perform, handleNext, hin])
      exact hplain hw hcalm rfl
  | stray g kind w =>
    cases hl : h.connections.language? g with
    | none =>
      have hstays : h.performing (.stray g kind w) = h := by simp only [performing, perform, hl]
      exact hplain (.refl h) (hstays.symm ▸ .refl h) rfl
    | some l =>
      obtain ⟨n, hw, hcalm⟩ := hevent w ⟨l, g, kind⟩ (by simp [incoming, hl]) h (.refl h) rfl
        (by simp only [perform, hl])
      exact hplain hw hcalm rfl
  | catchUp l d => exact hplain (.refl h) (catchUpOne_gentle h l d).calm rfl
  | settle w =>
    have hcleared (hr : h.restartRequested = true) :
        h.clearing (.settle w) = some h.expireShutdowns := by simp [clearing, hr]
    obtain ⟨k, hw, hcalm, hslots⟩ := settle_walk (P := fun d => h.Stirs (.settle w) d ∧ d ≠ .take)
      hq hd hn (fun l hl => ⟨settle_forgets hl w, by simp⟩)
      (fun hr => ⟨by simp [Stirs, hcleared hr], by simp⟩) (fun hr _ => ⟨hr, by simp⟩)
      (fun hr l g hc => ⟨⟨_, l, hcleared hr, hc⟩, by simp⟩)
      (fun hr _ hs => ⟨⟨hr, hs⟩, by simp⟩) w
    exact ⟨k, hw, hcalm, fun hr => hslots (by simpa [clearing] using hr)⟩
  | takeQueued => exact hplain (.refl h) (.refl h) rfl
  | receive g signals => exact hplain (.step (.received g signals) ⟨rfl, by simp⟩) (.refl _) rfl
  | endOutput g => exact hplain (.step (.ended g) hq) (.refl _) rfl
  | setPlan g plan => exact hplain (.step (.planned g plan) hq) (.refl _) rfl
  | pass milliseconds => exact hplain (.step (.elapsed _) hq) (.refl _) rfl
  | surround environment =>
    exact hplain (.step (.surrounded { environment with lead := h.environment.lead } rfl)
      ⟨⟨environment, rfl⟩, by simp⟩) (.refl _) rfl

theorem perform_walk (hn : h.slots.languages.Nodup) (m : Move) :
    ∃ k, Walk (h.Stirs m) h k ∧ Walk (Deed.Calm m.subject) k (h.perform m) := by
  obtain ⟨k, hw, hcalm, -⟩ := performing_walk hn m
  have hstirs := hw.mono (Q := h.Stirs m) fun _ => And.left
  cases m with
  | takeQueued => exact ⟨_, .step .taken (.inl rfl), .refl _⟩
  | finishShutdownAll =>
    exact ⟨_, ((concludes hn).mono fun _ => And.left).trans (.step .taken (.inr rfl)), .refl _⟩
  | _ => exact ⟨k, hstirs, hcalm⟩

lemma perform_performing (h : Host) (m : Move) :
    h.perform m = h.performing m ∨ h.perform m = { h.performing m with queued := [] } := by
  cases m with
  | finishShutdownAll => exact .inr (congrArg Prod.fst h.finishShutdownAll_eq)
  | takeQueued => exact .inr rfl
  | _ => exact .inl rfl

lemma Step.queued {deed : Deed} (hs : Step h deed k) (hd : deed ≠ .take) :
    h.queued <+: k.queued := by
  cases hs with
  | taken => exact absurd rfl hd
  | told | unlaunched | failed | unattached | lost | abandoned | dropped | excused | evicted
    | departed => exact List.prefix_append _ _
  | _ => exact List.prefix_rfl

end Host

namespace Turn

def told (t : Turn) : List HostEvent :=
  (t.before.performing t.move).queued.drop t.before.queued.length

lemma told_queued {t : Turn} (hn : t.before.slots.languages.Nodup) :
    (t.before.performing t.move).queued = t.before.queued ++ t.told := by
  obtain ⟨k, hw, hcalm, -⟩ := Host.performing_walk hn t.move
  have hstirred := hw.keeps (I := fun a => t.before.queued <+: a.queued) List.prefix_rfl
    fun hd hs ha => ha.trans (hs.queued hd.2)
  have hprefix := hcalm.keeps (I := fun a => t.before.queued <+: a.queued) hstirred
    fun hd hs ha => ha.trans (hs.queued (by rintro rfl; exact hd))
  obtain ⟨events, he⟩ := hprefix
  rw [told, ← he, List.drop_left]

end Turn

end LanguageHost
