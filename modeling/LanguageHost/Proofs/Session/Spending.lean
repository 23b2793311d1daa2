import Mathlib.Algebra.BigOperators.Group.Finset.Piecewise
import Mathlib.Algebra.Order.BigOperators.Group.Finset
import LanguageHost.Proofs.Session.Budget
import LanguageHost.Proofs.Session.Load

/-! What it takes to handle an event. Either no server is launched and no more events can come than
before, or the connection of a server is lost, and the launch of its successor, with all that a new
connection can bring, is paid for by the restart that it counts. -/

namespace LanguageHost

namespace Slots

def labor (s : Slots) (lead : Nat) (l : LanguageId) : Nat :=
  (((s.get? l).bind Slot.instance?).map (Host.restartWork lead)).getD 0

def labors (s : Slots) (lead : Nat) : Nat := s.instances.foldr (Host.restartWork lead · + ·) 0

variable {lead : Nat} {s t : Slots} {l : LanguageId} {n : Nat}

lemma labors_eq (hn : s.languages.Nodup) {F : Finset LanguageId} (hF : ∀ l ∈ s.languages, l ∈ F) :
    s.labors lead = ∑ l ∈ F, s.labor lead l := by
  induction s with
  | nil => exact (Finset.sum_eq_zero fun l _ => rfl).symm
  | cons e rest ih =>
    rw [languages, List.map_cons, List.nodup_cons] at hn
    have hrest := ih hn.2 fun l hl => hF l (List.mem_cons_of_mem _ hl)
    have hnone : labor rest lead e.1 = 0 := by
      cases hr : get? rest e.1 with
      | none => simp [labor, hr]
      | some slot => exact absurd (List.mem_map_of_mem (mem_of_get? hr)) hn.1
    have hsplit (l : LanguageId) : labor (e :: rest) lead l =
        (if e.1 = l then (e.2.instance?.map (Host.restartWork lead)).getD 0 else 0) + labor rest lead l := by
      by_cases hl : e.1 = l
      · rw [if_pos hl, ← hl, hnone]
        simp [labor, get?]
      · simp [labor, get?, hl]
    have hhead : instances (e :: rest) = e.2.instance?.toList ++ instances rest := by
      simp only [instances, List.filterMap_cons]
      cases e.2.instance? <;> rfl
    rw [Finset.sum_congr rfl fun l _ => hsplit l, Finset.sum_add_distrib, Finset.sum_ite_eq,
      if_pos (hF e.1 List.mem_cons_self), ← hrest, labors, hhead]
    cases e.2.instance? <;> simp [labors]

lemma labors_mono (hs : s.languages.Nodup) (ht : t.languages.Nodup)
    (hle : ∀ l, t.labor lead l ≤ s.labor lead l) : t.labors lead ≤ s.labors lead := by
  let F := (s.languages ++ t.languages).toFinset
  rw [labors_eq hs (F := F) fun l hl => by simp [F, hl],
    labors_eq ht (F := F) fun l hl => by simp [F, hl]]
  exact Finset.sum_le_sum fun l _ => hle l

lemma labors_drop (hs : s.languages.Nodup) (ht : t.languages.Nodup)
    (hl : t.labor lead l + n ≤ s.labor lead l) (hle : ∀ k, k ≠ l → t.labor lead k ≤ s.labor lead k) :
    t.labors lead + n ≤ s.labors lead := by
  let F := insert l (s.languages ++ t.languages).toFinset
  have hmem : l ∈ F := Finset.mem_insert_self _ _
  have hrest : ∑ k ∈ F.erase l, t.labor lead k ≤ ∑ k ∈ F.erase l, s.labor lead k :=
    Finset.sum_le_sum fun k hk => hle k (Finset.ne_of_mem_erase hk)
  rw [labors_eq hs (F := F) fun k hk => by simp [F, hk],
    labors_eq ht (F := F) fun k hk => by simp [F, hk], ← Finset.add_sum_erase F _ hmem,
    ← Finset.add_sum_erase F _ hmem]
  omega

end Slots

namespace Host

variable {h k m : Host} {l : LanguageId} {i j : Instance} {g lead : Nat}

section Inherits

def Inherits (h k : Host) (l : LanguageId) : Prop :=
  ∀ i, k.instance? l = some i → i.connection.isSome = true →
    ∃ j, h.instance? l = some j ∧ j.connection.isSome = true ∧ j.restarts = i.restarts

def reserve (h : Host) (l : LanguageId) : Nat :=
  ((h.instance? l).map fun i => if i.connection.isSome then maxRestarts - i.restarts else 0).getD 0

lemma Inherits.refl (h : Host) (l : LanguageId) : h.Inherits h l := fun i hi hg => ⟨i, hi, hg, rfl⟩

lemma Inherits.trans (hk : h.Inherits k l) (hm : k.Inherits m l) : h.Inherits m l := by
  intro i hi hg
  obtain ⟨j, hj, hjg, hr⟩ := hm i hi hg
  obtain ⟨x, hx, hxg, hxr⟩ := hk j hj hjg
  exact ⟨x, hx, hxg, hxr.trans hr⟩

lemma Inherits.of_slots (hs : k.slots = h.slots) (l : LanguageId) : h.Inherits k l := by
  intro i hi hg
  rw [instance?, hs] at hi
  exact ⟨i, hi, hg, rfl⟩

lemma Inherits.set {n : LanguageId} {slot : Slot} (hs : k.slots = h.slots.set n slot)
    (hslot : ∀ i, slot = .active i → i.connection.isSome = true →
      ∃ j, h.instance? n = some j ∧ j.connection.isSome = true ∧ j.restarts = i.restarts)
    (l : LanguageId) : h.Inherits k l := by
  intro i hi hg
  rw [instance?_eq_some, hs, Slots.get?_set] at hi
  split at hi
  · next hn =>
    subst hn
    exact hslot i (Option.some.inj hi) hg
  · exact ⟨i, instance?_eq_some.mpr hi, hg, rfl⟩

lemma Inherits.erase {n : LanguageId} (hs : k.slots = h.slots.erase n) (l : LanguageId) :
    h.Inherits k l := by
  intro i hi hg
  rw [instance?_eq_some, hs, Slots.get?_erase] at hi
  split at hi
  · cases hi
  · exact ⟨i, instance?_eq_some.mpr hi, hg, rfl⟩

lemma labor_eq (hi : h.instance? l = some i) (hg : i.connection.isSome = true) :
    h.slots.labor lead l = (3 + lead) * (maxRestarts + 1 - i.restarts) := by
  have hi : (h.slots.get? l).bind Slot.instance? = some i := hi
  simp [Slots.labor, hi, restartWork, hg]

lemma reserve_eq (hi : h.instance? l = some i) (hg : i.connection.isSome = true) :
    h.reserve l = maxRestarts - i.restarts := by simp [reserve, hi, hg]

lemma left_cases (h : Host) (lead : Nat) (l : LanguageId) :
    h.slots.labor lead l = 0 ∧ h.reserve l = 0 ∨
      ∃ i, h.instance? l = some i ∧ i.connection.isSome = true := by
  cases hi : h.instance? l with
  | none =>
    have hn : (h.slots.get? l).bind Slot.instance? = none := hi
    exact .inl ⟨by simp [Slots.labor, hn], by simp [reserve, hi]⟩
  | some i =>
    have hs : (h.slots.get? l).bind Slot.instance? = some i := hi
    cases hg : i.connection with
    | none => exact .inl ⟨by simp [Slots.labor, hs, restartWork, hg], by simp [reserve, hi, hg]⟩
    | some g => exact .inr ⟨i, rfl, by simp [hg]⟩

lemma Inherits.left (hs : h.Inherits k l) (lead : Nat) :
    k.slots.labor lead l ≤ h.slots.labor lead l ∧ k.reserve l ≤ h.reserve l := by
  rcases left_cases k lead l with ⟨hl, hr⟩ | ⟨i, hi, hg⟩
  · rw [hl, hr]
    exact ⟨Nat.zero_le _, Nat.zero_le _⟩
  · obtain ⟨j, hj, hjg, hr⟩ := hs i hi hg
    rw [labor_eq hi hg, labor_eq hj hjg, reserve_eq hi hg, reserve_eq hj hjg, hr]
    exact ⟨Nat.le_refl _, Nat.le_refl _⟩

end Inherits

structure Rests (h k : Host) : Prop where
  costs : h.connections.Costs 0 k.connections
  generations : k.nextGeneration = h.nextGeneration
  environment : k.environment = h.environment
  inherits : ∀ l, h.Inherits k l

section Rest

lemma Rests.refl (h : Host) : h.Rests h := ⟨.refl _, rfl, rfl, .refl h⟩

lemma Rests.trans (hk : h.Rests k) (hm : k.Rests m) : h.Rests m :=
  ⟨hk.costs.free_trans hm.costs, hm.generations.trans hk.generations,
    hm.environment.trans hk.environment, fun l => (hk.inherits l).trans (hm.inherits l)⟩

lemma Rests.foldl {α : Type} {f : Host → α → Host} (hf : ∀ (k : Host) x, k.Rests (f k x))
    (xs : List α) (h : Host) : h.Rests (xs.foldl f h) := by
  induction xs generalizing h with
  | nil => exact .refl h
  | cons x rest ih => exact (hf h x).trans (ih (f h x))

lemma Rests.aside (hc : h.connections.Costs 0 k.connections)
    (hg : k.nextGeneration = h.nextGeneration) (he : k.environment = h.environment)
    (hs : k.slots = h.slots) : h.Rests k :=
  ⟨hc, hg, he, Inherits.of_slots hs⟩

lemma log_rests (h : Host) (level : LogLevel) (message : String) (fields : List (String × String)) :
    h.Rests (h.log level message fields) := .aside (Connections.log_costs _ _) rfl rfl rfl

lemma Consults.rests (hk : h.Consults k) : h.Rests k where
  costs := .aside (congrArg (·.connections.clients) hk.frame :) hk.quiet.2
    (Nat.le_of_eq (congrArg (·.connections.inbox.length) hk.frame :))
  generations := (congrArg Host.nextGeneration hk.frame :)
  environment := (congrArg Host.environment hk.frame :)
  inherits l i hi hg := by
    rcases hk.made l _ (instance?_eq_some.mp hi) with hold | ⟨-, hmade⟩
    · exact ⟨i, instance?_eq_some.mpr hold, hg, rfl⟩
    · -- A server that the settings provide for has no connection yet.
      rcases hc : configure h.settings l with ⟨notes, made⟩
      rw [hc] at hmade
      rw [((configure_ok (hc.trans (congrArg (notes, ·) hmade))).2 i rfl).2] at hg
      cases hg

lemma resolve_rests (h : Host) (l : LanguageId) : h.Rests (h.resolve l).1 :=
  (resolve_consults h l).rests

lemma set_rests (hi : h.instance? l = some i) (hc : h.connections.Costs 0 k.connections)
    (hn : k.nextGeneration = h.nextGeneration) (he : k.environment = h.environment)
    (hs : k.slots = h.slots.set l (.active j)) (hg : j.connection = i.connection)
    (hr : j.restarts = i.restarts) : h.Rests k := by
  refine ⟨hc, hn, he, Inherits.set hs fun x hx hxg => ⟨i, hi, ?_, ?_⟩⟩
  · rwa [← hg, Slot.active.inj hx]
  · rw [← hr, Slot.active.inj hx]

lemma rid_rests (l : LanguageId) {c : Connections} (hc : h.connections.Costs 0 c) :
    h.Rests (h.rid l c) := ⟨hc.free_trans (Connections.log_costs _ _), rfl, rfl, Inherits.erase rfl⟩

lemma finishStop_rests (h : Host) (l : LanguageId) : h.Rests (h.finishStop l) := by
  cases hi : h.instance? l with
  | none =>
    simp only [finishStop, hi]
    exact .aside (Connections.log_costs _ _) rfl rfl rfl
  | some i =>
    rw [finishStop_eq hi]
    exact rid_rests l (i.finish_costs _ .terminate)

end Rest

section Events

variable (h : Host) (w : Workspace) (l : LanguageId)

lemma onNotification_rests (method : String) (params : Json) :
    h.Rests (h.onNotification l method params) := by
  have hqueue (e : HostEvent) : h.Rests (h.queue e) := .aside (.refl _) rfl rfl rfl
  have hmessage (attention : Bool) : h.Rests (h.onMessage l params attention) := by
    simp only [onMessage]
    split
    · exact .refl h
    · exact .aside (Connections.log_costs _ _) rfl rfl rfl
  simp only [onNotification]
  split
  · simp only [onDiagnostics]
    split
    · split
      · exact hqueue _
      · exact log_rests h _ _ _
    · exact .refl h
  · split
    · exact hmessage false
    · split
      · exact hmessage true
      · split
        · simp only [onProgress]
          split
          · exact .aside (.refl _) rfl rfl rfl
          · exact .aside (Connections.log_costs _ _) rfl rfl rfl
        · exact log_rests h _ _ _

lemma answer_rests (method : String) (params : Json) : h.Rests (h.answer w l method params).1 := by
  simp only [answer]
  split
  · split
    · exact .aside (.refl _) rfl rfl rfl
    · exact .refl h
  · split
    · split <;> exact .refl h
    · split
      · exact .refl h
      · split
        · exact .refl h
        · exact log_rests h _ _ _

lemma sendReply_rests (id : RequestId) (method : String) (r : Reply) :
    h.Rests (h.sendReply l id method r) := by
  simp only [sendReply]
  split
  · exact .refl h
  · next g _ =>
    have hsent : h.Rests { h with connections := (h.connections.reply g id r).1 } :=
      .aside (h.connections.reply_costs g id r) rfl rfl rfl
    split
    · exact hsent
    · exact hsent.trans (log_rests _ _ _ _)

lemma didOpen_kept (s : Sync) (d : Document) :
    s.connections.Costs 0 (s.didOpen d).1.connections ∧
      (s.didOpen d).1.server.connection = s.server.connection ∧
      (s.didOpen d).1.server.restarts = s.server.restarts := by
  simp only [Sync.didOpen]
  split
  · exact ⟨.refl _, rfl, rfl⟩
  · split
    · exact ⟨.refl _, rfl, rfl⟩
    · simp only [Sync.openAs, notify_fst]
      exact ⟨(Connections.log_costs _ _).free_trans (Connections.tell_costs _ _ _ _), rfl, rfl⟩

lemma syncOnly_rests (d : Document) : h.Rests (h.syncOnly l (·.didOpen d)).1 := by
  cases hi : h.instance? l with
  | none =>
    simp only [syncOnly, withSync, hi]
    exact .refl h
  | some i =>
    obtain ⟨hcosts, hg, hr⟩ := didOpen_kept (h.syncing i) d
    rw [syncOnly_fst hi]
    exact set_rests hi hcosts rfl rfl rfl hg hr

lemma catchUpOne_rests (d : Document) : h.Rests (h.catchUpOne l d) := by
  simp only [catchUpOne]
  split
  · exact .refl h
  · next n _ =>
    have hw := resolve_rests h n
    rcases hr : h.resolve n with ⟨k, e | serving⟩ <;> rw [hr] at hw
    · exact hw
    simp only
    split
    · have hs := hw.trans (syncOnly_rests k l d)
      simp only [syncOnly] at hs
      rcases ho : k.withSync l (·.didOpen d) with ⟨m, e | b⟩ <;> rw [ho] at hs
      · exact hs.trans (log_rests m _ _ _)
      · exact hs
    · exact hw

lemma onInitialized_rests (response : Json) : h.Rests (h.onInitialized w l response) := by
  simp only [onInitialized]
  split
  · exact .refl h
  · next i hi =>
    split
    · exact .refl h
    · refine Rests.trans ?_ (Rests.foldl (fun h d => catchUpOne_rests h l d) _ _)
      have hsent : h.Rests ({ h with
          connections := (i.initializeSucceeded response h.connections).1 }.setInstance l
            (i.initializeSucceeded response h.connections).2.1) :=
        set_rests hi (i.initializeSucceeded_costs _ response) rfl rfl rfl rfl rfl
      refine Rests.trans ?_ (.aside (Connections.log_costs _ _) rfl rfl rfl)
      split
      · exact hsent
      · exact hsent.trans (log_rests _ _ _ _)

variable {h l}

lemma onShutdownResponse_rests (hi : h.instance? l = some i) (outcome : Outcome) :
    h.Rests (h.onShutdownResponse l outcome) := by
  have hcosts := i.shutdownAcknowledged_costs h.connections outcome
  simp only [onShutdownResponse, hi]
  split
  · exact .refl h
  · rcases shutdownAcknowledged_result i outcome h.connections with ⟨j, -, ha⟩ | ⟨r, d, -, ha⟩
    · rw [ha] at hcosts
      simp only [ha, Bool.false_eq_true, if_false]
      exact set_rests hi hcosts rfl rfl rfl rfl rfl
    · rw [ha] at hcosts
      simp only [ha, if_true]
      rw [finishStop_reset h l _ rfl]
      exact rid_rests l hcosts

lemma handleRetiring_rests (h : Host) (n : Nat) (i : Instance) (kind : ServerEventKind) :
    h.Rests (h.handleRetiring n i kind) := by
  have hcosts : h.connections.Costs 0 (stepRetiring i kind h.connections).1 := by
    cases kind with
    | shutdownResponse outcome => exact i.shutdownAcknowledged_costs _ outcome
    | closed error => exact i.finish_costs _ .terminate
    | _ => exact .refl _
  simp only [handleRetiring]
  split <;> exact .aside hcosts rfl rfl rfl

end Events

structure Launches (h k : Host) (l : LanguageId) (restarts : Nat) : Prop where
  load : h.connections.roll.Nodup → h.nextGeneration ∉ h.connections.roll →
    k.connections.load ≤ h.connections.load + (3 + h.environment.lead)
  environment : k.environment = h.environment
  generations : k.nextGeneration ≤ h.nextGeneration + 1
  tries : ∀ m, k.tries m ≤ h.tries m + if m = l then 1 else 0
  others : ∀ m, m ≠ l → h.Inherits k m
  self : ∀ i, k.instance? l = some i → i.connection.isSome = true → i.restarts = restarts

section Launching

lemma tries_of_launches (hl : k.connections.launches = h.connections.launches) (l : LanguageId) :
    k.tries l = h.tries l := by rw [tries, hl, tries]

lemma tries_launched {request : LaunchRequest} (hr : request.language = l)
    (hl : k.connections.launches = h.connections.launches ++ [(g, request)]) (n : LanguageId) :
    k.tries n ≤ h.tries n + if n = l then 1 else 0 := by
  rw [tries, hl, List.countP_append, List.countP_singleton, tries]
  simp [hr, eq_comm]

lemma launching_load (h : Host) (request : LaunchRequest) (notes : List LogRecord) :
    (h.launching request notes).load = h.connections.load ∧
      (h.launching request notes).roll = h.connections.roll := by
  rw [launching, Connections.logs_eq]
  exact ⟨rfl, rfl⟩

lemma Launches.failed {c : Connections} {restarts : Nat} (hload : c.load ≤ h.connections.load)
    (htries : ∀ n : LanguageId, c.launches.countP (·.2.language = n) ≤
      h.tries n + if n = l then 1 else 0) (e : LaunchError) :
    h.Launches ({ h with
      connections := c, nextGeneration := h.nextGeneration + 1 }.launchFailed l restarts e) l
        restarts where
  load _ _ := Nat.le_trans hload (Nat.le_add_right _ _)
  environment := rfl
  generations := Nat.le_refl _
  tries n := by
    refine Nat.le_trans (Nat.le_of_eq ?_) (htries n)
    have hlog := (Connections.log_costs c ⟨.error, sessionTarget, "failed to launch language server",
      [("language", l.name)]⟩).launches
    exact congrArg (List.countP _) hlog
  others n hn i hi hg := by
    have hslots : (launchFailed { h with connections := c, nextGeneration := h.nextGeneration + 1 } l
        restarts e).slots = h.slots.set l (.dead restarts ("failed to launch: " ++ e.message)) := rfl
    rw [instance?_eq_some, hslots, Slots.get?_set, if_neg hn.symm] at hi
    exact ⟨i, instance?_eq_some.mpr hi, hg, rfl⟩
  self i hi := by
    simp [launchFailed, kill, queue, setSlot, instance?_eq_some, Slots.get?_set] at hi

lemma ensureStarted_launches (hi : h.instance? l = some i) (hl : i.language = l)
    (hs : i.state = .stopped) (hd : h.shuttingDown = false) :
    h.Launches (h.ensureStarted l).1 l i.restarts := by
  rcases hr : i.launchRequest h.root h.environment with e | request
  · rw [ensureStarted_unlaunched hi hs hd hr]
    exact .failed (c := h.connections) (Nat.le_refl _) (fun n => Nat.le_add_right _ _) e
  have hlang : request.language = l := by
    refine Eq.trans ?_ hl
    simp only [Instance.launchRequest] at hr
    split at hr
    · cases hr
    · rw [← Except.ok.inj hr]
  have hlaunched (notes : List LogRecord) (n : LanguageId) :
      (h.launching request notes).launches.countP (·.2.language = n) ≤
        h.tries n + if n = l then 1 else 0 :=
    tries_launched (k := { h with connections := h.launching request notes }) hlang
      (launching_launches h request notes) n
  rcases hlaunch : h.environment.launch h.nextGeneration request with ⟨notes, e | plan⟩
  · rw [ensureStarted_failed hi hs hd hr hlaunch]
    exact .failed (Nat.le_of_eq (launching_load h request notes).1) (hlaunched notes) e
  rcases ha : h.environment.attach h.nextGeneration with e | _
  · rw [ensureStarted_unattached hi hs hd hr hlaunch ha]
    have hended := Connections.record_costs (h.launching request notes)
      (x := .ended h.nextGeneration .forceExit) rfl
    refine .failed (Nat.le_of_eq ?_) (fun n => ?_) (.connection e)
    · exact (launching_load h request notes).1
    · rw [hended.launches]
      exact hlaunched notes n
  · rw [ensureStarted_launched hi hs hd hr hlaunch ha]
    obtain ⟨-, hlaunches, hload⟩ := i.connect_load (h.launching request notes) h.root h.environment
      h.nextGeneration plan (h.environment.overture h.nextGeneration request)
    obtain ⟨hsame, hroll⟩ := launching_load h request notes
    refine ⟨fun hn hfresh => ?_, rfl, Nat.le_refl _, fun n => ?_, fun n hn x hx hg => ?_,
      fun x hx _ => ?_⟩
    · have hlead : (h.environment.overture h.nextGeneration request).signals.length ≤
          h.environment.lead := List.length_take_le _ _
      refine (hload ?_).trans (by omega)
      rw [hroll, List.nodup_append]
      refine ⟨hn, List.nodup_singleton _, fun a ha b hb => ?_⟩
      rintro rfl
      exact hfresh (List.mem_singleton.mp hb ▸ ha)
    · refine Nat.le_trans (Nat.le_of_eq ?_) (hlaunched notes n)
      exact congrArg (List.countP _) hlaunches
    · rw [instance?_setInstance, if_neg hn.symm] at hx
      exact ⟨x, hx, hg, rfl⟩
    · rw [instance?_setInstance, if_pos rfl] at hx
      rw [← Option.some.inj hx]
      rfl

lemma Launches.log {restarts : Nat} (hk : h.Launches k l restarts) (level : LogLevel)
    (message : String) (fields : List (String × String)) :
    h.Launches (k.log level message fields) l restarts :=
  ⟨hk.load, hk.environment, hk.generations, fun n =>
    tries_of_launches (log_rests k level message fields).costs.launches n ▸ hk.tries n,
    hk.others, hk.self⟩

lemma retried_launches (hi : h.instance? l = some i) (hl : i.language = l) (hs : i.state = .stopped)
    (hg : i.connection = none) : h.Launches (h.retried l) l i.restarts := by
  cases hd : h.shuttingDown with
  | true =>
    simp only [retried, ensureStarted_shut hd]
    refine ⟨fun _ _ => Nat.le_add_right _ _, rfl, Nat.le_succ _, fun n => Nat.le_add_right _ _,
      fun n _ => .refl h n, fun x hx hxg => ?_⟩
    obtain rfl : i = x := Option.some.inj (hi.symm.trans hx)
    simp [hg] at hxg
  | false =>
    have hk := ensureStarted_launches hi hl hs hd
    rcases he : h.ensureStarted l with ⟨k, e | u⟩ <;> rw [he] at hk
    · simp only [retried, he]
      exact hk.log _ _ _
    · simpa only [retried, he] using hk

end Launching

def Relaunches (h k : Host) (l : LanguageId) : Prop :=
  ∃ i m, h.instance? l = some i ∧ i.connection.isSome = true ∧ i.restarts + 1 ≤ maxRestarts ∧
    h.Rests m ∧ m.Launches k l (i.restarts + 1)

section Losing

lemma Rests.relaunches (hm : h.Rests m) (hk : m.Relaunches k l) : h.Relaunches k l := by
  obtain ⟨i, x, hi, hg, hr, hx, hk⟩ := hk
  obtain ⟨j, hj, hjg, hjr⟩ := hm.inherits l i hi hg
  rw [← hjr] at hr hk
  exact ⟨j, x, hj, hjg, hr, hm.trans hx, hk⟩

lemma lose_outcome (hi : h.instance? l = some i) (hg : i.connection.isSome = true) (reason : String) :
    h.Rests (h.lose l reason) ∨ h.Relaunches (h.lose l reason) l := by
  have hend := i.finish_costs h.connections .forceExit
  by_cases hm : i.restarts + 1 ≤ maxRestarts
  · have hbereft : h.Rests (h.bereft l i reason) := by
      refine ⟨hend, rfl, rfl, Inherits.set rfl fun x hx hxg => ?_⟩
      obtain rfl : i.successor l = x := Slot.active.inj hx
      cases hxg
    have hlogged := hbereft.trans (log_rests (h.bereft l i reason) .info
      "restarting language server" [languageField l, ("restarts", toString (i.restarts + 1))])
    rw [lose_replaced hi hm]
    refine .inr ⟨i, _, hi, hg, hm, hlogged, ?_⟩
    refine retried_launches (i := i.successor l) ?_ rfl rfl rfl
    simp [bereft, log, setInstance, setSlot, instance?, Slots.get?_set, Slot.instance?]
  · obtain ⟨last, r, hl⟩ := lose_forsaken hi (Nat.lt_of_not_le hm) reason
    rw [hl]
    refine .inl ⟨hend.free_trans (Connections.log_costs _ r), rfl, rfl, Inherits.set rfl fun x hx _ => ?_⟩
    cases hx

lemma logged_lose_outcome (hi : h.instance? l = some i) (hg : i.connection.isSome = true)
    (level : LogLevel) (message : String) (fields : List (String × String)) (reason : String) :
    h.Rests ((h.log level message fields).lose l reason) ∨
      h.Relaunches ((h.log level message fields).lose l reason) l :=
  (lose_outcome (h := h.log level message fields) hi hg reason).imp (log_rests h _ _ _).trans
    (log_rests h _ _ _).relaunches

lemma handleCurrent_outcome (hi : h.instance? l = some i) (hg : i.connection.isSome = true)
    (w : Workspace) (kind : ServerEventKind) :
    h.Rests (h.handleCurrent w l kind).1 ∨ h.Relaunches (h.handleCurrent w l kind).1 l := by
  cases kind with
  | initializeResponse outcome =>
    rcases outcome with e | response
    · by_cases hs : i.state = .awaitingInitialize
      · simp only [handleCurrent]
        rw [onInitializeFailed_lost hi hs]
        exact logged_lose_outcome hi hg _ _ _ _
      · refine .inl ?_
        simp only [handleCurrent, onInitializeFailed, hi, Option.any_some, hs, decide_false,
          Bool.false_eq_true, if_false]
        exact .refl h
    · exact .inl (onInitialized_rests h w l response)
  | shutdownResponse outcome => exact .inl (onShutdownResponse_rests hi outcome)
  | notification method params => exact .inl (onNotification_rests h l method params)
  | request id method params =>
    exact .inl ((answer_rests h w l method params).trans (sendReply_rests _ l id method _))
  | closed error =>
    by_cases hs : i.state = .shuttingDown
    · refine .inl ?_
      simp only [handleCurrent, onClosed, hi, hs, if_true]
      exact finishStop_rests h l
    · simp only [handleCurrent]
      rw [onClosed_lost hi hs]
      exact logged_lose_outcome hi hg _ _ _ _

lemma handleEvent_outcome (h : Host) (w : Workspace) (e : ServerEvent) :
    h.Rests (h.handleEvent w e).1 ∨ h.Relaunches (h.handleEvent w e).1 e.language := by
  rcases hf : h.findRetiring e.generation with _ | ⟨n, i⟩
  · cases hcur : h.isCurrent e.language e.generation with
    | false =>
      simp only [handleEvent, hf, hcur, Bool.false_eq_true, if_false]
      exact .inl (log_rests h _ _ _)
    | true =>
      obtain ⟨i, hi, hg⟩ := isCurrent_iff.mp hcur
      simp only [handleEvent, hf, hcur, if_true]
      exact handleCurrent_outcome hi (by simp [hg]) w e.kind
  · simp only [handleEvent, hf]
    exact .inl (handleRetiring_rests h n i e.kind)

end Losing

/-- The generations that can be given out before the editor does something again. -/
def span (h : Host) : Nat := h.nextGeneration + h.slots.labors 0

/-- What is launched is paid for: by the work that is left, by the generations, and by the restarts. -/
structure Affords (h k : Host) : Prop where
  work : k.work ≤ h.work
  span : k.span ≤ h.span
  tries : ∀ l, k.tries l + k.reserve l ≤ h.tries l + h.reserve l

section Affording

lemma work_eq (h : Host) :
    h.work = h.connections.load + h.slots.labors h.environment.lead := rfl

variable (hroll : h.connections.roll.Nodup) (hn : h.slots.languages.Nodup)
  (hk : k.slots.languages.Nodup)

include hroll hn hk

lemma Rests.affords (hr : h.Rests k) : h.Affords k := by
  have hle (lead : Nat) : k.slots.labors lead ≤ h.slots.labors lead :=
    Slots.labors_mono hn hk fun l => ((hr.inherits l).left lead).1
  have hload := hr.costs.load hroll
  refine ⟨?_, ?_, fun l => ?_⟩
  · have := hle h.environment.lead
    rw [work_eq, work_eq, hr.environment]
    omega
  · have := hle 0
    rw [span, span, hr.generations]
    omega
  · rw [tries_of_launches hr.costs.launches]
    exact Nat.add_le_add_left ((hr.inherits l).left 0).2 _

lemma Relaunches.affords (hfresh : h.nextGeneration ∉ h.connections.roll)
    (hr : h.Relaunches k l) : h.Affords k := by
  obtain ⟨i, m, hi, hg, hmax, hm, hl⟩ := hr
  have hothers (n : LanguageId) (hnl : n ≠ l) : h.Inherits k n :=
    (hm.inherits n).trans (hl.others n hnl)
  have hself (lead : Nat) : k.slots.labor lead l + (3 + lead) ≤ h.slots.labor lead l ∧
      k.reserve l + 1 ≤ h.reserve l := by
    have hone : maxRestarts + 1 - i.restarts = (maxRestarts + 1 - (i.restarts + 1)) + 1 := by omega
    rw [labor_eq hi hg, reserve_eq hi hg, hone, Nat.mul_succ]
    rcases left_cases k lead l with ⟨hlabor, hreserve⟩ | ⟨j, hj, hjg⟩
    · omega
    · rw [labor_eq hj hjg, reserve_eq hj hjg, hl.self j hj hjg]
      omega
  have hless (lead : Nat) : k.slots.labors lead + (3 + lead) ≤ h.slots.labors lead :=
    Slots.labors_drop hn hk (hself lead).1 fun n hnl => ((hothers n hnl).left lead).1
  have hload := hl.load (hm.costs.roll ▸ hroll) (hm.costs.roll ▸ hm.generations ▸ hfresh)
  have hloadm := hm.costs.load hroll
  have hnext := hl.generations
  rw [hm.generations] at hnext
  rw [hm.environment] at hload
  refine ⟨?_, ?_, fun n => ?_⟩
  · have := hless h.environment.lead
    rw [work_eq, work_eq, hl.environment, hm.environment]
    omega
  · have := hless 0
    rw [span, span]
    omega
  · have htries := hl.tries n
    rw [tries_of_launches hm.costs.launches] at htries
    by_cases hnl : n = l
    · subst hnl
      rw [if_pos rfl] at htries
      have := (hself 0).2
      omega
    · rw [if_neg hnl] at htries
      have := ((hothers n hnl).left 0).2
      omega

end Affording

end Host

end LanguageHost
