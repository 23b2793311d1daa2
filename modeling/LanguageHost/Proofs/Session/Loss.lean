import Mathlib.Data.List.Induction
import LanguageHost.Proofs.Session.Registry
import LanguageHost.Proofs.Supervisor.CommandLine

namespace LanguageHost

def HostEvent.alarms (l : LanguageId) : HostEvent → Bool
  | .notice k _ => k = l
  | .fatal k _ => k = l
  | _ => false

namespace Host

variable {h k : Host} {l : LanguageId} {i : Instance} {g : Nat} {st : Lifecycle} {deed : Deed}

def alarms (h : Host) (l : LanguageId) : List HostEvent := h.queued.filter (·.alarms l)

def Stands (h : Host) (l : LanguageId) (g : Nat) (st : Lifecycle) : Prop :=
  ∃ i, h.instance? l = some i ∧ i.connection = some g ∧ i.state = st

structure Gone (h : Host) (g : Nat) : Prop where
  issued : g < h.nextGeneration
  left : ∀ l i, h.instance? l = some i → i.connection ≠ some g
  retired : ∀ i ∈ h.retiring, i.connection ≠ some g

section Standing

lemma stands_setSlot {m : LanguageId} (hs : h.Stands l g st) (hm : m ≠ l) (slot : Slot) :
    (h.setSlot m slot).Stands l g st := by
  obtain ⟨i, hi, hg, hst⟩ := hs
  refine ⟨i, ?_, hg, hst⟩
  rw [instance?_eq_some] at hi ⊢
  rwa [setSlot, Slots.get?_set, if_neg hm]

lemma stands_erase {m : LanguageId} (hs : h.Stands l g st) (hm : m ≠ l)
    (hk : k.slots = h.slots.erase m) : k.Stands l g st := by
  obtain ⟨i, hi, hg, hst⟩ := hs
  refine ⟨i, ?_, hg, hst⟩
  rw [instance?_eq_some] at hi ⊢
  rwa [hk, Slots.get?_erase, if_neg hm]

lemma stands_setInstance {m : LanguageId} {j : Instance} (hs : h.Stands l g st)
    (hi : h.instance? m = some i) (hcon : j.connection = i.connection) (hst : j.state = i.state) :
    (h.setInstance m j).Stands l g st := by
  by_cases hm : m = l
  · subst hm
    obtain ⟨i', hi', hg, hs⟩ := hs
    obtain rfl : i = i' := Option.some.inj (hi.symm.trans hi')
    exact ⟨j, by simp [instance?_setInstance], hcon.trans hg, hst.trans hs⟩
  · exact stands_setSlot hs hm _

lemma Step.stands (hs : Step h deed k) (hst : st = .awaitingInitialize ∨ st = .ready)
    (hh : h.Stands l g st) (hstop : deed ≠ .stop l) (hevict : deed ≠ .evict l)
    (hloss : deed ≠ .loss l) (hwelcome : ∀ n response, deed ≠ .welcome l n response) :
    k.Stands l g st ∧ (k.alarms l).Sublist (h.alarms l) := by
  -- The server that the connection belongs to is in neither of these states.
  have hother {m : LanguageId} {j : Instance} (hj : h.instance? m = some j)
      (hn : j.connection = none ∨ j.state = .stopped ∨ j.state = .shuttingDown) : m ≠ l := by
    rintro rfl
    obtain ⟨i, hi, hg, hs⟩ := hh
    obtain rfl : j = i := Option.some.inj (hj.symm.trans hi)
    rcases hn with hn | hn | hn
    · simp [hn] at hg
    · rcases hst with rfl | rfl <;> simp [hn] at hs
    · rcases hst with rfl | rfl <;> simp [hn] at hs
  cases hs with
  | taken => exact ⟨hh, by simp [alarms]⟩
  | told e he =>
    refine ⟨hh, ?_⟩
    have : e.alarms l = false := by cases e <;> simp_all [HostEvent.alarms, HostEvent.isFateful]
    simp [alarms, queue, this]
  | logged | progressed | announced | requested | elapsed | surrounded | popped | received | ended
    | planned | collected | replied | searched | asked | acknowledged | released | sealed | shuffled
    | expelled | replaced => exact ⟨hh, .refl _⟩
  | departed => exact ⟨hh, by simp [alarms, HostEvent.alarms]⟩
  | configured m slot notes hn =>
    refine ⟨stands_setSlot (m := m) hh ?_ slot, .refl _⟩
    rintro rfl
    obtain ⟨i, hi, -⟩ := hh
    simp [instance?_eq_some.mp hi] at hn
  | touched m j hj | opened m j d uri hj | changed m j d change uri hj | saved m j d uri hj
    | closed m j d uri hj | unlisted m j d hj =>
    exact ⟨stands_setInstance hh hj rfl rfl, .refl _⟩
  | launched m j request notes plan hj hs =>
    exact ⟨stands_setSlot (m := m) hh (hother hj (.inr (.inl hs))) _, .refl _⟩
  | unlaunched m j e hj hs | failed m j request notes e hj hs
    | unattached m j request notes plan e hj hs =>
    have hm := hother hj (.inr (.inl hs))
    refine ⟨stands_setSlot (m := m) hh hm _, ?_⟩
    simp [alarms, launchFailed, kill, queue, log, setSlot, HostEvent.alarms, hm]
  | welcomed m j n response hj =>
    have hm : m ≠ l := fun hm => hwelcome n response (by rw [hm])
    exact ⟨stands_setSlot (m := m) hh hm _, .refl _⟩
  | lost m j reason hj =>
    have hm : m ≠ l := fun hm => hloss (by rw [hm])
    refine ⟨stands_setSlot (m := m) hh hm _, ?_⟩
    simp [alarms, setInstance, setSlot, HostEvent.alarms, hm]
  | abandoned m j reason last hj =>
    have hm : m ≠ l := fun hm => hloss (by rw [hm])
    refine ⟨stands_setSlot (m := m) hh hm _, ?_⟩
    simp [alarms, setSlot, HostEvent.alarms, hm]
  | stopping m j n hj =>
    have hm : m ≠ l := fun hm => hstop (by rw [hm])
    exact ⟨stands_setSlot (m := m) hh hm _, .refl _⟩
  | dropped m j how hj hs =>
    refine ⟨stands_erase hh (hother hj (.inr (.inr hs))) rfl, ?_⟩
    simp [alarms, HostEvent.alarms]
  | excused m j hj hs =>
    refine ⟨stands_erase hh (hother hj (.inl hs)) rfl, ?_⟩
    simp [alarms, HostEvent.alarms]
  | idled m j hj hs => exact ⟨stands_erase hh (hother hj (.inl hs)) rfl, .refl _⟩
  | retired m j hj hs | muted m j n hj hg hs | reminded m j n hj hg hs =>
    exact ⟨stands_erase hh (hother hj (.inr (.inr hs))) rfl, .refl _⟩
  | evicted m j hj =>
    have hm : m ≠ l := fun hm => hevict (by rw [hm])
    refine ⟨stands_erase hh hm rfl, ?_⟩
    by_cases hr : isRunning j = true <;> simp [alarms, HostEvent.alarms, hr]
  | forgotten m hn =>
    refine ⟨stands_erase (m := m) hh ?_ rfl, .refl _⟩
    rintro rfl
    obtain ⟨i, hi, -⟩ := hh
    simp [hn] at hi

lemma Walk.stands {P : Deed → Prop} (hw : Walk P h k)
    (hst : st = .awaitingInitialize ∨ st = .ready) (hh : h.Stands l g st) (hstop : ¬P (.stop l))
    (hevict : ¬P (.evict l)) (hloss : ¬P (.loss l))
    (hwelcome : ∀ n response, ¬P (.welcome l n response)) :
    k.Stands l g st ∧ (k.alarms l).Sublist (h.alarms l) := by
  refine hw.keeps (I := fun k => k.Stands l g st ∧ (k.alarms l).Sublist (h.alarms l)) ⟨hh, .refl _⟩
    fun {a b d} hd hs ha => ?_
  obtain ⟨hb, hsub⟩ := hs.stands hst ha.1 (by rintro rfl; exact hstop hd)
    (by rintro rfl; exact hevict hd) (by rintro rfl; exact hloss hd)
    (by rintro n response rfl; exact hwelcome n response hd)
  exact ⟨hb, hsub.trans ha.2⟩

lemma Gone.filled (hh : h.Gone g) {m : LanguageId} {slot : Slot}
    (hs : k.slots = h.slots.set m slot) (hslot : slot.connection? ≠ some g)
    (hr : k.retiring = h.retiring) (hn : h.nextGeneration ≤ k.nextGeneration) : k.Gone g where
  issued := Nat.lt_of_lt_of_le hh.issued hn
  left n j hj := by
    rw [instance?_eq_some, hs, Slots.get?_set] at hj
    split at hj
    · rw [Option.some.inj hj] at hslot
      exact hslot
    · exact hh.left n j (instance?_eq_some.mpr hj)
  retired := hr ▸ hh.retired

lemma Gone.erased (hh : h.Gone g) {m : LanguageId} (hs : k.slots = h.slots.erase m)
    (hr : ∀ i ∈ k.retiring, i.connection ≠ some g) (hn : k.nextGeneration = h.nextGeneration) :
    k.Gone g where
  issued := hn ▸ hh.issued
  left n j hj := hh.left n j (instance?_eq_some.mpr (Coherent.unfilled hs n _
    (instance?_eq_some.mp hj)))
  retired := hr

lemma Step.gone (hs : Step h deed k) (hh : h.Gone g) : k.Gone g := by
  cases hs with
  | logged | told | taken | progressed | announced | requested | elapsed | surrounded | popped
    | received | ended | planned | collected | replied | searched | asked | acknowledged | released
    | sealed =>
    exact ⟨hh.issued, hh.left, hh.retired⟩
  | replaced settings hs => exact ⟨hh.issued, hh.left, hh.retired⟩
  | configured m slot notes hn hconf =>
    refine hh.filled (show _ = h.slots.set m slot from rfl) ?_ rfl (Nat.le_refl _)
    cases slot with
    | active i =>
      rw [Slot.connection?, Slot.instance?, ((configure_ok hconf).2 i rfl).2]
      simp
    | _ => simp [Slot.connection?, Slot.instance?]
  | touched m j hj | opened m j d uri hj | changed m j d change uri hj | saved m j d uri hj
    | closed m j d uri hj | unlisted m j d hj | welcomed m j n response hj | stopping m j n hj =>
    exact hh.filled (m := m) rfl (hh.left m j hj) rfl (Nat.le_refl _)
  | launched m j request notes plan hj =>
    refine hh.filled (m := m) rfl ?_ rfl (Nat.le_succ _)
    have := Nat.ne_of_gt hh.issued
    simpa [Slot.connection?, Slot.instance?, Instance.greeting] using this
  | unlaunched m | failed m | unattached m =>
    exact hh.filled (m := m) rfl (by simp [Slot.connection?, Slot.instance?]) rfl (Nat.le_succ _)
  | lost m | abandoned m =>
    exact hh.filled (m := m) rfl (by simp [Slot.connection?, Slot.instance?, Instance.successor]) rfl
      (Nat.le_refl _)
  | dropped m | excused m | idled m | muted m | evicted m | forgotten m =>
    exact hh.erased (m := m) rfl hh.retired rfl
  | retired m j hj | reminded m j n hj =>
    refine hh.erased (m := m) rfl (fun i hi => ?_) rfl
    rcases List.mem_append.mp hi with hi | hi
    · exact hh.retired i hi
    · rw [List.mem_singleton.mp hi]
      exact hh.left m j hj
  | shuffled retiring hp => exact ⟨hh.issued, hh.left, fun i hi => hh.retired i (hp.mem_iff.mpr hi)⟩
  | departed j rest how hp | expelled j n rest hp =>
    exact ⟨hh.issued, hh.left, fun i hi =>
      hh.retired i (hp.mem_iff.mpr (List.mem_cons_of_mem j hi))⟩

lemma Walk.gone {P : Deed → Prop} (hw : Walk P h k) (hh : h.Gone g) : k.Gone g :=
  hw.keeps hh fun _ hs ha => hs.gone ha

lemma perform_gone (hc : h.Coherent) (hh : h.Gone g) (m : Move) : (h.perform m).Gone g := by
  obtain ⟨k, hw, hcalm⟩ := perform_walk hc.languages m
  exact hcalm.gone (hw.gone hh)

end Standing

section Succession

namespace Coherent

lemma current (hc : h.Coherent) (hi : h.instance? l = some i) (hg : i.connection = some g) :
    ∀ j ∈ h.retiring, j.connection ≠ some g := by
  intro j hj hjg
  have hlive := (Slots.mem_live hc.languages).mpr ⟨l, i, instance?_eq_some.mp hi, hg⟩
  have hdist := hc.distinct
  rw [generations_eq, List.nodup_append] at hdist
  exact hdist.2.2 g hlive g (List.mem_filterMap.mpr ⟨j, hj, hjg⟩) rfl

lemma gone (hc : h.Coherent) (hi : h.instance? l = some i) (hg : i.connection = some g) {slot : Slot}
    (hs : k.slots = h.slots.set l slot) (hslot : slot.connection? = none)
    (hr : k.retiring = h.retiring) (hn : k.nextGeneration = h.nextGeneration) : k.Gone g where
  issued := hn ▸ hc.issued (by simp [hc.linked hi hg])
  left n j hj hjg := by
    rw [instance?_eq_some, hs, Slots.get?_set] at hj
    split at hj
    · rw [Option.some.inj hj] at hslot
      exact absurd (hslot.symm.trans hjg) (by simp)
    · next hn =>
      have hl := (hc.linked (instance?_eq_some.mpr hj) hjg).symm.trans (hc.linked hi hg)
      exact hn (Option.some.inj hl).symm
  retired := hr ▸ hc.current hi hg

lemma not_shuttingDown (hc : h.Coherent) (hi : h.instance? l = some i)
    (hs : i.state = .awaitingInitialize ∨ i.state = .ready) : h.shuttingDown = false := by
  by_contra hd
  have hh := (hc.instance_fits hi).halted (by simpa using hd) i rfl
  rcases hs with hs | hs <;> simp [hs] at hh

end Coherent

structure Attempted (h k : Host) (l : LanguageId) (restarts : Nat) (request : LaunchRequest) :
    Prop where
  language : request.language = l
  launches : k.connections.launches = h.connections.launches ++ [(h.nextGeneration, request)]
  outcome : (∃ j, k.instance? l = some j ∧ j.connection = some h.nextGeneration ∧
      j.restarts = restarts ∧ k.queued = h.queued) ∨
    ∃ text, k.slots.get? l = some (.dead restarts text) ∧ k.queued = h.queued ++ [.fatal l text]

lemma launching_launches (h : Host) (request : LaunchRequest) (notes : List LogRecord) :
    (h.launching request notes).launches =
      h.connections.launches ++ [(h.nextGeneration, request)] := by
  rw [launching, (Connections.logs_evolves notes _).launches]
  simp [Connections.launches, Connections.record, Effect.launch?]

lemma launchRequest_ok (hs : i.settings.commandLine?.isSome = true) (root : Option FilePath)
    (env : Environment) :
    ∃ request, i.launchRequest root env = .ok request ∧ request.language = i.language := by
  obtain ⟨text, ht⟩ := Option.isSome_iff_exists.mp hs
  obtain ⟨command, hcommand⟩ := CommandLine.parse?_commandLine ht env.home
  simp only [Instance.launchRequest, ht, Option.bind_some, hcommand]
  exact ⟨_, rfl, rfl⟩

lemma retried_attempted (hc : h.Coherent) (hi : h.instance? l = some i) (hs : i.state = .stopped)
    (hd : h.shuttingDown = false) :
    ∃ request, Attempted h (h.retried l) l i.restarts request := by
  obtain ⟨request, hr, hlang⟩ :=
    launchRequest_ok ((hc.instance_fits hi).commanded i rfl) h.root h.environment
  refine ⟨request, ?_⟩
  rcases hl : h.environment.launch h.nextGeneration request with ⟨notes, e | plan⟩
  · simp only [retried, ensureStarted_failed hi hs hd hr hl]
    exact
      { language := hlang.trans (hc.sound hi).language
        launches := by
          rw [← launching_launches h request notes]
          exact ((Connections.log_evolves _ _).trans (Connections.log_evolves _ _)).launches
        outcome := .inr ⟨_, by
          simp only [log, launchFailed, kill, queue, setSlot, Slots.get?_set, if_true], rfl⟩ }
  rcases ha : h.environment.attach h.nextGeneration with e | _
  · simp only [retried, ensureStarted_unattached hi hs hd hr hl ha]
    exact
      { language := hlang.trans (hc.sound hi).language
        launches := by
          rw [← launching_launches h request notes]
          exact ((Connections.record_evolves _ rfl rfl).trans
            ((Connections.log_evolves _ _).trans (Connections.log_evolves _ _))).launches
        outcome := .inr ⟨_, by
          simp only [log, launchFailed, kill, queue, setSlot, Slots.get?_set, if_true], rfl⟩ }
  · simp only [retried, ensureStarted_launched hi hs hd hr hl ha]
    have hnone : (h.launching request notes).language? h.nextGeneration = none :=
      ((launching_keeps h request notes).language _).trans (hc.fresh _ (Nat.le_refl _))
    obtain ⟨_, he, -⟩ := i.connect_evolves h.root h.environment h.nextGeneration plan
      (h.environment.overture h.nextGeneration request) _ hnone
    exact
      { language := hlang.trans (hc.sound hi).language
        launches := he.launches.trans (launching_launches h request notes)
        outcome := .inl ⟨i.greeting h.nextGeneration, by simp [instance?_setInstance], rfl, rfl,
          rfl⟩ }

/-- The loss of a connection is acted on: the editor is told once, and either one successor is
launched, which counts one restart more, or the language is given up. -/
def Recovers (h k : Host) (l : LanguageId) (g : Nat) (reason : String) : Prop :=
  ∃ i, h.instance? l = some i ∧ i.connection = some g ∧
    (i.restarts + 1 ≤ maxRestarts ∧
      (∃ request, request.language = l ∧ k.connections.launches =
        h.connections.launches ++ [(h.nextGeneration, request)]) ∧
      ((∃ j, k.instance? l = some j ∧ j.connection = some h.nextGeneration ∧
          j.restarts = i.restarts + 1 ∧ k.queued = h.queued ++ [.notice l reason]) ∨
        ∃ text, k.slots.get? l = some (.dead (i.restarts + 1) text) ∧
          k.queued = h.queued ++ [.notice l reason, .fatal l text]) ∨
    maxRestarts < i.restarts + 1 ∧ k.connections.launches = h.connections.launches ∧
      ∃ text, k.slots.get? l = some (.dead (i.restarts + 1) text) ∧
        k.queued = h.queued ++ [.notice l reason, .fatal l text])

lemma lose_recovers (hc : h.Coherent) (hh : h.Stands l g st)
    (hst : st = .awaitingInitialize ∨ st = .ready) (reason : String) :
    Recovers h (h.lose l reason) l g reason ∧ (h.lose l reason).Gone g := by
  obtain ⟨i, hi, hg, rfl⟩ := hh
  have hs : i.state ≠ .shuttingDown := by rcases hst with hst | hst <;> simp [hst]
  have hend := i.finish_evolves .forceExit h.connections
  by_cases hm : i.restarts + 1 ≤ maxRestarts
  · rw [lose_replaced hi hm]
    generalize hk : (h.bereft l i reason).log .info "restarting language server"
      [languageField l, ("restarts", toString (i.restarts + 1))] = k
    have hlost : Step h (.loss l) (h.bereft l i reason) := .lost l i reason hi hs hm
    have hkc : k.Coherent := hk ▸ (Step.logged _).coherent (hlost.coherent hc)
    have hki : k.instance? l = some (i.successor l) := by
      rw [← hk]
      simp [bereft, log, setInstance, setSlot, instance?, Slots.get?_set, Slot.instance?]
    have hkd : k.shuttingDown = false := hk ▸ hc.not_shuttingDown hi hst
    have hlaunches : k.connections.launches = h.connections.launches := by
      rw [← hk]
      exact (hend.trans (Connections.log_evolves _ _)).launches
    have hqueued : k.queued = h.queued ++ [.notice l reason] := by rw [← hk]; rfl
    have hnext : k.nextGeneration = h.nextGeneration := by rw [← hk]; rfl
    have hgone : k.Gone g := hk ▸
      hc.gone hi hg (show _ = h.slots.set l (.active (i.successor l)) from rfl) rfl rfl rfl
    obtain ⟨request, ha⟩ := retried_attempted hkc hki rfl hkd
    refine ⟨⟨i, hi, hg, .inl ⟨hm, ⟨request, ha.language, ?_⟩, ?_⟩⟩, (retried_calm k l).gone hgone⟩
    · rw [ha.launches, hlaunches, hnext]
    · rcases ha.outcome with ⟨j, hj, hjg, hr, hq⟩ | ⟨text, htext, hq⟩
      · exact .inl ⟨j, hj, hnext ▸ hjg, hr, hq.trans hqueued⟩
      · refine .inr ⟨text, htext, ?_⟩
        rw [hq, hqueued, List.append_assoc]
        rfl
  · obtain ⟨last, r, hl⟩ := lose_forsaken hi (Nat.lt_of_not_le hm) reason
    rw [hl]
    refine ⟨⟨i, hi, hg, .inr ⟨Nat.lt_of_not_le hm, ?_, last, ?_, rfl⟩⟩, ?_⟩
    · exact (hend.trans (Connections.log_evolves _ r)).launches
    · simp [forsaken, setSlot, Slots.get?_set]
    · exact hc.gone hi hg (show _ = h.slots.set l (.dead (i.restarts + 1) last) from rfl) rfl rfl rfl

lemma Recovers.of_log {reason : String} {level : LogLevel} {message : String}
    {fields : List (String × String)}
    (hr : Recovers (h.log level message fields) k l g reason) : Recovers h k l g reason := by
  have hl := (Connections.log_evolves h.connections ⟨level, sessionTarget, message, fields⟩).launches
  obtain ⟨i, hi, hg, hcases⟩ := hr
  refine ⟨i, hi, hg, ?_⟩
  rcases hcases with ⟨hm, ⟨request, hreq, hlaunch⟩, hout⟩ | ⟨hm, hlaunch, hout⟩
  · exact .inl ⟨hm, ⟨request, hreq, hlaunch.trans (congrArg (· ++ _) hl)⟩, hout⟩
  · exact .inr ⟨hm, hlaunch.trans hl, hout⟩

lemma log_lose_recovers (hc : h.Coherent) (hh : h.Stands l g st)
    (hst : st = .awaitingInitialize ∨ st = .ready) (level : LogLevel) (message : String)
    (fields : List (String × String)) (reason : String) :
    Recovers h ((h.log level message fields).lose l reason) l g reason ∧
      ((h.log level message fields).lose l reason).Gone g := by
  have hlog : (h.log level message fields).Coherent := hc.traffic (Connections.log_evolves _ _).keeps
  obtain ⟨hr, hgone⟩ := lose_recovers hlog hh hst reason
  exact ⟨hr.of_log, hgone⟩

end Succession

end Host

def ServerEventKind.loss? : ServerEventKind → Option String
  | .closed error => some (Host.lossReason error)
  | .initializeResponse (.error e) => some ("initialize failed: " ++ e.message)
  | _ => none

namespace Host

variable {h k : Host} {l : LanguageId} {i : Instance} {g : Nat} {st : Lifecycle} {deed : Deed}

section Events

lemma findRetiring_none (hr : ∀ j ∈ h.retiring, j.connection ≠ some g) : h.findRetiring g = none := by
  have hf : h.retiring.findIdx? (fun j => decide (j.connection = some g)) = none := by
    simpa [List.findIdx?_eq_none_iff] using hr
  simp only [findRetiring, hf, Option.bind_none]

lemma handleEvent_current (hc : h.Coherent) (hi : h.instance? l = some i)
    (hg : i.connection = some g) (w : Workspace) (kind : ServerEventKind) :
    h.handleEvent w ⟨l, g, kind⟩ = h.handleCurrent w l kind := by
  have hcur : h.isCurrent l g = true := isCurrent_iff.mpr ⟨i, hi, hg⟩
  simp only [handleEvent, findRetiring_none (hc.current hi hg), hcur, if_true]

lemma handleEvent_gone (hh : h.Gone g) (l : LanguageId) (w : Workspace) (kind : ServerEventKind) :
    h.handleEvent w ⟨l, g, kind⟩ =
      (h.log .debug "ignoring event from a replaced server"
        [languageField l, ("generation", toString g)], w) := by
  have hcur : ¬h.isCurrent l g = true := fun hcur =>
    let ⟨i, hi, hg⟩ := isCurrent_iff.mp hcur
    hh.left l i hi hg
  simp only [handleEvent, findRetiring_none hh.retired, hcur, Bool.false_eq_true, if_false]

lemma handleEvent_recovers (hc : h.Coherent) (hh : h.Stands l g st) {kind : ServerEventKind}
    (hst : st = .awaitingInitialize ∨ st = .ready ∧ ∃ error, kind = .closed error) {reason : String}
    (hk : kind.loss? = some reason) (w : Workspace) :
    Recovers h (h.handleEvent w ⟨l, g, kind⟩).1 l g reason ∧
      (h.handleEvent w ⟨l, g, kind⟩).1.Gone g := by
  have hst' : st = .awaitingInitialize ∨ st = .ready := hst.imp_right And.left
  obtain ⟨i, hi, hg, hs⟩ := id hh
  rw [handleEvent_current hc hi hg]
  cases kind with
  | closed error =>
    obtain rfl : lossReason error = reason := by simpa [ServerEventKind.loss?] using hk
    have hsd : i.state ≠ .shuttingDown := by rcases hst' with rfl | rfl <;> simp [hs]
    simp only [handleCurrent]
    rw [onClosed_lost hi hsd]
    exact log_lose_recovers hc hh hst' _ _ _ _
  | initializeResponse outcome =>
    rcases outcome with e | response
    · obtain rfl : "initialize failed: " ++ e.message = reason := by
        simpa [ServerEventKind.loss?] using hk
      have hs' : i.state = .awaitingInitialize := by
        rcases hst with rfl | ⟨-, error, he⟩
        · exact hs
        · cases he
      simp only [handleCurrent]
      rw [onInitializeFailed_lost hi hs']
      exact log_lose_recovers hc hh hst' _ _ _ _
    · simp [ServerEventKind.loss?] at hk
  | _ => simp [ServerEventKind.loss?] at hk

lemma handleEvent_greeted (hc : h.Coherent) (hh : h.Stands l g st)
    (hst : st = .awaitingInitialize ∨ st = .ready) (w : Workspace) (response : Json) :
    (h.handleEvent w.bare ⟨l, g, .initializeResponse (.ok response)⟩).1.Stands l g .ready ∧
      (h.handleEvent w.bare ⟨l, g, .initializeResponse (.ok response)⟩).1.alarms l = h.alarms l := by
  obtain ⟨i, hi, hg, hs⟩ := hh
  rw [handleEvent_current hc hi hg]
  simp only [handleCurrent]
  by_cases haw : i.state = .awaitingInitialize
  · simp only [onInitialized, hi, haw, ne_eq, not_true_eq_false, if_false, catchUp, Workspace.bare,
      List.filter_nil, List.foldl_nil]
    have hin (c : Connections) :
        ({ h with connections := c }.setInstance l (i.welcomed response)).instance? l =
          some (i.welcomed response) := by simp [instance?_setInstance]
    split
    · exact ⟨⟨_, hin _, hg, rfl⟩, by simp [alarms, queue, log, setInstance, setSlot,
        HostEvent.alarms]⟩
    · exact ⟨⟨_, hin _, hg, rfl⟩, by simp [alarms, queue, log, setInstance, setSlot,
        HostEvent.alarms]⟩
  · have hready : i.state = .ready := by
      rcases hst with rfl | rfl
      · exact absurd hs haw
      · exact hs
    simp only [onInitialized, hi, haw, ne_eq, not_false_eq_true, if_true]
    exact ⟨⟨i, hi, hg, hready⟩, trivial⟩

end Events

end Host

namespace Turn

variable {t u : Turn} {l : LanguageId} {g : Nat} {st : Lifecycle}

def Stops (t : Turn) (g : Nat) : Prop :=
  ∃ l, t.before.isCurrent l g = true ∧ t.before.Asks l t.move

def Concerns (t : Turn) (g : Nat) : Prop := ∃ e, t.event? = some e ∧ e.generation = g

def Greets (t : Turn) (g : Nat) : Prop :=
  ∃ e response, t.event? = some e ∧ e.generation = g ∧ e.kind = .initializeResponse (.ok response)

/-- An event by which the connection is lost is handled after the given turns: the close of its
output, or the failure of a handshake that was not answered with success before. -/
def Loses (pre : List Turn) (t : Turn) (g : Nat) (reason : String) : Prop :=
  ∃ e, t.event? = some e ∧ e.generation = g ∧ e.kind.loss? = some reason ∧
    ((∃ error, e.kind = .closed error) ∨ ∀ u ∈ pre, ¬u.Greets g)

def waiting (t : Turn) : List ServerEvent :=
  match t.move with
  | .handle _ => t.before.connections.inbox.tail
  | _ => t.before.connections.inbox

def Ignores (t : Turn) : Prop :=
  ∃ r : LogRecord, t.after = { t.before with
    connections := { t.before.connections with inbox := t.waiting }.log r }

lemma after_of_event {e : ServerEvent} (he : t.event? = some e) :
    ∃ w, t.after = ({ t.before with connections :=
      { t.before.connections with inbox := t.waiting } }.handleEvent (Workspace.bare w) e).1 := by
  obtain ⟨h, m⟩ := t
  cases m with
  | handle w =>
    obtain ⟨rest, hr⟩ := List.head?_eq_some_iff.mp (show h.connections.inbox.head? = some e from he)
    refine ⟨w, ?_⟩
    simp only [after, Host.perform, Host.handleNext, hr, waiting, List.tail_cons]
  | stray n kind w =>
    obtain ⟨l, hl, rfl⟩ :=
      Option.map_eq_some_iff.mp (show (h.connections.language? n).map _ = some e from he)
    refine ⟨w, ?_⟩
    simp only [after, Host.perform, hl, waiting]
  | _ => simp [event?, Host.incoming] at he

lemma event_language (hc : t.before.Coherent) {e : ServerEvent} (he : t.event? = some e) :
    t.before.connections.language? e.generation = some e.language := by
  obtain ⟨h, m⟩ := t
  cases m with
  | handle w =>
    exact hc.labelled e (List.mem_of_head? (show h.connections.inbox.head? = some e from he))
  | stray n kind w =>
    obtain ⟨l, hl, rfl⟩ := Option.map_eq_some_iff.mp
      (show (h.connections.language? n).map _ = some e from he)
    exact hl
  | _ => simp [event?, Host.incoming] at he

lemma coherent_waiting (hc : t.before.Coherent) :
    Host.Coherent { t.before with
      connections := { t.before.connections with inbox := t.waiting } } := by
  refine hc.traffic ⟨fun _ => rfl, fun hl x hx => hl x ?_⟩
  obtain ⟨h, m⟩ := t
  cases m with
  | handle w => exact List.mem_of_mem_tail hx
  | _ => exact hx

lemma ignores_of_gone (hh : t.before.Gone g) (ht : t.Concerns g) : t.Ignores := by
  obtain ⟨e, he, rfl⟩ := ht
  obtain ⟨w, hw⟩ := after_of_event he
  have hh' : Host.Gone { t.before with
      connections := { t.before.connections with inbox := t.waiting } } e.generation :=
    ⟨hh.issued, hh.left, hh.retired⟩
  rw [Host.handleEvent_gone hh'] at hw
  exact ⟨_, hw⟩

end Turn

namespace Host

variable {h k : Host} {l : LanguageId} {g : Nat} {st : Lifecycle} {deed : Deed}

section Making

lemma Step.language (hs : Step h deed k) (hc : h.Coherent) (g : Nat) :
    k.connections.language? g = h.connections.language? g ∨
      h.connections.language? g = none ∧ ∃ l, deed = .launch l ∧
        k.connections.language? g = some l ∧ k.Stands l g .awaitingInitialize := by
  by_cases hd : ∀ l, deed ≠ .launch l
  · exact .inl ((hs.keeps hd).language g)
  push Not at hd
  obtain ⟨l, rfl⟩ := hd
  cases hs with
  | launched _ i request notes plan hi hst hd hr hl =>
    have hlang := connect_language? hc hi request notes plan g
    by_cases hg : h.nextGeneration = g
    · rw [if_pos hg] at hlang
      refine .inr ⟨hc.fresh g (Nat.le_of_eq hg), l, rfl, hlang, i.greeting h.nextGeneration, ?_,
        congrArg some hg, rfl⟩
      simp [instance?_setInstance]
    · rw [if_neg hg] at hlang
      exact .inl hlang
  | unlaunched => exact .inl ((Connections.log_evolves _ _).language g)
  | failed _ i request notes =>
    have hkeep := launching_keeps h request notes
    exact .inl ((hkeep.trans (Connections.log_evolves _ _).keeps).language g)
  | unattached _ i request notes =>
    have hkeep := launching_keeps h request notes
    exact .inl ((hkeep.trans ((Connections.record_evolves _ rfl rfl).trans
      (Connections.log_evolves _ _)).keeps).language g)

lemma Walk.language {P : Deed → Prop} (hw : Walk P h k) (hc : h.Coherent)
    (hp : ∀ l, ¬P (.launch l)) (g : Nat) :
    k.connections.language? g = h.connections.language? g := by
  refine (hw.keeps (I := fun k => k.Coherent ∧
    k.connections.language? g = h.connections.language? g) ⟨hc, rfl⟩ fun hd hs ha => ?_).2
  refine ⟨hs.coherent ha.1, ?_⟩
  rcases hs.language ha.1 g with hl | ⟨-, l, rfl, -⟩
  · exact hl.trans ha.2
  · exact absurd hd (hp l)

lemma Walk.made {subject : Option Document} (hw : Walk (Deed.Calm subject) h k) (hc : h.Coherent)
    (hn : h.connections.language? g = none) (hk : k.connections.language? g = some l) :
    k.Stands l g .awaitingInitialize := by
  have hmade : ∀ l, k.connections.language? g = some l → k.Stands l g .awaitingInitialize := by
    refine (hw.keeps (I := fun k => k.Coherent ∧ ∀ l, k.connections.language? g = some l →
      k.Stands l g .awaitingInitialize) ⟨hc, by simp [hn]⟩ fun {a b deed} hd hs ha => ?_).2
    refine ⟨hs.coherent ha.1, fun l hl => ?_⟩
    rcases hs.language ha.1 g with hsame | ⟨-, m, -, hm, hst⟩
    · refine (hs.stands (.inl rfl) (ha.2 l (hsame.symm.trans hl)) ?_ ?_ ?_ fun n response => ?_).1 <;>
      · rintro rfl
        exact hd
    · obtain rfl : m = l := Option.some.inj (hm.symm.trans hl)
      exact hst
  exact hmade l hk

lemma Walk.language_mono {P : Deed → Prop} (hw : Walk P h k) (hc : h.Coherent)
    (hl : h.connections.language? g = some l) : k.connections.language? g = some l := by
  refine (hw.keeps (I := fun k => k.Coherent ∧ k.connections.language? g = some l) ⟨hc, hl⟩
    fun _ hs ha => ⟨hs.coherent ha.1, ?_⟩).2
  rcases hs.language ha.1 g with hsame | ⟨hn, -⟩
  · exact hsame.trans ha.2
  · exact absurd (hn.symm.trans ha.2) (by simp)

end Making

end Host

namespace Turn

variable {t : Turn} {pre : List Turn} {l : LanguageId} {g : Nat} {st : Lifecycle}

/-- How far the server of a connection has come in some turns by which it was neither lost nor
stopped. -/
structure Progress (pre : List Turn) (h : Host) (g : Nat) : Prop where
  unmade : h.connections.language? g = none → ∀ u ∈ pre, ¬u.Greets g
  stands : ∀ l, h.connections.language? g = some l →
    h.Stands l g .awaitingInitialize ∧ (∀ u ∈ pre, ¬u.Greets g) ∨
      h.Stands l g .ready ∧ ∃ u ∈ pre, u.Greets g

lemma stands_after (hc : t.before.Coherent) (hh : t.before.Stands l g st)
    (hst : st = .awaitingInitialize ∨ st = .ready) (hstop : ¬t.Stops g) (hgreet : ¬t.Greets g)
    (hloss : ∀ e reason, t.event? = some e → e.generation = g → e.kind.loss? = some reason →
      st = .ready ∧ ∀ error, e.kind ≠ .closed error) :
    t.after.Stands l g st ∧ (t.after.alarms l).Sublist (t.before.alarms l) := by
  obtain ⟨i, hi, hg, hs⟩ := id hh
  have hcur : t.before.isCurrent l g = true := Host.isCurrent_iff.mpr ⟨i, hi, hg⟩
  have hgen (n : Nat) (hn : t.before.isCurrent l n = true) : n = g := by
    obtain ⟨j, hj, hjn⟩ := Host.isCurrent_iff.mp hn
    obtain rfl : i = j := Option.some.inj (hi.symm.trans hj)
    exact Option.some.inj (hjn.symm.trans hg)
  obtain ⟨k, hw, hcalm⟩ := Host.perform_walk hc.languages t.move
  obtain ⟨hk, hsub⟩ := hw.stands hst hh (fun hasks => hstop ⟨l, hcur, hasks⟩)
    (fun hevict => hstop ⟨l, hcur, by rw [hevict.1]; trivial⟩)
    (by
      rintro ⟨e, he, -, hn, hkind⟩
      have heg := hgen _ hn
      rcases hkind with ⟨error, hkind⟩ | ⟨⟨error, hkind⟩, haw⟩
      · exact (hloss e _ he heg (by rw [hkind]; rfl)).2 error hkind
      · have hready := (hloss e _ he heg (by rw [hkind]; rfl)).1
        simp [hi, hs, hready] at haw)
    (by
      rintro n response ⟨he, hn⟩
      exact hgreet ⟨_, response, he, hgen _ hn, rfl⟩)
  obtain ⟨hafter, hsub'⟩ := hcalm.stands hst hk id id id fun _ _ => id
  exact ⟨hafter, hsub'.trans hsub⟩

lemma stands_greeted (hc : t.before.Coherent) (hh : t.before.Stands l g st)
    (hst : st = .awaitingInitialize ∨ st = .ready) (hgreet : t.Greets g) :
    t.after.Stands l g .ready ∧ t.after.alarms l = t.before.alarms l := by
  obtain ⟨⟨m, n, kind⟩, response, he, rfl, rfl⟩ := hgreet
  obtain ⟨i, hi, hg, hs⟩ := id hh
  obtain rfl : m = l :=
    Option.some.inj ((event_language hc he).symm.trans (hc.linked hi hg))
  obtain ⟨w, hw⟩ := after_of_event he
  rw [hw]
  exact Host.handleEvent_greeted (coherent_waiting hc) hh hst w response

lemma not_greets (hc : t.before.Coherent) (hn : t.before.connections.language? g = none) :
    ¬t.Greets g := by
  rintro ⟨e, response, he, rfl, -⟩
  exact absurd (hn.symm.trans (event_language hc he)) (by simp)

lemma language_mono (hc : t.before.Coherent) (hl : t.before.connections.language? g = some l) :
    t.after.connections.language? g = some l := by
  obtain ⟨k, hw, hcalm⟩ := Host.perform_walk hc.languages t.move
  exact hcalm.language_mono (hw.coherent hc) (hw.language_mono hc hl)

lemma stands_made (hc : t.before.Coherent) (hn : t.before.connections.language? g = none)
    (hl : t.after.connections.language? g = some l) : t.after.Stands l g .awaitingInitialize := by
  obtain ⟨k, hw, hcalm⟩ := Host.perform_walk hc.languages t.move
  have hk : k.connections.language? g = none := (hw.language hc (fun _ => id) g).trans hn
  exact hcalm.made (hw.coherent hc) hk hl

lemma Progress.turn (hp : Progress pre t.before g) (hc : t.before.Coherent) (hstop : ¬t.Stops g)
    (hlose : ∀ reason, ¬Loses pre t g reason)
    (hl : t.before.connections.language? g = some l) :
    (t.after.Stands l g .awaitingInitialize ∧ (∀ u ∈ pre ++ [t], ¬u.Greets g) ∨
      t.after.Stands l g .ready ∧ ∃ u ∈ pre ++ [t], u.Greets g) ∧
    (t.after.alarms l).Sublist (t.before.alarms l) := by
  by_cases hgreet : t.Greets g
  · have hready : ∃ st, (st = .awaitingInitialize ∨ st = .ready) ∧ t.before.Stands l g st :=
      (hp.stands l hl).elim (fun hs => ⟨_, .inl rfl, hs.1⟩) fun hs => ⟨_, .inr rfl, hs.1⟩
    obtain ⟨st, hst, hs⟩ := hready
    obtain ⟨hafter, halarms⟩ := stands_greeted hc hs hst hgreet
    exact ⟨.inr ⟨hafter, t, by simp, hgreet⟩, halarms ▸ .refl _⟩
  rcases hp.stands l hl with ⟨hs, hno⟩ | ⟨hs, u, hu, hug⟩
  · obtain ⟨hafter, halarms⟩ := stands_after hc hs (.inl rfl) hstop hgreet
      fun e reason he hg hk => absurd ⟨e, he, hg, hk, .inr hno⟩ (hlose reason)
    refine ⟨.inl ⟨hafter, fun u hu => ?_⟩, halarms⟩
    rcases List.mem_append.mp hu with hu | hu
    · exact hno u hu
    · exact List.mem_singleton.mp hu ▸ hgreet
  · obtain ⟨hafter, halarms⟩ := stands_after hc hs (.inr rfl) hstop hgreet
      fun e reason he hg hk => ⟨rfl, fun error hkind =>
        hlose reason ⟨e, he, hg, hk, .inl ⟨error, hkind⟩⟩⟩
    exact ⟨.inr ⟨hafter, u, List.mem_append_left _ hu, hug⟩, halarms⟩

lemma Progress.next (hp : Progress pre t.before g) (hc : t.before.Coherent) (hstop : ¬t.Stops g)
    (hlose : ∀ reason, ¬Loses pre t g reason) : Progress (pre ++ [t]) t.after g := by
  have hnone (hn : t.before.connections.language? g = none) : ∀ u ∈ pre ++ [t], ¬u.Greets g := by
    intro u hu
    rcases List.mem_append.mp hu with hu | hu
    · exact hp.unmade hn u hu
    · exact List.mem_singleton.mp hu ▸ not_greets hc hn
  constructor
  · intro hn
    refine hnone ?_
    by_contra hb
    obtain ⟨l, hl⟩ := Option.ne_none_iff_exists'.mp hb
    exact absurd (hn.symm.trans (language_mono hc hl)) (by simp)
  · intro l hl
    -- Either the connection is made in this turn, or it keeps the language that it had.
    cases hb : t.before.connections.language? g with
    | none => exact .inl ⟨stands_made hc hb hl, hnone hb⟩
    | some m =>
      obtain rfl : m = l := Option.some.inj ((language_mono hc hb).symm.trans hl)
      exact (hp.turn hc hstop hlose hb).1

end Turn

namespace Host

open Turn

variable {h : Host} {g : Nat}

lemma fresh_progress (settings : Settings) (root : Option FilePath) (environment : Environment)
    (g : Nat) : Progress [] (fresh settings root environment) g :=
  ⟨by simp, by simp [fresh, Connections.language?, Connections.get?]⟩

lemma turns_progress (hc : h.Coherent) (hp : Progress [] h g) (ms : List Move)
    (hstop : ∀ u ∈ h.turns ms, ¬u.Stops g)
    (hlose : ∀ ps u qs reason, h.turns ms = ps ++ u :: qs → ¬Loses ps u g reason) :
    Progress (h.turns ms) (h.run ms) g := by
  induction ms using List.reverseRecOn with
  | nil => exact hp
  | append_singleton ms m ih =>
    have hturns : h.turns (ms ++ [m]) = h.turns ms ++ [⟨h.run ms, m⟩] := turns_append h ms [m]
    rw [hturns] at hstop hlose ⊢
    rw [run_append]
    have hprev := ih (fun u hu => hstop u (List.mem_append_left _ hu)) fun ps u qs reason he =>
      hlose ps u (qs ++ [⟨h.run ms, m⟩]) reason (by rw [he]; simp)
    exact hprev.next (t := ⟨h.run ms, m⟩) (run_coherent hc ms) (hstop _ (by simp))
      fun reason => hlose (h.turns ms) _ [] reason rfl

lemma turns_gone (hc : h.Coherent) (hh : h.Gone g) (ms : List Move) :
    ∀ u ∈ h.turns ms, u.before.Gone g := by
  induction ms generalizing h with
  | nil => simp [turns]
  | cons m rest ih =>
    intro u hu
    rcases List.mem_cons.mp hu with rfl | hu
    · exact hh
    · exact ih (perform_coherent hc m) (perform_gone hc hh m) u hu

/-- A connection whose server was not asked to stop is lost when the first event of its loss is
handled. That is acted on in this turn only: no turn before tells the editor of a loss of its server,
and all turns after it ignore what comes from the connection. -/
theorem loss_settled_once (settings : Settings) (root : Option FilePath) (environment : Environment)
    (ms : List Move) {pre post : List Turn} {t : Turn} {g : Nat} {reason : String}
    (hts : (fresh settings root environment).turns ms = pre ++ t :: post)
    (hstop : ∀ u ∈ pre, ¬u.Stops g)
    (hfirst : ∀ ps u qs reason, pre = ps ++ u :: qs → ¬Loses ps u g reason)
    (hloss : Loses pre t g reason) :
    ∃ l, t.before.connections.language? g = some l ∧ Recovers t.before t.after l g reason ∧
      (∀ u ∈ pre, u.before.isCurrent l g = true →
        (u.after.alarms l).Sublist (u.before.alarms l)) ∧
      ∀ u ∈ post, u.Concerns g → u.Ignores := by
  have hfresh := fresh_coherent settings root environment
  have hstart := fresh_progress settings root environment g
  generalize fresh settings root environment = h at hts hfresh hstart
  obtain ⟨ns, rest, hb, hpre, hpost⟩ := turns_mem_split hts
  have hc : t.before.Coherent := hb ▸ run_coherent hfresh ns
  have hp : Progress pre t.before g := by
    rw [hb, hpre]
    rw [hpre] at hstop hfirst
    exact turns_progress hfresh hstart ns hstop hfirst
  obtain ⟨e, he, hg, hk, hkind⟩ := hloss
  have hl : t.before.connections.language? g = some e.language := hg ▸ event_language hc he
  obtain ⟨w, hw⟩ := after_of_event he
  -- After a successful handshake only the close of the output counts as a loss.
  have hstands : ∃ st, (st = .awaitingInitialize ∨ st = .ready ∧ ∃ error, e.kind = .closed error) ∧
      t.before.Stands e.language g st := by
    rcases hp.stands _ hl with ⟨hs, -⟩ | ⟨hs, u, hu, hug⟩
    · exact ⟨_, .inl rfl, hs⟩
    · exact ⟨_, .inr ⟨rfl, hkind.resolve_right fun hno => hno u hu hug⟩, hs⟩
  obtain ⟨st, hst, hs⟩ := hstands
  obtain ⟨hrec, hgone⟩ : Recovers t.before t.after e.language g reason ∧ t.after.Gone g := by
    rw [hw]
    obtain ⟨l, n, kind⟩ := e
    obtain rfl : n = g := hg
    exact handleEvent_recovers (coherent_waiting hc) hs hst hk w.bare
  refine ⟨e.language, hl, hrec, fun u hu hcur => ?_, fun u hu hug => ?_⟩
  -- The turns before any one of these are no loss either, so the server stands there as well.
  · obtain ⟨ps, qs, rfl⟩ := List.append_of_mem hu
    obtain ⟨ns', rest', hb', hps, -⟩ := turns_mem_split hpre.symm
    have hcu : u.before.Coherent := hb' ▸ run_coherent hfresh ns'
    have hpu : Progress ps u.before g := by
      rw [hb', hps]
      refine turns_progress hfresh hstart ns' (fun v hv => hstop v ?_) fun ps' v qs' r hsplit => ?_
      · exact List.mem_append_left _ (hps ▸ hv)
      · exact hfirst ps' v (qs' ++ u :: qs) r (by rw [hps, hsplit]; simp)
    obtain ⟨i, hi, hig⟩ := isCurrent_iff.mp hcur
    exact (hpu.turn hcu (hstop u hu) (fun r => hfirst ps u qs r rfl) (hcu.linked hi hig)).2
  · rw [hpost] at hu
    have hafter : t.after.Coherent := perform_coherent hc t.move
    exact ignores_of_gone (turns_gone hafter hgone rest u hu) hug

theorem session_recovers :
    Recovers (Sample.session.run [.didOpen Sample.document, .endOutput 1])
      (Sample.session.run [.didOpen Sample.document, .endOutput 1, .handle {}]) Sample.language 1
      "initialize failed: transport failure: connection closed by the language server" := by
  obtain ⟨l, hl, hr, -⟩ := loss_settled_once Sample.settings none Sample.environment
    [.didOpen Sample.document, .endOutput 1, .handle {}]
    (show Sample.session.turns [.didOpen Sample.document, .endOutput 1, .handle {}] =
      [⟨Sample.session, .didOpen Sample.document⟩,
        ⟨Sample.session.run [.didOpen Sample.document], .endOutput 1⟩] ++
        ⟨Sample.session.run [.didOpen Sample.document, .endOutput 1], .handle {}⟩ :: [] from rfl)
    (by simp [Stops, Asks])
    (by
      rintro ps u qs reason hsplit ⟨e, he, -⟩
      have hu : u ∈ ps ++ u :: qs := by simp
      rw [← hsplit] at hu
      rcases List.mem_cons.mp hu with rfl | hu
      · cases he
      · rw [List.mem_singleton.mp hu] at he
        cases he)
    ⟨⟨Sample.language, 1, .initializeResponse (.error (.transport .unexpectedEnd))⟩, rfl, rfl, rfl,
      .inr (by simp [Greets, event?, incoming])⟩
  have hlang : (Sample.session.run [.didOpen Sample.document, .endOutput 1]).connections.language? 1 =
      some Sample.language := by decide +kernel
  obtain rfl : Sample.language = l := Option.some.inj (hlang.symm.trans hl)
  exact hr

end Host

end LanguageHost
