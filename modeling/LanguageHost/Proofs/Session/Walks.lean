import LanguageHost.Proofs.Session.Consulting
import LanguageHost.Proofs.Session.Move
import LanguageHost.Proofs.Session.Slots
import LanguageHost.Proofs.Session.Step

namespace LanguageHost

/-- A step by which no server is lost, stopped or welcomed, and which is about no other document. -/
def Deed.Calm (subject : Option Document) : Deed → Prop
  | quiet => True
  | about d => subject = some d
  | edit d _ => subject = some d
  | launch _ => True
  | _ => False

def Deed.Gentle (d : Document) : Deed → Prop
  | quiet => True
  | about e => e = d
  | launch _ => True
  | _ => False

namespace Host

variable {P : Deed → Prop} {h k : Host} {l serving : LanguageId} {i : Instance} {d : Document}

lemma Walk.calm (hw : Walk (Deed.Gentle d) h k) : Walk (Deed.Calm (some d)) h k := by
  refine hw.mono fun deed hd => ?_
  cases deed with
  | about e => exact congrArg some hd.symm
  | quiet | launch => trivial
  | _ => exact hd.elim

lemma instance?_eq_some : h.instance? l = some i ↔ h.slots.get? l = some (.active i) := by
  simp only [instance?, Option.bind_eq_some_iff]
  constructor
  · rintro ⟨slot, hs, hi⟩
    cases slot with
    | active j => exact hs.trans (by rw [← Option.some.inj hi])
    | _ => simp [Slot.instance?] at hi
  · exact fun hs => ⟨_, hs, rfl⟩

lemma instance?_setInstance (h : Host) (l k : LanguageId) (i : Instance) :
    (h.setInstance l i).instance? k = if l = k then some i else h.instance? k := by
  simp only [instance?, setInstance, setSlot, Slots.get?_set]
  split <;> rfl

lemma isCurrent_iff {g : Nat} :
    h.isCurrent l g = true ↔ ∃ i, h.instance? l = some i ∧ i.connection = some g := by
  simp only [isCurrent, Option.any_eq_true, decide_eq_true_eq]

lemma Step.nodup {deed : Deed} (hs : Step h deed k) (hn : h.slots.languages.Nodup) :
    k.slots.languages.Nodup := by
  cases hs
  case configured | touched | opened | changed | saved | closed | unlisted | launched | unlaunched
      | failed | unattached | welcomed | lost | abandoned | stopping =>
    exact Slots.languages_set_nodup hn _ _
  case reminded | dropped | excused | idled | muted | retired | evicted | forgotten =>
    exact Slots.languages_erase_nodup hn _
  all_goals exact hn

lemma Walk.nodup (hw : Walk P h k) (hn : h.slots.languages.Nodup) : k.slots.languages.Nodup :=
  hw.keeps hn fun _ hs => hs.nodup

lemma log_walk (hq : P .quiet) (h : Host) (level : LogLevel) (message : String)
    (fields : List (String × String)) : Walk P h (h.log level message fields) :=
  .step (.logged _) hq

lemma slot_walk (hq : P .quiet) (h : Host) (l : LanguageId) : Walk P h (h.slot l).1 := by
  have hnotes (notes : List LogRecord) (k : Host) :
      Walk P k { k with connections := notes.foldl Connections.log k.connections } := by
    induction notes generalizing k with
    | nil => exact .refl k
    | cons r rest ih => exact (Walk.step (.logged r) hq).trans (ih _)
  cases hg : h.slots.get? l with
  | some slot =>
    simp only [Host.slot, hg]
    exact .refl h
  | none =>
    rcases hc : configure h.settings l with ⟨notes, e | slot⟩
    · simp only [Host.slot, hg, hc]
      exact hnotes notes h
    · simp only [Host.slot, hg, hc]
      exact .step (.configured l slot notes hg hc) hq

lemma slot_get? {slot : Slot} (hs : h.slot l = (k, .ok slot)) : k.slots.get? l = some slot := by
  cases hg : h.slots.get? l with
  | some s =>
    simp only [Host.slot, hg, Prod.mk.injEq, Except.ok.injEq] at hs
    rw [← hs.1, hg, hs.2]
  | none =>
    rcases hc : configure h.settings l with ⟨notes, e | s⟩
    · simp [Host.slot, hg, hc] at hs
    · simp only [Host.slot, hg, hc, Prod.mk.injEq, Except.ok.injEq] at hs
      simp [← hs.1, setSlot, Slots.get?_set, hs.2]

lemma resolve_walk (hq : P .quiet) (h : Host) (l : LanguageId) : Walk P h (h.resolve l).1 := by
  have hl := slot_walk hq h l
  rcases hs : h.slot l with ⟨k, e | slot⟩
  · simpa only [resolve, hs] using hl
  rw [hs] at hl
  cases slot with
  | unused | dead | active => simpa only [resolve, hs] using hl
  | servedBy target =>
    have ht := hl.trans (slot_walk hq k target)
    rcases hk : k.slot target with ⟨m, e | slot⟩
    · simpa only [resolve, hs, hk] using ht
    · cases slot <;> simpa only [resolve, hs, hk] using ht

lemma resolve_serves (hr : h.resolve l = (k, .ok serving)) :
    (l = serving ∨ k.slots.get? l = some (.servedBy serving)) ∧
      ∃ i, k.instance? serving = some i := by
  rcases hs : h.slot l with ⟨m, e | slot⟩
  · simp [resolve, hs] at hr
  have hm := slot_get? hs
  cases slot with
  | unused | dead => simp [resolve, hs] at hr
  | active i =>
    simp only [resolve, hs, Prod.mk.injEq, Except.ok.injEq] at hr
    obtain ⟨rfl, rfl⟩ := hr
    exact ⟨.inl rfl, i, instance?_eq_some.mpr hm⟩
  | servedBy target =>
    have hkeep := (slot_consults m target).kept l _ hm
    rcases ht : m.slot target with ⟨n, e | slot⟩
    · simp [resolve, hs, ht] at hr
    have hn := slot_get? ht
    rw [ht] at hkeep
    cases slot with
    | unused | dead | servedBy => simp [resolve, hs, ht] at hr
    | active i =>
      simp only [resolve, hs, ht, Prod.mk.injEq, Except.ok.injEq] at hr
      obtain ⟨rfl, rfl⟩ := hr
      exact ⟨.inr hkeep, i, instance?_eq_some.mpr hn⟩

lemma connect_greeting (i : Instance) (root : Option FilePath) (env : Environment) (g : Nat)
    (plan : Nat → Verdict) (o : Overture) (c : Connections) :
    (i.connect root env g plan o c).2 = i.greeting g := rfl

section Launching

variable {request : LaunchRequest} {notes : List LogRecord}

lemma ensureStarted_running (hs : ∀ i, h.instance? l = some i → i.state ≠ .stopped) :
    h.ensureStarted l = (h, .ok ()) := by
  simp only [ensureStarted]
  split
  · rfl
  · split
    · rfl
    · next i hi => rw [if_pos (hs i hi)]

lemma ensureStarted_shut (hd : h.shuttingDown = true) : h.ensureStarted l = (h, .ok ()) := by
  simp only [ensureStarted, hd, if_true]

variable (hi : h.instance? l = some i) (hs : i.state = .stopped) (hd : h.shuttingDown = false)
include hi hs hd

lemma ensureStarted_unlaunched {e : LaunchError}
    (hr : i.launchRequest h.root h.environment = .error e) :
    h.ensureStarted l =
      ({ h with nextGeneration := h.nextGeneration + 1 }.launchFailed l i.restarts e,
        .error (.launch l e)) := by
  simp [ensureStarted, hd, hi, hs, Instance.start, hr]

lemma ensureStarted_failed {e : LaunchError}
    (hr : i.launchRequest h.root h.environment = .ok request)
    (hl : h.environment.launch h.nextGeneration request = (notes, .error e)) :
    h.ensureStarted l =
      ({ h with
        connections := h.launching request notes
        nextGeneration := h.nextGeneration + 1 }.launchFailed l i.restarts e,
        .error (.launch l e)) := by
  simp [ensureStarted, hd, hi, hs, Instance.start, hr, hl, launching]

lemma ensureStarted_unattached {plan : Nat → Verdict} {e : TransportError}
    (hr : i.launchRequest h.root h.environment = .ok request)
    (hl : h.environment.launch h.nextGeneration request = (notes, .ok plan))
    (ha : h.environment.attach h.nextGeneration = .error e) :
    h.ensureStarted l =
      ({ h with
        connections := (h.launching request notes).record (.ended h.nextGeneration .forceExit)
        nextGeneration := h.nextGeneration + 1 }.launchFailed l i.restarts (.connection e),
        .error (.launch l (.connection e))) := by
  simp [ensureStarted, hd, hi, hs, Instance.start, hr, hl, ha, launching]

lemma ensureStarted_launched {plan : Nat → Verdict}
    (hr : i.launchRequest h.root h.environment = .ok request)
    (hl : h.environment.launch h.nextGeneration request = (notes, .ok plan))
    (ha : h.environment.attach h.nextGeneration = .ok ()) :
    h.ensureStarted l =
      ({ h with
        connections := h.connecting i request notes plan
        nextGeneration := h.nextGeneration + 1 }.setInstance l (i.greeting h.nextGeneration),
        .ok ()) := by
  simp [ensureStarted, hd, hi, hs, Instance.start, hr, hl, ha, connecting, launching,
    connect_greeting]

end Launching

lemma ensureStarted_walk (hp : P (.launch l)) (h : Host) : Walk P h (h.ensureStarted l).1 := by
  cases hd : h.shuttingDown with
  | true =>
    rw [ensureStarted_shut hd]
    exact .refl h
  | false =>
    by_cases hn : ∀ i, h.instance? l = some i → i.state ≠ .stopped
    · rw [ensureStarted_running hn]
      exact .refl h
    push Not at hn
    obtain ⟨i, hi, hs⟩ := hn
    rcases hr : i.launchRequest h.root h.environment with e | request
    · rw [ensureStarted_unlaunched hi hs hd hr]
      exact .step (.unlaunched l i e hi hs hd hr) hp
    rcases hl : h.environment.launch h.nextGeneration request with ⟨notes, e | plan⟩
    · rw [ensureStarted_failed hi hs hd hr hl]
      exact .step (.failed l i request notes e hi hs hd hr hl) hp
    rcases ha : h.environment.attach h.nextGeneration with e | _
    · rw [ensureStarted_unattached hi hs hd hr hl ha]
      exact .step (.unattached l i request notes plan e hi hs hd hr hl ha) hp
    · rw [ensureStarted_launched hi hs hd hr hl ha]
      exact .step (.launched l i request notes plan hi hs hd hr hl ha) hp

lemma ensureStarted_ok (hk : h.ensureStarted l = (k, .ok ())) :
    k = h ∨ ∃ i c n, h.instance? l = some i ∧ i.state = .stopped ∧
      k = { h with connections := c, nextGeneration := n + 1 }.setInstance l (i.greeting n) := by
  by_cases hd : h.shuttingDown = true
  · rw [ensureStarted_shut hd] at hk
    exact .inl (congrArg Prod.fst hk).symm
  by_cases hn : ∀ i, h.instance? l = some i → i.state ≠ .stopped
  · rw [ensureStarted_running hn] at hk
    exact .inl (congrArg Prod.fst hk).symm
  push Not at hn
  obtain ⟨i, hi, hs⟩ := hn
  rw [Bool.not_eq_true] at hd
  rcases hr : i.launchRequest h.root h.environment with e | request
  · rw [ensureStarted_unlaunched hi hs hd hr] at hk
    simp at hk
  rcases hl : h.environment.launch h.nextGeneration request with ⟨notes, e | plan⟩
  · rw [ensureStarted_failed hi hs hd hr hl] at hk
    simp at hk
  rcases ha : h.environment.attach h.nextGeneration with e | _
  · rw [ensureStarted_unattached hi hs hd hr hl ha] at hk
    simp at hk
  · rw [ensureStarted_launched hi hs hd hr hl ha] at hk
    exact .inr ⟨i, _, _, hi, hs, (congrArg Prod.fst hk).symm⟩

lemma serves_setInstance (hd : h.Serves l d) (hi : h.instance? l = some i) (j : Instance) :
    (h.setInstance l j).Serves l d := by
  obtain ⟨k, hk, hs⟩ := hd
  refine ⟨k, hk, hs.imp_right fun hs => ?_⟩
  have hne : l ≠ k := by
    rintro rfl
    simp [instance?_eq_some.mp hi] at hs
  simpa [setInstance, setSlot, Slots.get?_set, hne] using hs

lemma admits_setInstance {j : Instance} (ha : h.Admits l d) (hi : h.instance? l = some i)
    (hj : j.settings = i.settings) : (h.setInstance l j).Admits l d := by
  refine ⟨serves_setInstance ha.1 hi j, ?_⟩
  have hs := ha.2
  simp only [inScope, hi, Option.any_some] at hs
  simp only [inScope, instance?_setInstance, if_true, Option.any_some, hj]
  exact hs

lemma attach_walk (hq : P .quiet) (hp : ∀ l, P (.launch l)) (h : Host) (d : Document) :
    Walk P h (h.attach d).1 := by
  cases hd : d.language with
  | none =>
    simp only [attach, hd]
    exact .refl h
  | some l =>
    have hw := resolve_walk hq h l
    rcases hr : h.resolve l with ⟨k, e | serving⟩
    · rw [hr] at hw
      cases e <;> simpa only [attach, hd, hr] using hw
    rw [hr] at hw
    by_cases hs : k.inScope serving d = true
    · have hm := hw.trans (ensureStarted_walk (hp serving) k)
      rcases he : k.ensureStarted serving with ⟨m, e | u⟩ <;> rw [he] at hm <;>
        simpa only [attach, hd, hr, hs, if_true, he] using hm
    · simp only [attach, hd, hr, hs]
      exact hw.trans (log_walk hq k _ _ _)

lemma attach_admits (ha : h.attach d = (k, .ok (some l))) : k.Admits l d := by
  cases hd : d.language with
  | none => simp [attach, hd] at ha
  | some n =>
    rcases hr : h.resolve n with ⟨m, e | serving⟩
    · cases e <;> simp [attach, hd, hr] at ha
    obtain ⟨hsv, i, hi⟩ := resolve_serves hr
    by_cases hs : m.inScope serving d = true
    · rcases he : m.ensureStarted serving with ⟨p, e | u⟩
      · simp [attach, hd, hr, hs, he] at ha
      simp only [attach, hd, hr, hs, if_true, he, Prod.mk.injEq, Except.ok.injEq,
        Option.some.injEq] at ha
      obtain ⟨rfl, rfl⟩ := ha
      have hm : m.Admits serving d := ⟨⟨n, hd, hsv⟩, hs⟩
      rcases ensureStarted_ok he with rfl | ⟨i, c, g, hi, -, rfl⟩
      · exact hm
      · exact admits_setInstance hm hi rfl
    · simp [attach, hd, hr, hs] at ha

def synced (h : Host) (l : LanguageId) (s : Sync) : Host :=
  { h with versions := s.versions, connections := s.connections }.setInstance l s.server

def syncing (h : Host) (i : Instance) : Sync := ⟨i, h.versions, h.connections⟩

lemma syncOnly_eq {α : Type} {f : Sync → Sync.Result α} (hi : h.instance? l = some i) :
    h.syncOnly l f =
      (h.synced l (f (h.syncing i)).1, (f (h.syncing i)).2.map fun _ => ()) := by
  simp only [syncOnly, withSync, hi, syncing, synced]
  cases (f ⟨i, h.versions, h.connections⟩).2 <;> rfl

lemma syncOnly_fst {α : Type} {f : Sync → Sync.Result α} (hi : h.instance? l = some i) :
    (h.syncOnly l f).1 = h.synced l (f (h.syncing i)).1 := congrArg Prod.fst (syncOnly_eq hi)

lemma syncOnly_walk {α : Type} {f : Sync → Sync.Result α}
    (hf : ∀ i, h.instance? l = some i → Walk P h (h.synced l (f (h.syncing i)).1)) :
    Walk P h (h.syncOnly l f).1 := by
  cases hi : h.instance? l with
  | none =>
    simp only [syncOnly, withSync, hi]
    exact .refl h
  | some i =>
    rw [syncOnly_fst hi]
    exact hf i hi

lemma notify_fst (s : Sync) (operation : Operation) (method : String) (params : Json) :
    (s.notify operation method params).1 =
      { s with connections := s.connections.tell s.server.connection method params } := by
  cases hg : s.server.connection <;> simp only [Sync.notify, hg, Connections.tell]

lemma didOpen_server (s : Sync) (d : Document) :
    (s.didOpen d).1.server.state = s.server.state ∧
      (s.didOpen d).1.server.settings = s.server.settings := by
  simp only [Sync.didOpen]
  split
  · exact ⟨rfl, rfl⟩
  · split
    · exact ⟨rfl, rfl⟩
    · simp only [Sync.openAs, notify_fst]
      exact ⟨rfl, rfl⟩

lemma didChange_steps {uri : Uri} (hi : h.instance? l = some i) (hr : i.state = .ready)
    (ho : i.openUri? d.id = some uri) (ha : h.Admits l d) (change : TextChange) :
    ∃ k, Step h .quiet k ∧
      Step k (.edit d change) (h.synced l ((h.syncing i).didChange d change).1) := by
  have hs : (h.syncing i).didChange d change = (h.syncing i).changeOpen d change uri := by
    simp [Sync.didChange, Sync.isReady, syncing, hr, ho]
  rw [hs]
  simp only [Sync.changeOpen, notify_fst]
  exact ⟨_, .logged _, .changed l i d change uri hi hr ho ha⟩

section Sync

variable (hq : P .quiet) (hp : P (.about d)) (hi : h.instance? l = some i)
include hq hi

lemma untouched_walk : Walk P h (h.synced l (h.syncing i)) := .step (.touched l i hi) hq

include hp

lemma openAs_walk {uri : Uri} (hr : i.state = .ready) (ho : i.openUri? d.id = none)
    (ha : h.Admits l d) (hu : d.uriOrError = .ok uri) :
    Walk P h (h.synced l ((h.syncing i).openAs d uri).1) := by
  simp only [Sync.openAs, notify_fst]
  exact (Walk.step (.logged _) hq).trans (.step (.opened l i d uri hi hr ho ha hu) hp)

lemma didOpen_walk (ha : h.Admits l d) : Walk P h (h.synced l ((h.syncing i).didOpen d).1) := by
  by_cases hr : i.state = .ready
  · cases ho : i.openUri? d.id with
    | some uri => simpa [Sync.didOpen, syncing, ho] using untouched_walk hq hi
    | none =>
      rcases hu : d.uriOrError with e | uri
      · simpa [Sync.didOpen, Sync.isReady, syncing, hr, ho, hu] using untouched_walk hq hi
      · simpa [Sync.didOpen, Sync.isReady, syncing, hr, ho, hu] using
          openAs_walk hq hp hi hr ho ha hu
  · simpa [Sync.didOpen, Sync.isReady, syncing, hr] using untouched_walk hq hi

lemma didChange_walk (ha : h.Admits l d) {change : TextChange} (hc : P (.edit d change)) :
    Walk P h (h.synced l ((h.syncing i).didChange d change).1) := by
  by_cases hr : i.state = .ready
  · cases ho : i.openUri? d.id with
    | some uri =>
      obtain ⟨k, hlog, hedit⟩ := didChange_steps hi hr ho ha change
      exact (Walk.step hlog hq).trans (.step hedit hc)
    | none => simpa [Sync.didChange, Sync.isReady, syncing, hr, ho] using didOpen_walk hq hp hi ha
  · simpa [Sync.didChange, Sync.isReady, syncing, hr] using untouched_walk hq hi

lemma didSave_walk (ha : h.Admits l d) : Walk P h (h.synced l ((h.syncing i).didSave d).1) := by
  by_cases hr : i.state = .ready
  · have hready : (h.syncing i).isReady = true := by simp [Sync.isReady, syncing, hr]
    have hw := didOpen_walk hq hp hi ha
    have hkept := didOpen_server (h.syncing i) d
    rcases ho : (h.syncing i).didOpen d with ⟨s, e | b⟩
    · simpa [Sync.didSave, hready, ho] using hw
    rw [ho] at hw hkept
    cases hu : s.server.openUri? d.id with
    | none => simpa [Sync.didSave, hready, ho, hu] using hw
    | some uri =>
      have hin : (h.synced l s).instance? l = some s.server := by
        simp [synced, instance?_setInstance]
      have hadm : (h.synced l s).Admits l d := admits_setInstance ha hi hkept.2
      have hlast := Walk.step (.saved l s.server d uri hin (hkept.1.trans hr) hu hadm) hp
      simpa [Sync.didSave, hready, ho, hu, notify_fst, synced, setInstance, setSlot,
        Slots.set_set] using hw.trans hlast
  · simpa [Sync.didSave, Sync.isReady, syncing, hr] using untouched_walk hq hi

lemma didClose_walk : Walk P h (h.synced l ((h.syncing i).didClose d).1) := by
  cases ho : i.openUri? d.id with
  | none => simpa [Sync.didClose, syncing, ho] using untouched_walk hq hi
  | some uri =>
    by_cases hr : (i.removeOpen d.id).state = .ready
    · simp only [Sync.didClose, syncing, ho, Sync.isReady, Sync.log, hr, decide_true, if_true,
        notify_fst]
      exact (Walk.step (.logged _) hq).trans (.step (.closed l i d uri hi hr ho) hp)
    · simp only [Sync.didClose, syncing, ho, Sync.isReady, Sync.log, hr, decide_false,
        Bool.false_eq_true, if_false]
      exact (Walk.step (.logged _) hq).trans (.step (.unlisted l i d hi hr) hp)

end Sync

end Host

end LanguageHost
