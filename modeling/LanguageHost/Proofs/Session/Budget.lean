import LanguageHost.Proofs.Session.Custody

/-! The launches that are left to the server of a language. A step either pays a launch out of them or
gives the language up, and they are only renewed when the slot is forgotten. -/

namespace LanguageHost

def Slot.isDead : Slot → Bool
  | .dead .. => true
  | _ => false

def Slot.budget : Slot → Nat
  | .active i => if i.state = .stopped then maxRestarts + 1 - i.restarts else maxRestarts - i.restarts
  | _ => 0

def HostEvent.fatal? : HostEvent → Option LanguageId
  | .fatal l _ => some l
  | _ => none

namespace Deed

def Forgets (l : LanguageId) : Deed → Prop
  | part k | excuse k | evict k => k = l
  | again _ | discard | mute _ => True
  | _ => False

def launchesOf (l : LanguageId) : Deed → Nat
  | launch k => if k = l then 1 else 0
  | _ => 0

end Deed

namespace Host

variable {h k : Host} {l m n : LanguageId} {i j : Instance} {slot : Slot} {d : Document}
  {deed : Deed} {P : Deed → Prop}

def isDead (h : Host) (l : LanguageId) : Bool := (h.slots.get? l).any Slot.isDead

def budget (h : Host) (l : LanguageId) : Nat :=
  ((h.slots.get? l).map Slot.budget).getD (maxRestarts + 1)

def tries (h : Host) (l : LanguageId) : Nat :=
  h.connections.launches.countP (·.2.language = l)

def fatals (h : Host) : List LanguageId := h.queued.filterMap HostEvent.fatal?

structure Drops (h k : Host) (l : LanguageId) : Prop where
  step : ∃ deed, Step h deed k
  alive : h.isDead l = false
  slots : ∃ restarts reason, k.slots = h.slots.set l (.dead restarts reason)
  told : k.fatals = h.fatals ++ [l]

inductive Refits (h k : Host) : Deed → Prop
  | same {deed : Deed} (hd : ∀ l, deed ≠ .launch l) (hs : k.slots = h.slots)
      (hf : deed ≠ .take → k.fatals = h.fatals) : Refits h k deed
  | made (m : LanguageId) (slot : Slot) (hn : h.slots.get? m = none) (hd : slot.isDead = false)
      (hs : k.slots = h.slots.set m slot) (hf : k.fatals = h.fatals) : Refits h k .quiet
  | kept {deed : Deed} (hd : ∀ l, deed ≠ .launch l) (m : LanguageId) (i j : Instance)
      (hi : h.instance? m = some i) (hs : k.slots = h.slots.set m (.active j))
      (hr : j.restarts = i.restarts) (hst : j.state = .stopped ↔ i.state = .stopped)
      (hf : k.fatals = h.fatals) : Refits h k deed
  | launched (m : LanguageId) (i j : Instance) (hi : h.instance? m = some i)
      (hst : i.state = .stopped) (hs : k.slots = h.slots.set m (.active j))
      (hr : j.restarts = i.restarts) (hj : j.state ≠ .stopped) (hf : k.fatals = h.fatals) :
      Refits h k (.launch m)
  | replaced (m : LanguageId) (i j : Instance) (hi : h.instance? m = some i)
      (hs : k.slots = h.slots.set m (.active j)) (hr : j.restarts = i.restarts + 1)
      (hf : k.fatals = h.fatals) : Refits h k (.loss m)
  | killed {deed : Deed} (m : LanguageId) (i : Instance) (restarts : Nat) (reason : String)
      (hi : h.instance? m = some i) (hd : deed = .launch m ∧ i.state = .stopped ∨ deed = .loss m)
      (hs : k.slots = h.slots.set m (.dead restarts reason)) (hf : k.fatals = h.fatals ++ [m]) :
      Refits h k deed
  | erased {deed : Deed} (m : LanguageId) (hd : deed.Forgets m)
      (hi : (∃ i, h.instance? m = some i) ∨ deed = .discard) (hs : k.slots = h.slots.erase m)
      (hf : k.fatals = h.fatals) : Refits h k deed

section Steps

lemma configure_alive {s : Settings} {notes : List LogRecord} (hc : configure s l = (notes, .ok slot)) :
    slot.isDead = false := by
  obtain ⟨c, -, hmakes⟩ := configure_makes (congrArg Prod.snd hc)
  cases hmakes <;> rfl

lemma launchFailed_fatals (h : Host) (l : LanguageId) (restarts : Nat) (e : LaunchError) :
    (h.launchFailed l restarts e).fatals = h.fatals ++ [l] := List.filterMap_append

lemma Step.refits (hs : Step h deed k) (hc : h.Coherent) : Refits h k deed := by
  have hsilent (e : HostEvent) (he : e.fatal? = none) :
      (h.queued ++ [e]).filterMap HostEvent.fatal? = h.fatals := by
    rw [List.filterMap_append, List.filterMap_cons_none he]
    exact List.append_nil _
  cases hs with
  | taken => exact .same (by simp) rfl fun hd => absurd rfl hd
  | told e he =>
    refine .same (by simp) rfl fun _ => hsilent e ?_
    cases e with
    | fatal => cases he
    | _ => rfl
  | departed i => exact .same (by simp) rfl fun _ => hsilent _ rfl
  | logged | progressed | announced | requested | elapsed | surrounded | popped | received | ended
    | planned | collected | replied | searched | asked | acknowledged | released | sealed | shuffled
    | expelled | replaced => exact .same (by simp) rfl fun _ => rfl
  | configured m slot notes hn hconf => exact .made m slot hn (configure_alive hconf) rfl rfl
  | touched m i hi => exact .kept (by simp) m i i hi rfl rfl .rfl rfl
  | opened m i d uri hi | changed m i d change uri hi | saved m i d uri hi | closed m i d uri hi
    | unlisted m i d hi =>
    exact .kept (by simp) m i _ hi rfl rfl .rfl rfl
  | launched m i request notes plan hi hst =>
    exact .launched m i _ hi hst rfl rfl (by simp [Instance.greeting]) rfl
  | unlaunched m i e hi hst | failed m i request notes e hi hst
    | unattached m i request notes plan e hi hst =>
    exact .killed m i _ _ hi (.inl ⟨rfl, hst⟩) rfl (launchFailed_fatals _ m _ _)
  | welcomed m i g response hi hst =>
    exact .kept (by simp) m i _ hi rfl rfl (by simp [Instance.welcomed, hst]) rfl
  | lost m i reason hi => exact .replaced m i _ hi rfl rfl (hsilent _ rfl)
  | abandoned m i reason last hi =>
    refine .killed m i _ _ hi (.inr rfl) rfl ?_
    exact List.filterMap_append
  | stopping m i g hi hg =>
    have hst : i.state ≠ .stopped := (hc.sound hi).connected.mp (by simp [hg])
    exact .kept (by simp) m i _ hi rfl rfl (by simp [Instance.leaving, hst]) rfl
  | reminded m i g hi => exact .erased m trivial (.inl ⟨i, hi⟩) rfl rfl
  | dropped m i how hi | excused m i hi => exact .erased m rfl (.inl ⟨i, hi⟩) rfl (hsilent _ rfl)
  | idled m i hi | retired m i hi => exact .erased m trivial (.inl ⟨i, hi⟩) rfl rfl
  | muted m i g hi => exact .erased m trivial (.inl ⟨i, hi⟩) rfl rfl
  | evicted m i hi =>
    refine .erased m rfl (.inl ⟨i, hi⟩) rfl ?_
    by_cases hr : isRunning i = true <;> simp [fatals, HostEvent.fatal?, hr]
  | forgotten m hi => exact .erased m trivial (.inr rfl) rfl rfl

end Steps

section Refitting

lemma isDead_iff : h.isDead l = true ↔ ∃ restarts reason,
    h.slots.get? l = some (.dead restarts reason) := by
  simp only [isDead, Option.any_eq_true]
  constructor
  · rintro ⟨slot, hs, hd⟩
    cases slot with
    | dead restarts reason => exact ⟨restarts, reason, hs⟩
    | _ => cases hd
  · rintro ⟨restarts, reason, hs⟩
    exact ⟨_, hs, rfl⟩

lemma isDead_set (hs : k.slots = h.slots.set m slot) (l : LanguageId) :
    k.isDead l = if m = l then slot.isDead else h.isDead l := by
  rw [isDead, hs, Slots.get?_set]
  split <;> rfl

lemma budget_set (hs : k.slots = h.slots.set m slot) (l : LanguageId) :
    k.budget l = if m = l then slot.budget else h.budget l := by
  rw [budget, hs, Slots.get?_set]
  split <;> rfl

lemma budget_le (h : Host) (l : LanguageId) : h.budget l ≤ maxRestarts + 1 := by
  rw [budget]
  cases h.slots.get? l with
  | none => exact Nat.le_refl _
  | some slot =>
    cases slot with
    | active i =>
      simp only [Option.map_some, Option.getD_some, Slot.budget]
      split <;> omega
    | _ => exact Nat.zero_le _

lemma budget_active (hi : h.instance? l = some i) : h.budget l = (Slot.active i).budget := by
  rw [budget, instance?_eq_some.mp hi]
  rfl

lemma budget_filled (hs : k.slots = h.slots.set m slot) (hother : m ≠ l → deed.launchesOf l = 0)
    (hself : m = l → slot.budget + deed.launchesOf l ≤ h.budget l) :
    k.budget l + deed.launchesOf l ≤ h.budget l := by
  rw [budget_set hs]
  split
  · next hm => exact hself hm
  · next hm => exact Nat.le_of_eq (by rw [hother hm, Nat.add_zero])

lemma launchesOf_none (hd : ∀ m, deed ≠ .launch m) (l : LanguageId) : deed.launchesOf l = 0 := by
  cases deed with
  | launch m => exact absurd rfl (hd m)
  | _ => rfl

lemma launchesOf_other (hm : m ≠ l) : (Deed.launch m).launchesOf l = 0 := if_neg hm

lemma Refits.budget (hr : Refits h k deed) (hforgets : ¬deed.Forgets l)
    (hlim : ∀ i, h.instance? l = some i → i.restarts ≤ maxRestarts) :
    k.budget l + deed.launchesOf l ≤ h.budget l := by
  cases hr with
  | same hl hs =>
    exact Nat.le_of_eq (by rw [launchesOf_none hl, Nat.add_zero, Host.budget, Host.budget, hs])
  | made m slot hn hd hs =>
    refine budget_filled hs (fun _ => rfl) fun hm => ?_
    subst hm
    have hnone : h.budget m = maxRestarts + 1 := by rw [Host.budget, hn]; rfl
    have hle := budget_le k m
    rw [budget_set hs, if_pos rfl] at hle
    rwa [hnone]
  | kept hl m i j hi hs hr hst =>
    refine budget_filled hs (fun _ => launchesOf_none hl l) fun hm => ?_
    subst hm
    rw [launchesOf_none hl, Nat.add_zero, budget_active hi]
    simp [Slot.budget, hr, hst]
  | launched m i j hi hst hs hr hj =>
    refine budget_filled hs launchesOf_other fun hm => ?_
    subst hm
    have := hlim i hi
    rw [budget_active hi]
    simp only [Slot.budget, hj, hst, hr, Deed.launchesOf, if_true, if_false]
    omega
  | replaced m i j hi hs hr =>
    refine budget_filled hs (fun _ => rfl) fun hm => ?_
    subst hm
    rw [budget_active hi]
    simp only [Slot.budget, hr, Deed.launchesOf]
    split <;> split <;> omega
  | killed m i restarts reason hi hd hs =>
    refine budget_filled hs (fun hm => ?_) fun hm => ?_
    · rcases hd with ⟨rfl, -⟩ | rfl
      · exact launchesOf_other hm
      · rfl
    · subst hm
      have := hlim i hi
      rcases hd with ⟨rfl, hst⟩ | rfl
      · rw [budget_active hi]
        simp only [Slot.budget, hst, Deed.launchesOf, if_true]
        omega
      · exact Nat.zero_le _
  | erased m hf hi hs =>
    have hl : deed.launchesOf l = 0 := by
      cases deed with
      | launch => cases hf
      | _ => rfl
    have hm : m ≠ l := by
      rintro rfl
      exact hforgets hf
    refine Nat.le_of_eq ?_
    rw [hl, Nat.add_zero, Host.budget, Host.budget, hs, Slots.get?_erase, if_neg hm]

lemma Refits.occupied (hr : Refits h k deed) (hforgets : ¬deed.Forgets l)
    (hl : (h.slots.get? l).isSome = true) : (k.slots.get? l).isSome = true := by
  cases hr with
  | same hl hs => rwa [hs]
  | made m slot hn hd hs | kept hl m i slot hi hs | launched m i slot hi hst hs
    | replaced m i slot hi hs | killed m i restarts reason hi hd hs =>
    rw [hs, Slots.get?_set]
    split
    · rfl
    · assumption
  | erased m hf hi hs =>
    have hm : m ≠ l := by
      rintro rfl
      exact hforgets hf
    rwa [hs, Slots.get?_erase, if_neg hm]

lemma Refits.dead (hr : Refits h k deed) {restarts : Nat} {reason : String}
    (hl : h.slots.get? l = some (.dead restarts reason)) (hd : deed ≠ .discard ∧ deed ≠ .take) :
    k.slots.get? l = h.slots.get? l ∧ k.fatals.count l = h.fatals.count l ∧
      deed.launchesOf l = 0 := by
  have hother {m : LanguageId} {i : Instance} (hi : h.instance? m = some i) : m ≠ l := by
    rintro rfl
    simp [instance?_eq_some, hl] at hi
  have hset {m : LanguageId} {slot : Slot} (hm : m ≠ l) (hs : k.slots = h.slots.set m slot) :
      k.slots.get? l = h.slots.get? l := by rw [hs, Slots.get?_set, if_neg hm]
  cases hr with
  | same hn hs hf => exact ⟨by rw [hs], by rw [hf hd.2], launchesOf_none hn l⟩
  | made m slot hn halive hs hf =>
    refine ⟨hset ?_ hs, by rw [hf], rfl⟩
    rintro rfl
    simp [hl] at hn
  | kept hn m i j hi hs hr hst hf => exact ⟨hset (hother hi) hs, by rw [hf], launchesOf_none hn l⟩
  | launched m i j hi hst hs hr hj hf =>
    exact ⟨hset (hother hi) hs, by rw [hf], launchesOf_other (hother hi)⟩
  | replaced m i j hi hs hr hf => exact ⟨hset (hother hi) hs, by rw [hf], rfl⟩
  | killed m i restarts reason hi hd hs hf =>
    refine ⟨hset (hother hi) hs, ?_, ?_⟩
    · rw [hf, List.count_append, List.count_singleton]
      simp [hother hi]
    · rcases hd with ⟨rfl, -⟩ | rfl
      · exact launchesOf_other (hother hi)
      · rfl
  | erased m hf hi hs hfatals =>
    obtain ⟨i, hi⟩ := hi.resolve_right hd.1
    refine ⟨by rw [hs, Slots.get?_erase, if_neg (hother hi)], by rw [hfatals], ?_⟩
    cases deed with
    | launch => cases hf
    | _ => rfl

lemma Step.drops (hs : Step h deed k) (hc : h.Coherent) (ha : h.isDead l = false)
    (hd : deed ≠ .take) : k.isDead l = false ∧ k.fatals.count l = h.fatals.count l ∨
      k.isDead l = true ∧ Drops h k l := by
  have hkept (hsame : k.isDead l = h.isDead l) (hf : k.fatals = h.fatals) :
      k.isDead l = false ∧ k.fatals.count l = h.fatals.count l ∨ k.isDead l = true ∧ Drops h k l :=
    .inl ⟨hsame.trans ha, by rw [hf]⟩
  have hset {m : LanguageId} {slot : Slot} (hs : k.slots = h.slots.set m slot)
      (hslot : slot.isDead = false) : k.isDead l = h.isDead l := by
    rw [isDead_set hs, hslot, ha, ite_self]
  cases hs.refits hc with
  | same hn hslots hf => exact hkept (by rw [isDead, isDead, hslots]) (hf hd)
  | made m slot hn hslot hslots hf => exact hkept (hset hslots hslot) hf
  | kept hn m i j hi hslots hr hst hf => exact hkept (hset hslots rfl) hf
  | launched m i j hi hst hslots hr hj hf => exact hkept (hset hslots rfl) hf
  | replaced m i j hi hslots hr hf => exact hkept (hset hslots rfl) hf
  | killed m i restarts reason hi hdeed hslots hf =>
    by_cases hm : m = l
    · subst hm
      exact .inr ⟨by rw [isDead_set hslots, if_pos rfl]; rfl,
        ⟨deed, hs⟩, ha, ⟨restarts, reason, hslots⟩, hf⟩
    · refine .inl ⟨by rw [isDead_set hslots, if_neg hm, ha], ?_⟩
      rw [hf, List.count_append, List.count_singleton]
      simp [hm]
  | erased m hforgets hi hslots hf =>
    refine .inl ⟨?_, by rw [hf]⟩
    rw [isDead, hslots, Slots.get?_erase]
    split
    · rfl
    · exact ha

lemma Step.tries (hs : Step h deed k) (hc : h.Coherent) (l : LanguageId) :
    k.tries l = h.tries l ∨ k.tries l = h.tries l + deed.launchesOf l := by
  rcases hs.attempts hc with hl | ⟨a, rfl, -, hl⟩
  · exact .inl (by rw [Host.tries, Host.tries, hl])
  · refine .inr ?_
    rw [Host.tries, Host.tries, hl, List.countP_append, List.countP_singleton]
    simp [Deed.launchesOf]

lemma Step.spends (hs : Step h deed k) (hc : h.Coherent) (hforgets : ¬deed.Forgets l) :
    k.tries l + k.budget l ≤ h.tries l + h.budget l := by
  have hbudget := (hs.refits hc).budget hforgets fun i hi => (hc.sound hi).limited
  have htries := hs.tries hc l
  omega

end Refitting

section Walks

variable {P : Deed → Prop}

lemma Walk.spends (hw : Walk P h k) (hc : h.Coherent) (hp : ∀ d, P d → ¬d.Forgets l) :
    k.tries l + k.budget l ≤ h.tries l + h.budget l :=
  hw.preserves (I := fun k => k.tries l + k.budget l ≤ h.tries l + h.budget l) hc (Nat.le_refl _)
    fun hd hs ha hle => Nat.le_trans (hs.spends ha (hp _ hd)) hle

lemma Walk.tries (hw : Walk P h k) (hc : h.Coherent) (hp : ∀ d, P d → ∀ m, d ≠ .launch m) :
    k.tries l = h.tries l := by
  refine hw.preserves (I := fun k => k.tries l = h.tries l) hc rfl fun hd hs ha he => ?_
  have htries := hs.tries ha l
  rw [launchesOf_none (hp _ hd), Nat.add_zero, or_self] at htries
  exact htries.trans he

lemma Walk.occupied (hw : Walk P h k) (hc : h.Coherent) (hp : ∀ d, P d → ¬d.Forgets l)
    (hl : (h.slots.get? l).isSome = true) : (k.slots.get? l).isSome = true :=
  hw.preserves hc hl fun hd hs ha hi => (hs.refits ha).occupied (hp _ hd) hi

lemma Walk.dead (hw : Walk P h k) (hc : h.Coherent) (hp : ∀ d, P d → d ≠ .discard ∧ d ≠ .take)
    {restarts : Nat} {reason : String} (hl : h.slots.get? l = some (.dead restarts reason)) :
    k.slots.get? l = h.slots.get? l ∧ k.fatals.count l = h.fatals.count l ∧
      k.tries l = h.tries l := by
  refine hw.preserves (I := fun k => k.slots.get? l = h.slots.get? l ∧
    k.fatals.count l = h.fatals.count l ∧ k.tries l = h.tries l) hc ⟨rfl, rfl, rfl⟩ ?_
  intro a b deed hd hs ha ⟨hslot, hfatals, htries⟩
  obtain ⟨hs', hf', hl'⟩ := (hs.refits ha).dead (hslot.trans hl) (hp deed hd)
  have ht' := hs.tries ha l
  rw [hl', Nat.add_zero, or_self] at ht'
  exact ⟨hs'.trans hslot, hf'.trans hfatals, ht'.trans htries⟩

lemma Walk.unfatal (hw : Walk P h k) (hc : h.Coherent)
    (hp : ∀ d, P d → d ≠ .take ∧ (∀ m, d ≠ .launch m) ∧ ∀ m, d ≠ .loss m) :
    k.fatals = h.fatals := by
  refine hw.preserves (I := fun k => k.fatals = h.fatals) hc rfl fun {a b deed} hd hs ha he => ?_
  obtain ⟨htake, hlaunch, hloss⟩ := hp deed hd
  cases hs.refits ha with
  | same hn hs hf => exact (hf htake).trans he
  | killed m i restarts reason hi hd hs hf =>
    rcases hd with ⟨rfl, -⟩ | rfl
    · exact absurd rfl (hlaunch m)
    · exact absurd rfl (hloss m)
  | made m slot hn hd hs hf | kept hn m i j hi hs hr hst hf | launched m i j hi hst hs hr hj hf
    | replaced m i j hi hs hr hf | erased m hd hi hs hf => exact hf.trans he

lemma Walk.drops (hw : Walk P h k) (hc : h.Coherent) (hp : ∀ d, P d → d ≠ .discard ∧ d ≠ .take)
    (hl : h.isDead l = false) :
    k.isDead l = false ∧ k.fatals.count l = h.fatals.count l ∨
      k.isDead l = true ∧ k.fatals.count l = h.fatals.count l + 1 ∧
        ∃ a b, Walk P h a ∧ Drops a b l ∧ Walk P b k := by
  induction hw with
  | refl => exact .inl ⟨hl, rfl⟩
  | @tail a b hfirst hlast ih =>
    obtain ⟨deed, hd, hs⟩ := hlast
    have ha : a.Coherent := Walk.coherent hfirst hc
    rcases ih with ⟨halive, hcount⟩ | ⟨hdead, hcount, c, e, hbefore, hdrops, hafter⟩
    · rcases hs.drops ha halive (hp deed hd).2 with ⟨hb, hsame⟩ | ⟨hb, hdrops⟩
      · exact .inl ⟨hb, hsame.trans hcount⟩
      · refine .inr ⟨hb, ?_, a, b, hfirst, hdrops, .refl b⟩
        rw [hdrops.told, List.count_append, List.count_singleton_self, hcount]
    · obtain ⟨restarts, reason, hslot⟩ := isDead_iff.mp hdead
      obtain ⟨hkept, hsame, -⟩ := (hs.refits ha).dead hslot (hp deed hd)
      refine .inr ⟨isDead_iff.mpr ⟨restarts, reason, hkept.trans hslot⟩, hsame.trans hcount, c, e,
        hbefore, hdrops, hafter.trans (.step hs hd)⟩

end Walks

end Host

end LanguageHost
