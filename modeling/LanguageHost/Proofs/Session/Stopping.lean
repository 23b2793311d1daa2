import LanguageHost.Proofs.Session.Walks

namespace LanguageHost.Host

variable {P : Deed → Prop} {h k : Host} {l : LanguageId} {i : Instance}

def IsStopping (h : Host) (g : Nat) : Prop :=
  ∃ l i, h.instance? l = some i ∧ i.connection = some g ∧ i.state = .shuttingDown

section Stopping

def rid (h : Host) (l : LanguageId) (c : Connections) : Host :=
  ({ h with connections := c, slots := h.slots.erase l, progress := h.progress.clear l }.log .info
    "language server stopped" [languageField l]).queue (.stopped l)

lemma finishStop_eq (hi : h.instance? l = some i) :
    h.finishStop l = h.rid l (i.teardown h.connections).1 := by
  simp only [finishStop, hi]
  rfl

lemma finishStop_reset (h : Host) (l : LanguageId) {i : Instance} (c : Connections)
    (hg : i.connection = none) :
    ({ h with connections := c }.setInstance l i).finishStop l = h.rid l c := by
  rw [finishStop_eq (i := i) (by simp [instance?_setInstance])]
  simp only [rid, Instance.teardown, Instance.finish, hg, setInstance, setSlot, Slots.erase_set]

lemma rid_setInstance (h : Host) (l : LanguageId) (i : Instance) (c e : Connections) :
    ({ h with connections := c }.setInstance l i).rid l e = h.rid l e := by
  simp only [rid, setInstance, setSlot, Slots.erase_set]

lemma rid_walk (hq : P .quiet) (hp : P (.part l)) (hi : h.instance? l = some i)
    (hs : i.state = .shuttingDown) (how : Ending) :
    Walk P h (h.rid l (i.finish how h.connections).1) :=
  (Walk.step (.dropped l i how hi hs) hp).trans (log_walk hq _ _ _ _)

lemma rid_get? (h : Host) (l k : LanguageId) (c : Connections) :
    (h.rid l c).slots.get? k = if l = k then none else h.slots.get? k :=
  Slots.get?_erase h.slots l k

lemma beginShutdown_none (hg : i.connection = none) (now : Nat) (c : Connections) :
    i.beginShutdown now c = (c, { i with state := .stopped }, true) := by
  cases i
  subst hg
  rfl

lemma beginShutdown_ok {g id : Nat} {c e : Connections} (hg : i.connection = some g)
    (hc : c.call g "shutdown" .null .shutdown = (e, .ok id)) (now : Nat) :
    i.beginShutdown now c = (e, i.leaving now, false) := by
  cases i
  subst hg
  simp only [Instance.beginShutdown, hc, Instance.leaving]

lemma beginShutdown_error {g : Nat} {c e : Connections} {error : RpcError}
    (hg : i.connection = some g)
    (hc : c.call g "shutdown" .null .shutdown = (e, .error error)) (now : Nat) :
    ∃ r, i.beginShutdown now c =
      (((i.leaving now).forceStop (e.log r)).1, (i.leaving now).reset, true) := by
  cases i
  subst hg
  simp only [Instance.beginShutdown, hc]
  exact ⟨_, rfl⟩

lemma beginShutdown_result (i : Instance) (now : Nat) (c : Connections) :
    (i.beginShutdown now c).2.2 = true ∧ (i.beginShutdown now c).2.1.connection = none ∨
      (i.beginShutdown now c).2.2 = false ∧ (i.beginShutdown now c).2.1 = i.leaving now := by
  cases hg : i.connection with
  | none => exact .inl (by rw [beginShutdown_none hg]; exact ⟨rfl, hg⟩)
  | some g =>
    rcases hc : c.call g "shutdown" .null .shutdown with ⟨e, error | id⟩
    · obtain ⟨r, hb⟩ := beginShutdown_error hg hc now
      exact .inl (by rw [hb]; exact ⟨rfl, rfl⟩)
    · exact .inr (by rw [beginShutdown_ok hg hc]; exact ⟨rfl, rfl⟩)

def noting (h : Host) (l : LanguageId) : Host :=
  h.log .info "shutting down language server" [languageField l]

lemma shutdown_eq (hi : h.instance? l = some i) (hs : i.state ≠ .shuttingDown) :
    h.shutdown l =
      if (i.beginShutdown h.now (h.noting l).connections).2.2 then
        (h.noting l).rid l (i.beginShutdown h.now (h.noting l).connections).1
      else
        { h.noting l with
          connections := (i.beginShutdown h.now (h.noting l).connections).1 }.setInstance l
            (i.beginShutdown h.now (h.noting l).connections).2.1 := by
  have hu : h.shutdown l =
      if (i.beginShutdown h.now (h.noting l).connections).2.2 then
        ({ h.noting l with
          connections := (i.beginShutdown h.now (h.noting l).connections).1 }.setInstance l
            (i.beginShutdown h.now (h.noting l).connections).2.1).finishStop l
      else
        { h.noting l with
          connections := (i.beginShutdown h.now (h.noting l).connections).1 }.setInstance l
            (i.beginShutdown h.now (h.noting l).connections).2.1 := by
    simp only [shutdown, hi, hs, if_false]
    rfl
  rw [hu]
  rcases beginShutdown_result i h.now (h.noting l).connections with hr | hr
  · simp only [hr.1, if_true]
    exact finishStop_reset (h.noting l) l _ hr.2
  · simp only [hr.1, Bool.false_eq_true, if_false]

lemma shutdown_noop (hi : ∀ i, h.instance? l = some i → i.state = .shuttingDown) :
    h.shutdown l = h := by
  cases hl : h.instance? l with
  | none => simp only [shutdown, hl]
  | some i => simp only [shutdown, hl, hi i hl, if_true]

lemma shutdown_walk (hq : P .quiet) (hp : P (.stop l)) (h : Host)
    (hgone : ∀ i, h.instance? l = some i → (h.shutdown l).slots.get? l = none →
      P (.part l) ∧ (i.connection = none → P (.excuse l))) :
    Walk P h (h.shutdown l) := by
  by_cases hn : ∀ i, h.instance? l = some i → i.state = .shuttingDown
  · rw [shutdown_noop hn]
    exact .refl h
  push Not at hn
  obtain ⟨i, hi, hs⟩ := hn
  replace hgone := hgone i hi
  rw [shutdown_eq hi hs, show h.now = (h.noting l).now from rfl] at hgone ⊢
  refine (log_walk hq h .info "shutting down language server" [languageField l]).trans ?_
  change Walk P (h.noting l) _
  generalize hk : h.noting l = k at hgone ⊢
  have hki : k.instance? l = some i := by rw [← hk]; exact hi
  cases hg : i.connection with
  | none =>
    simp only [beginShutdown_none hg, if_true] at hgone ⊢
    have hexcuse : P (.excuse l) := (hgone (by rw [rid_get?, if_pos rfl])).2 hg
    exact (Walk.step (.excused l i hki hg) hexcuse).trans (log_walk hq _ _ _ _)
  | some g =>
    have hstop := Walk.step (.stopping l i g hki hg hs) hp
    rcases hc : k.connections.call g "shutdown" .null .shutdown with ⟨c, e | id⟩ <;>
      rw [hc] at hstop
    · obtain ⟨r, hb⟩ := beginShutdown_error hg hc k.now
      have hin : ({ k with connections := c.log r }.setInstance l (i.leaving k.now)).instance? l =
          some (i.leaving k.now) := by simp [instance?_setInstance]
      simp only [hb, if_true] at hgone ⊢
      have hpart : P (.part l) := (hgone (by rw [rid_get?, if_pos rfl])).1
      rw [← rid_setInstance k l (i.leaving k.now) (c.log r)]
      exact (hstop.trans (Walk.step (.logged r) hq)).trans
        (rid_walk hq hpart hin rfl .forceExit)
    · simpa only [beginShutdown_ok hg hc k.now, Bool.false_eq_true, if_false] using hstop

lemma shutdown_sealed (h : Host) (b : Bool) (l : LanguageId) :
    { h with shuttingDown := b }.shutdown l = { h.shutdown l with shuttingDown := b } := by
  by_cases hn : ∀ i, h.instance? l = some i → i.state = .shuttingDown
  · rw [shutdown_noop hn, shutdown_noop (h := { h with shuttingDown := b }) hn]
  push Not at hn
  obtain ⟨i, hi, hs⟩ := hn
  rw [shutdown_eq hi hs, shutdown_eq (h := { h with shuttingDown := b }) hi hs]
  let k : Host := { h with shuttingDown := b }
  rcases beginShutdown_result i h.now (h.noting l).connections with hr | hr
  · have hk : (i.beginShutdown k.now (k.noting l).connections).2.2 = true := hr.1
    simp only [hr.1, if_true]
    exact if_pos hk
  · have hk : ¬(i.beginShutdown k.now (k.noting l).connections).2.2 = true := by
      change ¬(i.beginShutdown h.now (h.noting l).connections).2.2 = true
      simp [hr.1]
    simp only [hr.1, Bool.false_eq_true, if_false]
    exact if_neg hk

lemma shutdown_other {k : LanguageId} (hk : l ≠ k) (h : Host) :
    (h.shutdown l).slots.get? k = h.slots.get? k := by
  by_cases hn : ∀ i, h.instance? l = some i → i.state = .shuttingDown
  · rw [shutdown_noop hn]
  push Not at hn
  obtain ⟨i, hi, hs⟩ := hn
  rw [shutdown_eq hi hs]
  split
  · simp [rid, noting, queue, log, Slots.get?_erase, hk]
  · simp [noting, log, setInstance, setSlot, Slots.get?_set, hk]

lemma shutdown_vacant {k : LanguageId} (hk : h.slots.get? k = none) (l : LanguageId) :
    (h.shutdown l).slots.get? k = none := by
  by_cases hl : l = k
  · subst hl
    have hi : h.instance? l = none := by simp [instance?, hk]
    rwa [shutdown_noop (by simp [hi])]
  · rwa [shutdown_other hl]

lemma shutdowns_vacant {k : LanguageId} (hk : h.slots.get? k = none) (ls : List LanguageId) :
    (ls.foldl shutdown h).slots.get? k = none := by
  induction ls generalizing h with
  | nil => exact hk
  | cons l rest ih => exact ih (shutdown_vacant hk l)

lemma shutdown_self (h : Host) (hi : (h.shutdown l).instance? l = some i) :
    i.state = .shuttingDown := by
  by_cases hn : ∀ i, h.instance? l = some i → i.state = .shuttingDown
  · rw [shutdown_noop hn] at hi
    exact hn i hi
  push Not at hn
  obtain ⟨j, hj, hs⟩ := hn
  rw [shutdown_eq hj hs] at hi
  rcases beginShutdown_result j h.now (h.noting l).connections with hr | hr
  · simp [hr.1, instance?, rid, queue, log, Slots.get?_erase] at hi
  · simp only [hr.1, hr.2, Bool.false_eq_true, if_false, instance?_setInstance, if_true,
      Option.some.injEq] at hi
    rw [← hi]
    rfl

lemma shutdowns_leave {ls : List LanguageId} {h : Host}
    (hs : ∀ l i, h.instance? l = some i → l ∈ ls ∨ i.state = .shuttingDown) {i : Instance}
    (hi : (ls.foldl shutdown h).instance? l = some i) : i.state = .shuttingDown := by
  induction ls generalizing h with
  | nil => exact (hs l i hi).resolve_left (by simp)
  | cons k rest ih =>
    refine ih (h := h.shutdown k) (fun m j hj => ?_) hi
    by_cases hm : k = m
    · subst hm
      exact .inr (shutdown_self h hj)
    · rw [instance?, shutdown_other hm, ← instance?] at hj
      exact (hs m j hj).imp_left fun hmem => (List.mem_cons.mp hmem).resolve_left (Ne.symm hm)

lemma mem_activeLanguages (hi : h.instance? l = some i) : l ∈ h.slots.activeLanguages := by
  have hm := Slots.mem_of_get? (instance?_eq_some.mp hi)
  exact List.mem_filterMap.mpr ⟨_, hm, rfl⟩

lemma instance?_of_active (hn : h.slots.languages.Nodup) (hl : l ∈ h.slots.activeLanguages) :
    ∃ i, h.instance? l = some i := by
  obtain ⟨⟨k, slot⟩, hm, hk⟩ := List.mem_filterMap.mp hl
  obtain ⟨i, hi, rfl⟩ := Option.map_eq_some_iff.mp hk
  exact ⟨i, by simp [instance?, Slots.get?_of_mem hn hm, hi]⟩

lemma vacates_get? {f : Host → LanguageId → Host}
    (hf : ∀ h l k, (f h l).slots.get? k =
      if l = k ∧ (h.instance? l).isSome = true then none else h.slots.get? k)
    (ls : List LanguageId) (h : Host) (k : LanguageId) :
    (ls.foldl f h).slots.get? k =
      if k ∈ ls ∧ (h.instance? k).isSome = true then none else h.slots.get? k := by
  induction ls generalizing h with
  | nil => simp
  | cons l rest ih =>
    rw [List.foldl_cons, ih]
    by_cases hl : l = k
    · subst hl
      have hself := hf h l l
      by_cases hi : (h.instance? l).isSome = true
      · rw [if_pos ⟨rfl, hi⟩] at hself
        have hnone : (f h l).instance? l = none := by simp [instance?, hself]
        simp [hnone, hself, hi]
      · rw [if_neg fun hc => hi hc.2] at hself
        have hsame : (f h l).instance? l = h.instance? l := by simp only [instance?, hself]
        simp [hsame, hself, hi]
    · simp [instance?, hf, hl, Ne.symm hl]

lemma shutdowns_walk (hq : P .quiet) (hp : ∀ l, P (.stop l)) (ls : List LanguageId) (h : Host)
    (hn : ls.Nodup)
    (hgone : ∀ l ∈ ls, ∀ i, h.instance? l = some i → (ls.foldl shutdown h).slots.get? l = none →
      P (.part l) ∧ (i.connection = none → P (.excuse l))) :
    Walk P h (ls.foldl shutdown h) := by
  induction ls generalizing h with
  | nil => exact .refl h
  | cons l rest ih =>
    obtain ⟨hl, hrest⟩ := List.nodup_cons.mp hn
    refine (shutdown_walk hq (hp l) h fun i hi hv =>
      hgone l List.mem_cons_self i hi (shutdowns_vacant hv rest)).trans (ih _ hrest fun k hk i hi => ?_)
    have hlk : l ≠ k := fun hlk => hl (hlk ▸ hk)
    rw [instance?, shutdown_other hlk, ← instance?] at hi
    exact hgone k (List.mem_cons_of_mem l hk) i hi

lemma beginShutdownAll_eq (h : Host) : h.beginShutdownAll =
    { h.slots.activeLanguages.foldl shutdown h with shuttingDown := true } := by
  have hfold (ls : List LanguageId) (k : Host) : ls.foldl shutdown { k with shuttingDown := true } =
      { ls.foldl shutdown k with shuttingDown := true } := by
    induction ls generalizing k with
    | nil => rfl
    | cons l rest ih => simp only [List.foldl_cons, shutdown_sealed, ih]
  exact hfold _ h

lemma beginShutdownAll_leave {h : Host} {i : Instance} (hi : h.beginShutdownAll.instance? l = some i) :
    i.state = .shuttingDown := by
  rw [beginShutdownAll_eq] at hi
  exact shutdowns_leave (fun l i hi => .inl (mem_activeLanguages hi)) hi

lemma beginShutdownAll_walk (hq : P .quiet) (hp : ∀ l, P (.stop l)) (h : Host)
    (hn : h.slots.languages.Nodup)
    (hgone : ∀ l i, h.instance? l = some i → h.beginShutdownAll.slots.get? l = none →
      P (.part l) ∧ (i.connection = none → P (.excuse l))) :
    Walk P h h.beginShutdownAll := by
  have hsealed : Step (h.slots.activeLanguages.foldl shutdown h) .quiet h.beginShutdownAll := by
    rw [beginShutdownAll_eq]
    exact .sealed fun l i hi => .inr (beginShutdownAll_leave (by rwa [beginShutdownAll_eq]))
  rw [beginShutdownAll_eq] at hgone
  exact (shutdowns_walk hq hp h.slots.activeLanguages h
    ((Slots.activeLanguages_sublist _).nodup hn) fun l _ => hgone l).trans (.step hsealed hq)

lemma removeByForce_walk (hp : P (.evict l)) (h : Host) : Walk P h (h.removeByForce l) := by
  cases hi : h.instance? l with
  | none =>
    simp only [removeByForce, hi]
    exact .refl h
  | some i =>
    have hw := Walk.step (.evicted l i hi) hp
    by_cases hr : isRunning i = true
    · simp only [removeByForce, hi, hr, if_true] at hw ⊢
      exact hw
    · simp only [removeByForce, hi, hr, Bool.false_eq_true, if_false, List.append_nil] at hw ⊢
      exact hw

lemma removeByForce_get? (h : Host) (l k : LanguageId) :
    (h.removeByForce l).slots.get? k =
      if l = k ∧ (h.instance? l).isSome = true then none else h.slots.get? k := by
  cases hi : h.instance? l with
  | none => simp [removeByForce, hi]
  | some i =>
    have he : (h.removeByForce l).slots = h.slots.erase l := by
      simp only [removeByForce, hi]
      split <;> rfl
    rw [he, Slots.get?_erase]
    simp

lemma retireByForce_walk (hp : P .depart) (is js : List Instance) (h : Host)
    (hr : h.retiring = is ++ js) :
    Walk P h (is.foldl retireByForce { h with retiring := js }) := by
  induction is generalizing h with
  | nil =>
    have : { h with retiring := js } = h := by rw [← List.nil_append js, ← hr]
    rw [List.foldl_nil, this]
    exact .refl h
  | cons i rest ih =>
    have hd := Walk.step (P := P) (.departed (h := h) i (rest ++ js) .forceExit
      (by rw [hr, List.cons_append])) hp
    exact hd.trans (ih _ rfl)

lemma retireByForce_slots (is : List Instance) (h : Host) :
    (is.foldl retireByForce h).slots = h.slots := by
  induction is generalizing h with
  | nil => rfl
  | cons i rest ih => exact ih (h.retireByForce i)

lemma retireByForce_retiring (is : List Instance) (h : Host) :
    (is.foldl retireByForce h).retiring = h.retiring := by
  induction is generalizing h with
  | nil => rfl
  | cons i rest ih => exact ih (h.retireByForce i)

def concluding (h : Host) : Host :=
  (h.slots.activeLanguages.foldl removeByForce h).retiring.foldl retireByForce
    { h.slots.activeLanguages.foldl removeByForce h with retiring := [] }

lemma finishShutdownAll_eq (h : Host) :
    h.finishShutdownAll = ({ h.concluding with queued := [] }, h.concluding.queued) := rfl

lemma concluding_walk (hd : P .depart) (h : Host)
    (hp : ∀ l ∈ h.slots.activeLanguages, P (.evict l)) : Walk P h h.concluding := by
  have hevict (ls : List LanguageId) (hls : ∀ l ∈ ls, P (.evict l)) (k : Host) :
      Walk P k (ls.foldl removeByForce k) := by
    induction ls generalizing k with
    | nil => exact .refl k
    | cons l rest ih =>
      exact (removeByForce_walk (hls l List.mem_cons_self) k).trans
        (ih (fun m hm => hls m (List.mem_cons_of_mem l hm)) _)
  exact (hevict _ hp h).trans (retireByForce_walk hd _ [] _ (List.append_nil _).symm)

lemma concluding_get? (hn : h.slots.languages.Nodup) (k : LanguageId) :
    h.concluding.slots.get? k =
      if k ∈ h.slots.activeLanguages then none else h.slots.get? k := by
  rw [concluding, retireByForce_slots]
  refine (vacates_get? removeByForce_get? h.slots.activeLanguages h k).trans ?_
  refine if_congr (and_iff_left_of_imp fun hk => ?_) rfl rfl
  obtain ⟨i, hi⟩ := instance?_of_active hn hk
  simp [hi]

end Stopping

section Restarting

lemma erase_head {rest : Slots} {slot : Slot} (hn : (Slots.languages ((l, slot) :: rest)).Nodup) :
    Slots.erase ((l, slot) :: rest) l = rest := by
  simp only [Slots.languages, List.map_cons, List.nodup_cons] at hn
  have hr : Slots.erase rest l = rest := by
    rw [Slots.erase, List.filter_eq_self]
    intro x hx
    simpa using fun hxl => hn.1 (List.mem_map.mpr ⟨x, hx, hxl⟩)
  simpa [Slots.erase] using hr

lemma remind_walk (hq : P .quiet) {g : Nat} (ha : P (.again g)) (hm : P (.mute g)) {slots : Slots}
    (hi : h.instance? l = some i) (hg : i.connection = some g) (hs : i.state = .shuttingDown)
    (hrest : h.slots.erase l = slots) :
    Walk P h { { h with slots := [] }.retire (l, .active i) with slots } := by
  have hw := Walk.step (.reminded l i g hi hg hs) ha
  rcases hc : h.connections.call g "shutdown" .null .shutdown with ⟨c, e | id⟩ <;>
    rw [hc, hrest] at hw
  · obtain ⟨r, hb⟩ := beginShutdown_error hg hc h.now
    simp only [retire, hb, if_true]
    refine (hw.trans (.step (.logged r) hq)).trans (.step ?_ hm)
    exact .expelled (i.leaving h.now) g h.retiring
      (List.perm_append_singleton (i.leaving h.now) h.retiring) hg
  · simp only [retire, beginShutdown_ok hg hc h.now, Bool.false_eq_true, if_false]
    exact hw

lemma retire_walk (hq : P .quiet) (hd : P .discard) (hp : P (.stop l)) (h : Host) {slot : Slot}
    {rest : Slots} (hn : (Slots.languages ((l, slot) :: rest)).Nodup)
    (hm : ∀ i g, slot = .active i → i.connection = some g → P (.mute g))
    (ha : ∀ i g, slot = .active i → i.connection = some g → i.state = .shuttingDown →
      P (.again g)) :
    Walk P { h with slots := (l, slot) :: rest }
      { { h with slots := [] }.retire (l, slot) with slots := rest } := by
  have hrest := erase_head hn
  generalize hk : ({ h with slots := (l, slot) :: rest } : Host) = k
  have hks : k.slots.erase l = rest := by rw [← hk]; exact hrest
  have hslot : k.slots.get? l = some slot := by rw [← hk]; simp [Slots.get?]
  cases slot with
  | unused | servedBy | dead =>
    have hf := Walk.step (P := P) (.forgotten (h := k) l (by simp [instance?, hslot,
      Slot.instance?])) hd
    rw [hks] at hf
    rw [← hk] at hf ⊢
    exact hf
  | active i =>
    have hi : k.instance? l = some i := instance?_eq_some.mpr hslot
    cases hg : i.connection with
    | none =>
      have hw := Walk.step (.idled l i hi hg) hd
      simp only [retire, beginShutdown_none hg, if_true]
      rw [hks] at hw
      rw [← hk] at hw ⊢
      exact hw
    | some g =>
      by_cases hs : i.state = .shuttingDown
      · have hw := remind_walk hq (ha i g rfl hg hs) (hm i g rfl hg) hi hg hs hks
        rw [← hk] at hw ⊢
        exact hw
      have hstop := Walk.step (.stopping l i g hi hg hs) hp
      have hcon : k.connections = h.connections := by rw [← hk]
      have hnow : k.now = h.now := by rw [← hk]
      rcases hc : h.connections.call g "shutdown" .null .shutdown with ⟨c, e | id⟩ <;>
        rw [hcon, hc, hnow] at hstop
      · obtain ⟨r, hb⟩ := beginShutdown_error hg hc h.now
        have hin : ({ k with connections := c.log r }.setInstance l (i.leaving h.now)).instance? l =
            some (i.leaving h.now) := by simp [instance?_setInstance]
        have hw := (hstop.trans (.step (.logged r) hq)).trans
          (.step (.muted l _ g hin hg rfl) (hm i g rfl hg))
        simp only [setInstance, setSlot, Slots.erase_set, hks] at hw
        simp only [retire, hb, if_true]
        rw [← hk] at hw ⊢
        exact hw
      · have hin : ({ k with connections := c }.setInstance l (i.leaving h.now)).instance? l =
            some (i.leaving h.now) := by simp [instance?_setInstance]
        have hw := hstop.trans (.step (.retired l _ hin rfl) hd)
        simp only [setInstance, setSlot, Slots.erase_set, hks] at hw
        simp only [retire, beginShutdown_ok hg hc h.now, Bool.false_eq_true, if_false]
        rw [← hk] at hw ⊢
        exact hw

lemma retire_slots (h : Host) (e : LanguageId × Slot) : (h.retire e).slots = h.slots := by
  simp only [retire]
  split
  · split <;> rfl
  · rfl

lemma slots_eta {slots : Slots} (hs : h.slots = slots) : { h with slots } = h := by
  subst hs
  rfl

lemma retires_walk (hq : P .quiet) (hd : P .discard) (hp : ∀ l, P (.stop l)) (es : Slots) (h : Host)
    (hn : es.languages.Nodup)
    (hm : ∀ l i g, (l, .active i) ∈ es → i.connection = some g → P (.mute g))
    (ha : ∀ l i g, (l, .active i) ∈ es → i.connection = some g → i.state = .shuttingDown →
      P (.again g)) :
    Walk P { h with slots := es } (es.foldl retire { h with slots := [] }) := by
  induction es generalizing h with
  | nil => exact .refl _
  | cons e rest ih =>
    have hhead {i : Instance} (hslot : e.2 = .active i) : (e.1, .active i) ∈ e :: rest :=
      List.mem_cons.mpr (.inl (Prod.ext rfl hslot.symm))
    have hr := retire_walk hq hd (hp e.1) h hn (fun i g hslot => hm e.1 i g (hhead hslot))
      fun i g hslot => ha e.1 i g (hhead hslot)
    have hrest := ih ({ h with slots := [] }.retire e) (List.nodup_cons.mp hn).2
      (fun l i g hmem => hm l i g (List.mem_cons_of_mem e hmem))
      fun l i g hmem => ha l i g (List.mem_cons_of_mem e hmem)
    have hs : { { h with slots := [] }.retire e with slots := [] } =
        { h with slots := [] }.retire e := slots_eta (retire_slots { h with slots := [] } e)
    rw [hs] at hrest
    exact hr.trans hrest

lemma retire_settings (h : Host) (s : Settings) (e : LanguageId × Slot) :
    { h with settings := s, shuttingDown := false }.retire e =
      { h.retire e with settings := s, shuttingDown := false } := by
  simp only [retire]
  split
  · split <;> rfl
  · rfl

lemma retires_settings (es : Slots) (h : Host) (s : Settings) :
    es.foldl retire { h with settings := s, shuttingDown := false } =
      { es.foldl retire h with settings := s, shuttingDown := false } := by
  induction es generalizing h with
  | nil => rfl
  | cons e rest ih => simp only [List.foldl_cons, retire_settings, ih]

lemma retires_slots (es : Slots) (h : Host) : (es.foldl retire h).slots = h.slots := by
  induction es generalizing h with
  | nil => rfl
  | cons e rest ih => rw [List.foldl_cons, ih, retire_slots]

lemma reattach_calm (h : Host) (d : Document) : Walk (Deed.Calm none) h (h.reattach d) := by
  have hw := attach_walk (P := Deed.Calm none) trivial (fun _ => trivial) h d
  rcases ha : h.attach d with ⟨k, e | l⟩ <;> rw [ha] at hw
  · simp only [reattach, ha]
    exact hw.trans (log_walk trivial k _ _ _)
  · simpa only [reattach, ha] using hw

def cleared (h : Host) : Host :=
  h.slots.foldl retire { h.log .info "restarting all language servers" [] with slots := [] }

lemma restartAll_eq (h : Host) (w : Workspace) :
    h.restartAll w = w.documents.foldl reattach h.cleared := rfl

lemma reconfigure_eq (h : Host) (s : Settings) (w : Workspace) : h.reconfigure s w =
    w.documents.foldl reattach { h.cleared with settings := s, shuttingDown := false } := by
  have hc : { h with settings := s, shuttingDown := false }.cleared =
      { h.cleared with settings := s, shuttingDown := false } :=
    retires_settings h.slots { h.log .info "restarting all language servers" [] with slots := [] } s
  rw [reconfigure, restartAll_eq, hc]

section Clearing

variable (hq : P .quiet) (hd : P .discard) (hp : ∀ l, P (.stop l))
  (hm : ∀ l g, h.isCurrent l g = true → P (.mute g)) (ha : ∀ g, h.IsStopping g → P (.again g))
  (hn : h.slots.languages.Nodup)
include hq hd hp hm ha hn

lemma cleared_walk : Walk P h h.cleared := by
  have hin {l : LanguageId} {i : Instance} (hmem : (l, .active i) ∈ h.slots) :
      h.instance? l = some i := instance?_eq_some.mpr (Slots.get?_of_mem hn hmem)
  refine (log_walk hq h _ _ _).trans (retires_walk hq hd hp h.slots (h.log .info _ []) hn ?_ ?_)
  · exact fun l i g hmem hg => hm l g (isCurrent_iff.mpr ⟨i, hin hmem, hg⟩)
  · exact fun l i g hmem hg hs => ha g ⟨l, i, hin hmem, hg, hs⟩

lemma restartAll_walk (w : Workspace) :
    ∃ k, Walk P h k ∧ Walk (Deed.Calm none) k (h.restartAll w) ∧ k.slots = [] :=
  ⟨h.cleared, cleared_walk hq hd hp hm ha hn, Walk.foldl reattach_calm w.documents _,
    retires_slots _ _⟩

lemma reconfigure_walk (hr : P .renew) (s : Settings) (w : Workspace) :
    ∃ k, Walk P h k ∧ Walk (Deed.Calm none) k (h.reconfigure s w) ∧ k.slots = [] := by
  have hslots : h.cleared.slots = [] := retires_slots _ _
  refine ⟨{ h.cleared with settings := s, shuttingDown := false },
    (cleared_walk hq hd hp hm ha hn).trans (.step (.replaced s hslots) hr), ?_, hslots⟩
  rw [reconfigure_eq]
  exact Walk.foldl reattach_calm w.documents _

end Clearing

end Restarting

end LanguageHost.Host
