import LanguageHost.Proofs.Session.Custody

namespace LanguageHost

def Connections.accepts (c : Connections) (i : Instance) : Bool :=
  i.connection.any fun g => (c.call g "shutdown" .null .shutdown).2.isOk

namespace Host

variable {h k : Host} {l : LanguageId} {i j : Instance} {g : Nat} {m : Move}

section Retiring

lemma retire_quiet (h : Host) (e : LanguageId × Slot) :
    (h.retire e).queued = h.queued ∧ (h.retire e).now = h.now := by
  simp only [retire]
  split
  · split <;> exact ⟨rfl, rfl⟩
  · exact ⟨rfl, rfl⟩

lemma retire_retiring (h : Host) (l : LanguageId) (i : Instance) :
    (h.retire (l, .active i)).retiring =
      h.retiring ++ ([i].filter h.connections.accepts).map (·.leaving h.now) := by
  cases hg : i.connection with
  | none => simp [retire, beginShutdown_none hg, Connections.accepts, hg]
  | some g =>
    rcases hc : h.connections.call g "shutdown" .null .shutdown with ⟨c, e | id⟩
    · obtain ⟨r, hb⟩ := beginShutdown_error hg hc h.now
      have ha : h.connections.accepts i = false := by
        simp [Connections.accepts, hg, hc, Except.isOk, Except.toBool]
      simp [retire, hb, ha]
    · have ha : h.connections.accepts i = true := by
        simp [Connections.accepts, hg, hc, Except.isOk, Except.toBool]
      simp [retire, beginShutdown_ok hg hc h.now, ha]

lemma retire_other (hg : i.connection ≠ some g) (h : Host) (l : LanguageId) :
    (h.retire (l, .active i)).connections.get? g = h.connections.get? g := by
  cases hi : i.connection with
  | none => simp [retire, beginShutdown_none hi]
  | some n =>
    have hn : n ≠ g := fun hn => hg (hn ▸ hi)
    have hcall := Connections.call_other hn h.connections "shutdown" .null .shutdown
    rcases hc : h.connections.call n "shutdown" .null .shutdown with ⟨c, e | id⟩ <;> rw [hc] at hcall
    · obtain ⟨r, hb⟩ := beginShutdown_error hi hc h.now
      have hfinish : ((i.leaving h.now).forceStop (c.log r)).1.get? g = (c.log r).get? g := by
        simp only [Instance.forceStop, Instance.finish, Instance.leaving, hi]
        exact Connections.finish_other hn _ _
      simp only [retire, hb, if_true]
      exact hfinish.trans hcall
    · simp only [retire, beginShutdown_ok hi hc h.now, Bool.false_eq_true, if_false]
      exact hcall

lemma accepts_congr {c d : Connections} (hc : ∀ g, i.connection = some g → c.get? g = d.get? g) :
    c.accepts i = d.accepts i := by
  cases hg : i.connection with
  | none => simp [Connections.accepts, hg]
  | some g => simp only [Connections.accepts, hg, Option.any_some, Connections.call_result (hc g hg)]

lemma retires_retiring (es : Slots) (hn : es.live.Nodup) (h : Host) :
    (es.foldl retire h).retiring =
      h.retiring ++ (es.instances.filter h.connections.accepts).map (·.leaving h.now) := by
  induction es generalizing h with
  | nil => simp [Slots.instances]
  | cons e rest ih =>
    obtain ⟨l, slot⟩ := e
    rw [Slots.live, Slots.pick_cons] at hn
    have hrest : (Slots.live rest).Nodup := (List.sublist_append_right _ _).nodup hn
    rw [List.foldl_cons, ih hrest]
    cases slot with
    | active i =>
      -- No two servers share a connection, so asking one leaves what the others accept.
      have hother (j : Instance) (hj : j ∈ Slots.instances rest) :
          (h.retire (l, .active i)).connections.accepts j = h.connections.accepts j := by
        refine accepts_congr fun g hg => retire_other (fun hi => ?_) h l
        have hlive : g ∈ Slots.live rest := by
          rw [← Slots.instances_connection]
          exact List.mem_filterMap.mpr ⟨j, hj, hg⟩
        have hhead : g ∈ (Slot.connection? (.active i)).toList := by
          simp [Slot.connection?, Slot.instance?, hi]
        exact (List.nodup_append.mp hn).2.2 g hhead g hlive rfl
      have hsplit : Slots.instances ((l, .active i) :: rest) = [i] ++ Slots.instances rest := rfl
      rw [retire_retiring, (retire_quiet h _).2, hsplit, List.filter_append, List.map_append,
        List.append_assoc, List.filter_congr hother]
    | _ => rfl

lemma cleared_retiring (hc : h.Coherent) : h.cleared.retiring =
    h.retiring ++ (h.slots.instances.filter h.connections.accepts).map (·.leaving h.now) := by
  have hn : h.slots.live.Nodup := by
    have hd := hc.distinct
    rw [generations_eq] at hd
    exact (List.sublist_append_left _ _).nodup hd
  let noted : Host := { h.log .info "restarting all language servers" [] with slots := [] }
  have hsame (i : Instance) : noted.connections.accepts i = h.connections.accepts i :=
    accepts_congr fun _ _ => rfl
  refine (retires_retiring h.slots hn noted).trans ?_
  rw [List.filter_congr fun i _ => hsame i]
  rfl

lemma cleared_queued (h : Host) : h.cleared.queued = h.queued := by
  have hfold (es : Slots) (k : Host) : (es.foldl retire k).queued = k.queued := by
    induction es generalizing k with
    | nil => rfl
    | cons e rest ih => exact (ih _).trans (retire_quiet k e).1
  exact hfold _ _

end Retiring

section Phases

/-- Every slot is forgotten. The servers that can be asked to stop are kept, and the editor is told of
none. -/
structure Clears (h k : Host) : Prop where
  coherent : k.Coherent
  slots : k.slots = []
  retiring : k.retiring =
    h.retiring ++ (h.slots.instances.filter h.connections.accepts).map (·.leaving h.now)
  queued : k.queued = h.queued
  next : h.nextGeneration ≤ k.nextGeneration

lemma cleared_clears (hc : h.Coherent) : Clears h h.cleared := by
  have hw : Walk (fun _ => True) h h.cleared :=
    cleared_walk trivial trivial (fun _ => trivial) (fun _ _ _ => trivial) (fun _ _ => trivial)
      hc.languages
  exact
    { coherent := hw.coherent hc
      slots := retires_slots _ _
      retiring := cleared_retiring hc
      queued := cleared_queued h
      next := hw.next_le }

/-- A move that forgets every slot first removes servers whose time is up, if it is made for that,
then asks the others to stop, and then attaches documents again. -/
lemma clearing_walk (hc : h.Coherent) {a : Host} (hm : h.clearing m = some a) :
    Walk (fun d => h.Stirs m d ∧ d ≠ .take ∧ ∀ g, d ≠ .mute g) h a ∧
      ∃ c, Clears a c ∧ Walk (Deed.Calm m.subject) c (h.performing m) := by
  cases m with
  | restartAll w =>
    obtain rfl := Option.some.inj hm
    exact ⟨.refl h, _, cleared_clears hc, Walk.foldl reattach_calm w.documents _⟩
  | reconfigure s w =>
    obtain rfl := Option.some.inj hm
    have hclears := cleared_clears hc
    have hstep : Step h.cleared .renew { h.cleared with settings := s, shuttingDown := false } :=
      .replaced s hclears.slots
    refine ⟨.refl h, _, { hclears with coherent := hstep.coherent hclears.coherent }, ?_⟩
    rw [show h.performing (.reconfigure s w) = h.reconfigure s w from rfl, reconfigure_eq]
    exact Walk.foldl reattach_calm w.documents _
  | settle w =>
    have hr : h.restartRequested = true := by
      by_contra hr
      simp [clearing, hr] at hm
    obtain rfl : h.expireShutdowns = a := by simpa [clearing, hr] using hm
    have hw : Walk (fun d => h.Stirs (.settle w) d ∧ d ≠ .take ∧ ∀ g, d ≠ .mute g) h
        h.expireShutdowns :=
      expireShutdowns_walk ⟨trivial, by simp, by simp⟩ ⟨trivial, by simp, by simp⟩ hc.languages
        fun l hl => ⟨settle_forgets hl w, by simp, by simp⟩
    have hstep : Step h.expireShutdowns .quiet { h.expireShutdowns with restartRequested := false } :=
      .requested false
    have hclears := cleared_clears (hstep.coherent (hw.coherent hc))
    refine ⟨hw, _, { hclears with }, ?_⟩
    have hperform : h.performing (.settle w) =
        { h.expireShutdowns with restartRequested := false }.restartAll w := by
      simp only [performing, perform, settle, expireShutdowns_requested, hr, if_true]
    rw [hperform]
    exact Walk.foldl reattach_calm w.documents _
  | _ => cases hm

end Phases

end Host

end LanguageHost
