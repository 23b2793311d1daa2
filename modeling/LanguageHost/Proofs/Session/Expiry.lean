import LanguageHost.Proofs.Session.Custody
import LanguageHost.Proofs.Session.Late

namespace LanguageHost.Host

variable {h : Host} {l : LanguageId} {i j : Instance} {g deadline : Nat}

def LeavesBy (h : Host) (g deadline : Nat) : Prop :=
  ∃ i, ((∃ l, h.instance? l = some i) ∨ i ∈ h.retiring) ∧ i.connection = some g ∧
    i.state = .shuttingDown ∧ i.deadline = some deadline

lemma Coherent.gone_iff (hc : h.Coherent) : h.Gone g ↔ g < h.nextGeneration ∧ g ∉ h.generations := by
  constructor
  · refine fun hg => ⟨hg.issued, fun hm => ?_⟩
    rw [generations_eq, List.mem_append, Slots.mem_live hc.languages] at hm
    rcases hm with ⟨l, i, hi, hig⟩ | hm
    · exact hg.left l i (instance?_eq_some.mpr hi) hig
    · obtain ⟨i, hi, hig⟩ := List.mem_filterMap.mp hm
      exact hg.retired i hi hig
  · rintro ⟨hissued, hg⟩
    rw [generations_eq, List.mem_append, Slots.mem_live hc.languages] at hg
    exact ⟨hissued, fun l i hi hig => hg (.inl ⟨l, i, instance?_eq_some.mp hi, hig⟩),
      fun i hi hig => hg (.inr (List.mem_filterMap.mpr ⟨i, hi, hig⟩))⟩

lemma turns_left {t u : Turn} {ms : List Move} (hc : t.before.Coherent) (hg : g ∈ t.before.generations)
    (hgone : g ∉ t.after.generations) (hu : u ∈ t.after.turns ms) : g ∉ u.before.generations := by
  have hac : t.after.Coherent := perform_coherent hc t.move
  have hissued : g < t.after.nextGeneration :=
    Nat.lt_of_lt_of_le (hc.mem_generations hg) (turn_next_le hc)
  have hgu := turns_gone hac (hac.gone_iff.mpr ⟨hissued, hgone⟩) ms u hu
  exact ((turns_coherent hac hu).gone_iff.mp hgu).2

lemma Coherent.leavesBy (hc : h.Coherent) {x : Holding} (hx : x ∈ h.holdings)
    (hl : x.leaving = true) : ∃ deadline, h.LeavesBy x.generation deadline := by
  obtain ⟨i, hi, hx⟩ := (mem_holdings hc.languages).mp hx
  obtain ⟨g, hg, rfl⟩ := Option.map_eq_some_iff.mp hx
  have hs : i.state = .shuttingDown := by simpa using hl
  have hd : i.deadline.isSome = true := by
    rcases hi with ⟨l, hi⟩ | hi
    · exact (hc.sound hi).hurried.mpr hs
    · exact (hc.leaves i hi).hurried
  obtain ⟨deadline, hd⟩ := Option.isSome_iff_exists.mp hd
  exact ⟨deadline, i, hi, hg, hs, hd⟩

lemma expire_keeps (h : Host) (l : LanguageId) :
    (h.expire l).retiring = h.retiring ∧ (h.expire l).now = h.now := by
  cases hi : h.instance? l with
  | none =>
    have hk : (h.chiding l).instance? l = none := hi
    rw [expire_none hi, finishStop, hk]
    exact ⟨rfl, rfl⟩
  | some i =>
    rw [expire_eq hi]
    exact ⟨rfl, rfl⟩

lemma expireShutdowns_retiring (h : Host) :
    h.expireShutdowns.retiring = h.retiring.filter fun i => !i.isOverdue h.now := by
  have hexpire (ls : List LanguageId) (k : Host) :
      (ls.foldl expire k).retiring = k.retiring ∧ (ls.foldl expire k).now = k.now := by
    induction ls generalizing k with
    | nil => exact ⟨rfl, rfl⟩
    | cons l rest ih =>
      obtain ⟨hr, hn⟩ := expire_keeps k l
      rw [List.foldl_cons, ← hr, ← hn]
      exact ih (k.expire l)
  obtain ⟨hr, hn⟩ := hexpire h.overdueLanguages h
  rw [expireShutdowns, retireByForce_retiring, List.partition_eq_filter_filter, hr, hn]
  rfl

lemma expireShutdowns_ends (hc : h.Coherent) (hg : h.LeavesBy g deadline) (hd : deadline ≤ h.now) :
    h.expireShutdowns.Gone g := by
  obtain ⟨i, hi, hig, hs, hdeadline⟩ := hg
  have hover : i.isOverdue h.now = true := by simp [Instance.isOverdue, hs, hdeadline, hd]
  have hw : Walk (fun _ => True) h h.expireShutdowns :=
    expireShutdowns_walk trivial trivial hc.languages fun _ _ => trivial
  have hnext := hw.next_le
  have hretired (j : Instance) (hj : j ∈ h.expireShutdowns.retiring) :
      j ∈ h.retiring ∧ j.isOverdue h.now = false := by
    rw [expireShutdowns_retiring] at hj
    simpa using List.mem_filter.mp hj
  have hslot (l : LanguageId) (j : Instance) (hj : h.expireShutdowns.instance? l = some j) :
      l ∉ h.overdueLanguages ∧ h.instance? l = some j := by
    rw [instance?_eq_some, expireShutdowns_get?] at hj
    split at hj
    · cases hj
    · next hl => exact ⟨hl, instance?_eq_some.mpr hj⟩
  -- What is left with the connection would be the same server, which was removed.
  rcases hi with ⟨l, hi⟩ | hi
  · refine ⟨Nat.lt_of_lt_of_le (hc.issued (by simp [hc.linked hi hig])) hnext, ?_, ?_⟩
    · intro m j hj hjg
      obtain ⟨hm, hj⟩ := hslot m j hj
      obtain rfl : l = m := Option.some.inj ((hc.linked hi hig).symm.trans (hc.linked hj hjg))
      exact hm (mem_overdue.mpr ⟨i, hi, hover⟩)
    · exact fun j hj hjg => hc.current hi hig j (hretired j hj).1 hjg
  · obtain ⟨n, hn, hlinked⟩ := (hc.leaves i hi).linked
    obtain rfl : n = g := Option.some.inj (hn.symm.trans hig)
    refine ⟨Nat.lt_of_lt_of_le (hc.issued (by simp [hlinked])) hnext, ?_, ?_⟩
    · exact fun m j hj hjg => hc.current (hslot m j hj).2 hjg i hi hig
    · intro j hj hjg
      obtain ⟨hj, hlate⟩ := hretired j hj
      have hd := hc.distinct
      rw [generations_eq, List.nodup_append] at hd
      obtain rfl : i = j := eq_of_nodup_filterMap hd.2.1 hi hj hig hjg
      simp [hover] at hlate

lemma settle_ends (hc : h.Coherent) (hg : h.LeavesBy g deadline) (hd : deadline ≤ h.now)
    (w : Workspace) : (h.settle w).Gone g := by
  have hgone := expireShutdowns_ends hc hg hd
  have hk : h.expireShutdowns.Coherent :=
    (expireShutdowns_walk (P := fun _ => True) trivial trivial hc.languages fun _ _ => trivial).coherent
      hc
  have hs : Step h.expireShutdowns .quiet { h.expireShutdowns with restartRequested := false } :=
    .requested false
  simp only [settle]
  split
  · exact perform_gone (hs.coherent hk) (hs.gone hgone) (.restartAll w)
  · exact hgone

end LanguageHost.Host
