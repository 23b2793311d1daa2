import LanguageHost.Proofs.Session.Clearing
import LanguageHost.Proofs.Session.Expiry

namespace LanguageHost

namespace Turn

variable {t : Turn} {g : Nat} {l : LanguageId}

def stopped (t : Turn) : List LanguageId := t.told.filterMap HostEvent.stop?

/-- Every slot is forgotten in the turn, and the server of the connection cannot be asked to stop. -/
def Mutes (t : Turn) (g : Nat) : Prop :=
  ∃ k l, t.before.clearing t.move = some k ∧ k.isCurrent l g = true ∧
    (k.connections.call g "shutdown" .null .shutdown).2.isOk = false

def Ends (t : Turn) (g : Nat) : Prop := g ∉ t.after.generations ∧ ¬t.Mutes g

def Asked (t : Turn) (g : Nat) : Prop := (∃ l, ⟨g, l, true⟩ ∈ t.before.holdings) ∨ t.Stops g

/-- What the editor is told in a turn after some others: which servers have stopped since they were
asked to, and those that had no process when they were asked. -/
structure Reports (pre : List Turn) (t : Turn) (told : List Nat) (idle : List LanguageId) : Prop where
  stopped : t.stopped.Perm (told.filterMap t.before.connections.language? ++ idle)
  distinct : told.Nodup
  told : ∀ g, g ∈ told ↔ g ∈ t.before.generations ∧ t.Ends g ∧ ∃ u ∈ pre ++ [t], u.Stops g
  once : idle.Nodup
  idle : ∀ l ∈ idle, ∃ i, t.before.instance? l = some i ∧ i.connection = none ∧
    t.before.Asks l t.move

end Turn

namespace Host

variable {h k : Host} {l : LanguageId} {i : Instance} {g : Nat} {x y : Holding} {deed : Deed}

section Holdings

lemma holdings_generation (hx : x ∈ h.holdings) : x.generation ∈ h.generations :=
  holdings_generations h ▸ List.mem_map_of_mem hx

lemma generation_held (hg : g ∈ h.generations) : ∃ x ∈ h.holdings, x.generation = g :=
  List.mem_map.mp (holdings_generations h ▸ hg)

namespace Coherent

lemma held_once (hc : h.Coherent) (hx : x ∈ h.holdings) (hy : y ∈ h.holdings)
    (hg : x.generation = y.generation) : x = y :=
  List.inj_on_of_nodup_map (holdings_generations h ▸ hc.distinct) hx hy hg

lemma held_retiring (hc : h.Coherent) (hi : i ∈ h.retiring) (hx : i.holding? = some x) :
    x.leaving = true := by
  obtain ⟨g, hg, rfl⟩ := Option.map_eq_some_iff.mp hx
  simpa using (hc.leaves i hi).leaving

lemma held_current (hc : h.Coherent) (hx : x ∈ h.holdings) (hl : x.leaving = false) :
    h.isCurrent x.language x.generation = true := by
  obtain ⟨i, ⟨l, hi⟩ | hi, hx⟩ := (mem_holdings hc.languages).mp hx
  · obtain ⟨g, hg, rfl⟩ := Option.map_eq_some_iff.mp hx
    exact isCurrent_iff.mpr ⟨i, (hc.sound hi).language ▸ hi, hg⟩
  · simp [hc.held_retiring hi hx] at hl

lemma current_held (hc : h.Coherent) (hg : h.isCurrent l g = true) :
    ∃ leaving, ⟨g, l, leaving⟩ ∈ h.holdings := by
  obtain ⟨i, hi, hig⟩ := isCurrent_iff.mp hg
  refine ⟨i.state = .shuttingDown, (mem_holdings hc.languages).mpr ⟨i, .inl ⟨l, hi⟩, ?_⟩⟩
  rw [Instance.holding?_some hig, (hc.sound hi).language]

lemma current_generation (hc : h.Coherent) (hg : h.isCurrent l g = true) : g ∈ h.generations := by
  obtain ⟨leaving, hx⟩ := hc.current_held hg
  exact holdings_generation hx

end Coherent

lemma Clears.held (hk : Clears h k) (hc : h.Coherent) (hx : x ∈ k.holdings) :
    x.leaving = true ∧ (x ∈ h.holdings ∨ h.isCurrent x.language x.generation = true) := by
  obtain ⟨i, ⟨l, hi⟩ | hi, hxi⟩ := (mem_holdings hk.coherent.languages).mp hx
  · simp [instance?, hk.slots, Slots.get?] at hi
  refine ⟨hk.coherent.held_retiring hi hxi, ?_⟩
  rw [hk.retiring] at hi
  rcases List.mem_append.mp hi with hi | hi
  · exact .inl ((mem_holdings hc.languages).mpr ⟨i, .inr hi, hxi⟩)
  · obtain ⟨j, hj, rfl⟩ := List.mem_map.mp hi
    obtain ⟨g, hg, rfl⟩ := Option.map_eq_some_iff.mp hxi
    obtain ⟨⟨l, slot⟩, he, hs⟩ := List.mem_filterMap.mp (List.mem_filter.mp hj).1
    have hl : h.instance? l = some j := by simp [instance?, Slots.get?_of_mem hc.languages he, hs]
    exact .inr (isCurrent_iff.mpr ⟨j, (hc.sound hl).language ▸ hl, hg⟩)

lemma Clears.kept (hk : Clears h k) (hc : h.Coherent) (hg : g ∈ h.generations) :
    g ∈ k.generations ∨ ∃ l, h.isCurrent l g = true ∧
      (h.connections.call g "shutdown" .null .shutdown).2.isOk = false := by
  have hretired (i : Instance) (hi : i ∈ k.retiring) (hig : i.connection = some g) :
      g ∈ k.generations :=
    List.mem_filterMap.mpr ⟨i, List.mem_append_right _ hi, hig⟩
  obtain ⟨i, hi, hig⟩ := List.mem_filterMap.mp hg
  rcases List.mem_append.mp hi with hi | hi
  · cases ha : h.connections.accepts i with
    | true =>
      refine .inl (hretired (i.leaving h.now) ?_ hig)
      rw [hk.retiring]
      exact List.mem_append_right _ (List.mem_map_of_mem (List.mem_filter.mpr ⟨hi, ha⟩))
    | false =>
      obtain ⟨⟨l, slot⟩, he, hs⟩ := List.mem_filterMap.mp hi
      have hl : h.instance? l = some i := by simp [instance?, Slots.get?_of_mem hc.languages he, hs]
      exact .inr ⟨l, isCurrent_iff.mpr ⟨i, hl, hig⟩, by simpa [Connections.accepts, hig] using ha⟩
  · exact .inl (hretired i (by rw [hk.retiring]; exact List.mem_append_left _ hi) hig)

structure Gains (h k : Host) : Prop where
  next : h.nextGeneration ≤ k.nextGeneration
  stops : k.stops = h.stops
  kept : ∀ x ∈ h.holdings, x ∈ k.holdings
  held : ∀ x ∈ k.holdings, x ∈ h.holdings ∨ x.leaving = false ∧ h.nextGeneration ≤ x.generation

lemma Gains.refl (h : Host) : Gains h h := ⟨Nat.le_refl _, rfl, fun _ => id, fun _ => .inl⟩

lemma Gains.trans {a : Host} (ha : Gains h a) (hk : Gains a k) : Gains h k where
  next := Nat.le_trans ha.next hk.next
  stops := hk.stops.trans ha.stops
  kept x hx := hk.kept x (ha.kept x hx)
  held x hx := by
    rcases hk.held x hx with hx | ⟨hl, hn⟩
    · exact ha.held x hx
    · exact .inr ⟨hl, Nat.le_trans ha.next hn⟩

lemma Gains.same (hn : h.nextGeneration ≤ k.nextGeneration) (hs : k.stops = h.stops)
    (hh : h.holdings.Perm k.holdings) : Gains h k :=
  ⟨hn, hs, fun _ => hh.mem_iff.mp, fun _ hx => .inl (hh.mem_iff.mpr hx)⟩

lemma Walk.gains {subject : Option Document} (hw : Walk (Deed.Calm subject) h k) (hc : h.Coherent) :
    Gains h k := by
  refine hw.preserves hc (.refl h) fun {a b deed} hd hs ha hi => hi.trans ?_
  have htake : deed ≠ .take := by
    rintro rfl
    exact hd
  cases hs.transfers ha with
  | kept hc hh hstops => exact .same hs.next_le (hstops htake) hh
  | failed l request hr hdown hl hlaunches hends hn hh hstops
    | broken l request hr hdown hl hlaunches hends hn hh hstops => exact .same hs.next_le hstops hh
  | begun l request hr hdown hl hlaunches hends hn hh hstops =>
    refine ⟨hs.next_le, hstops, fun x hx => hh.mem_iff.mpr (List.mem_cons_of_mem _ hx), fun x hx => ?_⟩
    rcases List.mem_cons.mp (hh.mem_iff.mp hx) with rfl | hx
    · exact .inr ⟨rfl, Nat.le_refl _⟩
    · exact .inl hx
  | ended x hl he hh hx => cases hx <;> exact hd.elim
  | stopping | idle => exact hd.elim

end Holdings

lemma shutdown_stops (h : Host) (l : LanguageId) :
    (h.shutdown l).stops = h.stops ∨ (h.shutdown l).stops = h.stops ++ [l] := by
  by_cases hn : ∀ i, h.instance? l = some i → i.state = .shuttingDown
  · exact .inl (by rw [shutdown_noop hn])
  push Not at hn
  obtain ⟨i, hi, hs⟩ := hn
  rw [shutdown_eq hi hs]
  split
  · exact .inr (by simp [stops, rid, noting, queue, log, HostEvent.stop?])
  · exact .inl rfl

lemma shutdowns_stops (ls : List LanguageId) (h : Host) :
    ∃ sent : List LanguageId, sent.Sublist ls ∧ (ls.foldl shutdown h).stops = h.stops ++ sent := by
  induction ls generalizing h with
  | nil => exact ⟨[], .slnil, (List.append_nil _).symm⟩
  | cons l rest ih =>
    obtain ⟨sent, hsub, hs⟩ := ih (h.shutdown l)
    rcases shutdown_stops h l with hl | hl
    · exact ⟨sent, hsub.cons l, by rw [List.foldl_cons, hs, hl]⟩
    · exact ⟨l :: sent, hsub.cons_cons l, by rw [List.foldl_cons, hs, hl, List.append_assoc]; rfl⟩

lemma incoming_unasked {m : Move} {e : ServerEvent} (he : h.incoming m = some e) (l : LanguageId) :
    ¬h.Asks l m := by
  cases m with
  | handle | stray => exact id
  | _ => cases he

end Host

namespace Turn

open Host

variable {t : Turn} {pre : List Turn} {k c : Host} {told lost : List Nat} {idle : List LanguageId}
  {x : Holding} {g : Nat}

/-- The connections that have come to their end since the turn began: of some the editor is told, and
the others were lost. -/
structure Settles (t : Turn) (told lost : List Nat) (idle : List LanguageId) (k : Host) : Prop where
  held : ∀ x ∈ k.holdings, x ∈ t.before.holdings ∨ x.leaving = true ∧ t.Stops x.generation ∧
    ⟨x.generation, x.language, false⟩ ∈ t.before.holdings
  generations : t.before.generations.Perm (told ++ lost ++ k.generations)
  stops : k.stops.Perm
    (t.before.stops ++ (told.filterMap t.before.connections.language? ++ idle))
  told : ∀ g ∈ told, t.Asked g
  lost : ∀ g ∈ lost, ¬t.Asked g
  idle : ∀ l ∈ idle, ∃ i, t.before.instance? l = some i ∧ i.connection = none ∧
    t.move.ShutsDown l

namespace Settles

lemma refl (t : Turn) : t.Settles [] [] [] t.before :=
  ⟨fun _ => .inl, .refl _, by simp, by simp, by simp, by simp⟩

lemma language (hs : t.Settles told lost idle k) (hc : t.before.Coherent) (hx : x ∈ k.holdings) :
    t.before.connections.language? x.generation = some x.language := by
  rcases hs.held x hx with hx | ⟨-, -, hx⟩
  · exact hc.holding_language hx
  · exact hc.holding_language (x := ⟨x.generation, x.language, false⟩) hx

lemma asked (hs : t.Settles told lost idle k) (hc : t.before.Coherent) (hx : x ∈ k.holdings)
    (ha : x.leaving = true ∨ ∀ l, t.before.Asks l t.move) : t.Asked x.generation := by
  rcases hs.held x hx with hx | ⟨-, hstops, -⟩
  · cases hl : x.leaving with
    | true => exact .inl ⟨x.language, hl ▸ hx⟩
    | false => exact .inr ⟨_, hc.held_current hx hl, ha.resolve_left (by simp [hl]) _⟩
  · exact .inr hstops

lemma unasked (hs : t.Settles told lost idle k) (hc : t.before.Coherent) (hx : x ∈ k.holdings)
    (hl : x.leaving = false) (ha : ∀ l, ¬t.before.Asks l t.move) : ¬t.Asked x.generation := by
  rcases hs.held x hx with hx | ⟨hleaving, -⟩
  · rintro (⟨l, hy⟩ | ⟨l, -, hasks⟩)
    · have hleaving : x.leaving = true := congrArg Holding.leaving (hc.held_once hx hy rfl)
      simp [hl] at hleaving
    · exact ha l hasks
  · simp [hl] at hleaving

lemma kept (hs : t.Settles told lost idle k) (hh : k.holdings.Perm c.holdings)
    (hstops : c.stops = k.stops) : t.Settles told lost idle c :=
  { hs with
    held := fun x hx => hs.held x (hh.mem_iff.mpr hx)
    generations := hs.generations.trans ((generations_perm hh).append_left _)
    stops := hstops ▸ hs.stops }

lemma ended_generations (hh : k.holdings.Perm (x :: c.holdings)) :
    k.generations.Perm (x.generation :: c.generations) := by
  rw [← holdings_generations, ← holdings_generations]
  exact hh.map Holding.generation

lemma reported (hs : t.Settles told lost idle k) (hc : t.before.Coherent)
    (hh : k.holdings.Perm (x :: c.holdings)) (hstops : c.stops = k.stops ++ [x.language])
    (ha : t.Asked x.generation) : t.Settles (told ++ [x.generation]) lost idle c := by
  have hx : x ∈ k.holdings := hh.mem_iff.mpr List.mem_cons_self
  have hone : [x.generation].filterMap t.before.connections.language? = [x.language] := by
    simp [hs.language hc hx]
  refine
    { held := fun y hy => hs.held y (hh.mem_iff.mpr (List.mem_cons_of_mem x hy))
      generations := List.perm_iff_count.mpr fun n => ?_
      stops := List.perm_iff_count.mpr fun l => ?_
      told := fun n hn => ?_
      lost := hs.lost
      idle := hs.idle }
  · have hbefore := hs.generations.count_eq n
    have hended := (ended_generations hh).count_eq n
    simp only [List.count_append, List.count_cons, List.count_nil] at hbefore hended ⊢
    omega
  · have hbefore := hs.stops.count_eq l
    rw [hstops, List.filterMap_append, hone]
    simp only [List.count_append, List.count_cons, List.count_nil] at hbefore ⊢
    omega
  · rcases List.mem_append.mp hn with hn | hn
    · exact hs.told n hn
    · exact List.mem_singleton.mp hn ▸ ha

lemma silenced (hs : t.Settles told lost idle k) (hh : k.holdings.Perm (x :: c.holdings))
    (hstops : c.stops = k.stops) (ha : ¬t.Asked x.generation) :
    t.Settles told (lost ++ [x.generation]) idle c := by
  refine
    { held := fun y hy => hs.held y (hh.mem_iff.mpr (List.mem_cons_of_mem x hy))
      generations := List.perm_iff_count.mpr fun n => ?_
      stops := hstops ▸ hs.stops
      told := hs.told
      lost := fun n hn => ?_
      idle := hs.idle }
  · have hbefore := hs.generations.count_eq n
    have hended := (ended_generations hh).count_eq n
    simp only [List.count_append, List.count_cons, List.count_nil] at hbefore hended ⊢
    omega
  · rcases List.mem_append.mp hn with hn | hn
    · exact hs.lost n hn
    · exact List.mem_singleton.mp hn ▸ ha

lemma step (hs : t.Settles told lost idle k) (hc : t.before.Coherent) (hk : k.Coherent)
    {deed : Deed} (hd : t.before.Stirs t.move deed) (htake : deed ≠ .take)
    (hmute : ∀ g, deed ≠ .mute g) (hstep : Step k deed c) :
    ∃ told lost idle, t.Settles told lost idle c := by
  cases hstep.transfers hk with
  | kept hret hh hstops => exact ⟨told, lost, idle, hs.kept hh (hstops htake)⟩
  | begun | failed | broken => exact hd.elim
  | stopping l g rest hret hcur hh hafter hstops =>
    -- The server was free when the turn began, so it is this turn by which it is asked.
    have hfree : ⟨g, l, false⟩ ∈ t.before.holdings := by
      rcases hs.held _ (hh.mem_iff.mpr List.mem_cons_self) with hx | ⟨hx, -⟩
      · exact hx
      · cases hx
    have hasked : t.Stops g := ⟨l, hc.held_current hfree rfl, hd⟩
    refine ⟨told, lost, idle, { hs with held := fun x hx => ?_, generations := ?_, stops := ?_ }⟩
    · rcases List.mem_cons.mp (hafter.mem_iff.mp hx) with rfl | hx
      · exact .inr ⟨rfl, hasked, hfree⟩
      · exact hs.held x (hh.mem_iff.mpr (List.mem_cons_of_mem _ hx))
    · have hgen := (hh.map Holding.generation).trans (hafter.map Holding.generation).symm
      rw [holdings_generations, holdings_generations] at hgen
      exact hs.generations.trans (hgen.append_left _)
    · exact hstops ▸ hs.stops
  | ended x hl he hh hx =>
    have hmem : x ∈ k.holdings := hh.mem_iff.mpr List.mem_cons_self
    cases hx with
    | lost hl hstops =>
      obtain ⟨e, hin, -⟩ := hd
      exact ⟨told, _, idle, hs.silenced hh hstops (hs.unasked hc hmem hl (incoming_unasked hin))⟩
    | muted => exact absurd rfl (hmute x.generation)
    | parted hl hstops => exact ⟨_, lost, idle, hs.reported hc hh hstops (hs.asked hc hmem (.inl hl))⟩
    | departed hl hstops =>
      exact ⟨_, lost, idle, hs.reported hc hh hstops (hs.asked hc hmem (.inl hl))⟩
    | evicted hcur hstops =>
      refine ⟨_, lost, idle, hs.reported hc hh hstops (hs.asked hc hmem (.inr fun l => ?_))⟩
      rw [hd.1]
      trivial
  | idle l i hi hg hret hh hstops =>
    obtain ⟨-, hshuts, j, hj, hjg⟩ := hd
    refine ⟨told, lost, idle ++ [l], { hs with
      held := fun x hx => hs.held x (hh.mem_iff.mpr hx)
      generations := hs.generations.trans ((generations_perm hh).append_left _)
      stops := ?_
      idle := fun m hm => ?_ }⟩
    · rw [hstops, ← List.append_assoc (told.filterMap _), ← List.append_assoc]
      exact hs.stops.append_right _
    · rcases List.mem_append.mp hm with hm | hm
      · exact hs.idle m hm
      · exact List.mem_singleton.mp hm ▸ ⟨j, hj, hjg, hshuts⟩

end Settles

/-- The course of a turn: up to `k` servers end and are asked to stop; up to `c` every slot is
forgotten, if the turn is made for that; then servers are only launched. -/
structure Phases (t : Turn) (k c : Host) : Prop where
  settled : Walk (fun d => t.before.Stirs t.move d ∧ d ≠ .take ∧ ∀ g, d ≠ .mute g) t.before k
  cleared : t.before.clearing t.move = none ∧ c = k ∨
    t.before.clearing t.move = some k ∧ Clears k c
  calm : Walk (Deed.Calm t.move.subject) c (t.before.performing t.move)

lemma phases (hc : t.before.Coherent) : ∃ k c, t.Phases k c := by
  cases hm : t.before.clearing t.move with
  | none =>
    obtain ⟨k, hw, hcalm, -⟩ := performing_walk hc.languages t.move
    refine ⟨k, k, hw.mono fun d hd => ⟨hd.1, hd.2, ?_⟩, .inl ⟨hm, rfl⟩, hcalm⟩
    rintro g rfl
    obtain ⟨a, -, ha, -⟩ := hd.1
    simp [hm] at ha
  | some k =>
    obtain ⟨hw, c, hclears, hcalm⟩ := clearing_walk hc hm
    exact ⟨k, c, hw, .inr ⟨hm, hclears⟩, hcalm⟩

namespace Phases

variable (hp : t.Phases k c) (hc : t.before.Coherent)
include hp hc

lemma coherent : k.Coherent := hp.settled.coherent hc

lemma gains : Gains c (t.before.performing t.move) := by
  refine hp.calm.gains ?_
  rcases hp.cleared with ⟨-, rfl⟩ | ⟨-, hclears⟩
  · exact hp.coherent hc
  · exact hclears.coherent

lemma settles : ∃ told lost idle, t.Settles told lost idle k :=
  hp.settled.preserves (I := fun k => ∃ told lost idle, t.Settles told lost idle k) hc
    ⟨[], [], [], .refl t⟩ fun ⟨hd, htake, hmute⟩ hstep ha ⟨_, _, _, hs⟩ =>
      hs.step hc ha hd htake hmute hstep

omit hc in
lemma next : t.before.nextGeneration ≤ c.nextGeneration := by
  rcases hp.cleared with ⟨-, rfl⟩ | ⟨-, hclears⟩
  · exact hp.settled.next_le
  · exact Nat.le_trans hp.settled.next_le hclears.next

lemma stops : (t.before.performing t.move).stops = k.stops := by
  refine (hp.gains hc).stops.trans ?_
  rcases hp.cleared with ⟨-, rfl⟩ | ⟨-, hclears⟩
  · rfl
  · rw [Host.stops, hclears.queued, Host.stops]

lemma before_calm (hx : x ∈ c.holdings) : x.generation ∈ k.generations := by
  rcases hp.cleared with ⟨-, rfl⟩ | ⟨-, hclears⟩
  · exact holdings_generation hx
  · rcases (hclears.held (hp.coherent hc) hx).2 with hx | hcur
    · exact holdings_generation hx
    · exact (hp.coherent hc).current_generation hcur

end Phases

lemma after_holdings (t : Turn) : t.after.holdings = (t.before.performing t.move).holdings := by
  rcases perform_performing t.before t.move with he | he
  · rw [after, he]
  · rw [after, he]
    rfl

lemma after_generations (t : Turn) :
    t.after.generations = (t.before.performing t.move).generations := by
  rw [← holdings_generations, after_holdings, holdings_generations]

lemma stopped_stops (hc : t.before.Coherent) :
    (t.before.performing t.move).stops = t.before.stops ++ t.stopped := by
  rw [Host.stops, told_queued hc.languages, List.filterMap_append]
  rfl

lemma stopped_nodup {l : LanguageId} (hc : t.before.Coherent) (hm : t.move.ShutsDown l) :
    t.stopped.Nodup := by
  have hfold : ∃ ls : List LanguageId, ls.Nodup ∧
      (t.before.performing t.move).stops = (ls.foldl shutdown t.before).stops := by
    rcases hm with hm | hm <;> rw [hm]
    · exact ⟨[l], List.nodup_singleton l, rfl⟩
    · refine ⟨t.before.slots.activeLanguages,
        (Slots.activeLanguages_sublist _).nodup hc.languages, ?_⟩
      rw [show t.before.performing .beginShutdownAll = t.before.beginShutdownAll from rfl,
        beginShutdownAll_eq]
      rfl
  obtain ⟨ls, hls, hfold⟩ := hfold
  obtain ⟨sent, hsub, hs⟩ := shutdowns_stops ls t.before
  rw [stopped_stops hc, hs] at hfold
  exact List.append_cancel_left hfold ▸ hsub.nodup hls

lemma turn_settles (hc : t.before.Coherent) : ∃ (told : List Nat) (idle : List LanguageId),
    t.stopped.Perm (told.filterMap t.before.connections.language? ++ idle) ∧ told.Nodup ∧
      (∀ g, g ∈ told ↔ g ∈ t.before.generations ∧ t.Ends g ∧ t.Asked g) ∧
      (∀ l ∈ idle, ∃ i, t.before.instance? l = some i ∧ i.connection = none ∧
        t.move.ShutsDown l) ∧ idle.Nodup := by
  obtain ⟨k, c, hp⟩ := phases hc
  obtain ⟨told, lost, idle, hs⟩ := hp.settles hc
  have hdistinct : (told ++ lost ++ k.generations).Nodup := hs.generations.nodup_iff.mp hc.distinct
  rw [List.append_assoc] at hdistinct
  obtain ⟨htold, hrest, hapart⟩ := List.nodup_append.mp hdistinct
  have hstopped : t.stopped.Perm (told.filterMap t.before.connections.language? ++ idle) := by
    have hstops := hs.stops
    rw [← hp.stops hc, stopped_stops hc] at hstops
    exact (List.perm_append_left_iff _).mp hstops
  refine ⟨told, idle, hstopped, htold, fun g => ⟨fun hg => ?_, ?_⟩, hs.idle, ?_⟩
  · -- A connection that has come to its end is not among those that are left or new.
    have hbefore : g ∈ t.before.generations :=
      hs.generations.mem_iff.mpr (List.mem_append_left _ (List.mem_append_left _ hg))
    have hk : g ∉ k.generations := fun hk =>
      hapart g hg g (List.mem_append_right _ hk) rfl
    refine ⟨hbefore, ⟨fun hafter => ?_, ?_⟩, hs.told g hg⟩
    · rw [after_generations] at hafter
      obtain ⟨x, hx, rfl⟩ := generation_held hafter
      rcases (hp.gains hc).held x hx with hx | ⟨-, hnew⟩
      · exact hk (hp.before_calm hc hx)
      · have := hc.mem_generations hbefore
        have := hp.next
        omega
    · rintro ⟨a, l, ha, hcur, -⟩
      rcases hp.cleared with ⟨hnone, -⟩ | ⟨hsome, -⟩
      · simp [ha] at hnone
      · obtain rfl := Option.some.inj (ha.symm.trans hsome)
        exact hk ((hp.coherent hc).current_generation hcur)
  · rintro ⟨hbefore, ⟨hafter, hmutes⟩, hasked⟩
    rcases List.mem_append.mp (hs.generations.mem_iff.mp hbefore) with hg | hg
    · exact (List.mem_append.mp hg).resolve_right fun hlost => hs.lost g hlost hasked
    · refine absurd ?_ hafter
      rw [after_generations]
      have hgc : g ∈ c.generations := by
        rcases hp.cleared with ⟨-, rfl⟩ | ⟨hsome, hclears⟩
        · exact hg
        · refine (hclears.kept (hp.coherent hc) hg).resolve_right ?_
          rintro ⟨l, hcur, hfails⟩
          exact hmutes ⟨k, l, hsome, hcur, hfails⟩
      obtain ⟨x, hx, rfl⟩ := generation_held hgc
      exact holdings_generation ((hp.gains hc).kept x hx)
  · rcases idle with - | ⟨l, rest⟩
    · exact List.nodup_nil
    · obtain ⟨-, -, -, hshuts⟩ := hs.idle l List.mem_cons_self
      exact (List.nodup_append.mp (hstopped.nodup_iff.mp (stopped_nodup hc hshuts))).2.1

section Marks

structure Marks (pre : List Turn) (h : Host) : Prop where
  issued : ∀ u ∈ pre, ∀ g, u.Stops g → g < h.nextGeneration
  leaving : ∀ x ∈ h.holdings, x.leaving = true ↔ ∃ u ∈ pre, u.Stops x.generation

lemma stops_generation (hc : t.before.Coherent) (hs : t.Stops g) : g ∈ t.before.generations := by
  obtain ⟨l, hcur, -⟩ := hs
  exact hc.current_generation hcur

lemma asks_cleared {l : LanguageId} (hm : t.before.clearing t.move = some k) :
    t.before.Asks l t.move := by
  obtain ⟨h, m⟩ := t
  cases m with
  | restartAll | reconfigure => trivial
  | settle w =>
    by_contra hr
    simp [clearing, show ¬h.restartRequested = true from hr] at hm
  | _ => cases hm

lemma asks_leave {l : LanguageId} {i : Instance} (hc : t.before.Coherent)
    (hm : t.before.clearing t.move = none) (ha : t.before.Asks l t.move)
    (hi : t.after.instance? l = some i) : i.state = .shuttingDown := by
  obtain ⟨h, m⟩ := t
  cases m with
  | shutdown n =>
    obtain rfl : l = n := ha
    exact shutdown_self h hi
  | beginShutdownAll => exact beginShutdownAll_leave hi
  | finishShutdownAll =>
    have hmem : i ∈ (Turn.mk h .finishShutdownAll).after.slots.instances :=
      List.mem_filterMap.mpr ⟨_, Slots.mem_of_get? (instance?_eq_some.mp hi), rfl⟩
    rw [(turn_concluded hc rfl).1] at hmem
    cases hmem
  | restartAll | reconfigure => cases hm
  | settle w => simp [clearing, show h.restartRequested = true from ha] at hm
  | _ => exact ha.elim

lemma stops_leave (hc : t.before.Coherent) (hm : t.before.clearing t.move = none)
    (hx : x ∈ t.after.holdings) (hs : t.Stops x.generation) : x.leaving = true := by
  obtain ⟨l, hcur, hasks⟩ := hs
  have hafter : t.after.Coherent := perform_coherent hc t.move
  obtain ⟨i, hi, hg⟩ := isCurrent_iff.mp hcur
  obtain rfl : l = x.language := Option.some.inj
    ((language_mono hc (hc.linked hi hg)).symm.trans (hafter.holding_language hx))
  by_contra hl
  obtain ⟨j, hj, hjg⟩ :=
    isCurrent_iff.mp (hafter.held_current hx (by simpa using hl))
  have hheld : ⟨x.generation, j.language, j.state = .shuttingDown⟩ ∈ t.after.holdings :=
    (mem_holdings hafter.languages).mpr ⟨j, .inl ⟨_, hj⟩, Instance.holding?_some hjg⟩
  rw [hafter.held_once hx hheld rfl] at hl
  exact hl (by simpa using asks_leave hc hm hasks hj)

lemma Marks.asked (hm : Marks pre t.before) (hg : g ∈ t.before.generations) :
    t.Asked g ↔ ∃ u ∈ pre ++ [t], u.Stops g := by
  constructor
  · rintro (⟨l, hx⟩ | hs)
    · obtain ⟨u, hu, hs⟩ := (hm.leaving _ hx).mp rfl
      exact ⟨u, List.mem_append_left _ hu, hs⟩
    · exact ⟨t, by simp, hs⟩
  · rintro ⟨u, hu, hs⟩
    rcases List.mem_append.mp hu with hu | hu
    · obtain ⟨x, hx, rfl⟩ := generation_held hg
      have hl := (hm.leaving x hx).mpr ⟨u, hu, hs⟩
      exact .inl ⟨x.language, hl ▸ hx⟩
    · exact .inr (List.mem_singleton.mp hu ▸ hs)

lemma Marks.next (hm : Marks pre t.before) (hc : t.before.Coherent) : Marks (pre ++ [t]) t.after := by
  obtain ⟨k, c, hp⟩ := phases hc
  obtain ⟨told, lost, idle, hs⟩ := hp.settles hc
  have hk := hp.coherent hc
  have hissued (u : Turn) (hu : u ∈ pre ++ [t]) (g : Nat) (hstops : u.Stops g) :
      g < t.before.nextGeneration := by
    rcases List.mem_append.mp hu with hu | hu
    · exact hm.issued u hu g hstops
    · obtain rfl := List.mem_singleton.mp hu
      exact hc.mem_generations (stops_generation hc hstops)
  refine ⟨fun u hu g hstops => Nat.lt_of_lt_of_le (hissued u hu g hstops) (turn_next_le hc),
    fun x hx => ?_⟩
  have hgains := (hp.gains hc).held x (by rwa [← after_holdings])
  rcases hgains with hxc | ⟨hl, hnew⟩
  · rcases hp.cleared with ⟨hnone, rfl⟩ | ⟨hsome, hclears⟩
    · rcases hs.held x hxc with hold | ⟨hl, hstops, -⟩
      · constructor
        · intro hl
          obtain ⟨u, hu, hstops⟩ := (hm.leaving x hold).mp hl
          exact ⟨u, List.mem_append_left _ hu, hstops⟩
        · rintro ⟨u, hu, hstops⟩
          rcases List.mem_append.mp hu with hu | hu
          · exact (hm.leaving x hold).mpr ⟨u, hu, hstops⟩
          · exact stops_leave hc hnone hx (List.mem_singleton.mp hu ▸ hstops)
      · exact iff_of_true hl ⟨t, by simp, hstops⟩
    · -- When every slot is forgotten, all servers are asked to stop.
      obtain ⟨y, hy, hyx⟩ := generation_held (hp.before_calm hc hxc)
      have hbefore : y.generation ∈ t.before.generations :=
        hs.generations.mem_iff.mpr (List.mem_append_right _ (holdings_generation hy))
      have hasked := hs.asked hc hy (.inr fun l => asks_cleared hsome)
      exact iff_of_true (hclears.held hk hxc).1 (hyx ▸ (hm.asked hbefore).mp hasked)
  · refine iff_of_false (by simp [hl]) ?_
    rintro ⟨u, hu, hstops⟩
    have := hissued u hu x.generation hstops
    have := hp.next
    omega

end Marks

end Turn

namespace Host

open Turn

variable {h : Host} {pre post : List Turn} {t : Turn} {g : Nat}

lemma fresh_marks (settings : Settings) (root : Option FilePath) (environment : Environment) :
    Marks [] (fresh settings root environment) := ⟨by simp, by simp [fresh, holdings, Slots.pick]⟩

lemma turns_marks (hc : h.Coherent) (hm : Marks [] h) (ms : List Move) :
    Marks (h.turns ms) (h.run ms) := by
  induction ms using List.reverseRecOn with
  | nil => exact hm
  | append_singleton ms m ih =>
    rw [turns_append, run_append]
    exact ih.next (t := ⟨h.run ms, m⟩) (run_coherent hc ms)

lemma turn_reports (hm : Marks pre t.before) (hc : t.before.Coherent) :
    ∃ told idle, t.Reports pre told idle := by
  obtain ⟨told, idle, hstopped, hdistinct, htold, hidle, honce⟩ := turn_settles hc
  refine ⟨told, idle, ⟨hstopped, hdistinct, fun g => ?_, honce, fun l hl => ?_⟩⟩
  · rw [htold]
    exact and_congr_right fun hg => and_congr_right fun _ => hm.asked hg
  · obtain ⟨i, hi, hg, hshuts⟩ := hidle l hl
    exact ⟨i, hi, hg, hshuts.asks t.before⟩

lemma marked_ends (hm : Marks pre h) (hc : h.Coherent) (hg : g ∈ h.generations)
    (hstops : ∃ u ∈ pre, u.Stops g) :
    (∃ deadline, ∀ time w, deadline ≤ h.now + time →
        Turn.Ends ⟨h.perform (.pass time), .settle w⟩ g) ∧
      Turn.Ends ⟨h, .finishShutdownAll⟩ g := by
  obtain ⟨x, hx, rfl⟩ := generation_held hg
  obtain ⟨deadline, hleaves⟩ := hc.leavesBy hx ((hm.leaving x hx).mpr hstops)
  refine ⟨⟨deadline, fun time w hd => ⟨?_, ?_⟩⟩, ?_, ?_⟩
  · have hpc : (h.perform (.pass time)).Coherent := perform_coherent hc _
    exact ((perform_coherent hpc (.settle w)).gone_iff.mp
      (settle_ends hpc (g := x.generation) hleaves hd w)).2
  · -- A restart that was put off comes after the removal of the servers whose time is up.
    have hgone := expireShutdowns_ends (h := h.perform (.pass time)) (g := x.generation)
      (perform_coherent hc _) hleaves hd
    rintro ⟨k, l, hk, hcur, -⟩
    simp only [clearing, Option.ite_none_right_eq_some, Option.some.injEq] at hk
    obtain ⟨-, rfl⟩ := hk
    obtain ⟨i, hi, hig⟩ := isCurrent_iff.mp hcur
    exact hgone.left l i hi hig
  · obtain ⟨hslots, hretiring⟩ := turn_concluded (t := ⟨h, .finishShutdownAll⟩) hc rfl
    simp [generations, hslots, hretiring]
  · rintro ⟨k, l, hk, -⟩
    cases hk

/-- The editor is told once of each server that has stopped since it was asked to, but for those that
could not be asked when every slot was forgotten. A server that is stopping is gone when its time is
up, and when everything was shut down, and it does not come back. -/
theorem stops_reported_once (settings : Settings) (root : Option FilePath) (environment : Environment)
    (ms : List Move) (hts : (fresh settings root environment).turns ms = pre ++ t :: post) :
    (∃ told idle, t.Reports pre told idle) ∧
      (∀ g ∈ t.before.generations, g ∉ t.after.generations →
        ∀ u ∈ post, g ∉ u.before.generations) ∧
      ∀ g ∈ t.after.generations, (∃ u ∈ pre ++ [t], u.Stops g) →
        (∃ deadline, ∀ time w, deadline ≤ t.after.now + time →
            Turn.Ends ⟨t.after.perform (.pass time), .settle w⟩ g) ∧
          Turn.Ends ⟨t.after, .finishShutdownAll⟩ g := by
  have hfresh := fresh_coherent settings root environment
  have hstart := fresh_marks settings root environment
  generalize fresh settings root environment = h at hts hfresh hstart
  obtain ⟨ns, rest, hb, hpre, hpost⟩ := turns_mem_split hts
  have hc : t.before.Coherent := hb ▸ run_coherent hfresh ns
  have hac : t.after.Coherent := perform_coherent hc t.move
  have hmarks : Marks pre t.before := by
    rw [hb, hpre]
    exact turns_marks hfresh hstart ns
  refine ⟨turn_reports hmarks hc, fun g hg hgone u hu => ?_,
    fun g hg hstops => marked_ends (hmarks.next hc) hac hg hstops⟩
  rw [hpost] at hu
  exact turns_left hc hg hgone hu

end Host

namespace Sample

def hangup : List Move :=
  [.didOpen document, .shutdown language, .endOutput 1, .handle {}, .handle {}]

def blockage : List Move :=
  [.didOpen document, .setPlan 1 (Sink.broken .brokenPipe), .restartAll {}, .settle {}]

end Sample

namespace Host

theorem hangup_reported :
    (∃ told idle, Turn.Reports (Sample.session.turns (Sample.hangup.take 4))
        ⟨Sample.session.run (Sample.hangup.take 4), .handle {}⟩ told idle ∧ 1 ∈ told) ∧
      ∃ time, Turn.Ends ⟨Sample.session.run (Sample.hangup.take 2 ++ [.pass time]), .settle {}⟩ 1 := by
  have hasked : Turn.Stops ⟨Sample.session.run (Sample.hangup.take 1), .shutdown Sample.language⟩ 1 :=
    ⟨Sample.language, by decide +kernel, rfl⟩
  have hend := turns_append Sample.session (Sample.hangup.take 4) [.handle {}]
  have hstop := turns_append Sample.session (Sample.hangup.take 1) [.shutdown Sample.language]
  obtain ⟨⟨told, idle, hreports⟩, -⟩ := stops_reported_once Sample.settings none Sample.environment
    Sample.hangup (t := ⟨Sample.session.run (Sample.hangup.take 4), .handle {}⟩) hend
  obtain ⟨-, -, hlater⟩ := stops_reported_once Sample.settings none Sample.environment
    (Sample.hangup.take 2)
    (t := ⟨Sample.session.run (Sample.hangup.take 1), .shutdown Sample.language⟩) hstop
  refine ⟨⟨told, idle, hreports, (hreports.told 1).mpr ⟨?_, ⟨?_, ?_⟩, ?_⟩⟩, ?_⟩
  · decide +kernel
  · decide +kernel
  · rintro ⟨k, l, hk, -⟩
    cases hk
  · exact ⟨_, List.mem_append_left _ (List.mem_cons_of_mem _ List.mem_cons_self), hasked⟩
  · obtain ⟨⟨deadline, hd⟩, -⟩ := hlater 1 (by decide +kernel) ⟨_, by simp, hasked⟩
    exact ⟨deadline, hd deadline {} (Nat.le_add_left _ _)⟩

/-- The server was asked to stop and is gone, and the editor is never told. -/
theorem blockage_unreported :
    (∃ t ∈ Sample.session.turns Sample.blockage, t.Stops 1) ∧
      1 ∉ (Sample.session.run Sample.blockage).generations ∧
      ∀ t ∈ Sample.session.turns Sample.blockage, t.stopped = [] := by
  refine ⟨⟨_, List.mem_cons_of_mem _ (List.mem_cons_of_mem _ List.mem_cons_self), ?_⟩, ?_, ?_⟩
  · exact ⟨Sample.language, by decide +kernel, trivial⟩
  · decide +kernel
  · decide +kernel

end Host

end LanguageHost
