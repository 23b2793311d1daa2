import LanguageHost.Proofs.Session.Spending

/-! Events are handled to an end, whatever comes in meanwhile. Every event that is handled takes from the
work that is left, a server that is launched in place of a lost one takes no more than the restart that
it counts was worth, and only messages of servers add to it. -/

namespace LanguageHost

/-- What happens without the editor: servers send and end their output, frames and launches fare
differently, and the time goes on. -/
def Move.Outside : Move → Prop
  | receive .. | endOutput _ | setPlan .. | pass _ | surround _ => True
  | _ => False

namespace Host

variable {h k : Host} {w v : Workspace} {l : LanguageId} {deed : Deed} {arrive : Nat → List Move}

def hears (h : Host) (g : Nat) : Move → Nat
  | .receive n signals => if n = g then h.connections.delivers n signals else 0
  | _ => 0

def heard (h : Host) (g : Nat) : List Move → Nat
  | [] => 0
  | m :: rest => h.hears g m + (h.perform m).heard g rest

/-- The session after so many events, each of them handled after what has come in meanwhile. There is
none if fewer events were there. -/
def handled (h : Host) (w : Workspace) (arrive : Nat → List Move) : Nat → Option (Host × Workspace)
  | 0 => some (h, w)
  | n + 1 => (h.handled w arrive n).bind fun r => (r.1.run (arrive n)).handleNext r.2

def messages (h : Host) (w : Workspace) (arrive : Nat → List Move) (g : Nat) : Nat → Nat
  | 0 => 0
  | n + 1 => h.messages w arrive g n +
    ((h.handled w arrive n).map fun r => r.1.heard g (arrive n)).getD 0

/-- To handle events while more come in ends after so many events, with this result. -/
def Processes (h : Host) (w : Workspace) (arrive : Nat → List Move) (n : Nat)
    (r : Host × Workspace × List HostEvent) : Prop :=
  ∃ k v, h.handled w arrive n = some (k, v) ∧ (k.run (arrive n)).handleNext v = none ∧
    r = (((k.run (arrive n)).settle v).takeQueued.1, v, ((k.run (arrive n)).settle v).takeQueued.2)

def counter (h : Host) (l : LanguageId) : Nat :=
  match h.slots.get? l with
  | some (.active i) => i.restarts
  | some (.dead restarts _) => restarts
  | _ => 0

section Roll

lemma Step.roll (hs : Step h deed k) : k.connections.roll = h.connections.roll ∨
    k.connections.roll = h.connections.roll ++ [h.nextGeneration] := by
  cases hs with
  | told | taken | progressed | announced | requested | elapsed | surrounded | touched | unlisted
    | excused | idled | retired | forgotten | sealed | replaced | shuffled | popped => exact .inl rfl
  | logged r => exact .inl rfl
  | collected name => exact .inl (Connections.collect_costs _ name).roll
  | received g signals => exact .inl (Connections.receive_costs _ g signals).roll
  | ended g => exact .inl (Connections.endOutput_costs _ g).roll
  | planned g plan => exact .inl (Connections.setPlan_costs _ g plan).roll
  | configured l slot notes => exact .inl (Connections.logs_costs notes _).roll
  | replied l i g id r => exact .inl (Connections.reply_costs _ g id r).roll
  | searched l i g | asked l i g | stopping l i g | reminded l i g =>
    exact .inl (Connections.call_costs _ g _ _ _).roll
  | opened l i | changed l i | saved l i | closed l i =>
    exact .inl (Connections.tell_costs _ i.connection _ _).roll
  | launched l i request notes plan =>
    refine .inr ?_
    rw [← (launching_load h request notes).2]
    exact (i.connect_load (h.launching request notes) h.root h.environment h.nextGeneration plan _).1
  | unlaunched => exact .inl rfl
  | failed l i request notes | unattached l i request notes =>
    exact .inl (launching_load h request notes).2
  | welcomed l i g response => exact .inl (i.initializeSucceeded_costs _ response).roll
  | lost l i | abandoned l i | muted l i | evicted l i | expelled i =>
    exact .inl (i.finish_costs _ .forceExit).roll
  | acknowledged l i | released i => exact .inl (i.notify_costs _ "exit" .null).roll
  | dropped l i how | departed i rest how => exact .inl (i.finish_costs _ how).roll

lemma Coherent.roll_lt (hc : h.Coherent) {g : Nat} (hg : g ∈ h.connections.roll) :
    g < h.nextGeneration := by
  by_contra hn
  have hnone := hc.fresh g (Nat.le_of_not_lt hn)
  obtain ⟨client, hm, hclient⟩ := List.mem_map.mp hg
  rw [Connections.language?, Option.map_eq_none_iff, Connections.get?, List.find?_eq_none] at hnone
  exact hnone client hm (by simp [hclient])

lemma run_roll (hc : h.Coherent) (hn : h.connections.roll.Nodup) (ms : List Move) :
    (h.run ms).connections.roll.Nodup := by
  refine run_keeps (P := fun _ => True) (I := fun k => k.connections.roll.Nodup) hc hn ms
    (fun _ _ _ _ => trivial) (fun _ _ _ => trivial) fun {a b deed} _ hs ha hna => ?_
  rcases hs.roll with hb | hb <;> rw [hb]
  · exact hna
  · rw [List.nodup_append]
    refine ⟨hna, List.nodup_singleton _, fun g hg n hgn => ?_⟩
    rintro rfl
    exact Nat.lt_irrefl _ (List.mem_singleton.mp hgn ▸ ha.roll_lt hg)

end Roll

section Outside

lemma outside_move_costs (hc : h.Coherent) {m : Move} (hm : m.Outside) {bound : Nat}
    (hb : h.nextGeneration ≤ bound) :
    h.connections.Costs (∑ g ∈ Finset.range bound, h.hears g m) (h.perform m).connections ∧
      (h.perform m).slots = h.slots ∧ (h.perform m).nextGeneration = h.nextGeneration ∧
        (h.perform m).environment.lead = h.environment.lead := by
  have hnone {m : Move} (hm : ∀ g, h.hears g m = 0) :
      ∑ g ∈ Finset.range bound, h.hears g m = 0 := Finset.sum_eq_zero fun g _ => hm g
  cases m with
  | receive n signals =>
    refine ⟨?_, rfl, rfl, rfl⟩
    have hsum : ∑ g ∈ Finset.range bound, h.hears g (.receive n signals) =
        h.connections.delivers n signals := by
      simp only [hears, Finset.sum_ite_eq, Finset.mem_range]
      split
      · rfl
      · next hn =>
        -- There is no connection of this generation yet.
        have hfresh := hc.fresh n (Nat.le_trans hb (Nat.le_of_not_lt hn))
        rw [Connections.language?, Option.map_eq_none_iff] at hfresh
        simp [Connections.delivers, hfresh]
    rw [hsum]
    exact h.connections.receive_costs n signals
  | endOutput n =>
    rw [hnone fun _ => rfl]
    exact ⟨h.connections.endOutput_costs n, rfl, rfl, rfl⟩
  | setPlan n plan =>
    rw [hnone fun _ => rfl]
    exact ⟨h.connections.setPlan_costs n plan, rfl, rfl, rfl⟩
  | pass | surround =>
    rw [hnone fun _ => rfl]
    exact ⟨.refl _, rfl, rfl, rfl⟩
  | _ => cases hm

lemma outside_run_costs (hc : h.Coherent) {ms : List Move} (hm : ∀ m ∈ ms, m.Outside) {bound : Nat}
    (hb : h.nextGeneration ≤ bound) :
    h.connections.Costs (∑ g ∈ Finset.range bound, h.heard g ms) (h.run ms).connections ∧
      (h.run ms).slots = h.slots ∧ (h.run ms).nextGeneration = h.nextGeneration ∧
        (h.run ms).environment.lead = h.environment.lead := by
  induction ms generalizing h with
  | nil =>
    have hnone : ∑ g ∈ Finset.range bound, h.heard g [] = 0 := Finset.sum_eq_zero fun _ _ => rfl
    rw [hnone]
    exact ⟨.refl _, rfl, rfl, rfl⟩
  | cons m rest ih =>
    obtain ⟨hcosts, hslots, hg, hl⟩ := outside_move_costs hc (hm m List.mem_cons_self) hb
    obtain ⟨hrest, hslots', hg', hl'⟩ := ih (perform_coherent hc m)
      (fun m hmr => hm m (List.mem_cons_of_mem _ hmr)) (hg ▸ hb)
    have hsum : ∑ g ∈ Finset.range bound, h.heard g (m :: rest) =
        ∑ g ∈ Finset.range bound, h.hears g m +
          ∑ g ∈ Finset.range bound, (h.perform m).heard g rest := Finset.sum_add_distrib
    rw [hsum]
    exact ⟨hcosts.trans hrest, hslots'.trans hslots, hg'.trans hg, hl'.trans hl⟩

end Outside

section Handling

lemma handleNext_affords (hc : h.Coherent) (hn : h.connections.roll.Nodup)
    (hk : h.handleNext w = some (k, v)) :
    k.work + 1 ≤ h.work ∧ k.span ≤ h.span ∧
      ∀ l, k.tries l + k.reserve l ≤ h.tries l + h.reserve l := by
  obtain ⟨-, ms, rfl, -⟩ := handleNext_run hk
  have hkn := (run_coherent hc ms).languages
  generalize h.run ms = k at hk hkn
  cases hq : h.connections.inbox with
  | nil => simp [handleNext, hq] at hk
  | cons e rest =>
    let popped : Host := { h with connections := { h.connections with inbox := rest } }
    have hwork : popped.work + 1 = h.work := by
      simp only [work, popped, hq, List.length_cons]
      omega
    obtain rfl : (popped.handleEvent w e).1 = k := by
      simp only [handleNext, hq, Option.some.injEq] at hk
      rw [show popped.handleEvent w e = (k, v) from hk]
    have hfresh : h.nextGeneration ∉ h.connections.roll := fun hg =>
      Nat.lt_irrefl _ (hc.roll_lt hg)
    have ha : popped.Affords (popped.handleEvent w e).1 := by
      rcases handleEvent_outcome popped w e with hr | hr
      · exact hr.affords hn hc.languages hkn
      · exact hr.affords hn hc.languages hkn hfresh
    have := ha.work
    exact ⟨by omega, ha.span, ha.tries⟩

structure Draws (h k : Host) (n extra : Nat) : Prop where
  coherent : k.Coherent
  roll : k.connections.roll.Nodup
  work : k.work + n ≤ h.work + extra
  span : k.span ≤ h.span
  tries : ∀ l, k.tries l + k.reserve l ≤ h.tries l + h.reserve l

lemma Draws.refl (hc : h.Coherent) (hn : h.connections.roll.Nodup) : h.Draws h 0 0 :=
  ⟨hc, hn, Nat.le_refl _, Nat.le_refl _, fun _ => Nat.le_refl _⟩

lemma Draws.outside {n extra : Nat} (hd : h.Draws k n extra) {ms : List Move}
    (hm : ∀ m ∈ ms, m.Outside) :
    h.Draws (k.run ms) n (extra + ∑ g ∈ Finset.range h.span, k.heard g ms) := by
  have hb : k.nextGeneration ≤ h.span := Nat.le_trans (Nat.le_add_right _ _) hd.span
  obtain ⟨hcosts, hslots, hg, hl⟩ := outside_run_costs hd.coherent hm hb
  refine ⟨run_coherent hd.coherent ms, run_roll hd.coherent hd.roll ms, ?_, ?_, fun l => ?_⟩
  · have hload := hcosts.load hd.roll
    have hwork := hd.work
    rw [work_eq] at hwork ⊢
    rw [hslots, hl]
    omega
  · rw [Host.span, hslots, hg]
    exact hd.span
  · rw [tries_of_launches hcosts.launches, reserve, instance?, hslots]
    exact hd.tries l

lemma Draws.next {n extra : Nat} (hd : h.Draws k n extra) {m : Host}
    (hm : k.handleNext w = some (m, v)) : h.Draws m (n + 1) extra := by
  obtain ⟨hwork, hspan, htries⟩ := handleNext_affords hd.coherent hd.roll hm
  obtain ⟨-, ms, rfl, -⟩ := handleNext_run hm
  refine ⟨run_coherent hd.coherent ms, run_roll hd.coherent hd.roll ms, ?_,
    Nat.le_trans hspan hd.span, fun l => Nat.le_trans (htries l) (hd.tries l)⟩
  have := hd.work
  omega

lemma handled_draws (hc : h.Coherent) (hn : h.connections.roll.Nodup)
    (hm : ∀ n, ∀ m ∈ arrive n, m.Outside) {n : Nat} (hk : h.handled w arrive n = some (k, v)) :
    h.Draws k n (∑ g ∈ Finset.range h.span, h.messages w arrive g n) := by
  induction n generalizing k v with
  | zero =>
    obtain ⟨rfl, rfl⟩ := Prod.mk.inj (Option.some.inj hk)
    simpa [messages] using Draws.refl hc hn
  | succ n ih =>
    obtain ⟨⟨j, u⟩, hj, hnext⟩ := Option.bind_eq_some_iff.mp hk
    have hsum : ∑ g ∈ Finset.range h.span, h.messages w arrive g (n + 1) =
        ∑ g ∈ Finset.range h.span, h.messages w arrive g n +
          ∑ g ∈ Finset.range h.span, j.heard g (arrive n) := by
      simp only [messages, hj, Option.map_some, Option.getD_some, Finset.sum_add_distrib]
    rw [hsum]
    exact ((ih hj).outside (hm n)).next hnext

lemma reserve_le (h : Host) (l : LanguageId) : h.reserve l ≤ maxRestarts - h.counter l := by
  rcases left_cases h 0 l with ⟨-, hr⟩ | ⟨i, hi, hg⟩
  · rw [hr]
    exact Nat.zero_le _
  · rw [reserve_eq hi hg, counter, instance?_eq_some.mp hi]

lemma handled_ends (hc : h.Coherent) (hn : h.connections.roll.Nodup)
    (hm : ∀ n, ∀ m ∈ arrive n, m.Outside) {bound : Nat → Nat}
    (hb : ∀ g n, h.messages w arrive g n ≤ bound g) :
    ∃ n ≤ h.work + ∑ g ∈ Finset.range h.span, bound g, ∃ r, h.Processes w arrive n r := by
  let limit := h.work + ∑ g ∈ Finset.range h.span, bound g
  have hlimit {n : Nat} {k : Host} {v : Workspace} (hk : h.handled w arrive n = some (k, v)) :
      n ≤ limit := by
    have hwork := (handled_draws hc hn hm hk).work
    have hle : ∑ g ∈ Finset.range h.span, h.messages w arrive g n ≤
        ∑ g ∈ Finset.range h.span, bound g := Finset.sum_le_sum fun g _ => hb g n
    omega
  by_contra hend
  -- Otherwise one event after the other would be handled beyond the limit.
  have hall (n : Nat) : ∃ k v, h.handled w arrive n = some (k, v) := by
    induction n with
    | zero => exact ⟨h, w, rfl⟩
    | succ n ih =>
      obtain ⟨k, v, hk⟩ := ih
      cases hnext : (k.run (arrive n)).handleNext v with
      | none => exact absurd ⟨n, hlimit hk, _, k, v, hk, hnext, rfl⟩ hend
      | some r => exact ⟨r.1, r.2, by simp only [handled, hk, Option.bind_some, hnext]⟩
  obtain ⟨k, v, hk⟩ := hall (limit + 1)
  exact absurd (hlimit hk) (Nat.not_succ_le_self _)

lemma handleMany_handled {n fuel : Nat} (hk : h.handled w (fun _ => []) n = some (k, v))
    (hend : k.handleNext v = none) (hle : n ≤ fuel) : handleMany fuel h w = (k, v) := by
  induction n generalizing h w fuel with
  | zero =>
    obtain ⟨rfl, rfl⟩ := Prod.mk.inj (Option.some.inj hk)
    cases fuel <;> simp only [handleMany, hend]
  | succ n ih =>
    obtain ⟨fuel, rfl⟩ : ∃ m, fuel = m + 1 := ⟨fuel - 1, by omega⟩
    have hfirst (n : Nat) : h.handled w (fun _ => []) (n + 1) =
        (h.handleNext w).bind fun r => r.1.handled r.2 (fun _ => []) n := by
      induction n with
      | zero => simp [handled, run]
      | succ n ih =>
        rw [handled, ih]
        cases h.handleNext w <;> rfl
    rw [hfirst] at hk
    obtain ⟨⟨j, u⟩, hj, hk⟩ := Option.bind_eq_some_iff.mp hk
    simp only [handleMany, hj]
    exact ih hk (by omega)

lemma messages_silent (hs : ∀ (k : Host) g n, k.heard g (arrive n) = 0) (h : Host) (w : Workspace)
    (g n : Nat) : h.messages w arrive g n = 0 := by
  induction n with
  | zero => rfl
  | succ n ih =>
    rw [messages, ih]
    cases h.handled w arrive n with
    | none => rfl
    | some r => simp [hs]

lemma processEvents_processes (hc : h.Coherent) (hn : h.connections.roll.Nodup) (w : Workspace) :
    ∃ n ≤ h.work, h.Processes w (fun _ => []) n (h.processEvents w) := by
  have hnone (g n : Nat) : h.messages w (fun _ => []) g n ≤ 0 :=
    Nat.le_of_eq (messages_silent (fun _ _ _ => rfl) h w g n)
  obtain ⟨n, hle, r, k, v, hk, hend, -⟩ := handled_ends hc hn (by simp) hnone
  have hlimit : n ≤ h.work := by simpa using hle
  refine ⟨n, hlimit, k, v, hk, hend, ?_⟩
  simp only [processEvents, drain, handleMany_handled hk hend hlimit]
  rfl

end Handling

/-- Whatever state a session is in, and whatever servers, launches and writes do meanwhile, handling
events comes to an end, as long as every server delivers finitely many messages. Until then every
language is launched no more often than restarts are left to it. -/
theorem events_run_out (settings : Settings) (root : Option FilePath) (environment : Environment)
    (ms : List Move) (hh : h = (fresh settings root environment).run ms) (w : Workspace)
    (hm : ∀ n, ∀ m ∈ arrive n, m.Outside) {bound : Nat → Nat}
    (hb : ∀ g n, h.messages w arrive g n ≤ bound g) :
    (∃ n ≤ h.work + ∑ g ∈ Finset.range h.span, bound g, ∃ r, h.Processes w arrive n r) ∧
      (∀ n k v, h.handled w arrive n = some (k, v) →
        ∀ l, (k.run (arrive n)).tries l ≤ h.tries l + (maxRestarts - h.counter l)) ∧
      ∃ n ≤ h.work, h.Processes w (fun _ => []) n (h.processEvents w) := by
  have hc : h.Coherent := hh ▸ run_coherent (fresh_coherent settings root environment) ms
  have hn : h.connections.roll.Nodup :=
    hh ▸ run_roll (fresh_coherent settings root environment) List.nodup_nil ms
  refine ⟨handled_ends hc hn hm hb, fun n k v hk l => ?_, processEvents_processes hc hn w⟩
  have htries := ((handled_draws hc hn hm hk).outside (hm n)).tries l
  have hreserve := reserve_le h l
  omega

end Host

namespace Sample

def hostile : Environment :=
  { environment with launch := fun _ _ => ([], .ok (Sink.broken .brokenPipe)) }

def doomed : Host := (Host.fresh settings none hostile).run [.didOpen document]

def closures (n : Nat) : List Move := [.endOutput (n + 1)]

end Sample

namespace Host

theorem doomed_run_out :
    (∃ n ≤ 20, ∃ r, Sample.doomed.Processes {} Sample.closures n r) ∧
      ∀ n k v, Sample.doomed.handled {} Sample.closures n = some (k, v) →
        (k.run (Sample.closures n)).tries Sample.language ≤ 6 := by
  have hsilent (g n : Nat) : Sample.doomed.messages {} Sample.closures g n ≤ 0 :=
    Nat.le_of_eq (messages_silent (fun _ _ _ => rfl) _ _ g n)
  have houtside (n : Nat) : ∀ m ∈ Sample.closures n, m.Outside := by
    simp [Sample.closures, Move.Outside]
  obtain ⟨⟨n, hn, hr⟩, htries, -⟩ := events_run_out Sample.settings none Sample.hostile
    [.didOpen Sample.document] (h := Sample.doomed) rfl {} houtside hsilent
  have hwork : Sample.doomed.work = 20 := by decide +kernel
  have hlaunched : Sample.doomed.tries Sample.language = 1 := by decide +kernel
  refine ⟨⟨n, by simpa [hwork] using hn, hr⟩, fun n k v hk => ?_⟩
  refine Nat.le_trans (htries n k v hk Sample.language) ?_
  rw [hlaunched]
  exact Nat.add_le_add_left (Nat.sub_le _ _) 1

end Host

end LanguageHost
