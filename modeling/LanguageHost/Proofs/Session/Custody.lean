import Mathlib.Data.List.Nodup
import LanguageHost.Proofs.Session.Holdings

namespace LanguageHost

def Environment.begun (e : Environment) (launches : List (Nat × LaunchRequest)) : List Nat :=
  (launches.filter fun a => (e.launch a.1 a.2).2.isOk).map Prod.fst

namespace Turn

def launches (t : Turn) : List (Nat × LaunchRequest) :=
  t.after.connections.launches.drop t.before.connections.launches.length

def begun (t : Turn) : List Nat := t.before.environment.begun t.launches

end Turn

namespace Host

variable {h k : Host} {deed : Deed} {news : List (Nat × LaunchRequest)} {ms : List Move}

def accounted (h : Host) : List Nat := h.generations ++ h.connections.endings

structure Balances (h k : Host) (news : List (Nat × LaunchRequest)) : Prop where
  launches : k.connections.launches = h.connections.launches ++ news
  accounted : k.accounted.Perm (h.accounted ++ h.environment.begun news)

structure Numbered (h : Host) : Prop where
  ascending : (h.connections.launches.map Prod.fst).Pairwise (· < ·)
  issued : ∀ a ∈ h.connections.launches, a.1 < h.nextGeneration

section Steps

lemma Step.next_le (hs : Step h deed k) : h.nextGeneration ≤ k.nextGeneration := by
  cases hs with
  | launched | unlaunched | failed | unattached => exact Nat.le_succ _
  | _ => exact Nat.le_refl _

lemma Walk.next_le {P : Deed → Prop} (hw : Walk P h k) : h.nextGeneration ≤ k.nextGeneration :=
  hw.keeps (I := fun k => h.nextGeneration ≤ k.nextGeneration) (Nat.le_refl _)
    fun _ hs hle => Nat.le_trans hle hs.next_le

lemma Step.sealed_stays (hs : Step h deed k) (hd : deed ≠ .renew) (hh : h.shuttingDown = true) :
    k.shuttingDown = true := by
  cases hs with
  | sealed => rfl
  | replaced => exact absurd rfl hd
  | _ => exact hh

lemma Step.environment (hs : Step h deed k) (hd : deed ≠ .surround) :
    k.environment = h.environment := by
  cases hs with
  | surrounded => exact absurd rfl hd
  | _ => rfl

lemma generations_perm (hh : h.holdings.Perm k.holdings) : h.generations.Perm k.generations := by
  rw [← holdings_generations, ← holdings_generations]
  exact hh.map _

lemma accounted_kept (hg : h.generations.Perm k.generations)
    (he : k.connections.endings = h.connections.endings) : k.accounted.Perm h.accounted := by
  rw [accounted, accounted, he]
  exact hg.symm.append_right _

lemma Transfers.balances (ht : Transfers h k deed) :
    Balances h k [] ∨ ∃ request, h.shuttingDown = false ∧ k.nextGeneration = h.nextGeneration + 1 ∧
      Balances h k [(h.nextGeneration, request)] := by
  have hquiet (hc : h.connections.Retains k.connections) (hh : h.holdings.Perm k.holdings) :
      Balances h k [] :=
    ⟨by simp [hc.launches],
      by simpa [Environment.begun] using accounted_kept (generations_perm hh) hc.endings⟩
  cases ht with
  | kept hc hh => exact .inl (hquiet hc hh)
  | idle l i hi hg hc hh => exact .inl (hquiet hc hh)
  | begun l request hr hd hl hlaunches hends hn hh =>
    refine .inr ⟨request, hd, hn, hlaunches, ?_⟩
    have hgen := hh.map Holding.generation
    rw [List.map_cons, holdings_generations, holdings_generations] at hgen
    have hone : h.environment.begun [(h.nextGeneration, request)] = [h.nextGeneration] := by
      simp [Environment.begun, hl]
    rw [accounted, accounted, hends, hone]
    exact (hgen.append_right _).trans (List.perm_append_singleton _ _).symm
  | failed l request hr hd hl hlaunches hends hn hh =>
    refine .inr ⟨request, hd, hn, hlaunches, ?_⟩
    simpa [Environment.begun, hl] using accounted_kept (generations_perm hh) hends
  | broken l request hr hd hl hlaunches hends hn hh =>
    refine .inr ⟨request, hd, hn, hlaunches, ?_⟩
    have hone : h.environment.begun [(h.nextGeneration, request)] = [h.nextGeneration] := by
      simp [Environment.begun, hl]
    rw [accounted, accounted, hends, hone, List.append_assoc]
    exact (generations_perm hh).symm.append_right _
  | stopping l g rest hc hcur hh hk =>
    have hgen := (hh.map Holding.generation).trans (hk.map Holding.generation).symm
    rw [holdings_generations, holdings_generations] at hgen
    exact .inl ⟨by simp [hc.launches],
      by simpa [Environment.begun] using accounted_kept hgen hc.endings⟩
  | ended x hl he hh =>
    have hgen := hh.map Holding.generation
    rw [List.map_cons, holdings_generations, holdings_generations] at hgen
    refine .inl ⟨by simp [hl], ?_⟩
    rw [accounted, accounted, he, ← List.append_assoc]
    have hmoved : (k.generations ++ h.connections.endings ++ [x.generation]).Perm
        (x.generation :: k.generations ++ h.connections.endings) := List.perm_append_singleton _ _
    simpa [Environment.begun] using hmoved.trans (hgen.symm.append_right _)

lemma Step.attempts (hs : Step h deed k) (hc : h.Coherent) :
    k.connections.launches = h.connections.launches ∨ ∃ a : Nat × LaunchRequest,
      deed = .launch a.2.language ∧ h.Requests a.2.language a.2 ∧
        k.connections.launches = h.connections.launches ++ [a] := by
  cases hs.transfers hc with
  | kept hc | stopping _ _ _ hc | idle _ _ _ _ hc => exact .inl hc.launches
  | ended x hl => exact .inl hl
  | begun l request hr hd hl hlaunches | failed l request hr hd hl hlaunches
    | broken l request hr hd hl hlaunches =>
    obtain rfl := hr.language
    exact .inr ⟨_, rfl, hr, hlaunches⟩

lemma Step.balances (hs : Step h deed k) (hc : h.Coherent) :
    ∃ news, Balances h k news ∧ (h.shuttingDown = true → news = []) := by
  rcases (hs.transfers hc).balances with hb | ⟨request, hd, -, hb⟩
  · exact ⟨[], hb, fun _ => rfl⟩
  · exact ⟨_, hb, fun htrue => absurd (htrue.symm.trans hd) (by simp)⟩

lemma Step.numbered (hs : Step h deed k) (hc : h.Coherent) (hn : h.Numbered) : k.Numbered := by
  rcases (hs.transfers hc).balances with hb | ⟨request, -, hnext, hb⟩
  · have hl : k.connections.launches = h.connections.launches := by simpa using hb.launches
    exact ⟨hl ▸ hn.ascending, fun a ha => Nat.lt_of_lt_of_le (hn.issued a (hl ▸ ha)) hs.next_le⟩
  · constructor
    · rw [hb.launches, List.map_append, List.pairwise_append]
      refine ⟨hn.ascending, List.pairwise_singleton _ _, fun g hg m hm => ?_⟩
      obtain ⟨a, ha, rfl⟩ := List.mem_map.mp hg
      obtain rfl : m = h.nextGeneration := by simpa using hm
      exact hn.issued a ha
    · intro a ha
      rw [hb.launches] at ha
      rcases List.mem_append.mp ha with ha | ha
      · exact Nat.lt_of_lt_of_le (hn.issued a ha) hs.next_le
      · rw [List.mem_singleton.mp ha, hnext]
        exact Nat.lt_succ_self _

end Steps

section Turns

lemma Balances.append {a : Host} {more : List (Nat × LaunchRequest)} (hh : Balances h a news)
    (ha : Balances a k more) (he : a.environment = h.environment) :
    Balances h k (news ++ more) where
  launches := by rw [ha.launches, hh.launches, List.append_assoc]
  accounted := by
    refine (ha.accounted.trans (hh.accounted.append_right _)).trans (.of_eq ?_)
    simp [Environment.begun, he]

lemma Balances.launches_eq {t : Turn} (hb : Balances t.before t.after news) : t.launches = news := by
  rw [Turn.launches, hb.launches, List.drop_left]

lemma turn_balances {t : Turn} (hc : t.before.Coherent) : Balances t.before t.after t.launches := by
  suffices hb : ∃ news, Balances t.before t.after news by
    obtain ⟨news, hb⟩ := hb
    exact hb.launches_eq ▸ hb
  obtain ⟨h, m⟩ := t
  by_cases hm : ∃ e, m = .surround e
  · obtain ⟨e, rfl⟩ := hm
    exact ⟨[], by simp [Turn.after, perform], by simp [Environment.begun, Turn.after, perform, accounted,
      generations]⟩
  refine And.right (perform_keeps (P := fun d => d ≠ .surround)
    (I := fun k => k.environment = h.environment ∧ ∃ news, Balances h k news) hc
    ⟨rfl, [], by simp, by simp [Environment.begun]⟩ m ?_ ?_ ?_)
  · rintro d hd rfl
    exact hm hd
  · rintro subject d hd rfl
    exact hd
  · rintro a b d hd hs ha ⟨he, news, hb⟩
    obtain ⟨more, hmore, -⟩ := hs.balances ha
    exact ⟨(hs.environment hd).trans he, _, hb.append hmore he⟩

lemma turn_next_le {t : Turn} (hc : t.before.Coherent) :
    t.before.nextGeneration ≤ t.after.nextGeneration := by
  obtain ⟨k, hw, hcalm⟩ := perform_walk hc.languages t.move
  exact Nat.le_trans hw.next_le hcalm.next_le

lemma turn_sealed {t : Turn} (hc : t.before.Coherent) (hd : t.before.shuttingDown = true)
    (hm : ∀ s w, t.move ≠ .reconfigure s w) : t.after.shuttingDown = true ∧ t.launches = [] := by
  have hk := perform_keeps (P := fun d => d ≠ .renew) (I := fun k => k.shuttingDown = true ∧
    k.connections.launches = t.before.connections.launches) hc ⟨hd, rfl⟩ t.move
    (by
      rintro d hs rfl
      obtain ⟨s, w, hr⟩ := hs
      exact hm s w hr)
    (by
      rintro subject d hs rfl
      exact hs)
    (fun hr hs ha hi => by
      obtain ⟨news, hb, hnews⟩ := hs.balances ha
      refine ⟨hs.sealed_stays hr hi.1, ?_⟩
      rw [hb.launches, hnews hi.1, List.append_nil, hi.2])
  refine ⟨hk.1, ?_⟩
  rw [Turn.launches, show t.after.connections.launches = t.before.connections.launches from hk.2]
  exact List.drop_length

lemma turn_concluded {t : Turn} (hc : t.before.Coherent) (hm : t.move = .finishShutdownAll) :
    t.after.slots.instances = [] ∧ t.after.retiring = [] := by
  have hafter : t.after = { t.before.concluding with queued := [] } := by
    rw [Turn.after, hm, perform, finishShutdownAll_eq]
  rw [hafter]
  refine ⟨List.filterMap_eq_nil_iff.mpr fun e he => ?_, retireByForce_retiring _ _⟩
  have hslot := Slots.get?_of_mem ((concludes hc.languages).nodup hc.languages) he
  rw [concluding_get? hc.languages] at hslot
  split at hslot
  · cases hslot
  · next hl =>
    by_contra hi
    obtain ⟨i, hi⟩ := Option.ne_none_iff_exists'.mp hi
    exact hl (mem_activeLanguages (i := i) (by simp [instance?, hslot, hi]))

end Turns

section Runs

lemma run_balances (hc : h.Coherent) (ms : List Move) :
    (h.run ms).connections.launches = h.connections.launches ++ (h.turns ms).flatMap Turn.launches ∧
      (h.run ms).accounted.Perm (h.accounted ++ (h.turns ms).flatMap Turn.begun) := by
  induction ms generalizing h with
  | nil => exact ⟨by simp [turns, run], by simp [turns, run]⟩
  | cons m rest ih =>
    have ht := turn_balances (t := ⟨h, m⟩) hc
    obtain ⟨hlaunches, haccounted⟩ := ih (perform_coherent hc m)
    constructor
    · rw [turns, List.flatMap_cons, ← List.append_assoc, ← ht.launches]
      exact hlaunches
    · rw [turns, List.flatMap_cons, ← List.append_assoc]
      exact haccounted.trans (ht.accounted.append_right _)

lemma fresh_numbered (settings : Settings) (root : Option FilePath) (environment : Environment) :
    (fresh settings root environment).Numbered := ⟨.nil, by simp [fresh, Connections.launches]⟩

lemma run_numbered (hc : h.Coherent) (hn : h.Numbered) (ms : List Move) : (h.run ms).Numbered :=
  run_keeps (P := fun _ => True) hc hn ms (fun _ _ _ _ => trivial) (fun _ _ _ => trivial)
    fun _ hs ha hi => hs.numbered ha hi

lemma begun_sublist (ts : List Turn) :
    (ts.flatMap Turn.begun).Sublist ((ts.flatMap Turn.launches).map Prod.fst) := by
  induction ts with
  | nil => exact .refl _
  | cons t rest ih =>
    rw [List.flatMap_cons, List.flatMap_cons, List.map_append]
    exact (List.filter_sublist.map _).append ih

lemma run_accounts (hc : h.Coherent) (hn : h.Numbered) (hl : h.connections.launches = [])
    (ha : h.accounted = []) (ms : List Move) :
    ((h.turns ms).flatMap Turn.begun).Nodup ∧
      ∀ g, (h.run ms).generations.count g + (h.run ms).connections.endings.count g =
        ((h.turns ms).flatMap Turn.begun).count g := by
  obtain ⟨hlaunches, haccounted⟩ := run_balances hc ms
  rw [hl, List.nil_append] at hlaunches
  rw [ha, List.nil_append] at haccounted
  constructor
  · exact (begun_sublist _).nodup (hlaunches ▸ (run_numbered hc hn ms).ascending.imp Nat.ne_of_lt)
  · intro g
    rw [← haccounted.count_eq, accounted, List.count_append]

lemma run_sealed (hc : h.Coherent) (hd : h.shuttingDown = true)
    (hm : ∀ m ∈ ms, ∀ s w, m ≠ .reconfigure s w) : (h.run ms).shuttingDown = true := by
  induction ms generalizing h with
  | nil => exact hd
  | cons m rest ih =>
    refine ih (perform_coherent hc m) ?_ fun m hmem => hm m (List.mem_cons_of_mem _ hmem)
    exact (turn_sealed (t := ⟨h, m⟩) hc hd (hm m List.mem_cons_self)).1

lemma turns_launchless {t u : Turn} {mid post : List Turn} (hc : t.before.Coherent)
    (hm : t.move = .beginShutdownAll) (hts : t.after.turns ms = mid ++ u :: post)
    (hrenew : ∀ v ∈ mid ++ [u], ∀ s w, v.move ≠ .reconfigure s w) : u.launches = [] := by
  obtain ⟨ns, rest, hb, hmid, -⟩ := turns_mem_split hts
  have hac : t.after.Coherent := perform_coherent hc t.move
  have hsealed : t.after.shuttingDown = true := by
    rw [Turn.after, hm, perform, beginShutdownAll_eq]
  have hns : ∀ m ∈ ns, ∀ s w, m ≠ .reconfigure s w := by
    intro m hmem
    rw [← turns_moves t.after ns, ← hmid] at hmem
    obtain ⟨v, hv, rfl⟩ := List.mem_map.mp hmem
    exact hrenew v (List.mem_append_left _ hv)
  have hu : u.before.shuttingDown = true := hb ▸ run_sealed hac hsealed hns
  exact (turn_sealed (hb ▸ run_coherent hac ns) hu (hrenew u (by simp))).2

end Runs

/-- Of the processes that have begun each is held by one server, or was told to end, once; no other
is. When everything was shut down no server is left and every process was told to end, and from the
beginning of that nothing is launched until the session is configured again. -/
theorem processes_held_or_ended (settings : Settings) (root : Option FilePath)
    (environment : Environment) (ms : List Move) (hk : (fresh settings root environment).run ms = k)
    {ts : List Turn} (hts : (fresh settings root environment).turns ms = ts) :
    (ts.flatMap Turn.begun).Nodup ∧
      (∀ g, g ∈ ts.flatMap Turn.begun →
        k.generations.count g = 1 ∧ k.connections.endings.count g = 0 ∨
          k.generations.count g = 0 ∧ k.connections.endings.count g = 1) ∧
      (∀ g, g ∉ ts.flatMap Turn.begun → g ∉ k.generations ∧ g ∉ k.connections.endings) ∧
      (∀ pre t post, ts = pre ++ t :: post → t.move = .finishShutdownAll →
        t.after.slots.instances = [] ∧ t.after.retiring = [] ∧
          ∀ u ∈ pre ++ [t], ∀ g ∈ u.begun, t.after.connections.endings.count g = 1) ∧
      ∀ pre t mid u post, ts = pre ++ t :: (mid ++ u :: post) → t.move = .beginShutdownAll →
        (∀ v ∈ mid ++ [u], ∀ s w, v.move ≠ .reconfigure s w) → u.launches = [] := by
  subst hk hts
  have hc := fresh_coherent settings root environment
  have haccounts (ns : List Move) :=
    run_accounts hc (fresh_numbered settings root environment) rfl rfl ns
  generalize fresh settings root environment = h at hc haccounts
  obtain ⟨hnodup, hcount⟩ := haccounts ms
  refine ⟨hnodup, fun g hg => ?_, fun g hg => ?_, fun pre t post hsplit hm => ?_,
    fun pre t mid u post hsplit hm hrenew => ?_⟩
  · have hone := hcount g
    rw [List.count_eq_one_of_mem hnodup hg] at hone
    omega
  · have hnone := hcount g
    rw [List.count_eq_zero_of_not_mem hg, Nat.add_eq_zero_iff] at hnone
    exact ⟨List.count_eq_zero.mp hnone.1, List.count_eq_zero.mp hnone.2⟩
  · obtain ⟨ns, rest, hb, hpre, -⟩ := turns_mem_split hsplit
    obtain ⟨hslots, hretiring⟩ := turn_concluded (hb ▸ run_coherent hc ns) hm
    refine ⟨hslots, hretiring, fun u hu g hg => ?_⟩
    have hrun : h.run (ns ++ [t.move]) = t.after := by rw [run_append, ← hb]; rfl
    have hturns : h.turns (ns ++ [t.move]) = pre ++ [t] := by
      rw [turns_append, ← hb, ← hpre]
      rfl
    obtain ⟨hnodup, hcount⟩ := haccounts (ns ++ [t.move])
    rw [hrun, hturns] at hcount
    have hone := hcount g
    rw [List.count_eq_one_of_mem (hturns ▸ hnodup) (List.mem_flatMap.mpr ⟨u, hu, hg⟩)] at hone
    simpa [generations, hslots, hretiring] using hone
  · obtain ⟨ns, rest, hb, -, hpost⟩ := turns_mem_split hsplit
    exact turns_launchless (hb ▸ run_coherent hc ns) hm hpost.symm hrenew

end Host

namespace Sample

def curfew : List Move :=
  [.didOpen document, .beginShutdownAll, .finishShutdownAll, .didOpen document]

end Sample

namespace Host

theorem curfew_held_or_ended :
    1 ∈ (Sample.session.turns Sample.curfew).flatMap Turn.begun ∧
      (Sample.session.run (Sample.curfew.take 3)).generations = [] ∧
      (Sample.session.run (Sample.curfew.take 3)).connections.endings.count 1 = 1 ∧
      Turn.launches ⟨Sample.session.run (Sample.curfew.take 3), .didOpen Sample.document⟩ = [] := by
  let turn (n : Nat) (m : Move) : Turn := ⟨Sample.session.run (Sample.curfew.take n), m⟩
  have hopened : 1 ∈ (turn 0 (.didOpen Sample.document)).begun := by decide +kernel
  have hts : Sample.session.turns Sample.curfew =
      [turn 0 (.didOpen Sample.document), turn 1 .beginShutdownAll, turn 2 .finishShutdownAll,
        turn 3 (.didOpen Sample.document)] := rfl
  obtain ⟨-, -, -, hend, hsilent⟩ :=
    processes_held_or_ended Sample.settings none Sample.environment Sample.curfew rfl hts
  obtain ⟨hslots, hretiring, hended⟩ := hend [_, _] (turn 2 .finishShutdownAll) [_] rfl rfl
  refine ⟨?_, ?_, hended _ (by simp) 1 hopened, ?_⟩
  · rw [hts]
    exact List.mem_flatMap.mpr ⟨_, List.mem_cons_self, hopened⟩
  · have hgone : (turn 2 .finishShutdownAll).after.generations = [] := by
      simp [generations, hslots, hretiring]
    exact hgone
  · refine hsilent [_] (turn 1 .beginShutdownAll) [_] (turn 3 (.didOpen Sample.document)) [] rfl rfl ?_
    simp [turn]

end Host

end LanguageHost
