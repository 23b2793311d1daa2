import LanguageHost.Proofs.Session.Hearing
import LanguageHost.Proofs.Session.Manners
import LanguageHost.Proofs.Session.Texts

/-! The course of the conversations with the servers. What a server is sent in a step depends on where
its connection is: with a server in a slot, or with one that was replaced. -/

namespace LanguageHost

def Deed.subject? : Deed → Option Document
  | about d | edit d _ => some d
  | _ => none

inductive Station where
  | current (st : Lifecycle)
  | retired

namespace Station

inductive Leads : Station → Station → Prop
  | stays (p : Station) : Leads p p
  | leaves (st : Lifecycle) : Leads (.current st) (.current .shuttingDown)
  | retires : Leads (.current .shuttingDown) .retired

def Allows : Station → Headway → Prop
  | current .awaitingInitialize, st => st = .silent ∨ st = .greeting
  | current .ready, st => st = .serving
  | _, _ => True

/-- The occasions on which a message is sent on a connection that was made before. -/
inductive Sends (n : Nat) : Deed → Station → Outbound → Station → Prop
  | answered {deed : Deed} (p : Station) (id : RequestId) (r : Reply) : Sends n deed p (.reply id r) p
  | served {deed : Deed} (m : Outbound) (hm : m.isFeature = true)
      (hd : m.act? = none ∨ deed.subject?.isSome = true) :
      Sends n deed (.current .ready) m (.current .ready)
  | welcomed (l : LanguageId) (response : Json) (params : Option Json) :
      Sends n (.welcome l n response) (.current .awaitingInitialize)
        (.notification "initialized" params) (.current .ready)
  | stopped (l : LanguageId) (st : Lifecycle) (id : Int) (params : Option Json)
      (hst : st ≠ .shuttingDown) :
      Sends n (.stop l) (.current st) (.request id "shutdown" params) (.current .shuttingDown)
  | reminded (id : Int) (params : Option Json) :
      Sends n (.again n) (.current .shuttingDown) (.request id "shutdown" params) .retired
  | released (p : Station) (params : Option Json) (hp : p = .current .shuttingDown ∨ p = .retired) :
      Sends n (.release n) p (.notification "exit" params) p

variable {n : Nat} {deed : Deed} {p q : Station} {m : Outbound} {st : Headway}

lemma Allows.begun (h : p.Allows st) : p.Allows st.begun := by
  cases p with
  | current state => cases state <;> cases st <;> simp [Allows, Headway.begun] at h ⊢
  | retired => trivial

lemma Leads.allows (hl : p.Leads q) (h : p.Allows st) : q.Allows st := by
  cases hl with
  | stays => exact h
  | leaves | retires => trivial

lemma Sends.next (hs : Sends n deed p m q) (h : p.Allows st) :
    ∃ st', st.Next m st' ∧ q.Allows st' := by
  cases hs with
  | answered p id r => exact ⟨_, .reply st id r, h.begun⟩
  | served m hm hd =>
    obtain rfl : st = .serving := h
    exact ⟨_, .feature m hm, rfl⟩
  | welcomed l response params => exact ⟨_, .welcome st params h, rfl⟩
  | stopped l state id params | reminded id params => exact ⟨_, .stop st id params, trivial⟩
  | released p params hp =>
    refine ⟨_, .release st params, ?_⟩
    rcases hp with rfl | rfl <;> trivial

end Station

namespace Host

variable {h k : Host} {l : LanguageId} {i j : Instance} {g n : Nat} {p q : Station} {slot : Slot}
  {deed : Deed} {P : Deed → Prop}

def Has (h : Host) (g : Nat) : Station → Prop
  | .current st => ∃ l, h.Stands l g st
  | .retired => ∃ i ∈ h.retiring, i.connection = some g

/-- What a step says, and where it leaves the connections. -/
inductive Talks (h k : Host) (deed : Deed) : Prop
  | quiet (he : k.connections.submissions = h.connections.submissions)
      (hn : h.nextGeneration ≤ k.nextGeneration)
      (hp : ∀ g p, k.Has g p → ∃ q, h.Has g q ∧ q.Leads p)
  | spoken (n : Nat) (p q : Station) (m : Outbound) (result : Except TransportError Unit)
      (he : k.connections.submissions = h.connections.submissions ++ [(n, m, result)])
      (hn : k.nextGeneration = h.nextGeneration) (hp : h.Has n p) (hs : p.Sends n deed m q)
      (hq : ∀ g r, k.Has g r → g = n ∧ r = q ∨ g ≠ n ∧ h.Has g r)
  | greeted (sent : List (Nat × Submission))
      (he : k.connections.submissions = h.connections.submissions ++ sent)
      (hs : sent = [] ∨ ∃ (id : Int) (params : Option Json) (result : Except TransportError Unit),
        sent = [(h.nextGeneration, .request id "initialize" params, result)])
      (hn : k.nextGeneration = h.nextGeneration + 1)
      (hq : ∀ g r, k.Has g r → g = h.nextGeneration ∧ r = .current .awaitingInitialize ∨
        g ≠ h.nextGeneration ∧ h.Has g r)

section Having

lemma Coherent.has_unique (hc : h.Coherent) (hp : h.Has g p) (hq : h.Has g q) : p = q := by
  cases p with
  | current st =>
    obtain ⟨l, i, hi, hg, rfl⟩ := hp
    cases q with
    | current st' =>
      obtain ⟨m, j, hj, hjg, rfl⟩ := hq
      obtain rfl : l = m := Option.some.inj ((hc.linked hi hg).symm.trans (hc.linked hj hjg))
      rw [Option.some.inj (hi.symm.trans hj)]
    | retired =>
      obtain ⟨j, hj, hjg⟩ := hq
      exact absurd hjg (hc.current hi hg j hj)
  | retired =>
    obtain ⟨i, hi, hg⟩ := hp
    cases q with
    | current st' =>
      obtain ⟨m, j, hj, hjg, -⟩ := hq
      exact absurd hg (hc.current hj hjg i hi)
    | retired => rfl

lemma Coherent.has_issued (hc : h.Coherent) (hp : h.Has g p) : g < h.nextGeneration := by
  apply hc.mem_generations
  rw [generations_eq, List.mem_append]
  cases p with
  | current st =>
    obtain ⟨l, i, hi, hg, -⟩ := hp
    exact .inl ((Slots.mem_live hc.languages).mpr ⟨l, i, instance?_eq_some.mp hi, hg⟩)
  | retired =>
    obtain ⟨i, hi, hg⟩ := hp
    exact .inr (List.mem_filterMap.mpr ⟨i, hi, hg⟩)

lemma has_current (hi : h.instance? l = some i) (hg : i.connection = some g) :
    h.Has g (.current i.state) :=
  ⟨l, i, hi, hg, rfl⟩

lemma has_kept (hs : k.slots = h.slots) (hr : ∀ i ∈ k.retiring, i ∈ h.retiring) (hp : k.Has g p) :
    h.Has g p := by
  cases p with
  | current st =>
    obtain ⟨l, i, hi, hg⟩ := hp
    exact ⟨l, i, by simpa only [instance?, hs] using hi, hg⟩
  | retired =>
    obtain ⟨i, hi, hg⟩ := hp
    exact ⟨i, hr i hi, hg⟩

lemma has_filled (hp : k.Has g p) (hs : k.slots = h.slots.set l slot)
    (hr : k.retiring = h.retiring) :
    h.Has g p ∨ ∃ j, slot = .active j ∧ j.connection = some g ∧ p = .current j.state := by
  cases p with
  | current st =>
    obtain ⟨m, i, hi, hg, rfl⟩ := hp
    rw [instance?_eq_some, hs, Slots.get?_set] at hi
    split at hi
    · exact .inr ⟨i, Option.some.inj hi, hg, rfl⟩
    · exact .inl ⟨m, i, instance?_eq_some.mpr hi, hg, rfl⟩
  | retired =>
    obtain ⟨i, hi, hg⟩ := hp
    exact .inl ⟨i, hr ▸ hi, hg⟩

lemma has_erased {N : Instance → Prop} (hp : k.Has g p) (hs : k.slots = h.slots.erase l)
    (hr : ∀ j ∈ k.retiring, j ∈ h.retiring ∨ N j) :
    h.Has g p ∨ p = .retired ∧ ∃ j, N j ∧ j.connection = some g := by
  cases p with
  | current st =>
    obtain ⟨m, j, hj, hg⟩ := hp
    exact .inl ⟨m, j, instance?_eq_some.mpr (Coherent.unfilled hs m _ (instance?_eq_some.mp hj)), hg⟩
  | retired =>
    obtain ⟨j, hj, hg⟩ := hp
    exact (hr j hj).imp (fun hj => ⟨j, hj, hg⟩) fun hj => ⟨rfl, j, hj, hg⟩

end Having

namespace Talks

variable {sent : List (Nat × Submission)} {method : String} {params : Json}

section Quiet

variable (he : k.connections.submissions = h.connections.submissions)
  (hn : h.nextGeneration ≤ k.nextGeneration)
include he hn

lemma still (hp : ∀ g p, k.Has g p → h.Has g p) : Talks h k deed :=
  .quiet he hn fun g p hk => ⟨p, hp g p hk, .stays p⟩

lemma kept (hs : k.slots = h.slots) (hr : ∀ i ∈ k.retiring, i ∈ h.retiring) : Talks h k deed :=
  .still he hn fun _ _ => has_kept hs hr

lemma vacated (hs : k.slots = h.slots.set l slot) (hr : k.retiring = h.retiring)
    (hslot : slot.connection? = none) : Talks h k deed := by
  refine .still he hn fun g p hk => ?_
  rcases has_filled hk hs hr with hh | ⟨j, rfl, hg, -⟩
  · exact hh
  · exact absurd (hslot.symm.trans hg) (by simp)

lemma erased (hs : k.slots = h.slots.erase l) (hr : k.retiring = h.retiring) : Talks h k deed := by
  refine .still he hn fun g p hk => ?_
  rcases has_erased (N := fun _ => False) hk hs fun j hj => .inl (hr ▸ hj) with hh | ⟨-, j, hj, -⟩
  · exact hh
  · exact hj.elim

end Quiet

section Spoken

variable (hk : k.Coherent) (he : h.connections.Evolves k.connections sent)
  (hn : k.nextGeneration = h.nextGeneration)
include hk he hn

lemma posed (hp : h.Has n p) (hq : k.Has n q) (ha : ∀ g r, g ≠ n → k.Has g r → h.Has g r)
    (hm : sent = [] ∧ p.Leads q ∨ ∃ m result, sent = [(n, m, result)] ∧ p.Sends n deed m q) :
    Talks h k deed := by
  have hr (g : Nat) (r : Station) (hgr : k.Has g r) : g = n ∧ r = q ∨ g ≠ n ∧ h.Has g r := by
    by_cases hg : g = n
    · subst hg
      exact .inl ⟨rfl, hk.has_unique hgr hq⟩
    · exact .inr ⟨hg, ha g r hg hgr⟩
  rcases hm with ⟨rfl, hl⟩ | ⟨m, result, rfl, hm⟩
  · refine .quiet he.silent (Nat.le_of_eq hn.symm) fun g r hgr => ?_
    rcases hr g r hgr with ⟨rfl, rfl⟩ | ⟨-, hh⟩
    · exact ⟨p, hp, hl⟩
    · exact ⟨r, hh, .stays r⟩
  · exact .spoken n p q m result he.submissions hn hp hm hr

lemma said (hs : k.slots = h.slots) (hr : k.retiring = h.retiring) (hp : h.Has n p)
    (hm : sent = [] ∨ ∃ m result, sent = [(n, m, result)] ∧ p.Sends n deed m p) :
    Talks h k deed :=
  .posed hk he hn hp (has_kept hs.symm (fun _ hi => hr.symm ▸ hi) hp)
    (fun _ _ _ => has_kept hs fun _ hi => hr ▸ hi) (hm.imp_left fun hm => ⟨hm, .stays p⟩)

lemma amended (hi : h.instance? l = some i) (hg : i.connection = some n)
    (hs : k.slots = h.slots.set l (.active j)) (hr : k.retiring = h.retiring)
    (hj : j.connection = i.connection)
    (hm : sent = [] ∧ (Station.current i.state).Leads (.current j.state) ∨ ∃ m result,
      sent = [(n, m, result)] ∧ (Station.current i.state).Sends n deed m (.current j.state)) :
    Talks h k deed := by
  have hki : k.instance? l = some j := instance?_eq_some.mpr (by rw [hs, Slots.get?_set, if_pos rfl])
  refine .posed hk he hn (has_current hi hg) (has_current hki (hj.trans hg)) ?_ hm
  intro g r hgn hgr
  rcases has_filled hgr hs hr with hh | ⟨_, ⟨⟩, hjg, -⟩
  · exact hh
  · exact absurd (Option.some.inj (hjg.symm.trans (hj.trans hg))) hgn

end Spoken

lemma renewed (hi : h.instance? l = some i) (he : k.connections = h.connections)
    (hs : k.slots = h.slots.set l (.active j)) (hr : k.retiring = h.retiring)
    (hn : k.nextGeneration = h.nextGeneration) (hj : j.connection = i.connection)
    (hst : j.state = i.state) : Talks h k deed := by
  refine .still (by rw [he]) (Nat.le_of_eq hn.symm) fun g p hk => ?_
  rcases has_filled hk hs hr with hh | ⟨_, ⟨⟩, hg, rfl⟩
  · exact hh
  · exact hst ▸ has_current hi (hj.symm.trans hg)

section Serving

variable (hk : k.Coherent) (hi : h.instance? l = some i) (hst : i.state = .ready)
  (hf : Outbound.featureMethod method = true)
include hk hi hst hf

lemma informed (hc : h.Coherent) (hd : deed.subject?.isSome = true)
    (he : k.connections = h.connections.tell i.connection method params)
    (hs : k.slots = h.slots.set l (.active j)) (hr : k.retiring = h.retiring)
    (hn : k.nextGeneration = h.nextGeneration) (hj : j.connection = i.connection)
    (hjst : j.state = i.state) : Talks h k deed := by
  obtain ⟨g, hg⟩ := hc.runs hi hst
  obtain ⟨result, hsent, -⟩ :=
    Connections.notify_evolves (hc.linked hi hg.linked) method params
  refine .amended hk (by rw [he, hg.linked]; exact hsent) hn hi hg.linked hs hr hj (.inr ?_)
  refine ⟨_, result, rfl, ?_⟩
  rw [hjst, hst]
  exact .served _ (by simpa [Outbound.isFeature, Outbound.method?] using hf) (.inr hd)

lemma consulted {t : Ticket} (hg : i.connection = some g)
    (hd : Outbound.aboutDocument method = false ∨ deed.subject?.isSome = true)
    (he : k.connections = (h.connections.call g method params t).1) (hs : k.slots = h.slots)
    (hr : k.retiring = h.retiring) (hn : k.nextGeneration = h.nextGeneration) : Talks h k deed := by
  obtain ⟨sent, hsent, hm⟩ := Connections.call_sends h.connections g method params t
  refine .said hk (he ▸ hsent) hn hs hr (has_current hi hg) (hm.imp_right ?_)
  rintro ⟨id, result, rfl⟩
  refine ⟨_, result, rfl, ?_⟩
  rw [hst]
  exact .served _ (by simpa [Outbound.isFeature, Outbound.method?] using hf)
    (hd.imp_left fun hd => by simp [Outbound.act?, hd])

end Serving

end Talks

lemma Step.talks (hs : Step h deed k) (hc : h.Coherent) : Talks h k deed := by
  have hk : k.Coherent := hs.coherent hc
  cases hs with
  | logged r => exact .kept (Connections.log_evolves _ r).silent (Nat.le_refl _) rfl fun _ => id
  | told | taken | progressed | announced | requested | elapsed | surrounded | sealed | replaced
    | popped | collected => exact .kept rfl (Nat.le_refl _) rfl fun _ => id
  | shuffled retiring hp => exact .kept rfl (Nat.le_refl _) rfl fun _ => hp.mem_iff.mpr
  | received g signals =>
    exact .kept (Connections.receive_evolves _ g signals).silent (Nat.le_refl _) rfl fun _ => id
  | ended g => exact .kept (Connections.endOutput_evolves _ g).silent (Nat.le_refl _) rfl fun _ => id
  | planned g plan =>
    exact .kept (Connections.setPlan_evolves _ g plan).silent (Nat.le_refl _) rfl fun _ => id
  | configured l slot notes hn hconf =>
    refine .vacated (l := l) (Connections.logs_evolves notes _).silent (Nat.le_refl _) rfl rfl ?_
    cases slot with
    | active i => rw [Slot.connection?, Slot.instance?, ((configure_ok hconf).2 i rfl).2]; rfl
    | _ => rfl
  | touched l i hi | unlisted l i d hi => exact .renewed hi rfl rfl rfl rfl rfl rfl
  | replied l i g id r hi hg =>
    obtain ⟨sent, he, hm⟩ := Connections.reply_evolves h.connections g id r
    refine .said hk he rfl rfl rfl (has_current hi hg) (hm.imp_right ?_)
    rintro ⟨result, rfl⟩
    exact ⟨_, result, rfl, .answered _ id r⟩
  | searched l i g query hi hr hg =>
    exact .consulted hk hi hr (by decide) hg (.inl (by decide)) rfl rfl rfl rfl
  | asked l i g kind d uri p hi hr hg =>
    exact .consulted hk hi hr (Outbound.featureMethod_kind kind) hg (.inr rfl) rfl rfl rfl rfl
  | opened l i d uri hi hr | changed l i d change uri hi hr | saved l i d uri hi hr
    | closed l i d uri hi hr =>
    exact .informed hk hi hr (by decide) hc rfl rfl rfl rfl rfl rfl rfl
  | launched l i request notes plan hi =>
    have hnone : (h.launching request notes).language? h.nextGeneration = none :=
      ((launching_keeps h request notes).language _).trans (hc.fresh _ (Nat.le_refl _))
    obtain ⟨sent, he, hsent⟩ := i.connect_evolves h.root h.environment h.nextGeneration plan
      (h.environment.overture h.nextGeneration request) _ hnone
    refine .greeted sent (he.submissions.trans ?_) hsent rfl fun g p hp => ?_
    · exact congrArg (· ++ _) (launching_submissions h request notes)
    · rcases has_filled (h := h) (l := l) hp rfl rfl with hh | ⟨_, ⟨⟩, hjg, rfl⟩
      · exact .inr ⟨Nat.ne_of_lt (hc.has_issued hh), hh⟩
      · exact .inl ⟨(Option.some.inj hjg).symm, rfl⟩
  | unlaunched l i e =>
    exact .vacated (l := l) (Connections.log_evolves _ _).silent (Nat.le_succ _) rfl rfl rfl
  | failed l i request notes e =>
    refine .vacated (l := l) ?_ (Nat.le_succ _) rfl rfl rfl
    exact (Connections.log_evolves _ _).silent.trans (launching_submissions h request notes)
  | unattached l i request notes plan e =>
    refine .vacated (l := l) ?_ (Nat.le_succ _) rfl rfl rfl
    exact ((Connections.record_evolves _ rfl rfl).trans (Connections.log_evolves _ _)).silent.trans
      (launching_submissions h request notes)
  | welcomed l i g response hi hst hg =>
    obtain ⟨result, he⟩ :=
      Instance.initializeSucceeded_sends hg (hc.linked hi hg) response
    refine .amended hk he rfl hi hg rfl rfl rfl (.inr ⟨_, result, rfl, ?_⟩)
    rw [hst]
    exact .welcomed l response _
  | lost l i | abandoned l i =>
    exact .vacated (l := l) (i.finish_evolves .forceExit _).silent (Nat.le_refl _) rfl rfl rfl
  | stopping l i g hi hg hst =>
    obtain ⟨sent, he, hm⟩ := Connections.call_sends h.connections g "shutdown" .null .shutdown
    refine .amended hk he rfl hi hg rfl rfl rfl ?_
    refine hm.imp (fun hm => ⟨hm, .leaves _⟩) ?_
    rintro ⟨id, result, rfl⟩
    exact ⟨_, result, rfl, .stopped l _ id _ hst⟩
  | reminded l i g hi hg hst =>
    obtain ⟨sent, he, hm⟩ := Connections.call_sends h.connections g "shutdown" .null .shutdown
    refine .posed hk he rfl (has_current hi hg) (q := .retired) ?_ ?_ ?_
    · exact ⟨_, List.mem_append_right _ (List.mem_singleton_self _), hg⟩
    · intro n r hn hr
      rcases has_erased (h := h) (l := l) (N := (· = i.leaving h.now)) hr rfl
        (fun j hj => (List.mem_append.mp hj).imp_right List.mem_singleton.mp)
        with hh | ⟨-, _, rfl, hj⟩
      · exact hh
      · exact absurd (Option.some.inj (hj.symm.trans hg)) hn
    · rw [hst]
      refine hm.imp (fun hm => ⟨hm, .retires⟩) ?_
      rintro ⟨id, result, rfl⟩
      exact ⟨_, result, rfl, .reminded id _⟩
  | acknowledged l i g hi hg hst =>
    obtain ⟨result, he⟩ := Instance.notify_sends hg (hc.linked hi hg) "exit" .null
    refine .said hk he rfl rfl rfl (has_current hi hg) (.inr ⟨_, result, rfl, ?_⟩)
    exact .released _ _ (.inl (congrArg _ hst))
  | dropped l i how => exact .erased (l := l) (i.finish_evolves how _).silent (Nat.le_refl _) rfl rfl
  | muted l i | evicted l i =>
    exact .erased (l := l) (i.finish_evolves .forceExit _).silent (Nat.le_refl _) rfl rfl
  | excused l | idled l | forgotten l => exact .erased (l := l) rfl (Nat.le_refl _) rfl rfl
  | retired l i hi hst =>
    refine .quiet rfl (Nat.le_refl _) fun n r hr => ?_
    rcases has_erased (h := h) (l := l) (N := (· = i)) hr rfl
      (fun j hj => (List.mem_append.mp hj).imp_right List.mem_singleton.mp)
      with hh | ⟨rfl, _, rfl, hj⟩
    · exact ⟨r, hh, .stays r⟩
    · exact ⟨_, has_current hi hj, hst ▸ .retires⟩
  | released i g hi hg =>
    obtain ⟨n, hn, hl⟩ := (hc.leaves i hi).linked
    obtain rfl : n = g := Option.some.inj (hn.symm.trans hg)
    obtain ⟨result, he⟩ := Instance.notify_sends hg hl "exit" .null
    exact .said hk he rfl rfl rfl (p := .retired) ⟨i, hi, hg⟩
      (.inr ⟨_, result, rfl, .released _ _ (.inr rfl)⟩)
  | departed i rest how hp =>
    exact .kept (i.finish_evolves how _).silent (Nat.le_refl _) rfl fun j hj =>
      hp.mem_iff.mpr (List.mem_cons_of_mem i hj)
  | expelled i g rest hp =>
    exact .kept (i.finish_evolves .forceExit _).silent (Nat.le_refl _) rfl fun j hj =>
      hp.mem_iff.mpr (List.mem_cons_of_mem i hj)

section Conversing

structure Suits (h : Host) (g : Nat) (st : Headway) : Prop where
  allowed : ∀ p, h.Has g p → p.Allows st
  unmade : h.nextGeneration ≤ g → st = .silent

def Courses (h : Host) (g : Nat) : Prop :=
  ∃ st, Exchange (h.connections.messages g) st ∧ h.Suits g st

lemma Step.courses (hs : Step h deed k) (hc : h.Coherent) (hh : h.Courses g) : k.Courses g := by
  obtain ⟨st, hx, hsuits⟩ := hh
  cases hs.talks hc with
  | quiet he hn hp =>
    refine ⟨st, ?_, fun p hk => ?_, fun hg => hsuits.unmade (hn.trans hg)⟩
    · rwa [Connections.messages, he]
    · obtain ⟨q, hq, hl⟩ := hp g p hk
      exact hl.allows (hsuits.allowed q hq)
  | spoken n p q m result he hn hp hs hq =>
    have hm := Connections.messages_one he g
    by_cases hg : n = g
    · subst hg
      -- Where the connection is decides how far its conversation is, and so what may follow.
      obtain ⟨st', hnext, hallows⟩ := hs.next (hsuits.allowed p hp)
      rw [if_pos rfl] at hm
      refine ⟨st', hm ▸ .next hx hnext, fun r hr => ?_, fun hle => ?_⟩
      · rcases hq n r hr with ⟨-, rfl⟩ | ⟨hne, -⟩
        · exact hallows
        · exact absurd rfl hne
      · have := hc.has_issued hp
        omega
    · rw [if_neg hg] at hm
      refine ⟨st, hm ▸ hx, fun r hr => ?_, fun hle => hsuits.unmade (hn ▸ hle)⟩
      rcases hq g r hr with ⟨hgn, -⟩ | ⟨-, hr⟩
      · exact absurd hgn.symm hg
      · exact hsuits.allowed r hr
  | greeted sent he hs hn hq =>
    by_cases hg : h.nextGeneration = g
    · subst hg
      -- Nothing was said before on a connection that is made only now.
      obtain rfl := hsuits.unmade (Nat.le_refl _)
      have hawaits (st : Headway) (hst : st = .silent ∨ st = .greeting) :
          k.Suits h.nextGeneration st := by
        refine ⟨fun r hr => ?_, fun hle => by omega⟩
        rcases hq _ r hr with ⟨-, rfl⟩ | ⟨hne, -⟩
        · exact hst
        · exact absurd rfl hne
      rcases hs with rfl | ⟨id, params, result, rfl⟩
      · refine ⟨.silent, ?_, hawaits _ (.inl rfl)⟩
        rwa [Connections.messages, he, List.append_nil]
      · have hm := Connections.messages_one he h.nextGeneration
        rw [if_pos rfl] at hm
        exact ⟨.greeting, hm ▸ .next hx (.greet id params), hawaits _ (.inr rfl)⟩
    · have hm : k.connections.messages g = h.connections.messages g := by
        rcases hs with rfl | ⟨id, params, result, rfl⟩
        · rw [Connections.messages, he, List.append_nil]
          rfl
        · rw [Connections.messages_one he g, if_neg hg]
      refine ⟨st, hm ▸ hx, fun r hr => ?_, fun hle => hsuits.unmade (by omega)⟩
      rcases hq g r hr with ⟨hgn, -⟩ | ⟨-, hr⟩
      · exact absurd hgn.symm hg
      · exact hsuits.allowed r hr

lemma run_courses (hc : h.Coherent) (hh : h.Courses g) (ms : List Move) : (h.run ms).Courses g :=
  run_keeps (P := fun _ => True) hc hh ms (fun _ _ _ _ => trivial) (fun _ _ _ => trivial)
    fun _ hs => hs.courses

lemma fresh_courses (settings : Settings) (root : Option FilePath) (environment : Environment)
    (g : Nat) : (fresh settings root environment).Courses g := by
  refine ⟨.silent, .nil, fun p hp => ?_, fun _ => rfl⟩
  cases p with
  | current st =>
    obtain ⟨l, i, hi, -⟩ := hp
    simp [instance?, fresh, Slots.get?] at hi
  | retired =>
    obtain ⟨i, hi, -⟩ := hp
    simp [fresh] at hi

end Conversing

section Marking

def Marks (P : Deed → Prop) (s : Nat × Submission) : Prop :=
  (s.2.1.isInitialized = true → ∃ l response, P (.welcome l s.1 response)) ∧
    (s.2.1.isExit = true → P (.release s.1))

lemma Step.marks (hs : Step h deed k) (hd : P deed) (hc : h.Coherent) :
    ∃ sent, k.connections.submissions = h.connections.submissions ++ sent ∧
      ∀ s ∈ sent, Marks P s := by
  cases hs.talks hc with
  | quiet he => exact ⟨[], by simp [he], by simp⟩
  | greeted sent he hs =>
    refine ⟨sent, he, fun s hm => ?_⟩
    rcases hs with rfl | ⟨id, params, result, rfl⟩
    · simp at hm
    · obtain rfl := List.mem_singleton.mp hm
      simp [Marks, Outbound.isInitialized, Outbound.isExit]
  | spoken n p q m result he hn hp hs =>
    refine ⟨_, he, fun s hm => ?_⟩
    obtain rfl := List.mem_singleton.mp hm
    cases hs with
    | answered | stopped | reminded => simp [Marks, Outbound.isInitialized, Outbound.isExit]
    | served m hf =>
      obtain ⟨-, hi, -, he⟩ := Outbound.isFeature_alone hf
      simp [Marks, hi, he]
    | welcomed l response =>
      exact ⟨fun _ => ⟨l, response, hd⟩, by simp [Outbound.isExit]⟩
    | released => exact ⟨by simp [Outbound.isInitialized], fun _ => hd⟩

lemma Walk.marks (hw : Walk P h k) (hc : h.Coherent) :
    ∃ sent, k.connections.submissions = h.connections.submissions ++ sent ∧
      ∀ s ∈ sent, Marks P s := by
  refine (hw.keeps (I := fun k => k.Coherent ∧ ∃ sent, k.connections.submissions =
    h.connections.submissions ++ sent ∧ ∀ s ∈ sent, Marks P s) ⟨hc, [], by simp, by simp⟩ ?_).2
  intro a b d hd hs ⟨ha, sent, hsent, hm⟩
  obtain ⟨more, hmore, hn⟩ := hs.marks hd ha
  refine ⟨hs.coherent ha, sent ++ more, by rw [hmore, hsent, List.append_assoc], fun s hs => ?_⟩
  exact (List.mem_append.mp hs).elim (hm s) (hn s)

lemma perform_marks (hc : h.Coherent) (m : Move) :
    ∃ sent, (h.perform m).connections.submissions = h.connections.submissions ++ sent ∧
      ∀ s ∈ sent, Marks (h.Stirs m) s := by
  obtain ⟨k, hw, hcalm⟩ := perform_walk hc.languages m
  obtain ⟨sent, hsent, hm⟩ := hw.marks hc
  obtain ⟨more, hmore, hn⟩ := hcalm.marks (hw.coherent hc)
  refine ⟨sent ++ more, by rw [hmore, hsent, List.append_assoc], fun s hs => ?_⟩
  rcases List.mem_append.mp hs with hs | hs
  · exact hm s hs
  -- A calm step neither welcomes nor releases a server.
  obtain ⟨hi, he⟩ := hn s hs
  refine ⟨fun h => ?_, fun h => (he h).elim⟩
  obtain ⟨l, response, hl⟩ := hi h
  exact hl.elim

lemma turn_marks {t : Turn} (hc : t.before.Coherent) {s : Nat × Submission} (hs : s ∈ t.sent) :
    Marks (t.before.Stirs t.move) s := by
  obtain ⟨sent, hsent, hm⟩ := perform_marks hc t.move
  rw [Turn.sent_eq hsent] at hs
  exact hm s hs

end Marking

end Host

namespace Sample

def answers (id : Int) (result : Json) : Move :=
  .receive 1 ((Frame.encode (Utf8.encode
    (Json.renderOrdered [("id", .int id), ("result", result)]))).map .byte)

def visit : List Move :=
  [.didOpen document, answers 1 (.object [("capabilities", .object [])]), .handle {},
    .catchUp language document, .shutdown language]

end Sample

end LanguageHost
