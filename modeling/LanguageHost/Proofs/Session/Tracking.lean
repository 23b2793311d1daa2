import LanguageHost.Proofs.Session.Loss

namespace LanguageHost

namespace ProgressTracker

variable {t : ProgressTracker} {l m : LanguageId} {token other : ProgressToken} {s : ProgressState}

lemma create_get? (hs : (t.create m other).get? (l, token) = some s) :
    t.get? (l, token) = some s ∨ m = l ∧ s = {} := by
  simp only [create] at hs
  split at hs
  · exact .inl hs
  · rw [get?_set] at hs
    split at hs
    · next he => exact .inr ⟨(congrArg Prod.fst he).symm, (Option.some.inj hs).symm⟩
    · exact .inl hs

lemma update_get? {params : Json} (hs : (t.update m params).1.get? (l, token) = some s) :
    t.get? (l, token) = some s ∨ m = l ∧ ∃ step, Progress.read? params = some (token, step) := by
  simp only [update] at hs
  split at hs
  · exact .inl hs
  · next other step hr =>
    by_cases he : (l, token) = (m, other)
    · obtain ⟨rfl, rfl⟩ := Prod.ext_iff.mp he
      exact .inr ⟨rfl, step, hr⟩
    · simp only [ProgressTracker.step] at hs
      split at hs
      · rw [get?_remove, if_neg he] at hs
        exact .inl hs
      · rw [get?_set, if_neg he] at hs
        exact .inl hs

end ProgressTracker

def ServerEvent.progress? (e : ServerEvent) : Option (ProgressToken × ProgressStep) :=
  match e.kind with
  | .notification method params => if method = "$/progress" then Progress.read? params else none
  | _ => none

lemma ServerEvent.progress?_eq_some {e : ServerEvent} {token : ProgressToken} {step : ProgressStep}
    (he : e.progress? = some (token, step)) : ∃ params,
    e.kind = .notification "$/progress" params ∧ Progress.read? params = some (token, step) := by
  obtain ⟨l, g, kind⟩ := e
  cases kind with
  | notification method params =>
    simp only [progress?, Option.ite_none_right_eq_some] at he
    exact ⟨params, by rw [he.1], he.2⟩
  | _ => cases he

namespace Host

variable {h k : Host} {l m : LanguageId} {i j : Instance} {token : ProgressToken} {deed : Deed}
  {seen : Nat → Prop}

def Tracks (h : Host) (l : LanguageId) (token : ProgressToken) (seen : Nat → Prop) : Prop :=
  ∀ s, h.progress.get? (l, token) = some s → ∃ g, h.isCurrent l g = true ∧ (s = {} ∨ seen g)

namespace Tracks

lemma mono {more : Nat → Prop} (ht : h.Tracks l token seen) (hseen : ∀ g, seen g → more g) :
    h.Tracks l token more := by
  intro s hs
  obtain ⟨g, hg, hb⟩ := ht s hs
  exact ⟨g, hg, hb.imp_right (hseen g)⟩

lemma same (ht : h.Tracks l token seen) (hg : ∀ g, h.isCurrent l g = true → k.isCurrent l g = true)
    (hp : k.progress = h.progress) : k.Tracks l token seen := by
  intro s hs
  obtain ⟨g, hcur, hb⟩ := ht s (hp ▸ hs)
  exact ⟨g, hg g hcur, hb⟩

lemma rewired (ht : h.Tracks l token seen) (hi : h.instance? m = some i)
    (hs : k.slots = h.slots.set m (.active j)) (hj : j.connection = i.connection)
    (hp : k.progress = h.progress) : k.Tracks l token seen := by
  refine ht.same (fun g hg => ?_) hp
  obtain ⟨n, hn, hng⟩ := isCurrent_iff.mp hg
  by_cases hm : m = l
  · subst hm
    obtain rfl : i = n := Option.some.inj (hi.symm.trans hn)
    refine isCurrent_iff.mpr ⟨j, ?_, hj.trans hng⟩
    rw [instance?_eq_some, hs, Slots.get?_set, if_pos rfl]
  · refine isCurrent_iff.mpr ⟨n, ?_, hng⟩
    rwa [instance?_eq_some, hs, Slots.get?_set, if_neg hm, ← instance?_eq_some]

lemma moved (ht : h.Tracks l token seen) (hs : ∀ n, m ≠ n → k.slots.get? n = h.slots.get? n)
    (hp : m ≠ l → k.progress.get? (l, token) = h.progress.get? (l, token))
    (hself : m = l → k.progress.get? (l, token) = none) : k.Tracks l token seen := by
  intro s hk
  by_cases hm : m = l
  · simp [hself hm] at hk
  · obtain ⟨g, hcur, hb⟩ := ht s (hp hm ▸ hk)
    refine ⟨g, ?_, hb⟩
    simpa only [isCurrent, instance?, hs l hm] using hcur

lemma cleared (ht : h.Tracks l token seen) (hs : ∀ n, m ≠ n → k.slots.get? n = h.slots.get? n)
    (hp : k.progress = h.progress.clear m) : k.Tracks l token seen := by
  refine ht.moved hs (fun hm => ?_) fun hm => ?_
  · rw [hp, ProgressTracker.get?_clear, if_neg hm]
  · rw [hp, ProgressTracker.get?_clear, if_pos hm]

lemma vacant (ht : h.Tracks l token seen) (hs : ∀ n, m ≠ n → k.slots.get? n = h.slots.get? n)
    (hp : k.progress = h.progress) (hn : ∀ g, h.isCurrent m g = false) : k.Tracks l token seen := by
  refine ht.moved hs (fun _ => by rw [hp]) ?_
  rintro rfl
  rw [hp]
  by_contra hs
  obtain ⟨s, hs⟩ := Option.ne_none_iff_exists'.mp hs
  obtain ⟨g, hg, -⟩ := ht s hs
  simp [hn g] at hg

end Tracks

lemma Coherent.idle (hc : h.Coherent) (hi : h.instance? l = some i) (hs : i.state = .stopped)
    (g : Nat) : h.isCurrent l g = false := by
  have hnone : i.connection = none := by
    rw [← Option.not_isSome_iff_eq_none, (hc.sound hi).connected]
    simp [hs]
  simp [isCurrent, hi, hnone]

lemma Step.tracks (hs : Step h deed k) (hc : h.Coherent) (ht : h.Tracks l token seen)
    (hevict : deed ≠ .evict l)
    (hseen : ∀ g params step, deed = .progress l g params →
      Progress.read? params = some (token, step) → seen g) : k.Tracks l token seen := by
  cases hs with
  | logged | told | taken | requested | elapsed | surrounded | popped | received | ended | planned
    | collected | replied | searched | asked | acknowledged | released | sealed | replaced | shuffled
    | departed | expelled => exact ht
  | progressed m i g params hi hg =>
    intro s hs
    rcases ProgressTracker.update_get? hs with hs | ⟨rfl, step, hr⟩
    · exact ht s hs
    · exact ⟨g, isCurrent_iff.mpr ⟨i, hi, hg⟩, .inr (hseen g params step rfl hr)⟩
  | announced m i g other hi hg =>
    intro s hs
    rcases ProgressTracker.create_get? hs with hs | ⟨rfl, rfl⟩
    · exact ht s hs
    · exact ⟨g, isCurrent_iff.mpr ⟨i, hi, hg⟩, .inl rfl⟩
  | touched m i hi | opened m i d uri hi | changed m i d change uri hi | saved m i d uri hi
    | closed m i d uri hi | unlisted m i d hi | welcomed m i g response hi | stopping m i g hi =>
    exact ht.rewired hi rfl rfl rfl
  -- Nothing is kept of the tokens of a language that has no current server.
  | configured m slot notes hn =>
    refine ht.vacant (m := m) (fun n hm => ?_) rfl fun g => by simp [isCurrent, instance?, hn]
    exact (Slots.get?_set ..).trans (if_neg hm)
  | launched m i request notes plan hi hst =>
    refine ht.vacant (m := m) (fun n hm => ?_) rfl (hc.idle hi hst)
    exact (Slots.get?_set ..).trans (if_neg hm)
  | unlaunched m | failed m | unattached m | lost m | abandoned m =>
    refine ht.cleared (m := m) (fun n hm => ?_) rfl
    exact (Slots.get?_set ..).trans (if_neg hm)
  | reminded m | dropped m | excused m | idled m | muted m | retired m =>
    refine ht.cleared (m := m) (fun n hm => ?_) rfl
    exact (Slots.get?_erase ..).trans (if_neg hm)
  | forgotten m hi =>
    refine ht.vacant (m := m) (fun n hm => ?_) rfl fun g => by simp [isCurrent, hi]
    exact (Slots.get?_erase ..).trans (if_neg hm)
  | evicted m i hi =>
    have hm : m ≠ l := fun hm => hevict (by rw [hm])
    refine ht.same (fun g hg => ?_) rfl
    simpa [isCurrent, instance?, Slots.get?_erase, hm] using hg

lemma concluding_progress (h : Host) : h.concluding.progress = h.progress := by
  have hevict (ls : List LanguageId) (k : Host) :
      (ls.foldl removeByForce k).progress = k.progress := by
    induction ls generalizing k with
    | nil => rfl
    | cons l rest ih =>
      rw [List.foldl_cons, ih]
      simp only [removeByForce]
      split
      · rfl
      · split <;> rfl
  have hretire (is : List Instance) (k : Host) :
      (is.foldl retireByForce k).progress = k.progress := by
    induction is generalizing k with
    | nil => rfl
    | cons i rest ih => exact ih (k.retireByForce i)
  exact (hretire _ _).trans (hevict _ h)

end Host

namespace Turn

open Host

variable {t : Turn} {pre : List Turn} {l : LanguageId} {token : ProgressToken} {e : ServerEvent}
  {step : ProgressStep}

def Mentions (t : Turn) (g : Nat) (token : ProgressToken) : Prop :=
  ∃ e step, t.event? = some e ∧ e.generation = g ∧ e.progress? = some (token, step)

def Strands (t : Turn) (l : LanguageId) (token : ProgressToken) : Prop :=
  t.move = .finishShutdownAll ∧ (t.before.progress.get? (l, token)).isSome = true

/-- Something is kept of the token, and was kept ever since everything was ended by force in one of
the turns. -/
def Stranded (pre : List Turn) (h : Host) (l : LanguageId) (token : ProgressToken) : Prop :=
  ∃ ps u qs, pre = ps ++ u :: qs ∧ u.Strands l token ∧
    (∀ v ∈ qs, (v.before.progress.get? (l, token)).isSome = true) ∧
    (h.progress.get? (l, token)).isSome = true

/-- A step of the token is handled, the first that its sender has sent, which is the current server of
the language. -/
def Introduces (pre : List Turn) (t : Turn) (l : LanguageId) (token : ProgressToken)
    (step : ProgressStep) : Prop :=
  ∃ e, t.event? = some e ∧ e.language = l ∧ e.progress? = some (token, step) ∧
    t.before.isCurrent l e.generation = true ∧ ∀ u ∈ pre, ¬u.Mentions e.generation token

def Tracks (pre : List Turn) (h : Host) (l : LanguageId) (token : ProgressToken) : Prop :=
  h.Tracks l token fun g => ∃ u ∈ pre, u.Mentions g token

lemma Tracks.untracked {h : Host} (hn : h.progress.get? (l, token) = none) :
    Tracks pre h l token := by
  intro s hs
  simp [hn] at hs

lemma Tracks.next (ht : Tracks pre t.before l token) (hc : t.before.Coherent)
    (hs : ¬t.Strands l token) : Tracks (pre ++ [t]) t.after l token := by
  by_cases hm : t.move = .finishShutdownAll
  · refine .untracked ?_
    have hnone : t.before.progress.get? (l, token) = none := by simpa [Strands, hm] using hs
    rw [after, hm, perform, finishShutdownAll_eq]
    exact (congrArg (·.get? (l, token)) (concluding_progress _)).trans hnone
  have hmore : t.before.Tracks l token fun g => ∃ u ∈ pre ++ [t], u.Mentions g token :=
    ht.mono fun _ hg => hg.imp fun _ => And.imp_left (List.mem_append_left _)
  refine perform_keeps (P := fun d => d ≠ .evict l ∧ ∀ g params step, d = .progress l g params →
      Progress.read? params = some (token, step) → t.Mentions g token)
    (I := fun k => k.Tracks l token fun g => ∃ u ∈ pre ++ [t], u.Mentions g token) hc hmore t.move
    (fun d hd => ⟨?_, ?_⟩) (fun subject d hd => ⟨?_, ?_⟩) ?_
  · rintro rfl
    exact hm hd.1
  · rintro g params step rfl hr
    exact ⟨_, step, hd.1, rfl, hr⟩
  · rintro rfl
    exact hd
  · rintro g params step rfl
    exact hd.elim
  · rintro a b d ⟨hevict, hseen⟩ hstep ha hi
    exact hstep.tracks ha hi hevict fun g params step hd hr => ⟨t, by simp, hseen g params step hd hr⟩

lemma tracks_next (ht : Tracks pre t.before l token ∨ Stranded pre t.before l token)
    (hc : t.before.Coherent) :
    Tracks (pre ++ [t]) t.after l token ∨ Stranded (pre ++ [t]) t.after l token := by
  cases hkept : t.after.progress.get? (l, token) with
  | none => exact .inl (.untracked hkept)
  | some s =>
    rcases ht with ht | ⟨ps, u, qs, rfl, hu, hqs, hbefore⟩
    · by_cases hstrands : t.Strands l token
      · exact .inr ⟨pre, t, [], rfl, hstrands, by simp, by simp [hkept]⟩
      · exact .inl (ht.next hc hstrands)
    · refine .inr ⟨ps, u, qs ++ [t], by simp, hu, fun v hv => ?_, by simp [hkept]⟩
      rcases List.mem_append.mp hv with hv | hv
      · exact hqs v hv
      · exact List.mem_singleton.mp hv ▸ hbefore

lemma introduces_of_run {g : Nat}
    (hrun : t.event?.map (fun e => (e.language, e.generation, e.progress?)) =
        some (l, g, some (token, step)) ∧
      t.before.isCurrent l g = true ∧ ∀ u ∈ pre, u.event?.map ServerEvent.generation ≠ some g) :
    Introduces pre t l token step := by
  obtain ⟨hevent, hcur, hfirst⟩ := hrun
  obtain ⟨e, he, hfields⟩ := Option.map_eq_some_iff.mp hevent
  simp only [Prod.mk.injEq] at hfields
  obtain ⟨hl, rfl, hp⟩ := hfields
  refine ⟨e, he, hl, hp, hcur, ?_⟩
  rintro u hu ⟨other, step', ho, hg, -⟩
  exact hfirst u hu (by rw [ho, Option.map_some, hg])

lemma told_step (hc : t.before.Coherent) {e : ServerEvent} (he : t.event? = some e)
    (hp : e.progress? = some (token, step))
    (hcur : t.before.isCurrent e.language e.generation = true) :
    t.told = [.progress (t.before.progress.step e.language token step).2] := by
  obtain ⟨l, g, kind⟩ := e
  obtain ⟨params, rfl, hr⟩ := ServerEvent.progress?_eq_some hp
  obtain ⟨w, hw⟩ := after_of_event he
  obtain ⟨i, hi, hg⟩ := isCurrent_iff.mp hcur
  have hperforming : t.before.performing t.move = t.after := by
    obtain ⟨h, m⟩ := t
    cases m with
    | handle | stray => rfl
    | _ => cases he
  rw [handleEvent_current (coherent_waiting hc) hi hg] at hw
  have hqueued : t.after.queued =
      t.before.queued ++ [.progress (t.before.progress.step l token step).2] := by
    rw [hw]
    simp [handleCurrent, onNotification, onProgress, ProgressTracker.update, hr, queue]
  rw [told, hperforming, hqueued, List.drop_left]

end Turn

namespace Host

open Turn

variable {h k : Host} {l : LanguageId} {token : ProgressToken}

lemma turns_track (hc : h.Coherent) (hn : h.progress = {}) (ms : List Move) :
    Turn.Tracks (h.turns ms) (h.run ms) l token ∨ Stranded (h.turns ms) (h.run ms) l token := by
  induction ms using List.reverseRecOn with
  | nil => exact .inl (.untracked (by simp [run, hn, ProgressTracker.get?]))
  | append_singleton ms m ih =>
    rw [turns_append, run_append]
    exact tracks_next (t := ⟨h.run ms, m⟩) ih (run_coherent hc ms)

/-- Of a token something is kept only while the language has a current server, unless it is left from
when everything was ended by force. The first step of the token that this server sends is then shown
without anything that earlier servers have sent. -/
theorem tokens_tracked (settings : Settings) (root : Option FilePath) (environment : Environment)
    (ms : List Move) (l : LanguageId) (token : ProgressToken)
    (hk : (fresh settings root environment).run ms = k) {ts : List Turn}
    (hts : (fresh settings root environment).turns ms = ts) :
    (∀ s, ((l, token), s) ∈ k.progress.entries →
        (∃ i, k.slots.get? l = some (.active i) ∧ i.connection.isSome = true) ∨
          Stranded ts k l token) ∧
      ∀ pre t post step, ts = pre ++ t :: post → Introduces pre t l token step →
        t.told = [.progress ⟨l, token, ({} : ProgressState).apply step, step.isEnd⟩] ∨
          Stranded pre t.before l token := by
  subst hk hts
  have hc := fresh_coherent settings root environment
  have hn : (fresh settings root environment).progress = {} := rfl
  generalize fresh settings root environment = h at hc hn
  refine ⟨fun s hs => ?_, ?_⟩
  · refine (turns_track hc hn ms).imp_left fun htracks => ?_
    obtain ⟨state, hstate⟩ : ∃ state, (h.run ms).progress.get? (l, token) = some state := by
      rw [← Option.isSome_iff_exists]
      simp only [ProgressTracker.get?, Option.isSome_map, List.find?_isSome]
      exact ⟨_, hs, by simp⟩
    obtain ⟨g, hcur, -⟩ := htracks state hstate
    obtain ⟨i, hi, hg⟩ := isCurrent_iff.mp hcur
    exact ⟨i, instance?_eq_some.mp hi, by simp [hg]⟩
  · rintro pre t post step hsplit ⟨e, he, rfl, hp, hcur, hfirst⟩
    obtain ⟨ns, rest, hb, rfl, -⟩ := turns_mem_split hsplit
    rw [hb]
    refine (turns_track hc hn ns).imp_left fun htracks => ?_
    rw [told_step (hb ▸ run_coherent hc ns) he hp hcur]
    rw [← hb] at htracks
    have hblank : (t.before.progress.get? (e.language, token)).getD {} = {} := by
      cases hs : t.before.progress.get? (e.language, token) with
      | none => rfl
      | some s =>
        obtain ⟨m, hm, hblank | ⟨u, hu, hmentions⟩⟩ := htracks s hs
        · exact hblank
        -- Otherwise the sender, being the current server, has sent a step of the token before.
        · obtain ⟨i, hi, hig⟩ := isCurrent_iff.mp hcur
          obtain ⟨j, hj, hjm⟩ := isCurrent_iff.mp hm
          obtain rfl : i = j := Option.some.inj (hi.symm.trans hj)
          have hgm : e.generation = m := Option.some.inj (hig.symm.trans hjm)
          exact absurd (hgm ▸ hmentions) (hfirst u hu)
    simp only [ProgressTracker.step, hblank]

end Host

namespace Sample

def works (generation : Nat) (value : List (String × Json)) : Move :=
  .receive generation ((Frame.encode (Utf8.encode (Json.renderOrdered [("method", .str "$/progress"),
    ("params", .object [("token", .str "idx"), ("value", .object value)])]))).map .byte)

def indexing : List Move :=
  [.didOpen document, works 1 [("kind", .str "begin"), ("title", .str "Indexing"),
    ("percentage", .int 10)], .handle {}]

def relay : List Move :=
  indexing ++ [.restartAll {}, .didOpen document, works 2 [("kind", .str "report")], .handle {}]

def relic : List Move :=
  indexing ++ [.beginShutdownAll, .finishShutdownAll, .handle {}, .handle {}, .handle {},
    .reconfigure settings {}, .didOpen document, works 2 [("kind", .str "report")], .handle {}]

end Sample

namespace Host

theorem relay_untitled :
    Turn.told ⟨Sample.session.run (Sample.relay.take 6), .handle {}⟩ =
      [.progress ⟨Sample.language, "idx", {}, false⟩] := by
  have hturns := turns_append Sample.session (Sample.relay.take 6) [.handle {}]
  obtain ⟨-, htold⟩ := tokens_tracked Sample.settings none Sample.environment Sample.relay
    Sample.language "idx" rfl rfl
  have hfirst : Turn.Introduces (Sample.session.turns (Sample.relay.take 6))
      ⟨Sample.session.run (Sample.relay.take 6), .handle {}⟩ Sample.language "idx"
      (.report none none) := Turn.introduces_of_run (g := 2) (by decide +kernel)
  refine (htold _ _ _ _ hturns hfirst).resolve_right ?_
  rintro ⟨ps, u, qs, hsplit, ⟨hm, -⟩, -⟩
  have hmove := turns_move (hsplit ▸ List.mem_append_right ps List.mem_cons_self)
  simp [hm, Sample.relay, Sample.indexing, Sample.works] at hmove

/-- The entry of the first server is left, and shows in what the second one sends. -/
theorem relic_inherited :
    (Sample.session.run (Sample.relic.take 5)).progress.active Sample.language = 1 ∧
      ((Sample.session.run (Sample.relic.take 5)).slots.get? Sample.language).isSome = false ∧
      Turn.Introduces (Sample.session.turns (Sample.relic.take 11))
        ⟨Sample.session.run (Sample.relic.take 11), .handle {}⟩ Sample.language "idx"
        (.report none none) ∧
      Turn.told ⟨Sample.session.run (Sample.relic.take 11), .handle {}⟩ =
        [.progress ⟨Sample.language, "idx", ⟨some "Indexing", none, some 10⟩, false⟩] := by
  have hrun :
      ((Sample.session.run (Sample.relic.take 5)).progress.active Sample.language = 1 ∧
        ((Sample.session.run (Sample.relic.take 5)).slots.get? Sample.language).isSome = false) ∧
      ((Turn.event? ⟨Sample.session.run (Sample.relic.take 11), .handle {}⟩).map
          (fun e => (e.language, e.generation, e.progress?)) =
            some (Sample.language, 2, some ("idx", .report none none)) ∧
        (Sample.session.run (Sample.relic.take 11)).isCurrent Sample.language 2 = true ∧
        ∀ u ∈ Sample.session.turns (Sample.relic.take 11),
          u.event?.map ServerEvent.generation ≠ some 2) ∧
      ((Sample.session.run (Sample.relic.take 11)).progress.step Sample.language "idx"
          (.report none none)).2 =
        ⟨Sample.language, "idx", ⟨some "Indexing", none, some 10⟩, false⟩ := by
    decide +kernel
  obtain ⟨⟨hleft, hslot⟩, hevent, hshown⟩ := hrun
  have hfirst : Turn.Introduces (Sample.session.turns (Sample.relic.take 11))
      ⟨Sample.session.run (Sample.relic.take 11), .handle {}⟩ Sample.language "idx"
      (.report none none) := Turn.introduces_of_run hevent
  refine ⟨hleft, hslot, hfirst, ?_⟩
  have hc : (Sample.session.run (Sample.relic.take 11)).Coherent :=
    run_coherent (fresh_coherent Sample.settings none Sample.environment) _
  obtain ⟨e, he, hl, hp, hcur, -⟩ := hfirst
  have htold := Turn.told_step (t := ⟨Sample.session.run (Sample.relic.take 11), .handle {}⟩) hc he hp
    (by simpa only [hl] using hcur)
  rw [hl] at htold
  exact htold.trans (congrArg (fun shown => [HostEvent.progress shown]) hshown)

end Host

end LanguageHost
