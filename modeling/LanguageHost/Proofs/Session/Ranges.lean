import Mathlib.Data.List.Induction
import LanguageHost.Proofs.Session.Routing
import LanguageHost.Proofs.Session.Texts

namespace LanguageHost

def Outbound.isRanged (m : Outbound) : Bool :=
  match m.revision? with
  | some (_, .changed contents) => contents.any (·.range.isSome)
  | _ => false

namespace Host

variable {h k : Host} {l : LanguageId} {i j : Instance} {g : Nat} {d : Document} {deed : Deed}
  {sent : List (Nat × Submission)}

def Greeted (answer : LanguageId → Nat → Json → Prop) (h : Host) : Prop :=
  ∀ l i g, h.Runs l i g → ∃ response, i.handshake = some response ∧
    i.capabilities = CapabilitySet.negotiate response i.settings ∧ answer l g response

/-- The server of a connection has announced in its handshake that it takes ranges, and the settings
do not have full texts sent. -/
def TakesRanges (pre : List Turn) (h : Host) (g : Nat) : Prop :=
  ∃ l i response, h.Runs l i g ∧ i.handshake = some response ∧
    (∃ t ∈ pre, t.event? = some ⟨l, g, .initializeResponse (.ok response)⟩) ∧
    CapabilitySet.syncKind ((response.get? "capabilities").getD .null) = some 2 ∧
    h.settings.server l.name = .ok i.settings ∧ i.settings.sync = .auto

structure Continues (h k : Host) : Prop where
  settings : k.settings = h.settings
  root : k.root = h.root
  runs : ∀ l j g, k.Runs l j g → ∃ i, h.Runs l i g ∧ j = { i with opened := j.opened }

section Steps

lemma Utters.runs (hu : Utters h k deed sent) (hc : h.Coherent) (hk : k.Runs l j g) :
    (∃ i, h.Runs l i g ∧ j = { i with opened := j.opened }) ∨
      ∃ (i : Instance) (response : Json),
        deed = .welcome l g response ∧ j = i.welcomed response := by
  have hset {m : LanguageId} {i new : Instance} {n : Nat} (hi : h.Runs m i n)
      (hs : k.slots = h.slots.set m (.active new)) (hnew : new = { i with opened := new.opened }) :
      ∃ i, h.Runs l i g ∧ j = { i with opened := j.opened } := by
    have hcon : new.connection = i.connection := by rw [hnew]
    rcases runs_set hc hi hs hcon hk with ⟨rfl, rfl, rfl⟩ | ⟨hh, -, -⟩
    · exact ⟨i, hi, hnew⟩
    · exact ⟨j, hh, rfl⟩
  cases hu with
  | silent _ hr =>
    rcases hr l j g hk with hh | ⟨response, i, hd, -, hj⟩
    · exact .inl ⟨j, hh, rfl⟩
    · exact .inr ⟨i, response, hd, hj⟩
  | opened m i n d uri _ _ hi _ _ _ _ hs => exact .inl (hset hi hs rfl)
  | changed m i n d change uri _ _ hi _ _ hs => exact .inl (hset hi hs rfl)
  | closed m i n d uri _ _ hi _ _ hs => exact .inl (hset hi hs rfl)

lemma Continues.refl (h : Host) : h.Continues h := ⟨rfl, rfl, fun _ j _ hj => ⟨j, hj, rfl⟩⟩

lemma Continues.trans {m : Host} (hk : h.Continues k) (hm : k.Continues m) : h.Continues m where
  settings := hm.settings.trans hk.settings
  root := hm.root.trans hk.root
  runs l a g ha := by
    obtain ⟨j, hj, haj⟩ := hm.runs l a g ha
    obtain ⟨i, hi, hji⟩ := hk.runs l j g hj
    exact ⟨i, hi, haj.trans (by rw [hji])⟩

lemma Step.continues {subject : Option Document} (hs : Step h deed k) (hc : h.Coherent)
    (hd : Deed.Calm subject deed) : h.Continues k where
  settings := (hs.calm_stays hd).1
  root := hs.root
  runs l j g hj := by
    obtain ⟨sent, -, hut⟩ := hs.speaks hc
    rcases hut.runs hc hj with hi | ⟨i, response, rfl, -⟩
    · exact hi
    · exact hd.elim

lemma Walk.continues {subject : Option Document} (hw : Walk (Deed.Calm subject) h k)
    (hc : h.Coherent) : h.Continues k :=
  hw.preserves hc (.refl h) fun hd hs ha hi => hi.trans (hs.continues ha hd)

lemma Utters.ranged (hu : Utters h k deed sent) {s : Nat × Submission} (hs : s ∈ sent)
    (hr : s.2.1.isRanged = true) :
    (∃ d change, deed = .edit d change) ∧
      ∃ l i, h.Runs l i s.1 ∧ i.capabilities.incrementalSync = true := by
  cases hu with
  | silent hsilent => simp [Outbound.isRanged, hsilent s hs] at hr
  | opened l i g d uri m result hi _ _ _ hm =>
    obtain rfl := List.mem_singleton.mp hs
    simp [Outbound.isRanged, hm] at hr
  | changed l i g d change uri m result hi _ hm =>
    obtain rfl := List.mem_singleton.mp hs
    refine ⟨⟨d, change, rfl⟩, l, i, hi, ?_⟩
    by_contra hn
    simp [Outbound.isRanged, hm, Sync.contentOf, hn] at hr
  | closed l i g d uri m result hi _ hm =>
    obtain rfl := List.mem_singleton.mp hs
    simp [Outbound.isRanged, hm] at hr

lemma Walk.greeted {P : Deed → Prop} {answer : LanguageId → Nat → Json → Prop} (hw : Walk P h k)
    (hc : h.Coherent) (hp : ∀ l g response, P (.welcome l g response) → answer l g response)
    (hg : h.Greeted answer) : k.Greeted answer := by
  refine (hw.keeps (I := fun k => k.Coherent ∧ k.Greeted answer) ⟨hc, hg⟩
    fun {u v deed} hd hs ⟨hcu, hu⟩ => ⟨hs.coherent hcu, fun l j g hv => ?_⟩).2
  obtain ⟨sent, -, hut⟩ := hs.speaks hcu
  rcases hut.runs hcu hv with ⟨i, hi, hj⟩ | ⟨i, response, rfl, rfl⟩
  · rw [hj]
    exact hu l i g hi
  · exact ⟨response, rfl, rfl, hp l g response hd⟩

end Steps

section Turns

lemma Walk.ranged (hw : Walk (Deed.Calm (some d)) h k) (hc : h.Coherent) :
    ∃ sent, k.connections.submissions = h.connections.submissions ++ sent ∧
      ∀ s ∈ sent, s.2.1.isRanged = true →
        ∃ l i, h.Runs l i s.1 ∧ i.capabilities.incrementalSync = true := by
  refine (hw.keeps (I := fun k => k.Coherent ∧ h.Continues k ∧
    ∃ sent, k.connections.submissions = h.connections.submissions ++ sent ∧
      ∀ s ∈ sent, s.2.1.isRanged = true →
        ∃ l i, h.Runs l i s.1 ∧ i.capabilities.incrementalSync = true)
    ⟨hc, .refl h, [], by simp⟩
    fun {u v deed} hd hs ⟨hcu, hold, sent, hsub, hr⟩ =>
      ⟨hs.coherent hcu, hold.trans (hs.continues hcu hd), ?_⟩).2.2
  obtain ⟨new, hnew, hut⟩ := hs.speaks hcu
  refine ⟨sent ++ new, by rw [hnew, hsub, List.append_assoc], fun s hmem hrs => ?_⟩
  rcases List.mem_append.mp hmem with hmem | hmem
  · exact hr s hmem hrs
  · obtain ⟨-, l, j, hj, hinc⟩ := hut.ranged hmem hrs
    obtain ⟨i, hi, hji⟩ := hold.runs l j s.1 hj
    rw [hji] at hinc
    exact ⟨l, i, hi, hinc⟩

lemma Walk.unranged {P : Deed → Prop} (hw : Walk P h k) (hc : h.Coherent)
    (hp : ∀ d change, ¬P (.edit d change)) :
    ∃ sent, k.connections.submissions = h.connections.submissions ++ sent ∧
      ∀ s ∈ sent, ¬s.2.1.isRanged = true := by
  refine (hw.keeps (I := fun k => k.Coherent ∧
    ∃ sent, k.connections.submissions = h.connections.submissions ++ sent ∧
      ∀ s ∈ sent, ¬s.2.1.isRanged = true) ⟨hc, [], by simp⟩
    fun {u v deed} hd hs ⟨hcu, sent, hsub, hr⟩ => ⟨hs.coherent hcu, ?_⟩).2
  obtain ⟨new, hnew, hut⟩ := hs.speaks hcu
  refine ⟨sent ++ new, by rw [hnew, hsub, List.append_assoc], fun s hmem hrs => ?_⟩
  rcases List.mem_append.mp hmem with hmem | hmem
  · exact hr s hmem hrs
  · obtain ⟨⟨d, change, rfl⟩, -⟩ := hut.ranged hmem hrs
    exact hp d change hd

lemma perform_about {m : Move} (hm : m.subject = some d) :
    Walk (Deed.Calm (some d)) h (h.perform m) := by
  cases m <;> cases hm
  case didOpen => exact (didOpen_gentle h d).calm
  case didChange change => exact didChange_calm h d change
  case didSave => exact (didSave_gentle h d).calm
  case didClose => exact (didClose_gentle h d).calm
  case reloaded => exact (documentReloaded_gentle h d).calm
  case languageChanged previous => exact (documentLanguageChanged_gentle h d previous).calm
  case request kind p => exact (request_gentle h kind d p).calm
  case catchUp l => exact (catchUpOne_gentle h l d).calm

lemma ranged_turn {t : Turn} (hc : t.before.Coherent) {s : Nat × Submission} (hs : s ∈ t.sent)
    (hr : s.2.1.isRanged = true) :
    ∃ l i, t.before.Runs l i s.1 ∧ i.capabilities.incrementalSync = true := by
  cases hm : t.move.subject with
  | some d =>
    obtain ⟨sent, hsub, hall⟩ := (perform_about (h := t.before) hm).ranged hc
    exact hall s (Turn.sent_eq hsub ▸ hs) hr
  | none =>
    obtain ⟨k, hw, hcalm⟩ := perform_walk hc.languages t.move
    rw [hm] at hcalm
    obtain ⟨first, hfirst, hn⟩ := hw.unranged hc fun _ _ => id
    obtain ⟨last, hlast, hn'⟩ := hcalm.unranged (hw.coherent hc) (by simp [Deed.Calm])
    have hsent : t.sent = first ++ last := Turn.sent_eq (by
      rw [← List.append_assoc, ← hfirst]
      exact hlast)
    rcases List.mem_append.mp (hsent ▸ hs) with hs | hs
    · exact absurd hr (hn s hs)
    · exact absurd hr (hn' s hs)

end Turns

section Runs

lemma perform_greeted {pre : List Turn} {t : Turn} (hc : t.before.Coherent)
    (hg : t.before.Greeted fun l g response =>
      ∃ u ∈ pre, u.event? = some ⟨l, g, .initializeResponse (.ok response)⟩) :
    t.after.Greeted fun l g response =>
      ∃ u ∈ pre ++ [t], u.event? = some ⟨l, g, .initializeResponse (.ok response)⟩ := by
  obtain ⟨k, hw, hcalm⟩ := perform_walk hc.languages t.move
  have hstart : t.before.Greeted fun l g response =>
      ∃ u ∈ pre ++ [t], u.event? = some ⟨l, g, .initializeResponse (.ok response)⟩ := by
    intro l i g hi
    obtain ⟨response, hh, hcap, u, hu, he⟩ := hg l i g hi
    exact ⟨response, hh, hcap, u, List.mem_append_left _ hu, he⟩
  refine hcalm.greeted (hw.coherent hc) (fun _ _ _ => False.elim)
    (hw.greeted hc (fun l g response hd => ⟨t, by simp, hd.1⟩) hstart)

lemma turns_greeted (hc : h.Coherent) (hn : ∀ l i g, ¬h.Runs l i g) (ms : List Move) :
    (h.run ms).Greeted fun l g response =>
      ∃ u ∈ h.turns ms, u.event? = some ⟨l, g, .initializeResponse (.ok response)⟩ := by
  induction ms using List.reverseRecOn with
  | nil => exact fun l i g hi => absurd hi (hn l i g)
  | append_singleton ms m ih =>
    rw [turns_append, run_append]
    exact perform_greeted (t := ⟨h.run ms, m⟩) (run_coherent hc ms) ih

lemma ranges_announced (hc : h.Coherent) (ha : h.Arranged) (hn : ∀ l i g, ¬h.Runs l i g)
    {ms : List Move} {pre post : List Turn} {t : Turn} (hts : h.turns ms = pre ++ t :: post)
    {s : Nat × Submission} (hs : s ∈ t.sent) (hr : s.2.1.isRanged = true) :
    TakesRanges pre t.before s.1 := by
  obtain ⟨ns, rest, hb, hpre, -⟩ := turns_mem_split hts
  have hct : t.before.Coherent := hb ▸ run_coherent hc ns
  obtain ⟨l, i, hi, hinc⟩ := ranged_turn hct hs hr
  have hat : t.before.Arranged := hb ▸ run_arranged hc ha ns
  have hg := turns_greeted hc hn ns
  rw [← hb, ← hpre] at hg
  obtain ⟨response, hh, hcap, u, hu, he⟩ := hg l i s.1 hi
  rw [hcap] at hinc
  simp only [CapabilitySet.negotiate, decide_eq_true_eq] at hinc
  exact ⟨l, i, response, hi, hh, ⟨u, hu, he⟩, hinc.1, hat.server hi.current, hinc.2⟩

end Runs

end Host

end LanguageHost
