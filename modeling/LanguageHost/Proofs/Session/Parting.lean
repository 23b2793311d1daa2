import LanguageHost.Proofs.Session.Course
import LanguageHost.Proofs.Session.Late

namespace LanguageHost

def Station.limit (b : Nat) : Station → Nat
  | .current .shuttingDown => 1
  | .current _ => 0
  | .retired => b

def Connections.exits (c : Connections) (g : Nat) : Nat := (c.messages g).countP Outbound.isExit

/-- An answer to `shutdown` turns up out of order. -/
def Move.Strays (g : Nat) : Move → Prop
  | .stray n (.shutdownResponse _) _ => n = g
  | _ => False

namespace Station

variable {n b : Nat} {deed : Deed} {p q : Station} {m : Outbound}

lemma limit_le (hb : 1 ≤ b) (p : Station) : p.limit b ≤ b := by
  cases p with
  | current st =>
    cases st with
    | shuttingDown => exact hb
    | _ => exact Nat.zero_le b
  | retired => exact Nat.le_refl b

lemma Leads.limit_le (hl : p.Leads q) (hb : 1 ≤ b) : p.limit b ≤ q.limit b := by
  cases hl with
  | stays => exact Nat.le_refl _
  | leaves st => cases st <;> simp [limit]
  | retires => exact hb

lemma Sends.limit_le (hs : Sends n deed p m q) (ha : deed = .again n → 2 ≤ b) :
    p.limit b + [m].countP Outbound.isShutdown ≤ q.limit b := by
  cases hs with
  | answered | welcomed | released => simp [Outbound.isShutdown, limit]
  | served m hf => simp [(Outbound.isFeature_alone hf).2.2.1]
  | stopped l st id params hst => cases st <;> simp [limit, Outbound.isShutdown] at hst ⊢
  | reminded id params =>
    have := ha rfl
    simpa [limit, Outbound.isShutdown] using this

end Station

namespace Host

variable {h k : Host} {g b : Nat} {deed : Deed} {P : Deed → Prop} {i : Instance} {l : LanguageId}

section Asking

structure Limited (h : Host) (g b : Nat) : Prop where
  limited : ∀ p, h.Has g p → h.connections.asked g ≤ p.limit b
  total : h.connections.asked g ≤ b
  unmade : h.nextGeneration ≤ g → h.connections.asked g = 0

lemma asked_one {c d : Connections} {n : Nat} {m : Outbound} {result : Except TransportError Unit}
    (h : d.submissions = c.submissions ++ [(n, m, result)]) (g : Nat) :
    d.asked g = c.asked g + if n = g then [m].countP Outbound.isShutdown else 0 := by
  rw [Connections.asked, Connections.messages_one h]
  split
  · rw [List.countP_append]
    rfl
  · rfl

lemma Step.limits (hs : Step h deed k) (hc : h.Coherent) (hb : 1 ≤ b)
    (ha : deed = .again g → 2 ≤ b) (hh : h.Limited g b) : k.Limited g b := by
  cases hs.talks hc with
  | quiet he hn hp =>
    have hasked : k.connections.asked g = h.connections.asked g := by
      rw [Connections.asked, Connections.messages, he]
      rfl
    refine ⟨fun p hk => ?_, hasked ▸ hh.total, fun hle => hasked ▸ hh.unmade (hn.trans hle)⟩
    obtain ⟨q, hq, hl⟩ := hp g p hk
    exact hasked ▸ (hh.limited q hq).trans (hl.limit_le hb)
  | spoken n p q m result he hn hp hs hq =>
    have hasked := asked_one he g
    by_cases hg : n = g
    · subst hg
      rw [if_pos rfl] at hasked
      have hlimit := hs.limit_le ha
      have hbefore := hh.limited p hp
      have htop := q.limit_le hb
      refine ⟨fun r hr => ?_, by omega, fun hle => ?_⟩
      · rcases hq n r hr with ⟨-, rfl⟩ | ⟨hne, -⟩
        · omega
        · exact absurd rfl hne
      · have := hc.has_issued hp
        omega
    · rw [if_neg hg, Nat.add_zero] at hasked
      refine ⟨fun r hr => ?_, hasked ▸ hh.total, fun hle => hasked ▸ hh.unmade (hn ▸ hle)⟩
      rcases hq g r hr with ⟨hgn, -⟩ | ⟨-, hr⟩
      · exact absurd hgn.symm hg
      · exact hasked ▸ hh.limited r hr
  | greeted sent he hs hn hq =>
    have hasked : k.connections.asked g = h.connections.asked g := by
      rcases hs with rfl | ⟨id, params, result, rfl⟩
      · rw [Connections.asked, Connections.messages, he, List.append_nil]
        rfl
      · rw [asked_one he g]
        simp [Outbound.isShutdown]
    refine ⟨fun r hr => ?_, hasked ▸ hh.total, fun hle => hasked ▸ hh.unmade (by omega)⟩
    rcases hq g r hr with ⟨rfl, -⟩ | ⟨-, hr⟩
    · rw [hasked, hh.unmade (Nat.le_refl _)]
      exact Nat.zero_le _
    · exact hasked ▸ hh.limited r hr

lemma run_limits (hc : h.Coherent) (hb : 1 ≤ b) (ms : List Move)
    (ha : ∀ t ∈ h.turns ms, t.before.Reminds g t.move → 2 ≤ b) (hh : h.Limited g b) :
    (h.run ms).Limited g b := by
  refine run_keeps (P := fun d => d = .again g → 2 ≤ b) hc hh ms ?_ ?_
    fun hd hs hx => hs.limits hx hb hd
  · rintro t ht d hd rfl
    exact ha t ht hd
  · rintro subject d hd rfl
    exact hd.elim

lemma fresh_limits (settings : Settings) (root : Option FilePath) (environment : Environment)
    (g b : Nat) : (fresh settings root environment).Limited g b :=
  ⟨fun _ _ => Nat.zero_le _, Nat.zero_le _, fun _ => rfl⟩

end Asking

section Exiting

def Exits (h k : Host) (g : Nat) : Prop :=
  ∃ sent, h.connections.Evolves k.connections sent ∧
    (sent = [] ∨ ∃ result, sent = [(g, .notification "exit" none, result)])

lemma onShutdownResponse_exits (hc : h.Coherent) (hi : h.instance? l = some i)
    (hg : i.connection = some g) (outcome : Outcome) : h.Exits (h.onShutdownResponse l outcome) g := by
  by_cases hs : i.state = .shuttingDown
  · simp only [onShutdownResponse, hi, hs, ne_eq, not_true_eq_false, if_false]
    obtain ⟨result, he⟩ := Instance.notify_sends hg (hc.linked hi hg) "exit" .null
    rcases shutdownAcknowledged_result i outcome h.connections with ⟨j, hj, ha⟩ | ⟨r, d, hd, ha⟩
    · simp only [ha, Bool.false_eq_true, if_false]
      exact ⟨_, he, .inr ⟨result, rfl⟩⟩
    · simp only [ha, if_true]
      rw [finishStop_reset h l _ rfl]
      have hend := ((Connections.log_evolves d r).trans (i.finish_evolves .forceExit _)).trans
        (Connections.log_evolves _
          ⟨.info, sessionTarget, "language server stopped", [languageField l]⟩)
      rcases hd with rfl | ⟨-, rfl⟩
      · exact ⟨[], hend, .inl rfl⟩
      · exact ⟨_, he.trans_quiet hend, .inr ⟨result, rfl⟩⟩
  · simp only [onShutdownResponse, hi, hs, ne_eq, not_false_eq_true, if_true]
    exact ⟨[], .refl _, .inl rfl⟩

lemma handleEvent_exits (hc : h.Coherent) (w : Workspace) (l : LanguageId) (g : Nat)
    (outcome : Outcome) : h.Exits (h.handleEvent w ⟨l, g, .shutdownResponse outcome⟩).1 g := by
  rcases hf : h.findRetiring g with _ | ⟨n, i⟩
  · by_cases hcur : h.isCurrent l g = true
    · simp only [handleEvent, hf, hcur, if_true]
      obtain ⟨i, hi, hg⟩ := isCurrent_iff.mp hcur
      exact onShutdownResponse_exits hc hi hg outcome
    · simp only [handleEvent, hf, hcur, Bool.false_eq_true, if_false]
      exact ⟨[], Connections.log_evolves _ _, .inl rfl⟩
  · simp only [handleEvent, hf]
    obtain ⟨hn, hg⟩ := findRetiring_some hf
    exact (handleRetiring_confines hc hn hg _).exits

lemma exits_append {c d : Connections} {sent : List (Nat × Submission)}
    (he : d.submissions = c.submissions ++ sent) (g : Nat) :
    d.exits g = c.exits g + (Connections.messagesTo g sent).countP Outbound.isExit := by
  rw [Connections.exits, Connections.messages_append he, List.countP_append]
  rfl

lemma Exits.bound (he : h.Exits k g) : k.connections.exits g ≤ h.connections.exits g + 1 := by
  obtain ⟨sent, hsent, hm⟩ := he
  rw [exits_append hsent.submissions]
  rcases hm with rfl | ⟨result, rfl⟩
  · simp [Connections.messagesTo]
  · simp [Connections.messagesTo, Outbound.isExit]

lemma handle_exits (hc : h.Coherent) {w : Workspace} {e : ServerEvent} {rest : List ServerEvent}
    (hq : h.connections.inbox = e :: rest) {v : Json} (hk : e.kind = .shutdownResponse (.ok v))
    (hh : h.connections.exits e.generation + h.connections.owed e.generation ≤
      h.connections.asked e.generation) :
    (h.perform (.handle w)).connections.exits e.generation +
        (h.perform (.handle w)).connections.owed e.generation ≤
      (h.perform (.handle w)).connections.asked e.generation := by
  obtain ⟨l, g, kind⟩ := e
  subst hk
  let popped : Host := { h with connections := { h.connections with inbox := rest } }
  have hstep : Step h .quiet popped := .popped _ rest hq
  have hpc : popped.Coherent := hstep.coherent hc
  have hafter : h.perform (.handle w) =
      (popped.handleEvent w.bare ⟨l, g, .shutdownResponse (.ok v)⟩).1 := by
    simp only [perform, handleNext, hq]
    rfl
  -- The answer is owed no longer once it is taken, which makes room for one `exit`.
  have howed : popped.connections.owed g + 1 = h.connections.owed g := by
    have hget : popped.connections.get? g = h.connections.get? g := rfl
    simp only [Connections.owed, hget, hq, popped, List.countP_cons]
    simp [ServerEvent.settles, ServerEventKind.answer?]
    omega
  obtain ⟨m, hw, hcalm⟩ := handleEvent_walk (P := fun d => ∀ n signals, d ≠ .hear n signals)
    (h := popped) (by simp) (by simp) w ⟨l, g, .shutdownResponse (.ok v)⟩ (by simp) (by simp)
    (by simp) (by simp) (by simp)
  have hheeds : popped.connections.Heeds (fun _ _ _ => True) (h.perform (.handle w)).connections :=
    hafter ▸ (hw.heeds hpc fun n signals hn => hn n signals rfl).trans
      (hcalm.heeds (hw.coherent hpc) fun _ _ hn => hn)
  have hslack := hheeds.owed g
  have hbound := (handleEvent_exits hpc w.bare l g (.ok v)).bound
  rw [← hafter] at hbound
  have hasked : popped.connections.asked g = h.connections.asked g := rfl
  have hexits : popped.connections.exits g = h.connections.exits g := rfl
  simp only at hh ⊢
  omega

lemma perform_exits (hc : h.Coherent) {m : Move} (hm : ¬m.Strays g)
    (hh : h.connections.exits g + h.connections.owed g ≤ h.connections.asked g) :
    (h.perform m).connections.exits g + (h.perform m).connections.owed g ≤
      (h.perform m).connections.asked g := by
  obtain ⟨sent, hsent, hmarks⟩ := perform_marks hc m
  by_cases hex : ∃ s ∈ sent, s.1 = g ∧ s.2.1.isExit = true
  · obtain ⟨s, hs, rfl, he⟩ := hex
    obtain ⟨l, v, hin⟩ := (hmarks s hs).2 he
    cases m with
    | handle w =>
      obtain ⟨rest, hq⟩ := List.head?_eq_some_iff.mp hin
      exact handle_exits hc hq rfl hh
    | stray n kind w =>
      obtain ⟨k, -, hk⟩ := Option.map_eq_some_iff.mp hin
      obtain ⟨-, rfl, rfl⟩ := ServerEvent.mk.inj hk
      exact absurd rfl hm
    | _ => cases hin
  · have hheeds : h.connections.Heeds (fun _ _ _ => True) (h.perform m).connections :=
      Turn.heeds (t := ⟨h, m⟩) hc fun _ _ _ _ => trivial
    have hslack := hheeds.owed g
    have hexits : (h.perform m).connections.exits g = h.connections.exits g := by
      rw [exits_append hsent, Nat.add_eq_left, List.countP_eq_zero]
      intro x hx
      obtain ⟨s, hs, hx⟩ := List.mem_filterMap.mp hx
      split at hx
      · next hg =>
        obtain rfl := Option.some.inj hx
        exact fun he => hex ⟨s, hs, hg, he⟩
      · cases hx
    omega

lemma run_exits (hc : h.Coherent) {ms : List Move} (hm : ∀ m ∈ ms, ¬m.Strays g)
    (hh : h.connections.exits g + h.connections.owed g ≤ h.connections.asked g) :
    (h.run ms).connections.exits g + (h.run ms).connections.owed g ≤
      (h.run ms).connections.asked g := by
  induction ms generalizing h with
  | nil => exact hh
  | cons m rest ih =>
    exact ih (perform_coherent hc m) (fun m hmem => hm m (List.mem_cons_of_mem _ hmem))
      (perform_exits hc (hm m List.mem_cons_self) hh)

end Exiting

/-- A server is asked to shut down once, and a second time at most if it is asked again while it is
stopping. When no answer to that turns up out of order, it is told to exit at most as often, and only
when its successful answer is handled. -/
theorem partings_answered (settings : Settings) (root : Option FilePath) (environment : Environment)
    (ms : List Move) (g : Nat) (hk : (fresh settings root environment).run ms = k)
    (hm : ∀ m ∈ ms, ¬m.Strays g) :
    ((∀ t ∈ (fresh settings root environment).turns ms, ¬t.before.Reminds g t.move) →
        k.connections.asked g ≤ 1 ∧ k.connections.exits g ≤ 1) ∧
      k.connections.asked g ≤ 2 ∧ k.connections.exits g ≤ k.connections.asked g ∧
      ∀ pre t post, (fresh settings root environment).turns ms = pre ++ t :: post →
        ∀ s ∈ t.sent, s.1 = g → s.2.1.isExit = true → t.Follows pre .shutdown g := by
  subst hk
  have hc := fresh_coherent settings root environment
  have hlimits (b : Nat) := fresh_limits settings root environment g b
  have hexits := run_exits (g := g) hc hm (Nat.le_refl 0)
  have htwice := run_limits hc (by decide) ms (fun _ _ _ => Nat.le_refl 2) (hlimits 2)
  refine ⟨fun hr => ?_, htwice.total, by omega, ?_⟩
  · have honce := run_limits hc (Nat.le_refl 1) ms (fun t ht hrt => absurd hrt (hr t ht)) (hlimits 1)
    have hasked := honce.total
    omega
  · intro pre t post hts s hs hg he
    obtain ⟨ns, rest, hb, -⟩ := turns_mem_split hts
    obtain ⟨l, v, hin⟩ := (turn_marks (hb ▸ run_coherent hc ns) hs).2 he
    have hf := turns_follow hc (fresh_known settings root environment) hts hin rfl
    exact hg ▸ hf

end Host

namespace Sample

def farewell : List Move := visit ++ [answers 2 .null, .handle {}]

def relapse : List Move :=
  visit ++ [.restartAll {}, answers 2 .null, answers 3 .null, .handle {}, .handle {}]

end Sample

namespace Host

theorem farewell_answered :
    ((Sample.session.run Sample.farewell).connections.asked 1 ≤ 1 ∧
        (Sample.session.run Sample.farewell).connections.exits 1 ≤ 1) ∧
      Turn.Follows ⟨Sample.session.run (Sample.farewell.take 6), .handle {}⟩
        (Sample.session.turns (Sample.farewell.take 6)) .shutdown 1 := by
  have hturns := turns_append Sample.session (Sample.farewell.take 6) [.handle {}]
  obtain ⟨honce, -, -, hfollows⟩ := partings_answered Sample.settings none Sample.environment
    Sample.farewell 1 rfl (by simp [Sample.farewell, Sample.visit, Sample.answers, Move.Strays])
  have hsent : (Turn.sent ⟨Sample.session.run (Sample.farewell.take 6), .handle {}⟩).any
      (fun s => s.1 = 1 ∧ s.2.1.isExit = true) = true := by decide +kernel
  obtain ⟨⟨g, message⟩, hs, hm⟩ := List.any_eq_true.mp hsent
  obtain ⟨rfl, he⟩ := of_decide_eq_true hm
  refine ⟨honce fun t ht => ?_, ?_⟩
  · have hmove := turns_move ht
    generalize t.move = m at hmove
    simp only [Sample.farewell, Sample.visit, Sample.answers, List.cons_append, List.nil_append,
      List.mem_cons, List.not_mem_nil, or_false] at hmove
    rcases hmove with rfl | rfl | rfl | rfl | rfl | rfl | rfl <;> exact id
  · exact hfollows _ ⟨Sample.session.run (Sample.farewell.take 6), .handle {}⟩ _ hturns _ hs rfl he

/-- The server is asked twice and told to exit twice. -/
theorem relapse_repeats :
    (Sample.session.run Sample.relapse).connections.asked 1 = 2 ∧
      (Sample.session.run Sample.relapse).connections.exits 1 = 2 := by
  decide +kernel

end Host

end LanguageHost
