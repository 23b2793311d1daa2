import LanguageHost.Proofs.Rpc.Reading

/-! Every accepted call is completed once. The calls that were accepted are always those that were
completed and those in the table, each under a number of its own. -/

namespace LanguageHost.Client

variable {κ : Type}

/-- The table of a connection beside the calls that were accepted and completed so far. -/
structure Accounts (c : Client κ) (taken : List (PendingCall κ))
    (done : List (PendingCall κ × Outcome)) : Prop where
  positive : 1 ≤ c.nextId
  numbered : ∀ call ∈ taken, 1 ≤ call.id ∧ call.id < c.nextId
  distinct : (taken.map (·.id)).Nodup
  balanced : taken.Perm (done.map Prod.fst ++ c.pending)
  emptied : c.closed = true → c.pending = []
  stopped : c.reading = false → c.closed = true

namespace Accounts

variable {c d : Client κ} {taken : List (PendingCall κ)} {done : List (PendingCall κ × Outcome)}

lemma pending_lt (h : Accounts c taken done) : ∀ call ∈ c.pending, call.id < c.nextId :=
  fun call hm => (h.numbered call (h.balanced.mem_iff.mpr (List.mem_append_right _ hm))).2

lemma done_nodup (h : Accounts c taken done) : (done.map (·.1.id)).Nodup := by
  have hd := (h.balanced.map (·.id)).nodup_iff.mp h.distinct
  rw [List.map_append, List.map_map] at hd
  exact (List.nodup_append.mp hd).1

lemma pending_nodup (h : Accounts c taken done) : (c.pending.map (·.id)).Nodup := by
  have hd := (h.balanced.map (·.id)).nodup_iff.mp h.distinct
  rw [List.map_append] at hd
  exact (List.nodup_append.mp hd).2.1

lemma pending_not_done (h : Accounts c taken done) {call : PendingCall κ} (hm : call ∈ c.pending) :
    call ∈ taken ∧ call.id ∉ done.map (·.1.id) := by
  have hd := (h.balanced.map (·.id)).nodup_iff.mp h.distinct
  rw [List.map_append, List.map_map] at hd
  refine ⟨h.balanced.mem_iff.mpr (List.mem_append_right _ hm), fun hin => ?_⟩
  exact (List.nodup_append.mp hd).2.2 _ hin _ (List.mem_map_of_mem hm) rfl

lemma filter_perm {calls : List (PendingCall κ)} {call : PendingCall κ}
    (hn : (calls.map (·.id)).Nodup) (hm : call ∈ calls) :
    calls.Perm (call :: calls.filter (·.id ≠ call.id)) := by
  induction calls with
  | nil => simp at hm
  | cons other rest ih =>
    simp only [List.map_cons, List.nodup_cons] at hn
    rcases List.mem_cons.mp hm with rfl | hr
    · have hf : rest.filter (·.id ≠ call.id) = rest := by
        rw [List.filter_eq_self]
        intro x hx
        simpa using fun he => hn.1 (List.mem_map.mpr ⟨x, hx, he⟩)
      simp only [ne_eq, not_true_eq_false, decide_false, Bool.false_eq_true, not_false_eq_true,
        List.filter_cons_of_neg, hf, List.Perm.refl]
    · have ho : other.id ≠ call.id := fun he => hn.1 (List.mem_map.mpr ⟨call, hr, he.symm⟩)
      rw [List.filter_cons_of_pos (by simpa using ho)]
      exact ((ih hn.2 hr).cons other).trans (.swap call other _)

lemma start (l : LanguageId) (g : Nat) (traced : Bool) (plan : Nat → Verdict) :
    Accounts (Client.start l g traced plan : Client κ) [] [] where
  positive := Nat.le_refl 1
  numbered := by simp
  distinct := .nil
  balanced := .nil
  emptied := fun _ => rfl
  stopped := by simp [Client.start]

lemma change (h : Accounts c taken done) {n : Nat} {new : Option (PendingCall κ)}
    {fin : List (PendingCall κ × Outcome)} (hc : Change c d n new fin) :
    Accounts d (taken ++ new.toList) (done ++ fin) := by
  cases hc with
  | quiet _ hp hn hcl hr =>
    simp only [Option.toList_none, List.append_nil]
    have hp1 := h.positive
    refine ⟨by omega, fun call hm => ?_, h.distinct, hp ▸ h.balanced, ?_, ?_⟩
    · have := h.numbered call hm
      omega
    · rw [hcl, hp]; exact h.emptied
    · rw [hcl, hr]; exact h.stopped
  | accept call hid hp hn ho hcl hr =>
    simp only [Option.toList_some, List.append_nil]
    have hp1 := h.positive
    refine ⟨by omega, fun other hm => ?_, ?_, ?_, ?_, ?_⟩
    · rcases List.mem_append.mp hm with hm | hm
      · have := h.numbered other hm
        omega
      · obtain rfl := List.mem_singleton.mp hm
        omega
    · rw [List.map_append, List.nodup_append]
      refine ⟨h.distinct, by simp, ?_⟩
      intro a ha b hb
      obtain ⟨other, hm, rfl⟩ := List.mem_map.mp ha
      obtain rfl : b = call.id := by simpa using hb
      have := (h.numbered other hm).2
      omega
    · rw [hp, ← List.append_assoc]
      exact h.balanced.append_right [call]
    · simp [hcl, ho]
    · rw [hr, hcl]; exact h.stopped
  | answer call outcome hm hp hn hcl hr =>
    simp only [Option.toList_none, List.append_nil]
    refine ⟨hn ▸ h.positive, hn ▸ h.numbered, h.distinct, ?_, ?_, ?_⟩
    · have hf := filter_perm h.pending_nodup hm
      rw [hp, List.map_append, List.append_assoc]
      exact h.balanced.trans (hf.append_left _)
    · rw [hcl, hp]
      intro hx
      rw [h.emptied hx]
      rfl
    · rw [hcl, hr]; exact h.stopped
  | drain e hp hn hcl =>
    simp only [Option.toList_none, List.append_nil]
    refine ⟨hn ▸ h.positive, hn ▸ h.numbered, h.distinct, ?_, fun _ => hp, fun _ => hcl⟩
    rw [hp, List.append_nil, List.map_append, List.map_map]
    simpa [Function.comp_def] using h.balanced

end Accounts

lemma perform_change {c : Client κ} (hb : ∀ other ∈ c.pending, other.id < c.nextId) (a : Act κ) :
    Change c (c.perform a).1 (if a.isCall then 1 else 0) (c.perform a).2.2
      (completions (c.perform a).2.1) := by
  cases a with
  | call method params tag => exact call_change c method params tag hb
  | notify method params => exact notify_change c method params
  | reply id r => exact reply_change c id r
  | close => exact close_change c
  | signal s => exact (signal_reads c s).change
  | finish => exact (finish_reads c).change

lemma Accounts.run {c : Client κ} {taken : List (PendingCall κ)}
    {done : List (PendingCall κ × Outcome)} (h : Accounts c taken done) (acts : List (Act κ)) :
    Accounts (c.run acts) (taken ++ accepted (c.turns acts))
      (done ++ completed (c.turns acts)) := by
  induction acts generalizing c taken done with
  | nil => simpa [accepted, completed, turns, Client.run] using h
  | cons a acts ih =>
    have hstep := ih (h.change (perform_change h.pending_lt a))
    rw [run_cons, accepted_turns_cons, completed_turns_cons, ← List.append_assoc,
      ← List.append_assoc]
    exact hstep

lemma Change.nextId {c d : Client κ} {n : Nat} {new : Option (PendingCall κ)}
    {fin : List (PendingCall κ × Outcome)} (h : Change c d n new fin) :
    d.nextId = c.nextId + n := by
  cases h <;> assumption

lemma Change.shut {c d : Client κ} {n : Nat} {new : Option (PendingCall κ)}
    {fin : List (PendingCall κ × Outcome)} (h : Change c d n new fin) (hc : c.closed = true) :
    d.closed = true ∧ new = none := by
  cases h with
  | quiet _ _ _ hcl => exact ⟨hcl.trans hc, rfl⟩
  | accept _ _ _ _ ho => simp [hc] at ho
  | answer _ _ _ _ _ hcl => exact ⟨hcl.trans hc, rfl⟩
  | drain _ _ _ hcl => exact ⟨hcl, rfl⟩

lemma nextId_run {c : Client κ} {taken : List (PendingCall κ)}
    {done : List (PendingCall κ × Outcome)} (h : Accounts c taken done) (acts : List (Act κ)) :
    (c.run acts).nextId = c.nextId + acts.countP Act.isCall := by
  induction acts generalizing c taken done with
  | nil => rfl
  | cons a acts ih =>
    have hc := perform_change h.pending_lt a
    have hrest := ih (h.change hc)
    have hn := hc.nextId
    rw [run_cons, List.countP_cons]
    omega

lemma shut_run {c : Client κ} {taken : List (PendingCall κ)}
    {done : List (PendingCall κ × Outcome)} (h : Accounts c taken done) (hc : c.closed = true)
    (acts : List (Act κ)) : (c.run acts).closed = true ∧ accepted (c.turns acts) = [] := by
  induction acts generalizing c taken done with
  | nil => exact ⟨hc, rfl⟩
  | cons a acts ih =>
    have hchange := perform_change h.pending_lt a
    have hs := hchange.shut hc
    have hrest := ih (h.change hchange) hs.1
    rw [run_cons, accepted_turns_cons, hs.2, hrest.2]
    exact ⟨hrest.1, rfl⟩

lemma shut_of_stop {c : Client κ} {taken : List (PendingCall κ)}
    {done : List (PendingCall κ × Outcome)} (h : Accounts c taken done) (acts : List (Act κ))
    (hs : ∃ t ∈ c.turns acts, t.act = .close ∨ t.after.reading = false) :
    (c.run acts).closed = true := by
  induction acts generalizing c taken done with
  | nil => simp [turns] at hs
  | cons a acts ih =>
    have hrest := h.change (perform_change h.pending_lt a)
    obtain ⟨t, ht, hstop⟩ := hs
    rcases List.mem_cons.mp ht with rfl | ht
    · rcases hstop with hclose | hread
      · obtain rfl : a = .close := hclose
        exact (shut_run hrest rfl acts).1
      · exact (shut_run hrest (hrest.stopped hread) acts).1
    · exact ih hrest ⟨t, ht, hstop⟩

lemma response_reads (c : Client κ) (a : Act κ) {r : Response}
    (hr : Turn.response ⟨c, a⟩ = some r) :
    Reads c (c.perform a).1 (completions (c.perform a).2.1) (some r) := by
  cases a with
  | signal s => exact hr ▸ signal_reads c s
  | finish => exact hr ▸ finish_reads c
  | _ => simp [Turn.response, arrival] at hr

lemma Reads.response {c d : Client κ} {fin : List (PendingCall κ × Outcome)} {r : Option Response}
    (h : Reads c d fin r) {call : PendingCall κ} {outcome : Outcome} (hm : (call, outcome) ∈ fin)
    (hs : fromServer outcome = true) : ∃ response, r = some response := by
  cases h with
  | buffered _ _ hc => simp [hc] at hm
  | answered r => exact ⟨r, rfl⟩
  | stray r => exact ⟨r, rfl⟩
  | stopped _ _ _ hc =>
    rw [hc] at hm
    obtain ⟨_, _, he⟩ := List.mem_map.mp hm
    obtain ⟨_, rfl⟩ := Prod.mk.injEq .. ▸ he
    simp [fromServer] at hs

lemma fromServer_response {c : Client κ} {a : Act κ}
    (hb : ∀ other ∈ c.pending, other.id < c.nextId) {call : PendingCall κ} {outcome : Outcome}
    (hm : (call, outcome) ∈ Turn.completions ⟨c, a⟩) (hs : fromServer outcome = true) :
    ∃ r, Turn.response ⟨c, a⟩ = some r := by
  simp only [Turn.completions] at hm
  cases a with
  | call method params tag =>
    have hc := call_change c method params tag hb
    generalize completions (c.perform (.call method params tag)).2.1 = fin at hm hc
    generalize (c.perform (.call method params tag)).2.2 = new at hc
    cases hc <;> simp at hm
  | notify method params => simp [perform, completions_notify] at hm
  | reply id r => simp [perform, completions_reply] at hm
  | close =>
    simp only [perform, completions_close, List.mem_map, Prod.mk.injEq] at hm
    obtain ⟨_, _, _, rfl⟩ := hm
    simp [fromServer] at hs
  | signal s => exact (signal_reads c s).response hm hs
  | finish => exact (finish_reads c).response hm hs

lemma Turn.answers_of_fromServer {t : Turn κ}
    (hb : ∀ other ∈ t.before.pending, other.id < t.before.nextId) {call : PendingCall κ}
    {outcome : Outcome} (hm : (call, outcome) ∈ t.completions) (hs : fromServer outcome = true) :
    ∃ r, t.response = some r ∧ outcome = r.outcome ∧ t.Answers r call := by
  obtain ⟨r, hr⟩ := fromServer_response hb hm hs
  have hc : (call, outcome) ∈ LanguageHost.completions (t.before.perform t.act).2.1 := hm
  cases response_reads t.before t.act hr with
  | answered _ other hid hp hd ha =>
    obtain ⟨rfl, rfl⟩ : call = other ∧ outcome = r.outcome := by simpa [hd] using hc
    exact ⟨r, hr, rfl, hid, hp, hd, ha⟩
  | stray _ _ hd => simp [hd] at hc

lemma Turn.response_cases {t : Turn κ} {r : Response} (hr : t.response = some r) :
    (∃ call, t.Answers r call) ∨
      (∀ call ∈ t.before.pending, r.id ≠ some (.number call.id)) ∧ t.ChangesNothing := by
  cases response_reads t.before t.act hr with
  | answered _ call hid hp hd ha => exact .inl ⟨call, hid, hp, hd, ha⟩
  | stray _ hn hd ha => exact .inr ⟨hn, hd, ha⟩

/-- What a connection owes to those who call on it, over a run that ends with `last`. -/
structure SettlesOnce (acts : List (Act κ)) (ts : List (Turn κ)) (last : Client κ) : Prop where
  numbers : ((accepted ts).map (·.id)).Nodup ∧
    ∀ call ∈ accepted ts, 1 ≤ call.id ∧ call.id ≤ acts.countP Act.isCall
  answers : ∀ t ∈ ts, ∀ call outcome, (call, outcome) ∈ t.completions → fromServer outcome = true →
    ∃ r, t.response = some r ∧ outcome = r.outcome ∧ t.Answers r call
  strays : ∀ pre t post, ts = pre ++ t :: post → ∀ r, t.response = some r →
    (∀ call ∈ accepted pre, r.id = some (.number call.id) →
      call.id ∈ (completed pre).map (·.1.id)) → t.ChangesNothing
  once : ((completed ts).map (·.1.id)).Nodup ∧ ∀ e ∈ completed ts, e.1 ∈ accepted ts
  settled : ∀ pre post, ts = pre ++ post → (∃ t ∈ pre, t.act = .close ∨ t.after.reading = false) →
    (accepted ts).Perm ((completed ts).map Prod.fst) ∧ last.pending = [] ∧ accepted post = []

lemma mem_turns {c : Client κ} {acts : List (Act κ)} {t : Turn κ} (h : t ∈ c.turns acts) :
    ∃ first rest, acts = first ++ t.act :: rest ∧ t.before = c.run first := by
  induction acts generalizing c with
  | nil => simp [turns] at h
  | cons a acts ih =>
    rcases List.mem_cons.mp h with rfl | h
    · exact ⟨[], acts, rfl, rfl⟩
    · obtain ⟨first, rest, he, hb⟩ := ih h
      exact ⟨a :: first, rest, by rw [he, List.cons_append], hb⟩

theorem calls_settle_once (l : LanguageId) (g : Nat) (traced : Bool) (plan : Nat → Verdict)
    (acts : List (Act κ)) :
    SettlesOnce acts ((start l g traced plan : Client κ).turns acts)
      ((start l g traced plan).run acts) := by
  have hstart : Accounts (start l g traced plan : Client κ) [] [] := Accounts.start l g traced plan
  generalize hc : (start l g traced plan : Client κ) = c at hstart ⊢
  have hrun (acts : List (Act κ)) : Accounts (c.run acts) (accepted (c.turns acts))
      (completed (c.turns acts)) := by simpa using hstart.run acts
  refine ⟨⟨(hrun acts).distinct, fun call hm => ?_⟩, ?_, ?_, ⟨(hrun acts).done_nodup, ?_⟩, ?_⟩
  · have hn := nextId_run hstart acts
    have hone : c.nextId = 1 := hc ▸ rfl
    have := (hrun acts).numbered call hm
    omega
  · intro t ht call outcome hm hs
    obtain ⟨first, _, _, hb⟩ := mem_turns ht
    exact Turn.answers_of_fromServer (hb ▸ (hrun first).pending_lt) hm hs
  · intro pre t post hts r hr hold
    obtain ⟨first, rest, rfl, rfl, hpost⟩ := turns_eq_append hts
    have hb : t.before = c.run first := by
      cases rest with
      | nil => simp [turns] at hpost
      | cons a rest =>
        simp only [turns, List.cons.injEq] at hpost
        rw [hpost.1]
    rcases Turn.response_cases hr with ⟨call, hid, hp, _⟩ | h
    -- A call that is in the table was accepted before and has not been completed.
    · have hcall := (hrun first).pending_not_done (hb ▸ hp)
      exact (hcall.2 (hold call hcall.1 hid)).elim
    · exact h.2
  · intro e he
    exact (hrun acts).balanced.mem_iff.mpr (List.mem_append_left _ (List.mem_map_of_mem he))
  · intro pre post hts hstop
    obtain ⟨first, rest, rfl, rfl, rfl⟩ := turns_eq_append hts
    -- Once the connection is closed nothing is accepted, and the table stays empty.
    have hshut := shut_run (hrun first) (shut_of_stop hstart first hstop) rest
    rw [← run_append] at hshut
    have hempty := (hrun (first ++ rest)).emptied hshut.1
    refine ⟨?_, hempty, hshut.2⟩
    simpa [hempty] using (hrun (first ++ rest)).balanced

end LanguageHost.Client
