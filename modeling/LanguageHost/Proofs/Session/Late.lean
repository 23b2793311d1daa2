import LanguageHost.Proofs.Session.Loss

namespace LanguageHost.Host

variable {h k : Host} {i j : Instance} {g n : Nat}

structure Spares (h k : Host) : Prop where
  slots : k.slots = h.slots
  versions : k.versions = h.versions
  progress : k.progress = h.progress

/-- No server is touched, nothing is sent and the editor is told nothing. -/
structure Dismisses (h k : Host) : Prop extends Spares h k where
  retiring : k.retiring = h.retiring
  queued : k.queued = h.queued
  silent : h.connections.Evolves k.connections []

/-- Only a server that was replaced is concerned. It is told to exit at most, and the editor learns
that it has stopped when it is removed. -/
structure Confines (h : Host) (i : Instance) (g : Nat) (k : Host) : Prop extends Spares h k where
  exits : ∃ sent, h.connections.Evolves k.connections sent ∧
    (sent = [] ∨ ∃ result, sent = [(g, .notification "exit" none, result)])
  stops : k.retiring = h.retiring ∧ k.queued = h.queued ∨
    h.retiring.Perm (i :: k.retiring) ∧ k.queued = h.queued ++ [.stopped i.language]

lemma eq_of_nodup_filterMap {α β : Type} {f : α → Option β} {xs : List α}
    (hn : (xs.filterMap f).Nodup) {x y : α} {b : β} (hx : x ∈ xs) (hy : y ∈ xs) (hfx : f x = some b)
    (hfy : f y = some b) : x = y := by
  induction xs with
  | nil => cases hx
  | cons z rest ih =>
    have hrest : (rest.filterMap f).Nodup :=
      ((List.sublist_cons_self z rest).filterMap f).nodup hn
    have hz (hfz : f z = some b) (a : α) (ha : a ∈ rest) (hfa : f a = some b) : False := by
      rw [List.filterMap_cons_some hfz, List.nodup_cons] at hn
      exact hn.1 (List.mem_filterMap.mpr ⟨a, ha, hfa⟩)
    rcases List.mem_cons.mp hx with hxz | hxr
    · rcases List.mem_cons.mp hy with hyz | hyr
      · rw [hxz, hyz]
      · exact (hz (hxz ▸ hfx) y hyr hfy).elim
    · rcases List.mem_cons.mp hy with hyz | hyr
      · exact (hz (hyz ▸ hfy) x hxr hfx).elim
      · exact ih hrest hxr hyr

lemma findRetiring_mem (hc : h.Coherent) (hi : i ∈ h.retiring) (hg : i.connection = some g) :
    ∃ n, h.findRetiring g = some (n, i) := by
  cases hf : h.findRetiring g with
  | none =>
    simp only [findRetiring, Option.bind_eq_none_iff, Option.map_eq_none_iff] at hf
    have hnone : h.retiring.findIdx? (fun j => decide (j.connection = some g)) = none := by
      by_contra hne
      obtain ⟨n, hn⟩ := Option.ne_none_iff_exists'.mp hne
      obtain ⟨hlt, -⟩ := List.findIdx?_eq_some_iff_getElem.mp hn
      have hout := hf n hn
      rw [List.getElem?_eq_getElem hlt] at hout
      cases hout
    have := List.findIdx?_eq_none_iff.mp hnone i hi
    simp [hg] at this
  | some r =>
    obtain ⟨n, j⟩ := r
    obtain ⟨hj, hjg⟩ := findRetiring_some hf
    have hdist := hc.distinct
    rw [generations_eq, List.nodup_append] at hdist
    have hij : i = j :=
      eq_of_nodup_filterMap hdist.2.1 hi (List.mem_of_getElem? hj) hg hjg
    exact ⟨n, by rw [hij]⟩

lemma exit_evolves (hc : h.Coherent) (hi : i ∈ h.retiring) (hg : i.connection = some g) :
    ∃ result, h.connections.Evolves (i.notify "exit" .null h.connections).1
      [(g, .notification "exit" none, result)] := by
  obtain ⟨n, hn, hl⟩ := (hc.leaves i hi).linked
  obtain rfl : n = g := Option.some.inj (hn.symm.trans hg)
  exact Instance.notify_sends hg hl "exit" .null

lemma handleRetiring_confines (hc : h.Coherent) (hn : h.retiring[n]? = some i)
    (hg : i.connection = some g) (kind : ServerEventKind) :
    h.Confines i g (h.handleRetiring n i kind) := by
  have hi : i ∈ h.retiring := List.mem_of_getElem? hn
  have hset : h.retiring.set n i = h.retiring := by
    obtain ⟨hlt, hi⟩ := List.getElem?_eq_some_iff.mp hn
    rw [← hi, List.set_getElem_self]
  have hgone (how : Ending) {c : Connections} {sent : List (Nat × Submission)}
      (hc : h.connections.Evolves c sent)
      (hs : sent = [] ∨ ∃ result, sent = [(g, .notification "exit" none, result)]) :
      h.Confines i g ({ h with
        connections := (i.finish how c).1
        retiring := swapRemove h.retiring n }.queue (.stopped i.language)) :=
    ⟨⟨rfl, rfl, rfl⟩, ⟨sent, hc.trans_quiet (i.finish_evolves how c), hs⟩,
      .inr ⟨swapRemove_perm hn, rfl⟩⟩
  cases kind with
  | closed error => exact hgone .terminate (.refl _) (.inl rfl)
  | shutdownResponse outcome =>
    simp only [handleRetiring, stepRetiring]
    obtain ⟨result, he⟩ := exit_evolves hc hi hg
    rcases shutdownAcknowledged_result i outcome h.connections with ⟨v, hv, ha⟩ | ⟨r, d, hd, ha⟩
    · simp only [ha, Bool.false_eq_true, if_false, hset]
      exact ⟨⟨rfl, rfl, rfl⟩, ⟨_, he, .inr ⟨result, rfl⟩⟩, .inl ⟨rfl, rfl⟩⟩
    · simp only [ha, if_true]
      have hlog := Connections.log_evolves d r
      rcases hd with rfl | ⟨-, rfl⟩
      · exact hgone .forceExit hlog (.inl rfl)
      · exact hgone .forceExit (he.trans_quiet hlog) (.inr ⟨result, rfl⟩)
  | _ =>
    simp only [handleRetiring, stepRetiring, Bool.false_eq_true, if_false, hset]
    exact ⟨⟨rfl, rfl, rfl⟩, ⟨[], .refl _, .inl rfl⟩, .inl ⟨rfl, rfl⟩⟩

lemma handleEvent_dismissed {e : ServerEvent} (hg : e.generation ∉ h.generations) (w : Workspace) :
    h.Dismisses (h.handleEvent w e).1 ∧ (h.handleEvent w e).2 = w := by
  rw [generations_eq, List.mem_append, not_or] at hg
  have hretired (j : Instance) (hj : j ∈ h.retiring) : j.connection ≠ some e.generation :=
    fun hjg => hg.2 (List.mem_filterMap.mpr ⟨j, hj, hjg⟩)
  have hcurrent : ¬h.isCurrent e.language e.generation = true := by
    intro hcur
    obtain ⟨i, hi, hig⟩ := isCurrent_iff.mp hcur
    exact hg.1 (List.mem_filterMap.mpr ⟨_, Slots.mem_of_get? (instance?_eq_some.mp hi), hig⟩)
  simp only [handleEvent, findRetiring_none hretired, hcurrent, Bool.false_eq_true, if_false]
  exact ⟨⟨⟨rfl, rfl, rfl⟩, rfl, rfl, Connections.log_evolves _ _⟩, trivial⟩

/-- Whatever happened to a session, an event from a connection that no server has is dismissed, and
one from a server that was replaced concerns that server alone. -/
theorem late_events_confined (settings : Settings) (root : Option FilePath)
    (environment : Environment) (ms : List Move) (w : Workspace) (e : ServerEvent)
    (hk : (fresh settings root environment).run ms = k) :
    (e.generation ∉ k.generations →
      k.Dismisses (k.handleEvent w e).1 ∧ (k.handleEvent w e).2 = w) ∧
    ∀ i ∈ k.retiring, i.connection = some e.generation →
      k.Confines i e.generation (k.handleEvent w e).1 ∧ (k.handleEvent w e).2 = w := by
  have hc : k.Coherent := hk ▸ run_coherent (fresh_coherent settings root environment) ms
  refine ⟨fun hg => handleEvent_dismissed hg w, fun i hi hg => ?_⟩
  obtain ⟨n, hf⟩ := findRetiring_mem hc hi hg
  obtain ⟨hn, -⟩ := findRetiring_some hf
  simp only [handleEvent, hf]
  exact ⟨handleRetiring_confines hc hn hg e.kind, trivial⟩

theorem replaced_server_confined :
    (Sample.session.run [.didOpen Sample.document, .restartAll {}]).Dismisses
      ((Sample.session.run [.didOpen Sample.document, .restartAll {}]).handleEvent {}
        ⟨Sample.language, 7, .notification "x" .null⟩).1 ∧
    ∃ i, (Sample.session.run [.didOpen Sample.document, .restartAll {}]).Confines i 1
      ((Sample.session.run [.didOpen Sample.document, .restartAll {}]).handleEvent {}
        ⟨Sample.language, 1, .closed none⟩).1 := by
  have hlate (e : ServerEvent) := late_events_confined Sample.settings none Sample.environment
    [.didOpen Sample.document, .restartAll {}] {} e rfl
  obtain ⟨i, hi, hg⟩ : ∃ i ∈ (Sample.session.run
      [.didOpen Sample.document, .restartAll {}]).retiring, i.connection = some 1 := by
    have hconnections : (Sample.session.run
        [.didOpen Sample.document, .restartAll {}]).retiring.map (·.connection) = [some 1] := by
      decide +kernel
    exact List.mem_map.mp (by rw [hconnections]; exact List.mem_singleton_self _)
  exact ⟨((hlate ⟨Sample.language, 7, .notification "x" .null⟩).1 (by decide +kernel)).1, i,
    ((hlate ⟨Sample.language, 1, .closed none⟩).2 i hi hg).1⟩

end LanguageHost.Host
