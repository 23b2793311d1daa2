import LanguageHost.Proofs.Rpc.Turn

namespace LanguageHost.Client

variable {κ : Type}

lemma bind_pendingOf {c : Client κ} {id : Option RequestId} {call : PendingCall κ}
    (h : id.bind c.pendingOf = some call) : call ∈ c.pending ∧ id = some (.number call.id) := by
  cases id with
  | none => simp at h
  | some id =>
    cases id with
    | string s => simp [pendingOf] at h
    | number n =>
      simp only [Option.bind_some, pendingOf] at h
      have hn := List.find?_some h
      simp only [decide_eq_true_eq] at hn
      exact ⟨List.mem_of_find?_eq_some h, by rw [hn]⟩

lemma complete_stray {c : Client κ} {r : Response} (h : r.id.bind c.pendingOf = none) :
    (c.complete r).1 = c ∧ completions (c.complete r).2 = [] := by
  simp only [complete, h]
  exact ⟨trivial, rfl⟩

lemma complete_answer {c : Client κ} {r : Response} {call : PendingCall κ}
    (h : r.id.bind c.pendingOf = some call) :
    (c.complete r).1 = c.withdraw call.id ∧ completions (c.complete r).2 = [(call, r.outcome)] := by
  simp only [complete, h]
  exact ⟨trivial, rfl⟩

lemma dispatch_response {c : Client κ} {m : Json} {r : Response}
    (h : Inbound.classify m = .ok (.response r)) :
    (c.dispatch m).1 = (c.complete r).1 ∧
      completions (c.dispatch m).2 = completions (c.complete r).2 := by
  simp only [dispatch, h, completions_append, completions_traceNote]
  exact ⟨trivial, rfl⟩

lemma dispatch_other {c : Client κ} {m : Json}
    (h : ∀ r, Inbound.classify m ≠ .ok (.response r)) :
    (c.dispatch m).1 = c ∧ completions (c.dispatch m).2 = [] := by
  cases hm : Inbound.classify m with
  | error e =>
    simp only [dispatch, hm, completions_append, completions_traceNote]
    exact ⟨trivial, rfl⟩
  | ok i =>
    cases i with
    | response r => exact (h r hm).elim
    | notification =>
      simp only [dispatch, hm, completions_append, completions_traceNote]
      exact ⟨trivial, rfl⟩
    | request =>
      simp only [dispatch, hm, completions_append, completions_traceNote]
      exact ⟨trivial, rfl⟩

lemma completions_stop (c : Client κ) (e : Option TransportError) :
    completions (c.stop e).2 = c.pending.map (·, .error (.transport .unexpectedEnd)) := by
  have hc : completions (e.toList.map fun _ => note (κ := κ) .reader .warn
      "closing connection after transport error" [c.languageField, c.generationField]) = [] := by
    cases e <;> rfl
  simp only [stop, drain, completions_append, completions_map_completed, hc]
  exact List.append_nil _

lemma take_error (c : Client κ) (e : TransportError) : ∃ error, c.take (.error e) = c.stop error := by
  cases e with
  | unexpectedEnd => exact ⟨none, rfl⟩
  | _ => exact ⟨some _, rfl⟩

lemma message_finish (p : Frame.Phase) : ∃ e, Frame.message (Frame.finish p) = .error e := by
  have hbegin (announced : Option Nat) (b : Bytes)
      (h : Frame.beginBody announced = .done (.ok b)) : b = [] := by
    cases announced with
    | none => simp [Frame.beginBody] at h
    | some n =>
      simp only [Frame.beginBody] at h
      split at h
      · simp at h
      · split at h
        · simpa using h.symm
        · simp at h
  have hend (announced : Option Nat) (line b : Bytes)
      (h : Frame.endLine announced line = .done (.ok b)) : b = [] := by
    simp only [Frame.endLine] at h
    split at h
    · simp at h
    · split at h
      · exact hbegin announced b h
      · split at h <;> simp at h
  cases hf : Frame.finish p with
  | error e => exact ⟨e, rfl⟩
  | ok b =>
    have hb : b = [] := by
      cases p with
      | body => simp [Frame.finish] at hf
      | line announced soFar =>
        cases soFar with
        | nil => simp [Frame.finish] at hf
        | cons x xs =>
          simp only [Frame.finish] at hf
          split at hf
          · next hd => exact hend announced _ b (hf ▸ hd)
          · simp at hf
    exact ⟨.malformedBody .unexpectedEnd, by rw [hb]; rfl⟩

inductive Reads (c d : Client κ) (done : List (PendingCall κ × Outcome)) : Option Response → Prop
  | buffered (p : Frame.Phase) (hd : d = { c with phase := p }) (hc : done = []) : Reads c d done none
  | answered (r : Response) (call : PendingCall κ) (hid : r.id = some (.number call.id))
      (hm : call ∈ c.pending) (hc : done = [(call, r.outcome)])
      (hd : d = { c with phase := .start, pending := c.pending.filter (·.id ≠ call.id) }) :
      Reads c d done (some r)
  | stray (r : Response) (hn : ∀ call ∈ c.pending, r.id ≠ some (.number call.id)) (hc : done = [])
      (hd : d = { c with phase := .start }) : Reads c d done (some r)
  | stopped (hp : d.pending = []) (hi : d.nextId = c.nextId) (hcl : d.closed = true)
      (hc : done = c.pending.map (·, .error (.transport .unexpectedEnd))) : Reads c d done none

lemma pendingOf_ne_none {c : Client κ} {id : Option RequestId} {call : PendingCall κ}
    (hm : call ∈ c.pending) (hid : id = some (.number call.id)) : id.bind c.pendingOf ≠ none := by
  subst hid
  simp only [Option.bind_some, pendingOf, ne_eq, List.find?_eq_none, decide_eq_true_eq, not_forall,
    not_not]
  exact ⟨call, hm, rfl⟩

lemma take_reads (c : Client κ) (m : Except TransportError Json) :
    Reads c ({ c with phase := .start }.take m).1 (completions ({ c with phase := .start }.take m).2)
      (match m.toOption.map Inbound.classify with
        | some (.ok (.response r)) => some r
        | _ => none) := by
  cases m with
  | error e =>
    obtain ⟨error, he⟩ := take_error { c with phase := .start } e
    rw [he, completions_stop]
    exact .stopped rfl rfl rfl rfl
  | ok m =>
    simp only [take, Except.toOption, Option.map_some]
    cases hm : Inbound.classify m with
    | error e =>
      have h := dispatch_other (c := { c with phase := .start }) (m := m) (by simp [hm])
      exact .buffered .start h.1 h.2
    | ok i =>
      cases i with
      | response r =>
        have h := dispatch_response (c := { c with phase := .start }) hm
        rw [h.1, h.2]
        cases hr : r.id.bind { c with phase := .start }.pendingOf with
        | none =>
          have hs := complete_stray hr
          refine .stray r (fun call hcall hid => ?_) hs.2 hs.1
          exact pendingOf_ne_none (c := { c with phase := .start }) hcall hid hr
        | some call =>
          have ha := complete_answer hr
          have hp := bind_pendingOf hr
          exact .answered r call hp.2 hp.1 ha.2 ha.1
      | notification =>
        have h := dispatch_other (c := { c with phase := .start }) (m := m) (by simp [hm])
        exact .buffered .start h.1 h.2
      | request =>
        have h := dispatch_other (c := { c with phase := .start }) (m := m) (by simp [hm])
        exact .buffered .start h.1 h.2

lemma signal_reads (c : Client κ) (s : Frame.Signal) :
    Reads c (c.feed s).1 (completions (c.feed s).2) (Turn.response ⟨c, .signal s⟩) := by
  cases hr : c.reading with
  | false =>
    simp only [feed, hr, Turn.response, arrival]
    exact .buffered c.phase rfl rfl
  | true =>
    cases hf : Frame.feed c.phase s with
    | more p =>
      have h : c.feed s = ({ c with phase := p }, []) := by rw [feed, if_pos hr, hf]
      simp only [h, Turn.response, arrival, hf, ite_self]
      exact .buffered p rfl rfl
    | done r =>
      have h : c.feed s = { c with phase := .start }.take (Frame.message r) := by
        rw [feed, if_pos hr, hf]
      simp only [h, Turn.response, arrival, hf, if_pos hr]
      exact take_reads c (Frame.message r)

lemma finish_reads (c : Client κ) :
    Reads c c.finish.1 (completions c.finish.2) (Turn.response ⟨c, .finish⟩) := by
  cases hr : c.reading with
  | false =>
    simp only [finish, hr, Turn.response, arrival]
    exact .buffered c.phase rfl rfl
  | true =>
    obtain ⟨e, he⟩ := message_finish c.phase
    obtain ⟨error, hs⟩ := take_error c e
    simp only [finish, hr, he, Turn.response, arrival, if_true, hs, completions_stop]
    exact .stopped rfl rfl rfl rfl

lemma Reads.change {c d : Client κ} {done : List (PendingCall κ × Outcome)} {r : Option Response}
    (h : Reads c d done r) : Change c d 0 none done := by
  cases h with
  | buffered p hd hc => subst hd hc; exact .quiet 0 rfl rfl rfl rfl
  | answered r call hid hm hc hd =>
    subst hd hc
    exact .answer call r.outcome hm rfl rfl rfl rfl
  | stray r hn hc hd => subst hd hc; exact .quiet 0 rfl rfl rfl rfl
  | stopped hp hi hcl hc => subst hc; exact .drain _ hp hi hcl

end LanguageHost.Client
