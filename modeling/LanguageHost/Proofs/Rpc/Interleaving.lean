import Mathlib.Data.List.Induction
import Mathlib.Data.List.Nodup
import Mathlib.Data.List.Perm.Basic
import LanguageHost.Proofs.Rpc.Settlement

/-! A call among other parties. The steps of the caller come between those of the reader and of
somebody who closes the connection, so the table can lose the entry of a call before its caller
knows whether the frame got through. -/

namespace LanguageHost.Client

variable {κ : Type}

structure Inquiry (κ : Type) where
  method : String
  params : Json
  tag : κ

def Inquiry.entry (q : Inquiry κ) (id : Nat) : PendingCall κ := ⟨id, q.method, q.tag⟩

inductive Advance where
  | waiting
  | entered (id : Nat)
  | failed (id : Nat) (e : TransportError)
  | returned (id : Nat) (result : Except RpcError Unit)

structure Scene (κ : Type) where
  client : Client κ
  caller : Advance := .waiting
  due : List (PendingCall κ × Outcome) := []
  ran : List (PendingCall κ × Outcome) := []
  dropped : List (PendingCall κ) := []

/-- One step of one party. -/
inductive Beat (κ : Type) where
  | enter
  | write
  | withdraw
  | act (a : Act κ)
  | stop (error : Option TransportError)
  | cancel
  | release
  | complete (n : Nat)

def Beat.shuts : Beat κ → Bool
  | .stop _ | .cancel | .act .close => true
  | _ => false

namespace Scene

def after (s : Scene κ) (c : Client κ) (done : List (PendingCall κ × Outcome)) : Scene κ :=
  { s with client := c, due := s.due ++ done }

def enter (q : Inquiry κ) (s : Scene κ) : Scene κ :=
  match s.client.reserve q.method q.tag with
  | (c, some id) => { s with client := c, caller := .entered id }
  | (c, none) =>
    { s with
      client := c
      caller := .returned s.client.nextId (.error .cancelled)
      dropped := s.dropped ++ [q.entry s.client.nextId] }

def write (q : Inquiry κ) (s : Scene κ) (id : Nat) : Scene κ :=
  match s.client.submitCall id q.method q.params with
  | (c, _, .ok ()) => { s with client := c, caller := .returned id (.ok ()) }
  | (c, _, .error e) => { s with client := c, caller := .failed id e }

def withdraw (s : Scene κ) (id : Nat) (e : TransportError) : Scene κ :=
  { s with
    client := s.client.withdraw id
    caller := .returned id (.error (.transport e))
    dropped := s.dropped ++ s.client.pending.filter (·.id = id) }

def complete (s : Scene κ) (n : Nat) : Scene κ :=
  match s.due[n]? with
  | some e => { s with due := s.due.eraseIdx n, ran := s.ran ++ [e] }
  | none => s

/-- A step that the caller is not ready for does nothing. -/
def play (q : Inquiry κ) (s : Scene κ) : Beat κ → Scene κ
  | .enter =>
    match s.caller with
    | .waiting => s.enter q
    | _ => s
  | .write =>
    match s.caller with
    | .entered id => s.write q id
    | _ => s
  | .withdraw =>
    match s.caller with
    | .failed id e => s.withdraw id e
    | _ => s
  | .act a => s.after (s.client.perform a).1 (completions (s.client.perform a).2.1)
  | .stop error => s.after (s.client.stop error).1 (completions (s.client.stop error).2)
  | .cancel =>
    s.after (s.client.drain .cancelled).1 (completions (s.client.drain .cancelled).2)
  | .release => { s with client := { s.client with sink := none } }
  | .complete n => s.complete n

def run (q : Inquiry κ) (s : Scene κ) (beats : List (Beat κ)) : Scene κ := beats.foldl (play q) s

def taken (s : Scene κ) : List (PendingCall κ × Outcome) := s.due ++ s.ran

def numbers (s : Scene κ) : List Nat :=
  s.client.pending.map (·.id) ++ (s.taken.map (·.1.id) ++ s.dropped.map (·.id))

lemma run_append (q : Inquiry κ) (s : Scene κ) (beats more : List (Beat κ)) :
    s.run q (beats ++ more) = (s.run q beats).run q more := List.foldl_append

lemma enter_shut (q : Inquiry κ) {s : Scene κ} (hc : s.client.closed = true) :
    s.enter q = { s with
      client := { s.client with nextId := s.client.nextId + 1 }
      caller := .returned s.client.nextId (.error .cancelled)
      dropped := s.dropped ++ [q.entry s.client.nextId] } := by
  simp [enter, reserve, hc]

lemma enter_open (q : Inquiry κ) {s : Scene κ} (hc : s.client.closed = false) :
    s.enter q = { s with
      client := s.client.reserved q.method q.tag
      caller := .entered s.client.nextId } := by
  simp [enter, reserve, reserved, hc]

theorem enter_write_withdraw (q : Inquiry κ) (c : Client κ) :
    let s := run q { client := c } [.enter, .write, .withdraw]
    s.client = (c.call q.method q.params q.tag).1 ∧
      ∃ id, s.caller = .returned id ((c.call q.method q.params q.tag).2.2.map fun _ => ()) := by
  simp only [run, List.foldl_cons, List.foldl_nil, play, enter]
  rcases hr : c.reserve q.method q.tag with ⟨d, _ | id⟩
  · simp only [call, hr]
    exact ⟨trivial, _, rfl⟩
  · rcases hs : d.submitCall id q.method q.params with ⟨f, es, _ | _⟩ <;>
      simp only [call, hr, hs, write, withdraw] <;>
      exact ⟨trivial, _, rfl⟩

theorem cancel_release (q : Inquiry κ) (s : Scene κ) :
    s.run q [.cancel, .release] = s.run q [.act .close] := by
  have hdrain : completions (s.client.drain .cancelled).2 = completions s.client.close.2 :=
    (completions_map_completed _ _).trans (completions_close s.client).symm
  simp only [run, List.foldl_cons, List.foldl_nil, play, after, perform, hdrain]
  rfl

end Scene

lemma drain_change (c : Client κ) (e : RpcError) :
    Change c (c.drain e).1 0 none (completions (c.drain e).2) := by
  rw [drain, completions_map_completed]
  exact .drain e rfl rfl rfl

lemma stop_change (c : Client κ) (error : Option TransportError) :
    Change c (c.stop error).1 0 none (completions (c.stop error).2) := by
  rw [completions_stop]
  exact .drain (.transport .unexpectedEnd) rfl rfl rfl

lemma Change.count {c d : Client κ} {n : Nat} {new : Option (PendingCall κ)}
    {done : List (PendingCall κ × Outcome)} (h : Change c d n new done)
    (hn : (c.pending.map (·.id)).Nodup) (a : Nat) :
    (d.pending.map (·.id)).count a + (done.map (·.1.id)).count a =
      (c.pending.map (·.id)).count a + (new.toList.map (·.id)).count a := by
  cases h with
  | quiet _ hp => simp [hp]
  | accept call _ hp => simp [hp, List.count_append]
  | answer call _ hm hp =>
    have hperm := ((Accounts.filter_perm hn hm).map (·.id)).count_eq a
    rw [hp, hperm, List.map_cons, List.count_cons]
    simp [List.count_cons]
  | drain _ hp => simp [hp, Function.comp_def]

lemma Change.keeps {c d : Client κ} {n : Nat} {new : Option (PendingCall κ)}
    {done : List (PendingCall κ × Outcome)} (h : Change c d n new done)
    (hn : (c.pending.map (·.id)).Nodup) {call : PendingCall κ} (hm : call ∈ c.pending) :
    call ∈ d.pending ∨ ∃ outcome, (call, outcome) ∈ done := by
  cases h with
  | quiet _ hp => exact .inl (hp ▸ hm)
  | accept _ _ hp => exact .inl (hp ▸ List.mem_append_left _ hm)
  | answer other outcome ho hp =>
    by_cases he : call.id = other.id
    · obtain rfl := List.inj_on_of_nodup_map hn hm ho he
      exact .inr ⟨outcome, List.mem_singleton_self _⟩
    · exact .inl (hp ▸ List.mem_filter.mpr ⟨hm, by simpa using he⟩)
  | drain e => exact .inr ⟨.error e, List.mem_map_of_mem hm⟩

namespace Scene

variable {s t u : Scene κ} {q : Inquiry κ}

def owed (s : Scene κ) : Option Nat :=
  match s.caller with
  | .entered id | .failed id _ | .returned id (.ok ()) => some id
  | _ => none

structure Sound (q : Inquiry κ) (s : Scene κ) : Prop where
  numbered : ∀ n ∈ s.numbers, n < s.client.nextId
  distinct : s.numbers.Nodup
  emptied : s.client.closed = true → s.client.pending = []
  stopped : s.client.reading = false → s.client.closed = true
  kept : ∀ id, s.owed = some id →
    q.entry id ∈ s.client.pending ∨ ∃ outcome, (q.entry id, outcome) ∈ s.taken

structure Precedes (s t : Scene κ) : Prop where
  taken : s.taken ⊆ t.taken
  dropped : s.dropped.map (·.id) ⊆ t.dropped.map (·.id)
  closed : s.client.closed = true → t.client.closed = true

lemma Precedes.refl (s : Scene κ) : Precedes s s := ⟨fun _ h => h, fun _ h => h, fun h => h⟩

lemma Precedes.trans (h : Precedes s t) (h' : Precedes t u) : Precedes s u :=
  ⟨List.Subset.trans h.taken h'.taken, List.Subset.trans h.dropped h'.dropped,
    fun hc => h'.closed (h.closed hc)⟩

namespace Sound

lemma start (q : Inquiry κ) (l : LanguageId) (g : Nat) (traced : Bool) (plan : Nat → Verdict) :
    Sound q { client := Client.start l g traced plan } where
  numbered := by simp [numbers, taken, Client.start]
  distinct := by simp [numbers, taken, Client.start]
  emptied := fun _ => rfl
  stopped := by simp [Client.start]
  kept := by simp [owed]

lemma pending_nodup (hs : s.Sound q) : (s.client.pending.map (·.id)).Nodup :=
  (List.nodup_append.mp hs.distinct).1

lemma pending_lt (hs : s.Sound q) : ∀ call ∈ s.client.pending, call.id < s.client.nextId :=
  fun _ hm => hs.numbered _ (List.mem_append_left _ (List.mem_map_of_mem hm))

lemma renumbered (hs : s.Sound q) (new : Option Nat) (hp : t.numbers.Perm (new.toList ++ s.numbers))
    (hnew : ∀ n ∈ new, n = s.client.nextId ∧ n < t.client.nextId)
    (hle : s.client.nextId ≤ t.client.nextId) :
    (∀ n ∈ t.numbers, n < t.client.nextId) ∧ t.numbers.Nodup := by
  constructor
  · intro n hn
    have hmem : n ∈ new ∨ n ∈ s.numbers := by simpa using hp.mem_iff.mp hn
    cases hmem with
    | inl h => exact (hnew n h).2
    | inr h => exact Nat.lt_of_lt_of_le (hs.numbered n h) hle
  · rw [hp.nodup_iff]
    cases new with
    | none => exact hs.distinct
    | some n =>
      refine List.nodup_cons.mpr ⟨fun hn => ?_, hs.distinct⟩
      have hlt := hs.numbered n hn
      have heq := (hnew n rfl).1
      omega

lemma after (hs : s.Sound q) {d : Client κ} {n : Nat} {new : Option (PendingCall κ)}
    {done : List (PendingCall κ × Outcome)} (hc : Change s.client d n new done) :
    (s.after d done).Sound q ∧ Precedes s (s.after d done) := by
  have hnumbers := hs.renumbered (t := s.after d done) (new.map (·.id))
    (by
      rw [List.perm_iff_count]
      intro a
      have ha := hc.count hs.pending_nodup a
      cases new <;>
        simp only [Scene.after, numbers, taken, List.map_append, List.count_append,
          Option.map_none, Option.map_some, Option.toList_none, Option.toList_some, List.map_nil,
          List.map_cons] at ha ⊢ <;>
        omega)
    (by
      intro m hm
      cases hc with
      | accept call hid _ hn =>
        obtain rfl : call.id = m := by simpa using hm
        exact ⟨hid, by simp only [Scene.after]; omega⟩
      | _ => simp at hm)
    (by simp only [Scene.after, hc.nextId]; omega)
  have htaken : s.taken ⊆ (s.after d done).taken :=
    List.append_subset.mpr ⟨fun e he => List.mem_append_left _ (List.mem_append_left _ he),
      List.subset_append_right _ _⟩
  refine ⟨⟨hnumbers.1, hnumbers.2, fun hd => ?_, fun hd => ?_, fun id hid => ?_⟩, htaken,
    fun _ h => h, fun h => (hc.shut h).1⟩
  · cases hc with
    | quiet _ hp _ hcl => exact hp.trans (hs.emptied (hcl.symm.trans hd))
    | accept _ _ _ _ ho hcl => cases (hcl.symm.trans hd).symm.trans ho
    | answer _ _ _ hp _ hcl =>
      refine hp.trans ?_
      rw [hs.emptied (hcl.symm.trans hd)]
      rfl
    | drain _ hp => exact hp
  · cases hc with
    | quiet _ _ _ hcl hr | accept _ _ _ _ _ hcl hr | answer _ _ _ _ _ hcl hr =>
      exact hcl.trans (hs.stopped (hr.symm.trans hd))
    | drain _ _ _ hcl => exact hcl
  · rcases hs.kept id hid with hm | ⟨outcome, hm⟩
    · refine (hc.keeps hs.pending_nodup hm).imp_right fun ⟨outcome, hd⟩ => ⟨outcome, ?_⟩
      exact List.mem_append_left _ (List.mem_append_right _ hd)
    · exact .inr ⟨outcome, htaken hm⟩

lemma goes (hs : s.Sound q) {a : Advance} (ho : ({ s with caller := a } : Scene κ).owed = s.owed) :
    ({ s with caller := a } : Scene κ).Sound q :=
  ⟨hs.numbered, hs.distinct, hs.emptied, hs.stopped,
    fun id hid => hs.kept id (ho.symm.trans hid)⟩

lemma sent (hs : s.Sound q) (sink : Option Sink) :
    ({ s with client := { s.client with sink } } : Scene κ).Sound q :=
  ⟨hs.numbered, hs.distinct, hs.emptied, hs.stopped, hs.kept⟩

lemma enter_shut (hs : s.Sound q) (hc : s.client.closed = true) :
    (s.enter q).Sound q ∧ Precedes s (s.enter q) := by
  have henter := Scene.enter_shut q hc
  have hnumbers := hs.renumbered (t := s.enter q) (some s.client.nextId)
    (by
      rw [henter, List.perm_iff_count]
      intro a
      simp only [numbers, taken, List.map_append, List.count_append, Option.toList_some,
        List.map_cons, List.map_nil, Inquiry.entry]
      omega)
    (by simp [henter]) (by simp [henter])
  rw [henter] at hnumbers ⊢
  exact ⟨⟨hnumbers.1, hnumbers.2, hs.emptied, hs.stopped, by simp [owed]⟩, fun _ h => h, by simp,
    fun h => h⟩

lemma enter_open (hs : s.Sound q) (hc : s.client.closed = false) :
    (s.enter q).Sound q ∧ Precedes s (s.enter q) := by
  have henter := Scene.enter_open q hc
  have hnumbers := hs.renumbered (t := s.enter q) (some s.client.nextId)
    (by
      rw [henter, List.perm_iff_count]
      intro a
      simp only [numbers, taken, reserved, List.map_append, List.count_append,
        Option.toList_some, List.map_cons, List.map_nil]
      omega)
    (by simp [henter, reserved]) (by simp [henter, reserved])
  rw [henter] at hnumbers ⊢
  refine ⟨⟨hnumbers.1, hnumbers.2, fun hd => ?_, hs.stopped, fun id hid => ?_⟩, fun _ h => h,
    fun _ h => h, fun h => h⟩
  · cases hc.symm.trans hd
  · obtain rfl : s.client.nextId = id := by simpa [owed] using hid
    exact .inl (List.mem_append_right _ (List.mem_singleton_self _))

lemma write (hs : s.Sound q) {id : Nat} (ha : s.caller = .entered id) :
    (s.write q id).Sound q ∧ Precedes s (s.write q id) := by
  obtain ⟨sink, hsink⟩ : ∃ sink, (s.client.submitCall id q.method q.params).1 =
      { s.client with sink } := submit_fst s.client _
  rcases hsub : s.client.submitCall id q.method q.params with ⟨d, es, result⟩
  obtain rfl : d = { s.client with sink } := by rw [← hsink, hsub]
  have hwritten := hs.sent sink
  cases result with
  | ok =>
    simp only [Scene.write, hsub]
    exact ⟨hwritten.goes (by simp [owed, ha]), fun _ h => h, fun _ h => h, fun h => h⟩
  | error e =>
    simp only [Scene.write, hsub]
    exact ⟨hwritten.goes (by simp [owed, ha]), fun _ h => h, fun _ h => h, fun h => h⟩

lemma withdraw (hs : s.Sound q) (id : Nat) (e : TransportError) :
    (s.withdraw id e).Sound q ∧ Precedes s (s.withdraw id e) := by
  have hsplit := (List.filter_append_perm (·.id = id) s.client.pending).map (·.id)
  have hnumbers := hs.renumbered (t := s.withdraw id e) none
    (by
      rw [List.perm_iff_count]
      intro a
      have ha := hsplit.count_eq a
      simp only [Scene.withdraw, Client.withdraw, numbers, taken, List.map_append,
        List.count_append, Option.toList_none, List.nil_append, decide_not, ne_eq] at ha ⊢
      omega)
    (by simp) (Nat.le_refl _)
  refine ⟨⟨hnumbers.1, hnumbers.2, fun hc => ?_, hs.stopped, by simp [owed, Scene.withdraw]⟩,
    fun _ h => h, ?_, fun h => h⟩
  · simp [Scene.withdraw, Client.withdraw, hs.emptied hc]
  · simp [Scene.withdraw]

lemma complete (hs : s.Sound q) (n : Nat) :
    (s.complete n).Sound q ∧ Precedes s (s.complete n) := by
  cases hn : s.due[n]? with
  | none =>
    simp only [Scene.complete, hn]
    exact ⟨hs, .refl s⟩
  | some e =>
    have hstep : s.complete n = { s with due := s.due.eraseIdx n, ran := s.ran ++ [e] } := by
      simp only [Scene.complete, hn]
    obtain ⟨hlt, rfl⟩ := List.getElem?_eq_some_iff.mp hn
    have hperm : (s.complete n).taken.Perm s.taken := by
      rw [hstep, taken, ← List.append_assoc]
      exact (List.perm_append_singleton _ _).trans
        ((List.getElem_cons_eraseIdx_perm hlt).append_right s.ran)
    have hnumbers : (s.complete n).numbers.Perm s.numbers := by
      have hrest := ((hperm.map (·.1.id)).append_right (s.dropped.map (·.id))).append_left
        (s.client.pending.map (·.id))
      rw [hstep] at hrest ⊢
      exact hrest
    have htaken : s.taken ⊆ (s.complete n).taken := hperm.symm.subset
    have hsound := hs.renumbered none hnumbers (by simp) (by simp [hstep])
    rw [hstep] at hsound htaken ⊢
    exact ⟨⟨hsound.1, hsound.2, hs.emptied, hs.stopped,
      fun id hid => (hs.kept id hid).imp_right fun ⟨outcome, hm⟩ => ⟨outcome, htaken hm⟩⟩,
      htaken, fun _ h => h, fun h => h⟩

/-- Whatever step comes next, every call keeps its place or finds a later one. -/
lemma play (hs : s.Sound q) (b : Beat κ) : (s.play q b).Sound q ∧ Precedes s (s.play q b) := by
  cases b with
  | enter =>
    simp only [Scene.play]
    split
    · cases hc : s.client.closed with
      | true => exact hs.enter_shut hc
      | false => exact hs.enter_open hc
    · exact ⟨hs, .refl s⟩
  | write =>
    simp only [Scene.play]
    split
    next id ha => exact hs.write ha
    · exact ⟨hs, .refl s⟩
  | withdraw =>
    simp only [Scene.play]
    split
    next id e ha => exact hs.withdraw id e
    · exact ⟨hs, .refl s⟩
  | act a => exact hs.after (perform_change hs.pending_lt a)
  | stop error => exact hs.after (stop_change s.client error)
  | cancel => exact hs.after (drain_change s.client .cancelled)
  | release => exact ⟨hs.sent none, fun _ h => h, fun _ h => h, fun h => h⟩
  | complete n => exact hs.complete n

lemma run (hs : s.Sound q) (beats : List (Beat κ)) :
    (s.run q beats).Sound q ∧ Precedes s (s.run q beats) := by
  induction beats generalizing s with
  | nil => exact ⟨hs, .refl s⟩
  | cons b beats ih =>
    have hplay := hs.play b
    have hrest := ih hplay.1
    exact ⟨hrest.1, hplay.2.trans hrest.2⟩

lemma taken_nodup (hs : s.Sound q) : (s.taken.map (·.1.id)).Nodup :=
  (List.nodup_append.mp (List.nodup_append.mp hs.distinct).2.1).1

lemma once (hs : s.Sound q) {id : Nat} {outcome : Outcome} (hm : (q.entry id, outcome) ∈ s.taken) :
    (s.taken.map (·.1.id)).count id = 1 :=
  List.count_eq_one_of_mem hs.taken_nodup (List.mem_map.mpr ⟨_, hm, rfl⟩)

lemma not_taken (hs : s.Sound q) {id : Nat} (hm : id ∈ s.dropped.map (·.id)) :
    id ∉ s.taken.map (·.1.id) := fun ht =>
  (List.nodup_append.mp (List.nodup_append.mp hs.distinct).2.1).2.2 id ht id hm rfl

end Sound

lemma play_shuts (q : Inquiry κ) (s : Scene κ) {b : Beat κ} (hb : b.shuts = true) :
    (s.play q b).client.closed = true := by
  cases b with
  | stop error => rfl
  | cancel => rfl
  | act a =>
    cases a with
    | close => rfl
    | _ => cases hb
  | _ => cases hb

def Refuses (q : Inquiry κ) (s : Scene κ) (id : Nat) : Prop :=
  s.client.closed = true ∧ (s.play q .enter).dropped = s.dropped ++ [q.entry id]

lemma play_error {b : Beat κ} {id : Nat} {e : RpcError}
    (h : (s.play q b).caller = .returned id (.error e)) :
    s.caller = .returned id (.error e) ∨ (b = .enter ∧ s.Refuses q id) ∨
      ∃ f, b = .withdraw ∧ s.caller = .failed id f := by
  cases b with
  | enter =>
    cases ha : s.caller with
    | waiting =>
      have hplay : s.play q .enter = s.enter q := by simp only [play, ha]
      cases hc : s.client.closed with
      | true =>
        rw [enter_shut q hc] at hplay
        rw [hplay] at h
        cases h
        exact .inr (.inl ⟨rfl, hc, by rw [hplay]⟩)
      | false =>
        rw [hplay, enter_open q hc] at h
        cases h
    | _ =>
      simp only [play, ha] at h
      exact .inl h
  | write =>
    cases ha : s.caller with
    | entered n =>
      simp only [play, ha, write] at h
      split at h <;> cases h
    | _ =>
      simp only [play, ha] at h
      exact .inl h
  | withdraw =>
    cases ha : s.caller with
    | failed n f =>
      simp only [play, ha, withdraw] at h
      cases h
      exact .inr (.inr ⟨f, rfl, rfl⟩)
    | _ =>
      simp only [play, ha] at h
      exact .inl h
  | complete n =>
    simp only [play, complete] at h
    split at h <;> exact .inl h
  | act | stop | cancel | release => exact .inl h

lemma error_origin {beats : List (Beat κ)} {id : Nat} {e : RpcError} (hs : s.caller = .waiting)
    (hr : (s.run q beats).caller = .returned id (.error e)) :
    (∃ pre post, beats = pre ++ .enter :: post ∧ (s.run q pre).Refuses q id) ∨
      ∃ pre post f, beats = pre ++ .withdraw :: post ∧ (s.run q pre).caller = .failed id f := by
  induction beats using List.reverseRecOn with
  | nil => cases hs.symm.trans hr
  | append_singleton beats b ih =>
    rw [run_append] at hr
    rcases play_error (s := s.run q beats) hr with hearlier | ⟨rfl, hrefuses⟩ | ⟨f, rfl, hf⟩
    · rcases ih hearlier with ⟨pre, post, rfl, hrefuses⟩ | ⟨pre, post, f, rfl, hf⟩
      · exact .inl ⟨pre, post ++ [b], by simp, hrefuses⟩
      · exact .inr ⟨pre, post ++ [b], f, by simp, hf⟩
    · exact .inl ⟨beats, [], rfl, hrefuses⟩
    · exact .inr ⟨beats, [], f, rfl, hf⟩

/-- What comes of a call, whatever the others do between its steps. -/
structure Settles (q : Inquiry κ) (s : Scene κ) (beats : List (Beat κ)) : Prop where
  once : ((s.run q beats).ran.map (·.1.id)).Nodup
  shut : (∃ b ∈ beats, b.shuts = true) ∨ (s.run q beats).client.reading = false →
    (s.run q beats).client.closed = true
  kept : ∀ id, (s.run q beats).caller = .returned id (.ok ()) →
    (s.run q beats).client.closed = true → (s.run q beats).due = [] →
      ((s.run q beats).ran.map (·.1.id)).count id = 1 ∧
        ∃ outcome, (q.entry id, outcome) ∈ (s.run q beats).ran
  failed : ∀ id e, (s.run q beats).caller = .returned id (.error e) →
    (∃ pre post, beats = pre ++ .enter :: post ∧ (s.run q pre).Refuses q id ∧
      id ∉ (s.run q beats).taken.map (·.1.id)) ∨
    (∃ pre post f, beats = pre ++ .withdraw :: post ∧ (s.run q pre).caller = .failed id f ∧
      ((q.entry id ∈ (s.run q pre).client.pending ∧
          id ∉ (s.run q beats).taken.map (·.1.id)) ∨
        (q.entry id ∉ (s.run q pre).client.pending ∧
          ((s.run q beats).taken.map (·.1.id)).count id = 1 ∧
          ∃ outcome, (q.entry id, outcome) ∈ (s.run q beats).taken)))

lemma run_split (hs : s.Sound q) {beats pre post : List (Beat κ)} {b : Beat κ}
    (h : beats = pre ++ b :: post) :
    (s.run q pre).Sound q ∧ Precedes (s.run q pre) (s.run q beats) ∧
      Precedes ((s.run q pre).play q b) (s.run q beats) := by
  have hpre := (hs.run pre).1
  have hplay := hpre.play b
  have hpost := (hplay.1.run post).2
  have hrun : s.run q beats = ((s.run q pre).play q b).run q post := by
    rw [h, run_append]
    rfl
  rw [hrun]
  exact ⟨hpre, hplay.2.trans hpost, hpost⟩

end Scene

open Scene in
theorem interleaved_calls_settle (q : Inquiry κ) (l : LanguageId) (g : Nat) (traced : Bool)
    (plan : Nat → Verdict) (beats : List (Beat κ)) :
    Settles q { client := start l g traced plan } beats := by
  have hstart := Sound.start q l g traced plan
  have hw : ({ client := start l g traced plan } : Scene κ).caller = .waiting := rfl
  generalize ({ client := start l g traced plan } : Scene κ) = s at hstart hw ⊢
  have hlast := (hstart.run beats).1
  refine ⟨?_, fun hshut => ?_, fun id hr hc hdue => ?_, fun id e hr => ?_⟩
  · exact hlast.taken_nodup.sublist ((List.sublist_append_right _ _).map _)
  · rcases hshut with ⟨b, hb, hshuts⟩ | hread
    · obtain ⟨pre, post, hsplit⟩ := List.append_of_mem hb
      exact (run_split hstart hsplit).2.2.closed (play_shuts q _ hshuts)
    · exact hlast.stopped hread
  · have htaken : (s.run q beats).taken = (s.run q beats).ran := by rw [taken, hdue, List.nil_append]
    rcases hlast.kept id (by rw [owed, hr]) with hm | ⟨outcome, hm⟩
    · rw [hlast.emptied hc] at hm
      cases hm
    · rw [← htaken]
      exact ⟨hlast.once hm, outcome, hm⟩
  · rcases error_origin hw hr with ⟨pre, post, hsplit, hrefuses⟩ | ⟨pre, post, f, hsplit, hf⟩
    · have hlater := (run_split hstart hsplit).2.2
      refine .inl ⟨pre, post, hsplit, hrefuses, hlast.not_taken (hlater.dropped ?_)⟩
      rw [hrefuses.2]
      simp [Inquiry.entry]
    · obtain ⟨hpre, hnow, hlater⟩ := run_split hstart hsplit
      refine .inr ⟨pre, post, f, hsplit, hf, ?_⟩
      by_cases hm : q.entry id ∈ (s.run q pre).client.pending
      · refine .inl ⟨hm, hlast.not_taken (hlater.dropped ?_)⟩
        have hwithdrawn : q.entry id ∈ ((s.run q pre).play q .withdraw).dropped := by
          simp only [play, hf]
          exact List.mem_append_right _ (List.mem_filter.mpr ⟨hm, by simp [Inquiry.entry]⟩)
        exact List.mem_map.mpr ⟨_, hwithdrawn, rfl⟩
      · rcases hpre.kept id (by rw [owed, hf]) with hin | ⟨outcome, hin⟩
        · exact (hm hin).elim
        · exact .inr ⟨hm, hlast.once (hnow.taken hin), outcome, hnow.taken hin⟩

namespace Sample

def errand : Inquiry Unit := ⟨"initialize", .null, ()⟩

def deserted : Scene Unit :=
  { client := start ⟨"lua", by decide, by decide⟩ 1 false (Sink.broken .brokenPipe) }

end Sample

/-- The reader stops between the entry of a call and its frame: the completion runs, and the caller
gets an error all the same. -/
theorem failed_call_completed :
    let s := Sample.deserted.run Sample.errand [.enter, .stop none, .complete 0, .write, .withdraw]
    s.caller = .returned 1 (.error (.transport (.fault .brokenPipe))) ∧
      s.ran = [(Sample.errand.entry 1, .error (.transport .unexpectedEnd))] :=
  ⟨rfl, rfl⟩

end LanguageHost.Client
