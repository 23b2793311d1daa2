import LanguageHost.Proofs.Rpc.Settlement
import LanguageHost.Proofs.Session.Traffic

/-! What a connection writes. Every message is handed to the input of the peer as one frame; a frame
that the writer refuses in the middle leaves a prefix of itself, and the connection stays open. The
peer sees whole frames and at most one torn one as long as the writer stays broken, or until the
connection is closed. -/

namespace LanguageHost

/-- A writer that takes no byte once it has failed. -/
def Sink.Lasting (plan : Nat → Verdict) : Prop :=
  ∀ k, plan k ≠ .whole → ∀ j, k < j → ∃ f, plan j = .cut 0 f

inductive Hands (m : Outbound) : Option Sink → Except TransportError Unit → Option Sink → Prop
  | shut : Hands m none (.error .unexpectedEnd) none
  | whole (s : Sink) (hp : s.plan s.attempts = .whole) : Hands m (some s) (.ok ())
      (some { s with attempts := s.attempts + 1, written := s.written ++ Frame.encode m.bytes })
  | part (s : Sink) (n : Nat) (f : Fault) (hp : s.plan s.attempts = .cut n f) :
      Hands m (some s) (.error (.fault f))
        (some { s with
          attempts := s.attempts + 1, written := s.written ++ (Frame.encode m.bytes).take n })

def Submission.frame : Submission → Bytes
  | (m, .ok ()) => Frame.encode m.bytes
  | (_, .error _) => []

namespace Client

variable {κ : Type}

def answer (c : Client κ) : Act κ → Option (Except RpcError Unit)
  | .call method params tag => some ((c.call method params tag).2.2.map fun _ => ())
  | .notify method params => some (c.notify method params).2.2
  | .reply id r => some (c.reply id r).2.2
  | _ => none

namespace Turn

def submissions (t : Turn κ) : List Submission :=
  LanguageHost.submissions (t.before.perform t.act).2.1

def bytes (t : Turn κ) : Bytes :=
  match t.before.sink, t.after.sink with
  | some s, some s' => s'.written.drop s.written.length
  | _, _ => []

def answer (t : Turn κ) : Option (Except RpcError Unit) := t.before.answer t.act

def Fails (t : Turn κ) : Prop := ∀ r, t.answer = some r → ∃ e, r = .error e

def Breaks (t : Turn κ) : Prop := t.before.sink.isSome ∧ ∃ m e, (m, .error e) ∈ t.submissions

def Refused (t : Turn κ) : Prop :=
  ∀ s, t.before.sink = some s → ∃ f, s.plan s.attempts = .cut 0 f

/-- A turn hands one message to the peer, or it writes nothing. -/
inductive Writes (t : Turn κ) : Prop
  | quiet (hs : t.submissions = []) (ha : t.Fails)
      (hk : t.after.sink = t.before.sink ∨ t.after.sink = none)
  | message (m : Outbound) (result : Except TransportError Unit)
      (hs : t.submissions = [(m, result)]) (ha : t.answer = some (result.mapError .transport))
      (hk : Hands m t.before.sink result t.after.sink)

end Turn

def received (ts : List (Turn κ)) : Bytes := ts.flatMap Turn.bytes

def frames (ts : List (Turn κ)) : Bytes := (ts.flatMap Turn.submissions).flatMap Submission.frame

lemma submit_hands (c : Client κ) (m : Outbound) :
    Hands m c.sink (c.submit m).2.2 (c.submit m).1.sink := by
  cases hs : c.sink with
  | none =>
    simp only [submit, hs]
    exact .shut
  | some s =>
    simp only [submit, hs, Sink.send]
    cases hp : s.plan s.attempts with
    | whole => exact .whole s hp
    | cut n f => exact .part s n f hp

lemma complete_sink (c : Client κ) (r : Response) : (c.complete r).1.sink = c.sink := by
  simp only [complete]
  split <;> rfl

lemma dispatch_sink (c : Client κ) (m : Json) : (c.dispatch m).1.sink = c.sink := by
  simp only [dispatch]
  split
  · exact complete_sink c _
  all_goals rfl

lemma take_sink (c : Client κ) (m : Except TransportError Json) : (c.take m).1.sink = c.sink := by
  simp only [take]
  split
  · exact dispatch_sink c _
  all_goals rfl

lemma feed_sink (c : Client κ) (s : Frame.Signal) : (c.feed s).1.sink = c.sink := by
  simp only [feed]
  split
  · split
    · rfl
    · exact take_sink { c with phase := .start } _
  · rfl

lemma finish_sink (c : Client κ) : c.finish.1.sink = c.sink := by
  simp only [finish]
  split
  · split
    · exact dispatch_sink c _
    · exact take_sink c _
  · rfl

lemma call_writes (c : Client κ) (method : String) (params : Json) (tag : κ) :
    Turn.Writes ⟨c, .call method params tag⟩ := by
  cases hc : c.closed with
  | true =>
    have hcall := call_closed hc method params tag
    apply Turn.Writes.quiet
    · simp only [Turn.submissions, perform, hcall]
      rfl
    · intro r hr
      simp only [Turn.answer, answer, hcall, Option.some.injEq] at hr
      exact ⟨_, hr.symm⟩
    · left
      simp only [Turn.after, perform, hcall]
  | false =>
    obtain ⟨sink, sending, es, result, hsub, hcall⟩ := call_open hc method params tag
    have hsent := submissions_submit (c.reserved method tag)
      (.request c.nextId method (paramsOf params))
    have hhands := submit_hands (c.reserved method tag)
      (.request c.nextId method (paramsOf params))
    rw [hsub] at hsent hhands
    apply Turn.Writes.message (.request c.nextId method (paramsOf params)) result
    · simp only [Turn.submissions, perform, hcall]
      cases result <;> exact hsent
    · simp only [Turn.answer, answer, hcall]
      cases result <;> rfl
    · simp only [Turn.after, perform, hcall]
      cases result <;> exact hhands

lemma notify_writes (c : Client κ) (method : String) (params : Json) :
    Turn.Writes ⟨c, .notify method params⟩ := by
  let m : Outbound := .notification method (paramsOf params)
  apply Turn.Writes.message m (c.submit m).2.2
  · exact submissions_submit c m
  · rfl
  · exact submit_hands c m

lemma reply_writes (c : Client κ) (id : RequestId) (r : Reply) :
    Turn.Writes ⟨c, .reply id r⟩ := by
  apply Turn.Writes.message (.reply id r) (c.submit (.reply id r)).2.2
  · exact submissions_submit c (.reply id r)
  · rfl
  · exact submit_hands c (.reply id r)

lemma turn_writes (t : Turn κ) : t.Writes := by
  obtain ⟨c, a⟩ := t
  cases a with
  | call method params tag => exact call_writes c method params tag
  | notify method params => exact notify_writes c method params
  | reply id r => exact reply_writes c id r
  | close => exact .quiet (close_traffic c).2 nofun (.inr rfl)
  | signal s => exact .quiet (feed_traffic c s).2 nofun (.inl (feed_sink c s))
  | finish => exact .quiet (finish_traffic c).2 nofun (.inl (finish_sink c))

namespace Turn

variable {t : Turn κ}

lemma bytes_append {s s' : Sink} {more : Bytes} (hb : t.before.sink = some s)
    (ha : t.after.sink = some s') (hw : s'.written = s.written ++ more) : t.bytes = more := by
  simp only [bytes, hb, ha, hw, List.drop_left]

lemma bytes_shut (hb : t.before.sink = none) : t.bytes = [] := by simp only [bytes, hb]

lemma bytes_quiet (hk : t.after.sink = t.before.sink ∨ t.after.sink = none) : t.bytes = [] := by
  cases hb : t.before.sink with
  | none => exact bytes_shut hb
  | some s =>
    cases hk with
    | inl hk => exact bytes_append hb (hk.trans hb) (List.append_nil _).symm
    | inr hk => simp only [bytes, hb, hk]

lemma bytes_whole (h : ¬ t.Breaks) : t.bytes = t.submissions.flatMap Submission.frame := by
  cases turn_writes t with
  | quiet hs ha hk => rw [hs, bytes_quiet hk, List.flatMap_nil]
  | message m result hs ha hk =>
    rw [hs, List.flatMap_singleton]
    generalize hb : t.before.sink = before at hk
    generalize hd : t.after.sink = after at hk
    cases hk with
    | shut => exact bytes_shut hb
    | whole s hp => exact bytes_append hb hd rfl
    | part s n f hp =>
      refine (h ⟨by rw [hb]; rfl, m, .fault f, ?_⟩).elim
      rw [hs]
      exact List.mem_singleton_self _

lemma bytes_part (h : t.Breaks) :
    ∃ m e part, t.submissions = [(m, .error e)] ∧ part <+: Frame.encode m.bytes ∧
      t.bytes = part := by
  obtain ⟨hopen, m, e, hm⟩ := h
  cases turn_writes t with
  | quiet hs ha hk => simp [hs] at hm
  | message m' result hs ha hk =>
    rw [hs, List.mem_singleton] at hm
    obtain ⟨rfl, rfl⟩ := Prod.mk.inj hm
    generalize hb : t.before.sink = before at hk hopen
    generalize hd : t.after.sink = after at hk
    cases hk with
    | shut => cases hopen
    | part s n f hp =>
      exact ⟨m, _, _, hs, List.take_prefix n _, bytes_append hb hd rfl⟩

lemma fails_of_refused (h : t.Refused) :
    t.Fails ∧ t.bytes = [] ∧ t.submissions.flatMap Submission.frame = [] := by
  cases turn_writes t with
  | quiet hs ha hk => exact ⟨ha, bytes_quiet hk, by rw [hs, List.flatMap_nil]⟩
  | message m result hs ha hk =>
    generalize hb : t.before.sink = before at hk
    generalize hd : t.after.sink = after at hk
    cases hk with
    | shut =>
      refine ⟨fun r hr => ⟨_, Option.some.inj (hr.symm.trans ha)⟩, bytes_shut hb, ?_⟩
      rw [hs]
      rfl
    | whole s hp =>
      obtain ⟨f, hf⟩ := h s hb
      cases hp.symm.trans hf
    | part s n f hp =>
      obtain ⟨f', hf⟩ := h s hb
      obtain ⟨rfl, rfl⟩ := Verdict.cut.inj (hp.symm.trans hf)
      refine ⟨fun r hr => ⟨_, Option.some.inj (hr.symm.trans ha)⟩, ?_, ?_⟩
      · exact bytes_append hb hd rfl
      · rw [hs]
        rfl

end Turn

lemma received_append (ts us : List (Turn κ)) :
    received (ts ++ us) = received ts ++ received us := List.flatMap_append

lemma frames_append (ts us : List (Turn κ)) : frames (ts ++ us) = frames ts ++ frames us := by
  simp only [frames, List.flatMap_append]

lemma frames_cons (t : Turn κ) (ts : List (Turn κ)) :
    frames (t :: ts) = t.submissions.flatMap Submission.frame ++ frames ts := by
  simp only [frames, List.flatMap_cons, List.flatMap_append]

lemma received_whole {ts : List (Turn κ)} (h : ∀ t ∈ ts, ¬ t.Breaks) : received ts = frames ts := by
  induction ts with
  | nil => rfl
  | cons t ts ih =>
    rw [frames_cons, ← Turn.bytes_whole (h t List.mem_cons_self),
      ← ih fun u hu => h u (List.mem_cons_of_mem t hu)]
    rfl

lemma received_refused {ts : List (Turn κ)} (h : ∀ t ∈ ts, t.Refused) :
    received ts = [] ∧ frames ts = [] := by
  induction ts with
  | nil => exact ⟨rfl, rfl⟩
  | cons t ts ih =>
    obtain ⟨-, hbytes, hframes⟩ := Turn.fails_of_refused (h t List.mem_cons_self)
    obtain ⟨hr, hf⟩ := ih fun u hu => h u (List.mem_cons_of_mem t hu)
    rw [frames_cons, hframes, hf]
    exact ⟨by rw [received, List.flatMap_cons, hbytes, ← received, hr]; rfl, rfl⟩

lemma written_step {c : Client κ} {a : Act κ} {s' : Sink} (h : (c.perform a).1.sink = some s') :
    ∃ s, c.sink = some s ∧ s'.written = s.written ++ Turn.bytes ⟨c, a⟩ ∧ s'.plan = s.plan ∧
      s.attempts ≤ s'.attempts := by
  have hd : (Turn.after ⟨c, a⟩).sink = some s' := h
  cases turn_writes ⟨c, a⟩ with
  | quiet hs ha hk =>
    cases hk with
    | inr hk => cases hd.symm.trans hk
    | inl hk =>
      refine ⟨s', hk.symm.trans hd, ?_, rfl, Nat.le_refl _⟩
      rw [Turn.bytes_quiet (.inl hk), List.append_nil]
  | message m result hs ha hk =>
    generalize hb : (Turn.mk c a).before.sink = before at hk
    rw [hd] at hk
    cases hk with
    | whole s hp =>
      exact ⟨s, rfl, by rw [Turn.bytes_append hb hd rfl], rfl, Nat.le_succ _⟩
    | part s n f hp =>
      exact ⟨s, rfl, by rw [Turn.bytes_append hb hd rfl], rfl, Nat.le_succ _⟩

lemma written_run {c : Client κ} {acts : List (Act κ)} {s' : Sink}
    (h : (c.run acts).sink = some s') :
    ∃ s, c.sink = some s ∧ s'.written = s.written ++ received (c.turns acts) ∧
      s'.plan = s.plan ∧ s.attempts ≤ s'.attempts := by
  induction acts generalizing c with
  | nil => exact ⟨s', h, (List.append_nil _).symm, rfl, Nat.le_refl _⟩
  | cons a acts ih =>
    obtain ⟨s₁, h₁, hw₁, hp₁, ha₁⟩ := ih (c := (c.perform a).1) h
    obtain ⟨s, hs, hw, hp, ha⟩ := written_step h₁
    refine ⟨s, hs, ?_, hp₁.trans hp, Nat.le_trans ha ha₁⟩
    rw [hw₁, hw, List.append_assoc]
    rfl

lemma refused_of_lasting {c : Client κ} {acts : List (Act κ)} {pre post : List (Turn κ)}
    {t : Turn κ} (hlast : ∀ s, c.sink = some s → Sink.Lasting s.plan)
    (hts : c.turns acts = pre ++ t :: post) (ht : t.Breaks) : ∀ u ∈ post, u.Refused := by
  obtain ⟨first, rest, -, -, hrest⟩ := turns_eq_append hts
  cases rest with
  | nil => cases hrest
  | cons a rest =>
    obtain ⟨ht', hpost⟩ := List.cons.inj hrest
    intro u hu s' hs'
    rw [hpost] at hu
    obtain ⟨later, -, -, hlater⟩ := mem_turns hu
    rw [hlater] at hs'
    obtain ⟨s₁, h₁, -, hp₁, ha₁⟩ := written_run hs'
    obtain ⟨s, hs, -, hp, -⟩ := written_step h₁
    obtain ⟨s₀, hs₀, -, hp₀, -⟩ := written_run hs
    have hbefore : t.before.sink = some s := by rw [ht']; exact hs
    have hafter : t.after.sink = some s₁ := by rw [ht']; exact h₁
    have hbroken : s.plan s.attempts ≠ .whole ∧ s₁.attempts = s.attempts + 1 := by
      obtain ⟨-, m, e, hm⟩ := ht
      cases turn_writes t with
      | quiet hn _ _ => simp [hn] at hm
      | message m' result hn ha hk =>
        rw [hn, List.mem_singleton] at hm
        obtain ⟨rfl, rfl⟩ := Prod.mk.inj hm
        rw [hbefore, hafter] at hk
        cases hk with
        | part _ n f hcut => exact ⟨by rw [hcut]; nofun, rfl⟩
    rw [hp₁, hp]
    rw [hp₀] at hbroken ⊢
    exact hlast s₀ hs₀ s.attempts hbroken.1 s'.attempts (by omega)

/-- Every turn of a connection writes one frame, a prefix of one, or nothing, and the peer sees these
bytes in order. If the connection is closed after the first failure, or its writer takes nothing more,
then whatever is sent later fails without a byte, and the peer sees the frames that got through and
one prefix. -/
theorem frames_received (l : LanguageId) (g : Nat) (traced : Bool) (plan : Nat → Verdict)
    (acts : List (Act κ)) (ts : List (Turn κ))
    (hts : (start l g traced plan : Client κ).turns acts = ts) :
    (∀ t ∈ ts, t.Writes) ∧
      (∀ s, ((start l g traced plan : Client κ).run acts).sink = some s →
        s.written = received ts) ∧
      ((∀ t ∈ ts, ¬ t.Breaks) → received ts = frames ts) ∧
      ∀ pre t post, ts = pre ++ t :: post → t.Breaks →
        (Sink.Lasting plan → ∀ u ∈ post, u.Refused) ∧
        ((∀ u ∈ pre, ¬ u.Breaks) → (∀ u ∈ post, u.Refused) →
          (∀ u ∈ post, u.Fails ∧ u.bytes = []) ∧
          ∃ m e part, t.submissions = [(m, .error e)] ∧ part <+: Frame.encode m.bytes ∧
            received ts = frames ts ++ part) := by
  refine ⟨fun t _ => turn_writes t, ?_, received_whole, ?_⟩
  · intro s hs
    obtain ⟨s₀, hs₀, hw, -⟩ := written_run hs
    cases hs₀
    rw [hw, hts]
    rfl
  · intro pre t post hsplit hbreaks
    constructor
    · intro hlast
      apply refused_of_lasting (c := start l g traced plan) _ (hts.trans hsplit) hbreaks
      intro s hs
      cases hs
      exact hlast
    · intro hpre hpost
      refine ⟨fun u hu => ?_, ?_⟩
      · obtain ⟨hfails, hbytes, -⟩ := Turn.fails_of_refused (hpost u hu)
        exact ⟨hfails, hbytes⟩
      · obtain ⟨m, e, part, hm, hpart, hbytes⟩ := Turn.bytes_part hbreaks
        obtain ⟨hnothing, hnone⟩ := received_refused hpost
        have hlost : t.submissions.flatMap Submission.frame = [] := by rw [hm]; rfl
        refine ⟨m, e, part, hm, hpart, ?_⟩
        calc received ts = received pre ++ (t.bytes ++ received post) := by
              rw [hsplit, received_append, received, received, received, List.flatMap_cons]
          _ = frames pre ++ part := by rw [received_whole hpre, hbytes, hnothing, List.append_nil]
          _ = frames ts ++ part := by
              rw [hsplit, frames_append, frames_cons, hlost, hnone, List.append_nil,
                List.append_nil]

namespace Sample

def pipe : Nat → Verdict
  | 0 => .whole
  | 1 => .cut 5 .brokenPipe
  | _ => .cut 0 .brokenPipe

def hiccup : Nat → Verdict
  | 0 => .cut 5 .brokenPipe
  | _ => .whole

def rust : LanguageId := ⟨"rust", by decide, by decide⟩

def notes : List (Act Unit) :=
  [.notify "first" .null, .notify "second" .null, .notify "third" .null, .close,
    .notify "fourth" .null]

def piped : List (Turn Unit) := (start rust 1 false pipe).turns notes

lemma pipe_lasting : Sink.Lasting pipe := by
  intro k hk j hj
  match k, j with
  | 0, _ => exact (hk rfl).elim
  | k + 1, 0 => omega
  | k + 1, 1 => omega
  | k + 1, j + 2 => exact ⟨.brokenPipe, rfl⟩

end Sample

theorem pipe_torn_once :
    (∀ u ∈ Sample.piped.drop 2, u.Fails ∧ u.bytes = []) ∧
      ∃ t ∈ Sample.piped, ∃ m e part, t.submissions = [(m, .error e)] ∧
        part <+: Frame.encode m.bytes ∧ received Sample.piped = frames Sample.piped ++ part := by
  obtain ⟨u, t, post, hsplit⟩ : ∃ u t post, Sample.piped = [u] ++ t :: post := ⟨_, _, _, rfl⟩
  have hwhole : ¬ u.Breaks := by
    cases hsplit
    rintro ⟨-, m, e, hm⟩
    cases List.mem_singleton.mp hm
  have hbreaks : t.Breaks := by
    cases hsplit
    exact ⟨rfl, _, _, List.mem_singleton_self _⟩
  obtain ⟨-, -, -, hpiped⟩ := frames_received Sample.rust 1 false Sample.pipe Sample.notes
    Sample.piped rfl
  obtain ⟨hlast, hbytes⟩ := hpiped [u] t post hsplit hbreaks
  have hout := hbytes (by simpa using hwhole) (hlast Sample.pipe_lasting)
  refine ⟨?_, t, ?_, hout.2⟩
  · rw [hsplit]
    exact hout.1
  · rw [hsplit]
    simp

/-- The connection outlives the failure of its writer: the next message is written behind the torn
frame. -/
theorem torn_frame_followed :
    ∃ t u : Turn Unit, (start Sample.rust 1 false Sample.hiccup).turns (Sample.notes.take 2) = [t, u] ∧
      t.Breaks ∧ u.answer = some (.ok ()) ∧
      u.bytes = Frame.encode (Outbound.notification "second" none).bytes ∧ u.bytes ≠ [] ∧
      ∀ part, received [t, u] ≠ frames [t, u] ++ part := by
  refine ⟨_, _, rfl, ⟨rfl, _, _, List.mem_singleton_self _⟩, rfl, rfl, by decide, ?_⟩
  intro part h
  have hsixth := congrArg (List.take 6) h
  rw [List.take_append_of_le_length (by decide)] at hsixth
  revert hsixth
  decide

end Client

end LanguageHost
