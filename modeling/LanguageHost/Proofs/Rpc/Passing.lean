import LanguageHost.Proofs.Rpc.Closing
import LanguageHost.Session.Event

namespace LanguageHost

variable {κ : Type}

def Inbound.passed? (m : Json) : Option ServerEventKind := do
  let raw ← (readRaw m).toOption
  let method ← raw.method
  let params := raw.params.getD .null
  match raw.id with
  | some id => some (.request id method params)
  | none => some (.notification method params)

lemma Inbound.passed?_classify (m : Json) :
    passed? m =
      match classify m with
      | .ok (.notification method params) => some (.notification method params)
      | .ok (.request id method params) => some (.request id method params)
      | _ => none := by
  cases hraw : readRaw m with
  | error e => simp [passed?, classify, hraw, Except.toOption, bind, Except.bind]
  | ok raw =>
    simp only [passed?, classify, hraw, Except.toOption, bind, Except.bind, Option.bind_some, ofRaw]
    cases raw.method with
    | some method => cases raw.id <;> rfl
    | none =>
      by_cases hp : (raw.id.isSome || raw.result.isSome || raw.error.isSome) = true
      · simp only [if_pos hp, Option.bind_none]
      · simp only [if_neg hp, Option.bind_none]

def Emission.report? : Emission κ → Option ServerEventKind
  | .notified method params => some (.notification method params)
  | .requested id method params => some (.request id method params)
  | .ended error => some (.closed error)
  | _ => none

def reports (es : List (Emission κ)) : List ServerEventKind := es.filterMap Emission.report?

lemma reports_append (es fs : List (Emission κ)) : reports (es ++ fs) = reports es ++ reports fs := by
  simp [reports]

namespace Frame

inductive Brings : Phase → List Signal → List Json → TransportError → Prop
  | more {p q : Phase} {s : Signal} {rest : List Signal} {ms : List Json} {e : TransportError}
      (hfeed : feed p s = .more q) (hrest : Brings q rest ms e) : Brings p (s :: rest) ms e
  | message {p : Phase} {s : Signal} {rest : List Signal} {r : Except TransportError Bytes} {m : Json}
      {ms : List Json} {e : TransportError} (hfeed : feed p s = .done r) (hm : message r = .ok m)
      (hrest : Brings .start rest ms e) : Brings p (s :: rest) (m :: ms) e
  | stop {p : Phase} {s : Signal} {r : Except TransportError Bytes} {e : TransportError}
      (hfeed : feed p s = .done r) (he : message r = .error e) (rest : List Signal) :
      Brings p (s :: rest) [] e
  | ended {p : Phase} {e : TransportError} (he : message (finish p) = .error e) : Brings p [] [] e

lemma brings_total (p : Phase) (stream : List Signal) : ∃ ms e, Brings p stream ms e := by
  induction stream generalizing p with
  | nil =>
    obtain ⟨e, he⟩ := Client.message_finish p
    exact ⟨[], e, .ended he⟩
  | cons s rest ih =>
    cases hfeed : feed p s with
    | more q =>
      obtain ⟨ms, e, h⟩ := ih q
      exact ⟨ms, e, .more hfeed h⟩
    | done r =>
      cases hm : message r with
      | error e => exact ⟨[], e, .stop hfeed hm rest⟩
      | ok m =>
        obtain ⟨ms, e, h⟩ := ih .start
        exact ⟨m :: ms, e, .message hfeed hm h⟩

lemma Brings.uninterrupted {p : Phase} {stream : List Signal} {ms : List Json} {e : TransportError}
    (h : Brings p stream ms e) : Brings p (uninterrupted stream) ms e := by
  have hskip (p : Phase) : feed p (.fault .interrupted) = .more p := by cases p <;> rfl
  have hkeep {s : Signal} (hs : s ≠ .fault .interrupted) (rest : List Signal) :
      Frame.uninterrupted (s :: rest) = s :: Frame.uninterrupted rest := by
    simp [Frame.uninterrupted, hs]
  have hdone {p : Phase} {s : Signal} {r : Except TransportError Bytes} (hfeed : feed p s = .done r) :
      s ≠ .fault .interrupted := by
    rintro rfl
    rw [hskip] at hfeed
    cases hfeed
  induction h with
  | @more p q s rest ms e hfeed hrest ih =>
    by_cases hs : s = .fault .interrupted
    · subst hs
      rw [hskip] at hfeed
      cases hfeed
      simpa [Frame.uninterrupted] using ih
    · rw [hkeep hs]
      exact .more hfeed ih
  | message hfeed hm hrest ih =>
    rw [hkeep (hdone hfeed)]
    exact .message hfeed hm ih
  | stop hfeed he rest =>
    rw [hkeep (hdone hfeed)]
    exact .stop hfeed he _
  | ended he => exact .ended he

lemma Brings.first {p : Phase} {stream : List Signal} {ms : List Json} {e : TransportError}
    (h : Brings p stream ms e) :
    (∃ m rest, Frame.message (readFrom p stream).1 = .ok m ∧ ms = m :: rest ∧
      Brings .start (readFrom p stream).2 rest e) ∨
    (Frame.message (readFrom p stream).1 = .error e ∧ ms = []) := by
  induction h with
  | more hfeed hrest ih =>
    simp only [readFrom, hfeed]
    exact ih
  | message hfeed hm hrest =>
    rw [readFrom, hfeed]
    exact .inl ⟨_, _, hm, rfl, hrest⟩
  | stop hfeed he rest =>
    rw [readFrom, hfeed]
    exact .inr ⟨he, rfl⟩
  | ended he => exact .inr ⟨he, rfl⟩

namespace Source

/-- The messages in the frames of a source, up to the error that reading stops at. -/
inductive Delivers : Source → List Json → TransportError → Prop
  | next {s : Source} {m : Json} {ms : List Json} {e : TransportError}
      (hm : Frame.message s.readFrame.1 = .ok m) (hrest : Delivers s.readFrame.2 ms e) :
      Delivers s (m :: ms) e
  | stop {s : Source} {e : TransportError} (he : Frame.message s.readFrame.1 = .error e) :
      Delivers s [] e

lemma Delivers.unique {s : Source} {ms ms' : List Json} {e e' : TransportError}
    (h : Delivers s ms e) (h' : Delivers s ms' e') : ms = ms' ∧ e = e' := by
  induction h generalizing ms' with
  | next hm hrest ih =>
    cases h' with
    | next hm' hrest' =>
      obtain rfl := Except.ok.inj (hm.symm.trans hm')
      obtain ⟨rfl, rfl⟩ := ih hrest'
      exact ⟨rfl, rfl⟩
    | stop he' => cases hm.symm.trans he'
  | stop he =>
    cases h' with
    | next hm' _ => cases he.symm.trans hm'
    | stop he' => exact ⟨rfl, Except.error.inj (he.symm.trans he')⟩

lemma Delivers.of_brings {s : Source} {ms : List Json} {e : TransportError}
    (h : Brings .start s.content ms e) : Delivers s ms e := by
  induction ms generalizing s with
  | nil =>
    rcases h.first with ⟨m, rest, -, hcons, -⟩ | ⟨he, -⟩
    · cases hcons
    · rw [Phase.start, readFrom_content none s] at he
      exact .stop he
  | cons m ms ih =>
    rcases h.first with ⟨m', rest, hm, hcons, hrest⟩ | ⟨-, hnil⟩
    · cases hcons
      rw [Phase.start, readFrom_content none s] at hm hrest
      exact .next hm (ih hrest)
    · cases hnil

end Source

lemma delivers_brings (arrivals : List Arrival) :
    ∃ ms e, Source.Delivers { arrivals } ms e ∧ Brings .start (signals arrivals) ms e := by
  obtain ⟨ms, e, h⟩ := brings_total .start (signals arrivals)
  exact ⟨ms, e, .of_brings h.uninterrupted, h⟩

end Frame

namespace Client

def Act.signal? : Act κ → Option Frame.Signal
  | .signal s => some s
  | _ => none

def heard (acts : List (Act κ)) : List Frame.Signal := acts.filterMap Act.signal?

lemma heard_signals (stream : List Frame.Signal) :
    heard (κ := κ) (stream.map .signal) = stream := by
  induction stream with
  | nil => rfl
  | cons s rest ih => simpa [heard, Act.signal?] using ih

def Turn.emissions (t : Turn κ) : List (Emission κ) := (t.before.perform t.act).2.1

def emitted (ts : List (Turn κ)) : List (Emission κ) := ts.flatMap Turn.emissions

lemma completions_emitted (ts : List (Turn κ)) : completions (emitted ts) = completed ts := by
  induction ts with
  | nil => rfl
  | cons t rest ih =>
    have hsplit : emitted (t :: rest) = t.emissions ++ emitted rest := rfl
    rw [hsplit, completions_append, ih]
    rfl

structure Over (c : Client κ) : Prop where
  reading : c.reading = false
  closed : c.closed = true
  pending : c.pending = []

structure Turn.Stops (t : Turn κ) (error : Option TransportError) : Prop where
  last : ∃ front, t.emissions = front ++ [.ended error] ∧ reports front = [] ∧
    LanguageHost.completions front = t.before.pending.map (·, .error (.transport .unexpectedEnd))
  rest : t.after.Over

variable {c : Client κ}

lemma reports_traceNote (c : Client κ) (side : Side) (direction : String) (text : List Char) :
    reports (c.traceNote side direction text) = [] := by
  rw [traceNote]
  split <;> rfl

lemma reports_completed (calls : List (PendingCall κ)) (outcome : Outcome) :
    reports (calls.map (Emission.completed · outcome)) = [] := by
  simp [reports, Emission.report?, List.filterMap_eq_nil_iff]

lemma reports_submit (c : Client κ) (m : Outbound) : reports (c.submit m).2.1 = [] := by
  cases h : c.sink <;> simp only [submit, h, reports_append, reports_traceNote] <;> rfl

lemma reports_complete (c : Client κ) (r : Response) : reports (c.complete r).2 = [] := by
  rw [complete]
  cases r.id.bind c.pendingOf <;> rfl

lemma dispatch_reports (c : Client κ) (m : Json) :
    reports (c.dispatch m).2 = (Inbound.passed? m).toList := by
  rw [Inbound.passed?_classify]
  cases hm : Inbound.classify m with
  | error e =>
    simp only [dispatch, hm, reports_append, reports_traceNote]
    rfl
  | ok inbound =>
    cases inbound with
    | response r =>
      simp only [dispatch, hm, reports_append, reports_traceNote, reports_complete]
      rfl
    | notification | request =>
      simp only [dispatch, hm, reports_append, reports_traceNote]
      rfl

lemma reports_call (c : Client κ) (method : String) (params : Json) (tag : κ) :
    reports (c.call method params tag).2.1 = [] ∧
      (c.call method params tag).1.reading = c.reading ∧
      (c.call method params tag).1.phase = c.phase := by
  cases hc : c.closed with
  | true =>
    rw [call_closed hc]
    exact ⟨rfl, rfl, rfl⟩
  | false =>
    obtain ⟨sink, sending, es, result, hsub, hcall⟩ := call_open hc method params tag
    have hes := reports_submit (c.reserved method tag) (.request c.nextId method (paramsOf params))
    rw [hsub] at hes
    rw [hcall]
    cases result <;> exact ⟨hes, rfl, rfl⟩

lemma perform_aside {a : Act κ} (hs : a.signal? = none) (hf : a ≠ .finish) :
    reports (c.perform a).2.1 = [] ∧ (c.perform a).1.reading = c.reading ∧
      (c.perform a).1.phase = c.phase := by
  cases a with
  | call method params tag =>
    have h := c.reports_call method params tag
    simp only [perform]
    split
    all_goals
      next heq =>
      rw [heq] at h
      exact h
  | notify method params =>
    obtain ⟨sink, hsink⟩ := submit_fst c (.notification method (paramsOf params))
    have hes := c.reports_submit (.notification method (paramsOf params))
    simp only [perform, notify, hsink]
    exact ⟨hes, trivial, trivial⟩
  | reply id r =>
    obtain ⟨sink, hsink⟩ := submit_fst c (.reply id r)
    have hes := c.reports_submit (.reply id r)
    simp only [perform, reply, hsink]
    exact ⟨hes, trivial, trivial⟩
  | close =>
    refine ⟨?_, rfl, rfl⟩
    simp only [perform, close, drain, reports_append, reports_completed]
    cases c.pending <;> rfl
  | signal s => cases hs
  | finish => exact absurd rfl hf

lemma stop_last (c : Client κ) (error : Option TransportError) :
    ∃ front, (c.stop error).2 = front ++ [.ended error] ∧ reports front = [] := by
  have hclosing (r : LogRecord) :
      reports (error.toList.map fun _ => Emission.logged (κ := κ) .reader r) = [] := by
    cases error <;> rfl
  refine ⟨_, List.append_cons _ _ _, ?_⟩
  simp only [reports_append, note, hclosing, reports_completed]
  rfl

lemma stop_stops {t : Turn κ} {c : Client κ} {error : Option TransportError}
    (hp : c.pending = t.before.pending)
    (ht : t.before.perform t.act = ((c.stop error).1, (c.stop error).2, none)) :
    t.Stops error := by
  obtain ⟨front, hlast, hreports⟩ := c.stop_last error
  have hcalls := c.completions_stop error
  rw [hlast, completions_append, hp] at hcalls
  refine ⟨⟨front, ?_, hreports, (List.append_nil _).symm.trans hcalls⟩, ?_⟩
  · rw [Turn.emissions, ht]
    exact hlast
  · rw [Turn.after, ht]
    exact ⟨rfl, rfl, rfl⟩

lemma Over.perform (h : c.Over) (a : Act κ) :
    (c.perform a).1.Over ∧ reports (c.perform a).2.1 = [] ∧ completions (c.perform a).2.1 = [] := by
  obtain ⟨hreading, hclosed, hpending⟩ := h
  cases a with
  | call method params tag =>
    rw [Client.perform, call_closed hclosed]
    exact ⟨⟨hreading, hclosed, hpending⟩, rfl, rfl⟩
  | notify method params =>
    obtain ⟨sink, hsink⟩ := submit_fst c (.notification method (paramsOf params))
    refine ⟨?_, (perform_aside (a := .notify method params) rfl (by simp)).1,
      completions_notify c method params⟩
    simp only [Client.perform, notify, hsink]
    exact ⟨hreading, hclosed, hpending⟩
  | reply id r =>
    obtain ⟨sink, hsink⟩ := submit_fst c (.reply id r)
    refine ⟨?_, (perform_aside (a := .reply id r) rfl (by simp)).1, completions_reply c id r⟩
    simp only [Client.perform, reply, hsink]
    exact ⟨hreading, hclosed, hpending⟩
  | close =>
    refine ⟨⟨hreading, rfl, rfl⟩, (perform_aside (a := .close) rfl (by simp)).1, ?_⟩
    simp only [Client.perform, completions_close, hpending, List.map_nil]
  | signal s =>
    have hfeed : c.feed s = (c, []) := by rw [feed, if_neg (by simp [hreading])]
    simp only [Client.perform, hfeed]
    exact ⟨⟨hreading, hclosed, hpending⟩, rfl, rfl⟩
  | finish =>
    have hfinish : c.finish = (c, []) := by rw [finish, if_neg (by simp [hreading])]
    simp only [Client.perform, hfinish]
    exact ⟨⟨hreading, hclosed, hpending⟩, rfl, rfl⟩

lemma Over.silent (h : c.Over) (acts : List (Act κ)) :
    reports (emitted (c.turns acts)) = [] ∧ completed (c.turns acts) = [] := by
  induction acts generalizing c with
  | nil => exact ⟨rfl, rfl⟩
  | cons a acts ih =>
    obtain ⟨hover, hreports, hcompletions⟩ := h.perform a
    obtain ⟨hrest, hdone⟩ := ih hover
    have hsplit : emitted (c.turns (a :: acts)) =
        (c.perform a).2.1 ++ emitted ((c.perform a).1.turns acts) := rfl
    rw [hsplit, reports_append, hreports, hrest, completed_turns_cons, hcompletions, hdone]
    exact ⟨rfl, rfl⟩

structure ReadOut (ts : List (Turn κ)) (ms : List Json) (e : TransportError)
    (pre : List (Turn κ)) (t : Turn κ) (post : List (Turn κ)) : Prop where
  split : ts = pre ++ t :: post
  passed : reports (emitted pre) = ms.filterMap Inbound.passed?
  stops : t.Stops (reported e)
  silent : reports (emitted post) = [] ∧ completed post = []

lemma ReadOut.cons {ts pre post : List (Turn κ)} {t u : Turn κ} {ms : List Json} {e : TransportError}
    (h : ReadOut ts ms e pre t post) {m : List Json}
    (hu : reports u.emissions = m.filterMap Inbound.passed?) :
    ReadOut (u :: ts) (m ++ ms) e (u :: pre) t post where
  split := by rw [h.split, List.cons_append]
  passed := by
    have hsplit : emitted (u :: pre) = u.emissions ++ emitted pre := rfl
    rw [hsplit, reports_append, hu, h.passed, List.filterMap_append]
  stops := h.stops
  silent := h.silent

lemma ReadOut.now {t : Turn κ} {e : TransportError} (h : t.Stops (reported e))
    (acts : List (Act κ)) : ReadOut (t :: t.after.turns acts) [] e [] t (t.after.turns acts) where
  split := rfl
  passed := rfl
  stops := h
  silent := h.rest.silent acts

/-- The reader passes on what its signals bring, whatever callers do in between. The induction is on the
acts; what a signal does is what it brings. -/
lemma turns_readOut (hc : c.reading = true) {acts : List (Act κ)} (hacts : .finish ∉ acts)
    {ms : List Json} {e : TransportError} (hb : Frame.Brings c.phase (heard acts) ms e)
    (later : List (Act κ)) :
    ∃ pre t post, ReadOut (c.turns (acts ++ .finish :: later)) ms e pre t post := by
  induction acts generalizing c ms with
  | nil =>
    cases hb with
    | ended he =>
      refine ⟨[], ⟨c, .finish⟩, _, .now (stop_stops (c := c) rfl ?_) later⟩
      simp only [perform, finish, hc, he, if_true, take_stop]
  | cons a acts ih =>
    rw [List.mem_cons, not_or] at hacts
    cases ha : a.signal? with
    | none =>
      obtain ⟨hreports, hreading, hphase⟩ := perform_aside (c := c) ha (Ne.symm hacts.1)
      have hheard : heard (a :: acts) = heard acts := by simp [heard, ha]
      rw [hheard, ← hphase] at hb
      obtain ⟨pre, t, post, h⟩ := ih (hreading.trans hc) hacts.2 hb
      exact ⟨⟨c, a⟩ :: pre, t, post, h.cons (m := []) hreports⟩
    | some s =>
      obtain rfl : a = .signal s := by
        cases a <;> simp_all [Act.signal?]
      have hheard : heard (.signal s :: acts) = s :: heard acts := rfl
      rw [hheard] at hb
      cases hb with
      | @more _ q _ _ _ _ hfeed hrest =>
        have hstep : c.perform (.signal s) = ({ c with phase := q }, [], none) := by
          simp only [perform, feed, hc, hfeed, if_true]
        obtain ⟨pre, t, post, h⟩ := ih (c := (c.perform (.signal s)).1) (by rw [hstep]; exact hc)
          hacts.2 (by rw [hstep]; exact hrest)
        exact ⟨⟨c, .signal s⟩ :: pre, t, post,
          h.cons (m := []) (by simp only [Turn.emissions, hstep]; rfl)⟩
      | @message _ _ _ r m ms _ hfeed hm hrest =>
        have hstep : c.perform (.signal s) = (({ c with phase := .start }.dispatch m).1,
            ({ c with phase := .start }.dispatch m).2, none) := by
          simp only [perform, feed, hc, hfeed, if_true, hm, take]
        obtain ⟨hreading, hphase, -⟩ := { c with phase := .start }.dispatch_quiet m
        obtain ⟨pre, t, post, h⟩ := ih (c := (c.perform (.signal s)).1)
          (by rw [hstep]; exact hreading.trans hc) hacts.2 (by rw [hstep, hphase]; exact hrest)
        refine ⟨⟨c, .signal s⟩ :: pre, t, post, h.cons (m := [m]) ?_⟩
        simp only [Turn.emissions, hstep, dispatch_reports, List.filterMap_cons, List.filterMap_nil]
        cases Inbound.passed? m <;> rfl
      | @stop _ _ r _ hfeed he =>
        refine ⟨[], ⟨c, .signal s⟩, _,
          .now (stop_stops (c := { c with phase := .start }) rfl ?_) (acts ++ .finish :: later)⟩
        simp only [perform, feed, hc, hfeed, if_true, he, take_stop]

end Client

end LanguageHost
