import LanguageHost.Feature.Progress
import Mathlib.Data.Finset.Card
import Mathlib.Data.List.Induction
import Mathlib.Tactic.Lemma

namespace LanguageHost

namespace ProgressStep

def title? : ProgressStep → Option String
  | begin_ title _ _ => some title
  | _ => none

def message? : ProgressStep → Option (Option String)
  | begin_ _ message _ => some message
  | report message _ => message.map some
  | end_ message => some message

def percentage? : ProgressStep → Option (Option Nat)
  | begin_ _ _ percentage => some percentage
  | report _ percentage => percentage.map some
  | end_ _ => none

lemma isEnd_iff {s : ProgressStep} : s.isEnd = true ↔ ∃ message, s = .end_ message := by
  cases s <;> simp [isEnd]

end ProgressStep

namespace ProgressState

def carried (steps : List ProgressStep) : ProgressState where
  title := steps.findSome? ProgressStep.title?
  message := (steps.findSome? ProgressStep.message?).join
  percentage := (steps.findSome? ProgressStep.percentage?).join

lemma apply_carried (steps : List ProgressStep) (s : ProgressStep) :
    (carried steps).apply s = carried (s :: steps) := by
  cases s with
  | begin_ | end_ => rfl
  | report message percentage => cases message <;> cases percentage <;> rfl

end ProgressState

inductive ProgressCall where
  | create (l : LanguageId) (token : ProgressToken)
  | update (l : LanguageId) (params : Json)
  | clear (l : LanguageId)

inductive ProgressMark where
  | announced
  | stepped (s : ProgressStep)
  | cleared

namespace ProgressMark

def forgets : ProgressMark → Bool
  | announced => false
  | stepped s => s.isEnd
  | cleared => true

def step? : ProgressMark → Option ProgressStep
  | stepped s => some s
  | _ => none

end ProgressMark

namespace ProgressCall

open ProgressTracker (Key)

/-- The token that a call is made for. All tokens of a language are cleared together. -/
def key? : ProgressCall → Option Key
  | create l token => some (l, token)
  | update l params => (Progress.read? params).map fun r => (l, r.1)
  | clear _ => none

def mark? (k : Key) : ProgressCall → Option ProgressMark
  | create l token => if (l, token) = k then some .announced else none
  | update l params => (Progress.read? params).bind fun r =>
    if (l, r.1) = k then some (.stepped r.2) else none
  | clear l => if l = k.1 then some .cleared else none

lemma mark?_other {c : ProgressCall} {k other : Key} (hc : c.key? = some other) (hk : other ≠ k) :
    c.mark? k = none := by
  cases c with
  | create l token =>
    obtain rfl := Option.some.inj hc
    exact if_neg hk
  | update l params =>
    obtain ⟨r, hr, rfl⟩ := Option.map_eq_some_iff.mp hc
    rw [mark?, hr]
    exact if_neg hk
  | clear l => cases hc

end ProgressCall

namespace ProgressTracker

variable {t : ProgressTracker} {k : Key} {l : LanguageId} {token : ProgressToken}
  {cs : List ProgressCall} {c : ProgressCall}

def perform (t : ProgressTracker) : ProgressCall → ProgressTracker
  | .create l token => t.create l token
  | .update l params => (t.update l params).1
  | .clear l => t.clear l

def after (cs : List ProgressCall) : ProgressTracker := cs.foldl perform {}

lemma after_snoc (cs : List ProgressCall) (c : ProgressCall) :
    after (cs ++ [c]) = (after cs).perform c := by
  simp [after]

def recent (k : Key) (cs : List ProgressCall) : List ProgressMark :=
  (cs.filterMap (ProgressCall.mark? k)).reverse.takeWhile (!·.forgets)

def steps (k : Key) (cs : List ProgressCall) : List ProgressStep :=
  (recent k cs).filterMap ProgressMark.step?

lemma recent_snoc (k : Key) (cs : List ProgressCall) (c : ProgressCall) :
    recent k (cs ++ [c]) =
      match c.mark? k with
      | none => recent k cs
      | some m => if m.forgets then [] else m :: recent k cs := by
  cases hm : c.mark? k with
  | none => simp [recent, hm]
  | some m => cases hf : m.forgets <;> simp [recent, hm, hf]

def kept (ms : List ProgressMark) : Option ProgressState :=
  -- A token that was announced and never stepped is kept too, with nothing to show.
  if ms = [] then none else some (.carried (ms.filterMap ProgressMark.step?))

lemma kept_getD (ms : List ProgressMark) :
    (kept ms).getD {} = .carried (ms.filterMap ProgressMark.step?) := by
  cases ms with
  | nil => rfl
  | cons m ms => rfl

lemma perform_get? (t : ProgressTracker) (c : ProgressCall) (k : Key) :
    (t.perform c).get? k =
      match c.mark? k with
      | none => t.get? k
      | some .announced => some ((t.get? k).getD {})
      | some (.stepped s) => if s.isEnd then none else some (((t.get? k).getD {}).apply s)
      | some .cleared => none := by
  cases c with
  | create l token =>
    by_cases hk : (l, token) = k
    · subst hk
      cases hs : t.get? (l, token) with
      | none => simp [perform, create, ProgressCall.mark?, hs, get?_set]
      | some s => simp [perform, create, ProgressCall.mark?, hs]
    · simp only [perform, create, ProgressCall.mark?, if_neg hk]
      split
      · rfl
      · rw [get?_set, if_neg (Ne.symm hk)]
  | update l params =>
    cases hr : Progress.read? params with
    | none => simp [perform, update, ProgressCall.mark?, hr]
    | some r =>
      obtain ⟨token, s⟩ := r
      simp only [perform, update, step, ProgressCall.mark?, hr, Option.bind_some]
      by_cases hk : (l, token) = k
      · subst hk
        by_cases hs : s.isEnd = true <;> simp [get?_set, get?_remove, hs]
      · by_cases hs : s.isEnd = true <;> simp [get?_set, get?_remove, hk, Ne.symm hk, hs]
  | clear l =>
    obtain ⟨m, token⟩ := k
    rw [perform, get?_clear, ProgressCall.mark?]
    by_cases hl : l = m <;> simp [hl]

lemma after_get? (cs : List ProgressCall) (k : Key) : (after cs).get? k = kept (recent k cs) := by
  -- The newest call comes off: it put a mark in front of the recent ones, or cut them off.
  induction cs using List.reverseRecOn with
  | nil => rfl
  | append_singleton cs c ih =>
    rw [after_snoc, perform_get?, recent_snoc, ih, kept_getD]
    cases c.mark? k with
    | none => rfl
    | some m =>
      cases m with
      | announced => rfl
      | stepped s =>
        by_cases hs : s.isEnd = true
        · simp [ProgressMark.forgets, kept, hs]
        · simp [ProgressMark.forgets, ProgressMark.step?, ProgressState.apply_carried, kept, hs]
      | cleared => rfl

def Distinct (t : ProgressTracker) : Prop := (t.entries.map Prod.fst).Nodup

lemma Distinct.filter (h : t.Distinct) (p : Key × ProgressState → Bool) :
    Distinct ⟨t.entries.filter p⟩ :=
  h.sublist (List.filter_sublist.map _)

lemma Distinct.set (h : t.Distinct) (k : Key) (s : ProgressState) : (t.set k s).Distinct := by
  refine List.nodup_cons.mpr ⟨fun hk => ?_, h.filter _⟩
  obtain ⟨e, he, rfl⟩ := List.mem_map.mp hk
  simpa using (List.mem_filter.mp he).2

lemma Distinct.perform (h : t.Distinct) (c : ProgressCall) : (t.perform c).Distinct := by
  cases c with
  | create l token =>
    simp only [ProgressTracker.perform, create]
    split
    · exact h
    · exact h.set _ _
  | update l params =>
    simp only [ProgressTracker.perform, update]
    split
    · exact h
    · simp only [step]
      split
      · exact h.filter _
      · exact h.set _ _
  | clear l => exact h.filter _

lemma after_distinct (cs : List ProgressCall) : (after cs).Distinct := by
  induction cs using List.reverseRecOn with
  | nil => exact List.nodup_nil
  | append_singleton cs c ih =>
    rw [after_snoc]
    exact ih.perform c

lemma mem_keys_iff : k ∈ t.entries.map Prod.fst ↔ (t.get? k).isSome = true := by
  simp [get?, List.find?_isSome]

def tokens (t : ProgressTracker) (l : LanguageId) : List ProgressToken :=
  (t.entries.filter (·.1.1 = l)).map (·.1.2)

lemma mem_tokens_iff : token ∈ t.tokens l ↔ (t.get? (l, token)).isSome = true := by
  rw [← mem_keys_iff, tokens]
  constructor
  · intro h
    obtain ⟨e, he, rfl⟩ := List.mem_map.mp h
    obtain ⟨he, hl⟩ := List.mem_filter.mp he
    exact List.mem_map.mpr ⟨e, he, Prod.ext (of_decide_eq_true hl) rfl⟩
  · intro h
    obtain ⟨e, he, hk⟩ := List.mem_map.mp h
    exact List.mem_map.mpr ⟨e, List.mem_filter.mpr ⟨he, by simp [hk]⟩, by simp [hk]⟩

lemma Distinct.tokens_nodup (h : t.Distinct) : (t.tokens l).Nodup := by
  have hkeys : ((t.tokens l).map (Prod.mk l)).Nodup := by
    have hsame : (t.tokens l).map (Prod.mk l) = (t.entries.filter (·.1.1 = l)).map Prod.fst := by
      rw [tokens, List.map_map]
      refine List.map_congr_left fun e he => Prod.ext ?_ rfl
      exact (of_decide_eq_true (List.mem_filter.mp he).2).symm
    exact hsame ▸ h.filter _
  exact hkeys.of_map _

end ProgressTracker

/-- What is shown of a token is what the steps leave, from the newest step to the oldest. -/
structure ProgressEvent.Shows (e : ProgressEvent) (l : LanguageId) (token : ProgressToken)
    (s : ProgressStep) (earlier : List ProgressStep) : Prop where
  language : e.language = l
  token : e.token = token
  title : e.state.title = (s :: earlier).findSome? ProgressStep.title?
  message : e.state.message = ((s :: earlier).findSome? ProgressStep.message?).join
  percentage : e.state.percentage = ((s :: earlier).findSome? ProgressStep.percentage?).join
  finished : e.finished = true ↔ ∃ message, s = .end_ message

namespace ProgressTracker

lemma update_shows (cs : List ProgressCall) {l : LanguageId} {params : Json} {token : ProgressToken}
    {s : ProgressStep} (hr : Progress.read? params = some (token, s)) :
    ((after cs).update l params).2 =
      some ⟨l, token, .carried (s :: steps (l, token) cs), s.isEnd⟩ := by
  simp only [update, hr, step, after_get?, kept_getD, ProgressState.apply_carried, steps]

/-- Whatever calls were made on a new tracker, a step is shown with what the steps of its token since
it was last forgotten leave of each value; what is no step shows nothing and changes nothing; as many
tokens of a language are counted as were announced or stepped and not forgotten since; and calls that
were made for another token make no difference to what is shown. -/
theorem work_accounted (cs : List ProgressCall) (l : LanguageId) :
    (∀ params token s, Progress.read? params = some (token, s) →
      ∃ e, ((after cs).update l params).2 = some e ∧ e.Shows l token s (steps (l, token) cs)) ∧
    (∀ params, Progress.read? params = none → (after cs).update l params = (after cs, none)) ∧
    (∃ tokens : Finset ProgressToken, (after cs).active l = tokens.card ∧
      ∀ token, token ∈ tokens ↔ ∃ m, m ∈ recent (l, token) cs) ∧
    ∀ front c back other params token s, cs = front ++ c :: back → c.key? = some other →
      Progress.read? params = some (token, s) → other ≠ (l, token) →
      ((after cs).update l params).2 = ((after (front ++ back)).update l params).2 := by
  refine ⟨fun params token s hr => ⟨_, update_shows cs hr, ?_⟩, fun params hr => ?_, ?_, ?_⟩
  · exact ⟨rfl, rfl, rfl, rfl, rfl, ProgressStep.isEnd_iff⟩
  · rw [update, hr]
  · refine ⟨((after cs).tokens l).toFinset, ?_, fun token => ?_⟩
    · rw [List.toFinset_card_of_nodup (after_distinct cs).tokens_nodup, tokens, List.length_map]
      rfl
    · rw [List.mem_toFinset, mem_tokens_iff, after_get?, kept]
      cases recent (l, token) cs <;> simp
  · rintro front c back other params token s rfl hc hr hother
    rw [update_shows _ hr, update_shows _ hr]
    -- The call leaves no mark on the token that the step is for.
    have hmark := ProgressCall.mark?_other hc hother
    simp only [steps, recent, List.filterMap_append, List.filterMap_cons, hmark]

end ProgressTracker

namespace Sample

def worker : LanguageId := ⟨"zig", by decide, by decide⟩

def progress (token : Json) (value : List (String × Json)) : Json :=
  .object [("token", token), ("value", .object value)]

def work : List ProgressCall :=
  [.update worker (progress (.int 7) [("kind", .str "begin"), ("title", .str "Fetching")]),
    .clear worker, .create worker "7",
    .update worker (progress (.int 7)
      [("kind", .str "begin"), ("title", .str "Loading"), ("message", .str "half")]),
    .update worker (progress (.str "8") [("kind", .str "begin"), ("title", .str "Indexing")])]

def report : Json := progress (.str "7") [("kind", .str "report"), ("percentage", .int 40)]

lemma report_read : Progress.read? report = some ("7", .report none (some 40)) := by
  decide +kernel

end Sample

theorem ProgressTracker.work_accounted_between :
    (∃ e, ((after Sample.work).update Sample.worker Sample.report).2 = some e ∧
      e.state = ⟨some "Loading", some "half", some 40⟩ ∧ e.finished = false) ∧
    (after Sample.work).update Sample.worker .null = (after Sample.work, none) ∧
    ((after Sample.work).update Sample.worker Sample.report).2 =
      ((after (Sample.work.take 4)).update Sample.worker Sample.report).2 := by
  obtain ⟨hshown, hnone, -, hother⟩ := work_accounted Sample.work Sample.worker
  refine ⟨?_, hnone .null (by decide +kernel), ?_⟩
  · obtain ⟨e, he, hs⟩ := hshown _ _ _ Sample.report_read
    have hsteps : steps (Sample.worker, "7") Sample.work =
        [.begin_ "Loading" (some "half") none] := by decide +kernel
    rw [hsteps] at hs
    obtain ⟨l, token, ⟨title, message, percentage⟩, finished⟩ := e
    obtain ⟨rfl, rfl, rfl, rfl, rfl, hfinished⟩ := hs
    exact ⟨_, he, rfl, by simpa using hfinished⟩
  · have hkey : (ProgressCall.update Sample.worker (Sample.progress (.str "8")
        [("kind", .str "begin"), ("title", .str "Indexing")])).key? = some (Sample.worker, "8") := by
      decide +kernel
    exact hother (Sample.work.take 4) _ [] _ _ _ _ rfl hkey Sample.report_read (by decide)

end LanguageHost
