import LanguageHost.Proofs.Feature.History
import Std.Data.String.ToInt

/-! Which pieces of work are kept apart. A token is a number or a text, and is known by its text: two
tokens get in each other's way when one of them is a number and the other its digits, and only then. -/

namespace LanguageHost

inductive WorkToken where
  | number (n : Int)
  | text (s : String)
  deriving DecidableEq

namespace WorkToken

def ofJson? : Json → Option WorkToken
  | .str s => some (text s)
  | j => (j.intIn? (-0x80000000) 0x7fffffff).map number

def key : WorkToken → ProgressToken
  | number n => toString n
  | text s => s

def Spells (a b : WorkToken) : Prop := ∃ n : Int, a = number n ∧ b = text (toString n)

variable {a b : WorkToken}

lemma token?_eq (j : Json) : Progress.token? j = (ofJson? j).map key := by
  cases j with
  | str s => rfl
  | _ =>
    simp only [Progress.token?, ofJson?, Option.map_map]
    rfl

lemma key_eq_iff : a.key = b.key ↔ a = b ∨ a.Spells b ∨ b.Spells a := by
  constructor
  · intro h
    cases a with
    | number n =>
      cases b with
      | number m => exact .inl (congrArg number (Int.repr_injective h))
      | text s => exact .inr (.inl ⟨n, rfl, congrArg text h.symm⟩)
    | text s =>
      cases b with
      | number m => exact .inr (.inr ⟨m, rfl, congrArg text h⟩)
      | text r => exact .inl (congrArg text h)
  · rintro (rfl | ⟨n, rfl, rfl⟩ | ⟨n, rfl, rfl⟩) <;> rfl

end WorkToken

inductive WorkCall where
  | create (l : LanguageId) (token : WorkToken)
  | update (l : LanguageId) (params : Json)

namespace WorkCall

def call : WorkCall → ProgressCall
  | create l token => .create l token.key
  | update l params => .update l params

def subject? : WorkCall → Option (LanguageId × WorkToken)
  | create l token => some (l, token)
  | update l params =>
    (Progress.read? params).bind fun _ =>
      (((Shapes.progress.read? params).bind (·.get? "token")).bind WorkToken.ofJson?).map (l, ·)

lemma key?_eq (c : WorkCall) : c.call.key? = c.subject?.map fun k => (k.1, k.2.key) := by
  cases c with
  | create => rfl
  | update l params =>
    simp only [call, ProgressCall.key?, subject?]
    cases hr : Progress.read? params with
    | none => rfl
    | some r =>
      obtain ⟨j, hj, token, ht, step, -, rfl⟩ : ∃ j, Shapes.progress.read? params = some j ∧
          ∃ token, (j.get? "token").bind Progress.token? = some token ∧
            ∃ step, (j.get? "value").bind Progress.step? = some step ∧ (token, step) = r := by
        simpa only [Progress.read?, bind, Option.bind_eq_some_iff, Option.some.injEq] using hr
      obtain ⟨raw, hraw, hk⟩ := Option.bind_eq_some_iff.mp ht
      rw [WorkToken.token?_eq, Option.map_eq_some_iff] at hk
      obtain ⟨written, hw, rfl⟩ := hk
      simp [hj, hraw, hw]

end WorkCall

namespace ProgressTracker

variable {t u : ProgressTracker} {l : LanguageId} {a b : WorkToken}

def answer (t : ProgressTracker) : WorkCall → Option ProgressEvent
  | .create .. => none
  | .update l params => (t.update l params).2

def work (t : ProgressTracker) (cs : List WorkCall) : ProgressTracker :=
  (cs.map WorkCall.call).foldl perform t

def reported (l : LanguageId) (b : WorkToken) : ProgressTracker → List WorkCall → List ProgressEvent
  | _, [] => []
  | t, c :: cs =>
    (if c.subject? = some (l, b) then (t.answer c).toList else []) ++
      reported l b (t.perform c.call) cs

/-- Without the calls for one token everything is reported of another one that is reported with them, and
the other one is kept, with the same state, if it is kept with them. -/
def Isolated (l : LanguageId) (a b : WorkToken) : Prop :=
  ∀ (t : ProgressTracker) (cs : List WorkCall),
    reported l b t (cs.filter (·.subject? ≠ some (l, a))) = reported l b t cs ∧
      (t.work (cs.filter (·.subject? ≠ some (l, a)))).get? (l, b.key) = (t.work cs).get? (l, b.key)

lemma answer_eq {c : WorkCall} (hc : c.subject? = some (l, b))
    (hk : t.get? (l, b.key) = u.get? (l, b.key)) : t.answer c = u.answer c := by
  cases c with
  | create => rfl
  | update m params =>
    have hkey := WorkCall.key?_eq (.update m params)
    simp only [hc, WorkCall.call, ProgressCall.key?, Option.map_some, Option.map_eq_some_iff,
      Prod.mk.injEq] at hkey
    obtain ⟨⟨token, s⟩, hr, rfl, rfl⟩ := hkey
    simp only [answer, update, hr, step, hk]

lemma perform_agree {k : Key} (hk : t.get? k = u.get? k) (c : ProgressCall) :
    (t.perform c).get? k = (u.perform c).get? k := by
  rw [perform_get?, perform_get?, hk]

lemma reported_agree (hk : t.get? (l, b.key) = u.get? (l, b.key)) (hab : a.key ≠ b.key)
    (cs : List WorkCall) :
    reported l b t (cs.filter (·.subject? ≠ some (l, a))) = reported l b u cs ∧
      (t.work (cs.filter (·.subject? ≠ some (l, a)))).get? (l, b.key) =
        (u.work cs).get? (l, b.key) := by
  induction cs generalizing t u with
  | nil => exact ⟨rfl, hk⟩
  | cons c cs ih =>
    by_cases hc : c.subject? = some (l, a)
    · have hne : (l, a.key) ≠ (l, b.key) := fun h => hab (congrArg Prod.snd h)
      have hmark : c.call.mark? (l, b.key) = none :=
        ProgressCall.mark?_other (by rw [WorkCall.key?_eq, hc]; rfl) hne
      have hkept : t.get? (l, b.key) = (u.perform c.call).get? (l, b.key) := by
        rw [perform_get?, hmark, hk]
      have hother : c.subject? ≠ some (l, b) := by
        rw [hc]
        rintro ⟨⟩
        exact hab rfl
      obtain ⟨hreported, hwork⟩ := ih hkept
      rw [List.filter_cons_of_neg (by simp [hc])]
      refine ⟨?_, hwork⟩
      simp only [reported, if_neg hother, List.nil_append]
      exact hreported
    · obtain ⟨hreported, hwork⟩ := ih (perform_agree hk c.call)
      rw [List.filter_cons_of_pos (by simp [hc])]
      refine ⟨?_, hwork⟩
      simp only [reported]
      rw [hreported]
      split
      · next hb => rw [answer_eq hb hk]
      · rfl

/-- Of two tokens of a language the calls for one make no difference to the other, unless they are the
same token or one is a number and the other its digits. -/
theorem tokens_isolated (l : LanguageId) (a b : WorkToken) :
    Isolated l a b ↔ a ≠ b ∧ ¬a.Spells b ∧ ¬b.Spells a := by
  have hkeys : (a ≠ b ∧ ¬a.Spells b ∧ ¬b.Spells a) ↔ a.key ≠ b.key := by
    rw [Ne, Ne, WorkToken.key_eq_iff, not_or, not_or]
  rw [hkeys]
  constructor
  · intro h hab
    -- Announcing the one makes the other known.
    have hnone : work {} ([WorkCall.create l a].filter (·.subject? ≠ some (l, a))) = {} := by
      simp [WorkCall.subject?, work]
    have hsome : (work {} [.create l a]).get? (l, b.key) = some {} := by
      show (perform {} (.create l a.key)).get? _ = _
      rw [perform_get?, hab, ProgressCall.mark?, if_pos rfl]
      rfl
    have hkept := (h {} [.create l a]).2
    rw [hnone, hsome] at hkept
    cases hkept
  · exact fun hab t cs => reported_agree rfl hab cs

end ProgressTracker

namespace Sample

def mixture : List WorkCall :=
  [.update worker (progress (.int 1) [("kind", .str "begin"), ("title", .str "Indexing")]),
    .update worker (progress (.str "1") [("kind", .str "report")])]

end Sample

theorem ProgressTracker.digits_confused :
    WorkToken.number 1 ≠ .text "1" ∧
      (reported Sample.worker (.text "1") {} Sample.mixture).map (·.state.title) =
        [some "Indexing"] ∧
      (reported Sample.worker (.text "1") {}
        (Sample.mixture.filter (·.subject? ≠ some (Sample.worker, .number 1)))).map (·.state.title) =
        [none] ∧
      ¬Isolated Sample.worker (.number 1) (.text "1") := by
  have hwith : (reported Sample.worker (.text "1") {} Sample.mixture).map (·.state.title) =
      [some "Indexing"] := by decide +kernel
  have hwithout : (reported Sample.worker (.text "1") {}
      (Sample.mixture.filter (·.subject? ≠ some (Sample.worker, .number 1)))).map (·.state.title) =
      [none] := by decide +kernel
  refine ⟨by decide, hwith, hwithout, fun h => ?_⟩
  rw [(h {} Sample.mixture).1, hwith] at hwithout
  cases hwithout

end LanguageHost
