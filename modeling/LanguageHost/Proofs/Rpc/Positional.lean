import LanguageHost.Proofs.Rpc.Answering
import LanguageHost.Proofs.Rpc.Passing

/-! Which values are messages. The members of a message stand in an object under their names, but also
in an array of at most five at their places, so that a message need not be an object. -/

namespace LanguageHost

variable {κ : Type}

namespace Inbound

def memberNames : List String := ["id", "method", "params", "result", "error"]

def named (items : List Json) : Json := .object (memberNames.zip items)

def hasMembers : Json → Bool
  | .obj _ => true
  | .arr items => items.length ≤ memberNames.length
  | _ => false

def member? (name : String) (place : Nat) : Json → Option Json
  | .obj ms => Members.find? name ms
  | .arr items => items[place]?
  | _ => none

lemma readRaw_members (j : Json) :
    readRaw j = if hasMembers j then do
      let id ← optional readId (member? "id" 0 j)
      let method ← optional Json.asString? (member? "method" 1 j)
      let params ← optional some (member? "params" 2 j)
      let result ← optional some (member? "result" 3 j)
      let error ← optional readError (member? "error" 4 j)
      .ok ⟨id, method, params, result, error⟩
    else .error .malformed := by
  cases j with
  | arr items =>
    by_cases hlen : items.length ≤ 5
    · simp [readRaw, hasMembers, memberNames, member?, hlen, bind, Except.bind]
    · simp [readRaw, hasMembers, memberNames, hlen, bind, Except.bind]
  | obj ms => simp [readRaw, hasMembers, member?, bind, Except.bind]
  | _ => rfl

section Reading

variable {α : Type} {read : Json → Option α} {m : Option Json} {v : Option α} {j : Json}

lemma optional_present (hj : j ≠ .null) :
    optional read (some j) =
      match read j with
      | some a => .ok (some a)
      | none => .error .malformed := by
  cases j <;> first | rfl | exact absurd rfl hj

lemma optional_readable (h : optional read m = .ok v) (hm : m = some j) (hj : j ≠ .null) :
    (read j).isSome := by
  rw [hm, optional_present hj] at h
  cases ha : read j with
  | none => simp [ha] at h
  | some a => rfl

lemma optional_isSome (h : optional read m = .ok v) :
    v.isSome ↔ ∃ j, j ≠ .null ∧ m = some j := by
  by_cases hm : ∃ j, j ≠ .null ∧ m = some j
  · obtain ⟨j, hj, rfl⟩ := hm
    obtain ⟨a, ha⟩ := Option.isSome_iff_exists.mp (optional_readable h rfl hj)
    rw [optional_present hj, ha] at h
    rw [← Except.ok.inj h]
    exact ⟨fun _ => ⟨j, hj, rfl⟩, fun _ => rfl⟩
  · have habsent : optional read m = .ok none :=
      optional_absent read fun j hj => by_contra fun hne => hm ⟨j, hne, hj⟩
    rw [habsent] at h
    simp [← Except.ok.inj h, hm]

lemma optional_total (h : ∀ j, m = some j → j ≠ .null → (read j).isSome) :
    ∃ v, optional read m = .ok v := by
  by_cases hm : ∃ j, j ≠ .null ∧ m = some j
  · obtain ⟨j, hj, rfl⟩ := hm
    obtain ⟨a, ha⟩ := Option.isSome_iff_exists.mp (h j rfl hj)
    exact ⟨some a, by rw [optional_present hj, ha]⟩
  · exact ⟨none, optional_absent read fun j hj => by_contra fun hne => hm ⟨j, hne, hj⟩⟩

end Reading

/-- The value has members, each one that is there is of its shape, and one of them says what the
message is. -/
structure Fits (j : Json) : Prop where
  members : hasMembers j
  id : ∀ v, member? "id" 0 j = some v → v ≠ .null → (readId v).isSome
  method : ∀ v, member? "method" 1 j = some v → v ≠ .null → v.asString?.isSome
  error : ∀ v, member? "error" 4 j = some v → v ≠ .null → (readError v).isSome
  speaks : ∃ v, v ≠ .null ∧ (member? "id" 0 j = some v ∨ member? "method" 1 j = some v ∨
    member? "result" 3 j = some v ∨ member? "error" 4 j = some v)

structure Reads (j : Json) (raw : Raw) : Prop where
  members : hasMembers j
  id : optional readId (member? "id" 0 j) = .ok raw.id
  method : optional Json.asString? (member? "method" 1 j) = .ok raw.method
  params : optional some (member? "params" 2 j) = .ok raw.params
  result : optional some (member? "result" 3 j) = .ok raw.result
  error : optional readError (member? "error" 4 j) = .ok raw.error

lemma readRaw_ok_iff {j : Json} {raw : Raw} : readRaw j = .ok raw ↔ Reads j raw := by
  rw [readRaw_members]
  constructor
  · intro h
    split at h
    case isFalse => cases h
    case isTrue hmem =>
      simp only [bind, Except.bind] at h
      repeat' split at h
      all_goals cases h
      exact ⟨hmem, ‹_›, ‹_›, ‹_›, ‹_›, ‹_›⟩
  · rintro ⟨hmem, hid, hmethod, hparams, hresult, herror⟩
    simp only [hmem, if_true, hid, hmethod, hparams, hresult, herror, bind, Except.bind]

lemma ofRaw_ok_iff (raw : Raw) :
    (∃ i, ofRaw raw = .ok i) ↔
      raw.id.isSome ∨ raw.method.isSome ∨ raw.result.isSome ∨ raw.error.isSome := by
  obtain ⟨id, method, params, result, error⟩ := raw
  cases method with
  | some method => cases id <;> simp [ofRaw]
  | none => cases id <;> cases result <;> cases error <;> simp [ofRaw]

lemma classify_ok {j : Json} {i : Inbound} (h : classify j = .ok i) :
    ∃ raw, Reads j raw ∧ ofRaw raw = .ok i := by
  simp only [classify, bind, Except.bind] at h
  split at h
  case h_1 => cases h
  case h_2 raw hraw => exact ⟨raw, readRaw_ok_iff.mp hraw, h⟩

theorem classify_ok_iff (j : Json) : (∃ i, classify j = .ok i) ↔ Fits j := by
  constructor
  · rintro ⟨i, hi⟩
    obtain ⟨raw, hr, hraw⟩ := classify_ok hi
    refine ⟨hr.members, fun v => optional_readable hr.id, fun v => optional_readable hr.method,
      fun v => optional_readable hr.error, ?_⟩
    have hsome := (ofRaw_ok_iff raw).mp ⟨i, hraw⟩
    rw [optional_isSome hr.id, optional_isSome hr.method, optional_isSome hr.result,
      optional_isSome hr.error] at hsome
    simpa only [and_or_left, exists_or] using hsome
  · intro h
    obtain ⟨id, hid⟩ := optional_total h.id
    obtain ⟨method, hmethod⟩ := optional_total h.method
    obtain ⟨params, hparams, -⟩ := optional_some (member? "params" 2 j)
    obtain ⟨result, hresult, -⟩ := optional_some (member? "result" 3 j)
    obtain ⟨error, herror⟩ := optional_total h.error
    have hsome := h.speaks
    simp only [and_or_left, exists_or] at hsome
    rw [← optional_isSome hid, ← optional_isSome hmethod, ← optional_isSome hresult,
      ← optional_isSome herror] at hsome
    obtain ⟨i, hi⟩ := (ofRaw_ok_iff ⟨id, method, params, result, error⟩).mpr hsome
    have hr : Reads j ⟨id, method, params, result, error⟩ :=
      ⟨h.members, hid, hmethod, hparams, hresult, herror⟩
    exact ⟨i, by rw [classify, readRaw_ok_iff.mpr hr]; exact hi⟩

section Zipping

variable {α : Type} {key : String} {names : List String}

lemma find?_zip_other (hkey : key ∉ names) (items : List α) (ms : List (String × α)) :
    Members.find? key ((names.zip items).foldl (fun ms e => Members.insert e.1 e.2 ms) ms) =
      Members.find? key ms := by
  induction names generalizing items ms with
  | nil => rfl
  | cons name names ih =>
    obtain ⟨hname, hnames⟩ := not_or.mp (mt List.mem_cons.mpr hkey)
    cases items with
    | nil => rfl
    | cons a items =>
      rw [List.zip_cons_cons, List.foldl_cons, ih hnames, Members.find?_insert,
        if_neg (Ne.symm hname)]

lemma find?_zip (hnames : names.Nodup) {place : Nat} (hkey : names[place]? = some key)
    (items : List α) (ms : List (String × α)) :
    Members.find? key ((names.zip items).foldl (fun ms e => Members.insert e.1 e.2 ms) ms) =
      items[place]?.or (Members.find? key ms) := by
  induction names generalizing place items ms with
  | nil => cases hkey
  | cons name names ih =>
    obtain ⟨hfresh, hrest⟩ := List.nodup_cons.mp hnames
    cases items with
    | nil => rfl
    | cons a items =>
      rw [List.zip_cons_cons, List.foldl_cons]
      cases place with
      | zero =>
        obtain rfl : name = key := Option.some.inj hkey
        rw [find?_zip_other hfresh, Members.find?_insert, if_pos rfl]
        rfl
      | succ place =>
        have hne : name ≠ key := fun h => hfresh (h ▸ List.mem_of_getElem? hkey)
        rw [ih hrest hkey, Members.find?_insert, if_neg hne]
        rfl

end Zipping

lemma member?_named (items : List Json) {name : String} (place : Nat)
    (hname : memberNames[place]? = some name) :
    member? name place (named items) = member? name place (.arr items) :=
  (find?_zip (by decide) hname items []).trans (Option.or_none)

lemma classify_named {items : List Json} (hmem : hasMembers (.arr items)) :
    classify (.arr items) = classify (named items) := by
  have hread : readRaw (.arr items) = readRaw (named items) := by
    have hmem' : hasMembers (named items) := rfl
    rw [readRaw_members, readRaw_members, if_pos hmem, if_pos hmem',
      member?_named items 0 rfl, member?_named items 1 rfl,
      member?_named items 2 rfl, member?_named items 3 rfl,
      member?_named items 4 rfl]
  rw [classify, classify, hread]

end Inbound

namespace Client

variable {c : Client κ} {m : Json}

/-- The two messages come to the same, but for the text that is logged. -/
structure TakesAs (c : Client κ) (m m' : Json) : Prop where
  after : (c.dispatch m).1 = (c.dispatch m').1
  completions : completions (c.dispatch m).2 = completions (c.dispatch m').2
  reports : reports (c.dispatch m).2 = reports (c.dispatch m').2

lemma takesAs_of_classify {m' : Json} (h : Inbound.classify m = Inbound.classify m') :
    c.TakesAs m m' := by
  have hreports : reports (c.dispatch m).2 = reports (c.dispatch m').2 := by
    rw [dispatch_reports, dispatch_reports, Inbound.passed?_classify, Inbound.passed?_classify, h]
  by_cases hr : ∃ r, Inbound.classify m' = .ok (.response r)
  · obtain ⟨r, hr⟩ := hr
    obtain ⟨hafter, hdone⟩ := dispatch_response (c := c) (h.trans hr)
    obtain ⟨hafter', hdone'⟩ := dispatch_response (c := c) hr
    exact ⟨hafter.trans hafter'.symm, hdone.trans hdone'.symm, hreports⟩
  · have hother : ∀ r, Inbound.classify m' ≠ .ok (.response r) := fun r hm => hr ⟨r, hm⟩
    obtain ⟨hafter, hdone⟩ := dispatch_other (c := c) (m := m) (h ▸ hother)
    obtain ⟨hafter', hdone'⟩ := dispatch_other (c := c) hother
    exact ⟨hafter.trans hafter'.symm, hdone.trans hdone'.symm, hreports⟩

lemma dispatch_refused {e : ClassifyError} (h : Inbound.classify m = .error e) :
    c.PassesOver m ∧ reports (c.dispatch m).2 = [] := by
  obtain ⟨hafter, hdone⟩ := dispatch_other (c := c) (m := m) (by simp [h])
  refine ⟨⟨hdone, hafter⟩, ?_⟩
  rw [dispatch_reports, Inbound.passed?_classify, h]
  rfl

/-- A value that is no object is refused, and nothing comes of it, unless it lists the members of a
message. Then it is that message. -/
theorem bare_values_dispatched (hm : m.isObject = false) :
    (¬ Inbound.Fits m → (∃ e, Inbound.classify m = .error e) ∧ c.PassesOver m ∧
      reports (c.dispatch m).2 = []) ∧
    (Inbound.Fits m → ∃ items i, m = .arr items ∧ items.length ≤ 5 ∧
      Inbound.classify m = .ok i ∧ Inbound.classify (Inbound.named items) = .ok i ∧
      c.TakesAs m (Inbound.named items)) := by
  constructor
  · intro hfits
    cases h : Inbound.classify m with
    | ok i => exact absurd ((Inbound.classify_ok_iff m).mp ⟨i, h⟩) hfits
    | error e => exact ⟨⟨e, rfl⟩, dispatch_refused h⟩
  · intro hfits
    obtain ⟨i, hi⟩ := (Inbound.classify_ok_iff m).mpr hfits
    cases m with
    | arr items =>
      have hnamed := Inbound.classify_named hfits.members
      exact ⟨items, i, rfl, of_decide_eq_true hfits.members, hi, hnamed.symm.trans hi,
        takesAs_of_classify hnamed⟩
    | obj ms => cases hm
    | _ => cases hfits.members

theorem numbers_refused :
    Json.isObject (.arr [.int 1, .int 2]) = false ∧
      (∃ e, Inbound.classify (.arr [.int 1, .int 2]) = .error e) ∧
      Sample.waiting.PassesOver (.arr [.int 1, .int 2]) ∧
      reports (Sample.waiting.dispatch (.arr [.int 1, .int 2])).2 = [] :=
  ⟨rfl, (bare_values_dispatched (c := Sample.waiting) (m := .arr [.int 1, .int 2]) rfl).1
    fun h => absurd (h.method (.int 2) rfl nofun) (by decide)⟩

/-- An array with the number of a call completes the call, as if the call had been answered. -/
theorem question_settled_by_list :
    Json.isObject (.arr [.int 1]) = false ∧ Sample.question ∈ Sample.waiting.pending ∧
      (∃ r, Inbound.classify (.arr [.int 1]) = .ok (.response r)) ∧
      completions (Sample.waiting.dispatch (.arr [.int 1])).2 = [(Sample.question, .ok .null)] ∧
      (Sample.waiting.dispatch (.arr [.int 1])).1.pending = [] :=
  ⟨rfl, Sample.waiting_question, ⟨_, rfl⟩, rfl, rfl⟩

end Client

end LanguageHost
