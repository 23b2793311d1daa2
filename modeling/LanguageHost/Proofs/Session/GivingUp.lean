import LanguageHost.Proofs.Session.Budget
import LanguageHost.Proofs.Session.Routing

namespace LanguageHost

namespace Host

variable {h k : Host} {l m n : LanguageId} {d : Document} {deed : Deed}

section Turns

variable {t : Turn} {move : Move}

lemma Reminds.clearing {g : Nat} (hr : h.Reminds g move) : (h.clearing move).isSome = true := by
  cases move with
  | restartAll | reconfigure => rfl
  | settle w => simp [Host.clearing, hr.1]
  | _ => exact hr.elim

lemma Stirs.retains (hm : ¬h.Forgets l move) (hd : h.Stirs move deed) : ¬deed.Forgets l := by
  cases deed with
  | part k =>
    rintro rfl
    exact hm hd
  | excuse k =>
    rintro rfl
    exact hm hd.1
  | evict k =>
    rintro rfl
    exact hm hd.2
  | again g => exact fun _ => hm (.inl (Reminds.clearing hd))
  | discard => exact fun _ => hm (.inl hd)
  | mute g =>
    obtain ⟨k, -, hk, -⟩ := hd
    exact fun _ => hm (.inl (by simp [hk]))
  | _ => exact id

lemma calm_retains {subject : Option Document} (hd : Deed.Calm subject deed) :
    ¬deed.Forgets l := by
  cases deed with
  | quiet | about | edit | launch => exact id
  | _ => exact hd.elim

lemma calm_plain {subject : Option Document} (hd : Deed.Calm subject deed) :
    deed ≠ .discard ∧ deed ≠ .take := by
  cases deed with
  | quiet | about | edit | launch => exact ⟨by simp, by simp⟩
  | _ => exact hd.elim

lemma turn_spends (hc : t.before.Coherent) :
    t.after.tries l + t.after.budget l ≤ t.before.tries l + (maxRestarts + 1) ∧
      (¬t.before.Forgets l t.move →
        t.after.tries l + t.after.budget l ≤ t.before.tries l + t.before.budget l) := by
  obtain ⟨k, hw, hcalm⟩ := perform_walk hc.languages t.move
  -- Slots are forgotten in the first part of a turn only, in which nothing is launched.
  have hlast := hcalm.spends (l := l) (hw.coherent hc) fun d hd => calm_retains hd
  constructor
  · have htries := hw.tries (l := l) hc fun d hd m hdm => by
      rw [hdm] at hd
      exact hd
    have hbudget := budget_le k l
    exact Nat.le_trans hlast (htries ▸ Nat.add_le_add_left hbudget _)
  · exact fun hm => Nat.le_trans hlast (hw.spends hc fun d hd => Stirs.retains hm hd)

lemma turns_tries (hc : h.Coherent) (ms : List Move) (l : LanguageId) :
    (h.run ms).tries l =
      h.tries l + ((h.turns ms).flatMap Turn.launches).countP (·.2.language = l) := by
  rw [tries, tries, (run_balances hc ms).1, List.countP_append]

lemma run_spends (hc : h.Coherent) (ms : List Move)
    (hm : ∀ u ∈ h.turns ms, ¬u.before.Forgets l u.move) :
    (h.run ms).tries l + (h.run ms).budget l ≤ h.tries l + h.budget l := by
  induction ms generalizing h with
  | nil => exact Nat.le_refl _
  | cons m rest ih =>
    have hfirst := (turn_spends (t := ⟨h, m⟩) hc).2 (hm _ List.mem_cons_self)
    exact Nat.le_trans (ih (perform_coherent hc m) fun u hu => hm u (List.mem_cons_of_mem _ hu)) hfirst

lemma turns_limited (hc : t.before.Coherent) (ms : List Move)
    (hm : ∀ u ∈ t.after.turns ms, ¬u.before.Forgets l u.move) :
    ((t :: t.after.turns ms).flatMap Turn.launches).countP (·.2.language = l) ≤
      maxRestarts + 1 := by
  have hall := turns_tries (h := t.before) hc (t.move :: ms) l
  have hfirst := (turn_spends (l := l) hc).1
  have hrest := run_spends (h := t.after) (perform_coherent hc t.move) ms hm
  have hturns : t.before.turns (t.move :: ms) = t :: t.after.turns ms := rfl
  have hrun : t.before.run (t.move :: ms) = t.after.run ms := rfl
  rw [hturns, hrun] at hall
  omega

lemma turn_forgets (hc : t.before.Coherent) (hm : t.before.Forgets l t.move) :
    ∃ a, Walk (fun d => ∀ m, d ≠ .launch m) t.before a ∧ a.slots.get? l = none ∧
      Walk (fun _ => True) a (t.before.performing t.move) := by
  obtain ⟨k, hw, hcalm, hslots⟩ := performing_walk hc.languages t.move
  refine ⟨k, hw.mono ?_, ?_, hcalm.mono fun _ _ => trivial⟩
  · rintro d ⟨hd, -⟩ m rfl
    exact hd
  · rcases hm with hclear | ⟨-, hnone⟩
    · simp [hslots hclear, Slots.get?]
    · by_contra hsome
      have hk : (k.slots.get? l).isSome = true := Option.isSome_iff_ne_none.mpr hsome
      have hlast := hcalm.occupied (hw.coherent hc) (fun d hd => calm_retains hd) hk
      have hafter : (t.before.perform t.move).slots = (t.before.performing t.move).slots := by
        rcases perform_performing t.before t.move with he | he <;> rw [he]
      rw [hafter] at hnone
      simp [hnone] at hlast

end Turns

end Host

namespace Turn

variable {t : Turn} {l : LanguageId}

def fatals (t : Turn) : List LanguageId := t.told.filterMap HostEvent.fatal?

/-- There is a moment in the turn at which the language is given up. -/
def GivesUp (t : Turn) (l : LanguageId) : Prop :=
  ∃ a b, Host.Walk (fun _ => True) t.before a ∧ a.Drops b l ∧
    Host.Walk (fun _ => True) b (t.before.performing t.move)

lemma fatals_count (hc : t.before.Coherent) (l : LanguageId) :
    (t.before.performing t.move).fatals.count l =
      t.before.fatals.count l + t.fatals.count l := by
  rw [Host.fatals, told_queued hc.languages, List.filterMap_append, List.count_append]
  rfl

lemma after_slots (t : Turn) : t.after.slots = (t.before.performing t.move).slots := by
  rcases Host.perform_performing t.before t.move with he | he <;> rw [after, he]

lemma after_isDead (t : Turn) (l : LanguageId) :
    t.after.isDead l = (t.before.performing t.move).isDead l := by
  rw [Host.isDead, after_slots, Host.isDead]

lemma unheard_of_clearing (hm : (t.before.clearing t.move).isSome = true) :
    t.before.incoming t.move = none := by
  obtain ⟨h, m⟩ := t
  cases m with
  | restartAll | reconfigure | settle => rfl
  | _ => cases hm

lemma walk_of_uncleared (hc : t.before.Coherent) (hm : t.before.clearing t.move = none) :
    Host.Walk (fun d => d ≠ .discard ∧ d ≠ .take) t.before (t.before.performing t.move) := by
  obtain ⟨k, hw, hcalm, -⟩ := Host.performing_walk hc.languages t.move
  refine (hw.mono ?_).trans (hcalm.mono fun d hd => Host.calm_plain hd)
  rintro d ⟨hd, htake⟩
  refine ⟨?_, htake⟩
  rintro rfl
  simp [Host.Stirs, hm] at hd

lemma fatal_once (hc : t.before.Coherent) (l : LanguageId) :
    t.fatals.count l = (if t.after.isDead l = true ∧
      (t.before.isDead l = false ∨ (t.before.clearing t.move).isSome = true) then 1 else 0) ∧
      (l ∈ t.fatals → t.GivesUp l) := by
  rw [after_isDead, ← List.count_pos_iff]
  have hcount := fatals_count hc l
  cases hm : t.before.clearing t.move with
  | some cleared =>
    have hclear : (t.before.clearing t.move).isSome = true := by rw [hm]; rfl
    obtain ⟨k, hw, hcalm, hslots⟩ := Host.performing_walk hc.languages t.move
    have hquiet : k.fatals = t.before.fatals := by
      refine hw.unfatal hc fun d hd => ⟨hd.2, ?_, ?_⟩
      · rintro m rfl
        exact hd.1
      · rintro m rfl
        obtain ⟨e, he, -⟩ := hd.1
        simp [unheard_of_clearing hclear] at he
    have halive : k.isDead l = false := by simp [Host.isDead, hslots hclear, Slots.get?]
    rw [← hquiet] at hcount
    rcases hcalm.drops (hw.coherent hc) (fun d hd => Host.calm_plain hd) halive with
      ⟨hlast, hsame⟩ | ⟨hlast, hone, a, b, ha, hdrops, hb⟩
    · have hnone : t.fatals.count l = 0 := by omega
      simp [hlast, hnone]
    · have hsome : t.fatals.count l = 1 := by omega
      refine ⟨by simp [hlast, hsome], fun _ => ⟨a, b, ?_, hdrops, hb.mono fun _ _ => trivial⟩⟩
      exact (hw.mono fun _ _ => trivial).trans (ha.mono fun _ _ => trivial)
  | none =>
    have hw := walk_of_uncleared hc hm
    cases hdead : t.before.isDead l with
    | true =>
      obtain ⟨restarts, reason, hslot⟩ := Host.isDead_iff.mp hdead
      have hsame := (hw.dead hc (fun _ => id) hslot).2.1
      have hnone : t.fatals.count l = 0 := by omega
      simp [hnone]
    | false =>
      rcases hw.drops hc (fun _ => id) hdead with ⟨hlast, hsame⟩ | ⟨hlast, hone, a, b, ha, hdrops, hb⟩
      · have hnone : t.fatals.count l = 0 := by omega
        simp [hlast, hnone]
      · have hsome : t.fatals.count l = 1 := by omega
        exact ⟨by simp [hlast, hsome],
          fun _ => ⟨a, b, ha.mono fun _ _ => trivial, hdrops, hb.mono fun _ _ => trivial⟩⟩

end Turn

namespace Host

variable {h k : Host} {l n : LanguageId} {d : Document} {ms : List Move}

lemma run_dead (hc : h.Coherent) {restarts : Nat} {reason : String}
    (hl : h.slots.get? l = some (.dead restarts reason))
    (hm : ∀ t ∈ h.turns ms, t.before.clearing t.move = none) :
    (h.run ms).slots.get? l = some (.dead restarts reason) ∧ (h.run ms).tries l = h.tries l := by
  induction ms generalizing h with
  | nil => exact ⟨hl, rfl⟩
  | cons m rest ih =>
    have hw := Turn.walk_of_uncleared (t := ⟨h, m⟩) hc (hm _ List.mem_cons_self)
    obtain ⟨hslot, -, htries⟩ := hw.dead hc (fun _ => id) hl
    have hafter : (h.perform m).slots.get? l = some (.dead restarts reason) ∧
        (h.perform m).tries l = h.tries l := by
      rcases perform_performing h m with he | he <;> rw [he] <;> exact ⟨hslot.trans hl, htries⟩
    obtain ⟨hlast, hsame⟩ := ih (perform_coherent hc m) hafter.1
      fun t ht => hm t (List.mem_cons_of_mem _ ht)
    exact ⟨hlast, hsame.trans hafter.2⟩

/-- An operation fails because the server of a language was given up, and nothing is sent or
launched. -/
structure Denies {α : Type} (h : Host) (l : LanguageId) (r : Host × Except HostError α) : Prop where
  error : r.2 = .error (.serverUnavailable l)
  submissions : r.1.connections.submissions = h.connections.submissions
  launches : r.1.connections.launches = h.connections.launches

section Denials

variable {α β : Type}

lemma resolve_denies (hc : h.Arranged) (hl : h.isDead l = true) (hr : Routes h.settings n l) :
    h.Denies l (h.resolve n) := by
  obtain ⟨restarts, reason, hslot⟩ := isDead_iff.mp hl
  rcases hr with rfl | hr
  · simp only [resolve, slot_eq hslot]
    exact ⟨rfl, rfl, rfl⟩
  · obtain ⟨k, hk⟩ := slot_routed hc hr
    have hconsults := slot_consults h n
    rw [hk] at hconsults
    simp only [resolve, hk, slot_eq (hconsults.kept l _ hslot)]
    exact ⟨rfl, hconsults.quiet.1, hconsults.quiet.2⟩

section Operations

variable (hc : h.Arranged) (hl : h.isDead l = true) (hr : Routes h.settings n l)
  (hn : d.language = some n)
include hc hl hr

lemma gate_denies (f : Feature) : h.Denies l (h.gate n f) := by
  have hd := resolve_denies hc hl hr
  rcases hres : h.resolve n with ⟨k, e | serving⟩ <;> rw [hres] at hd
  · simp only [gate, hres]
    exact ⟨congrArg Except.error (Except.error.inj hd.error), hd.submissions, hd.launches⟩
  · cases hd.error

lemma workspaceSymbols_denies (query : String) : h.Denies l (h.workspaceSymbols n query) := by
  have hd := gate_denies hc hl hr .workspaceSymbols
  rcases hg : h.gate n .workspaceSymbols with ⟨k, e | serving⟩ <;> rw [hg] at hd
  · simp only [workspaceSymbols, hg]
    exact ⟨congrArg Except.error (Except.error.inj hd.error), hd.submissions, hd.launches⟩
  · cases hd.error

include hn

lemma request_denies (kind : RequestKind) (p : Position) : h.Denies l (h.request kind d p) := by
  have hd := gate_denies hc hl hr kind.feature
  rcases hg : h.gate n kind.feature with ⟨k, e | serving⟩ <;> rw [hg] at hd
  · simp only [request, hn, hg]
    exact ⟨congrArg Except.error (Except.error.inj hd.error), hd.submissions, hd.launches⟩
  · cases hd.error

lemma attachAndSync_denies (f : Sync → Sync.Result α) : h.Denies l (h.attachAndSync d f) := by
  have hd := resolve_denies hc hl hr
  rcases hres : h.resolve n with ⟨k, e | serving⟩ <;> rw [hres] at hd
  · obtain rfl := Except.error.inj hd.error
    simp only [attachAndSync, attach, hn, hres]
    exact ⟨rfl, hd.submissions, hd.launches⟩
  · cases hd.error

lemma didSave_denies : h.Denies l (h.didSave d) := by
  have hquiet := noteSaved_evolves h d
  have hslots := noteSaved_kept h d
  have hd := attachAndSync_denies (h := h.noteSaved d) (hc.kept hslots.1 hslots.2)
    (by rw [isDead, hslots.1]; exact hl) (by rw [hslots.2]; exact hr) hn (·.didSave d)
  exact ⟨hd.error, hd.submissions.trans (by simpa using hquiet.submissions),
    hd.launches.trans hquiet.launches⟩

end Operations

end Denials

/-- Until its slot is forgotten the server of a language is launched once and restarted at most
`maxRestarts` times. When the language is given up the editor is told once, and no other slot changes;
it is not launched again until every slot is forgotten, and its documents are refused. -/
theorem launches_limited (settings : Settings) (root : Option FilePath) (environment : Environment)
    (ms : List Move) (l : LanguageId) (hk : (fresh settings root environment).run ms = k)
    {ts : List Turn} (hts : (fresh settings root environment).turns ms = ts) :
    (∀ pre t mid post, ts = pre ++ t :: (mid ++ post) →
        (∀ u ∈ mid, ¬u.before.Forgets l u.move) →
        ((t :: mid).flatMap Turn.launches).countP (·.2.language = l) ≤ maxRestarts + 1) ∧
      (∀ t ∈ ts, t.before.Forgets l t.move →
        ∃ a, Walk (fun d => ∀ m, d ≠ .launch m) t.before a ∧ a.slots.get? l = none ∧
          Walk (fun _ => True) a (t.before.performing t.move)) ∧
      (∀ t ∈ ts, t.fatals.count l = (if t.after.isDead l = true ∧
          (t.before.isDead l = false ∨ (t.before.clearing t.move).isSome = true) then 1 else 0) ∧
        (l ∈ t.fatals → t.GivesUp l)) ∧
      (∀ ns restarts reason, k.slots.get? l = some (.dead restarts reason) →
        (∀ t ∈ k.turns ns, t.before.clearing t.move = none) →
        (k.run ns).slots.get? l = some (.dead restarts reason) ∧
          ((k.turns ns).flatMap Turn.launches).countP (·.2.language = l) = 0) ∧
      ∀ d n, k.isDead l = true → d.language = some n → Routes k.settings n l →
        k.Denies l (k.didOpen d) ∧ (∀ change, k.Denies l (k.didChange d change)) ∧
          k.Denies l (k.didSave d) ∧ (∀ kind p, k.Denies l (k.request kind d p)) ∧
          ∀ query, k.Denies l (k.workspaceSymbols n query) := by
  subst hk hts
  have hc := fresh_coherent settings root environment
  have harranged := run_arranged hc (fresh_arranged settings root environment) ms
  have hkc := run_coherent hc ms
  refine ⟨fun pre t mid post hsplit hmid => ?_, fun t ht => turn_forgets (turns_coherent hc ht),
    fun t ht => Turn.fatal_once (turns_coherent hc ht) l, fun ns restarts reason hl hm => ?_,
    fun d n hl hn hr => ?_⟩
  · obtain ⟨ns, rest, hb, -, hpost⟩ := turns_mem_split hsplit
    obtain ⟨qs, -, rfl, -⟩ := turns_split hpost.symm
    exact turns_limited (hb ▸ run_coherent hc ns) qs hmid
  · obtain ⟨hslot, htries⟩ := run_dead hkc hl hm
    have hall := turns_tries hkc ns l
    exact ⟨hslot, by omega⟩
  · exact ⟨attachAndSync_denies harranged hl hr hn _,
      fun change => attachAndSync_denies harranged hl hr hn _, didSave_denies harranged hl hr hn,
      fun kind p => request_denies harranged hl hr hn kind p,
      fun query => workspaceSymbols_denies harranged hl hr query⟩

end Host

namespace Sample

def barren : Host :=
  Host.fresh settings none
    { environment with launch := fun _ _ => ([], .error (.binaryNotFound "serve")) }

end Sample

namespace Host

theorem barren_limited :
    Turn.GivesUp ⟨Sample.barren, .didOpen Sample.document⟩ Sample.language ∧
      (([⟨Sample.barren, .didOpen Sample.document⟩] : List Turn).flatMap Turn.launches).countP
        (·.2.language = Sample.language) ≤ maxRestarts + 1 ∧
      (((Sample.barren.run [.didOpen Sample.document]).turns
        [.didOpen Sample.document]).flatMap Turn.launches).countP
          (·.2.language = Sample.language) = 0 ∧
      Denies (Sample.barren.run [.didOpen Sample.document]) Sample.language
        ((Sample.barren.run [.didOpen Sample.document]).didOpen Sample.document) := by
  obtain ⟨hlimit, -, hfatal, hdead, hdenies⟩ := launches_limited Sample.settings none
    { Sample.environment with launch := fun _ _ => ([], .error (.binaryNotFound "serve")) }
    [.didOpen Sample.document] Sample.language rfl rfl
  have hslot : (Sample.barren.run [.didOpen Sample.document]).isDead Sample.language = true := by
    decide +kernel
  have htold : Sample.language ∈ (Turn.fatals ⟨Sample.barren, .didOpen Sample.document⟩) := by
    decide +kernel
  obtain ⟨restarts, reason, hl⟩ := isDead_iff.mp hslot
  obtain ⟨-, hnone⟩ := hdead [.didOpen Sample.document] restarts reason hl
    (by simp [turns, clearing])
  refine ⟨(hfatal ⟨Sample.barren, .didOpen Sample.document⟩ List.mem_cons_self).2 htold,
    hlimit [] _ [] [] rfl (by simp), hnone,
    (hdenies Sample.document Sample.language hslot rfl (.inl rfl)).1⟩

end Host

end LanguageHost
