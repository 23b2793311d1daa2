import Mathlib.Data.List.Range
import LanguageHost.Proofs.Session.Addressing

namespace LanguageHost

namespace Versions

variable {u v w : Versions} {p q : FilePath} {ns ms : List Nat}

def following (last count : Nat) : List Nat :=
  (List.range count).map fun j => min (last + (j + 1)) greatest

lemma following_add (last a b : Nat) :
    following last (a + b) = following last a ++ following (min (last + a) greatest) b := by
  rw [following, List.range_add, List.map_append, List.map_map]
  refine congrArg _ (List.map_congr_left fun j _ => ?_)
  simp only [Function.comp_apply]
  omega

def Counts (p : FilePath) (v : Versions) (ns : List Nat) (w : Versions) : Prop :=
  ns = following (v.last p) ns.length ∧ w.last p = min (v.last p + ns.length) greatest

lemma Counts.refl (hv : v.last p ≤ greatest) : Counts p v [] v :=
  ⟨rfl, (Nat.min_eq_left hv).symm⟩

lemma Counts.trans (hu : Counts p u ns v) (hv : Counts p v ms w) : Counts p u (ns ++ ms) w := by
  obtain ⟨hns, hlast⟩ := hu
  obtain ⟨hms, hw⟩ := hv
  rw [hlast] at hms hw
  refine ⟨?_, ?_⟩
  · rw [List.length_append, following_add, ← hns, ← hms]
  · rw [hw, List.length_append]
    omega

lemma Counts.bound (hv : Counts p v ns w) : w.last p ≤ greatest :=
  hv.2 ▸ Nat.min_le_right _ _

lemma next_counts (hv : v.last p ≤ greatest) (q : FilePath) :
    Counts p v (if q.same p then [(v.next (some q)).2] else []) (v.next (some q)).1 := by
  by_cases hq : q.components = p.components
  · have hlast : v.last q = v.last p := by rw [last, last, hq]
    rw [if_pos ((FilePath.same_iff q p).mpr hq)]
    refine ⟨?_, ?_⟩
    · simp [next, following, hlast]
    · rw [next, last_set_self hq, hlast]
      rfl
  · rw [if_neg fun hsame => hq ((FilePath.same_iff q p).mp hsame)]
    refine ⟨rfl, ?_⟩
    rw [next, last_set_other hq]
    exact (Nat.min_eq_left hv).symm

end Versions

lemma Outbound.version?_aside {m : Outbound} (hm : m.act? = none) :
    m.version? = none ∧ m.opensText = false ∧ m.changesText = false := by
  cases m with
  | notification method params =>
    have hopen : method ≠ "textDocument/didOpen" := by
      rintro rfl
      cases hm
    have hchange : method ≠ "textDocument/didChange" := by
      rintro rfl
      cases hm
    cases params <;> simp [version?, opensText, changesText, hopen, hchange]
  | request | reply => exact ⟨rfl, rfl, rfl⟩

def Document.isAt (p : FilePath) (d : Document) : Bool := d.path.any (·.same p)

def versionsAt (p : FilePath) (subject : Option Document) (sent : List (Nat × Submission)) :
    List Nat :=
  if subject.any (·.isAt p) then sent.filterMap (·.2.1.version?) else []

lemma versionsAt_append (p : FilePath) (subject : Option Document)
    (s t : List (Nat × Submission)) :
    versionsAt p subject (s ++ t) = versionsAt p subject s ++ versionsAt p subject t := by
  simp only [versionsAt]
  split
  · exact List.filterMap_append
  · rfl

lemma versionsAt_unversioned {sent : List (Nat × Submission)}
    (hs : ∀ s ∈ sent, s.2.1.version? = none) (p : FilePath) (subject : Option Document) :
    versionsAt p subject sent = [] := by
  simp only [versionsAt]
  split
  · exact List.filterMap_eq_nil_iff.mpr hs
  · rfl

def Turn.versions (t : Turn) (p : FilePath) : List Nat := versionsAt p t.move.subject t.sent

namespace Host

variable {h k : Host} {p : FilePath} {deed : Deed} {subject : Option Document}
  {sent : List (Nat × Submission)}

lemma Addresses.counts (ha : Addresses h k deed sent) (hp : deed.Concerns subject)
    (hv : h.versions.last p ≤ Versions.greatest) :
    h.versions.Counts p (versionsAt p subject sent) k.versions := by
  cases ha with
  | aside hsent hk =>
    rw [versionsAt_unversioned fun s hs => (Outbound.version?_aside (hsent s hs)).1, hk]
    exact .refl hv
  | addressed d l i j g m act result hd had =>
    obtain rfl := hp d hd
    rcases had.numbered with ⟨hm, hk⟩ | ⟨hm, hk, -, -⟩
    · rw [hk]
      cases hpath : d.path with
      | none =>
        have hnone : versionsAt p (some d) [(g, m, result)] = [] := by
          simp [versionsAt, Document.isAt, hpath]
        rw [hnone]
        exact .refl hv
      | some q =>
        have hgiven : versionsAt p (some d) [(g, m, result)] =
            if q.same p then [(h.versions.next (some q)).2] else [] := by
          simp [versionsAt, Document.isAt, hpath, hm]
        rw [hgiven]
        exact Versions.next_counts hv q
    · rw [versionsAt_unversioned (by simpa using hm), hk]
      exact .refl hv

lemma Discourse.counts (hd : Discourse (Deed.Concerns subject) h sent k)
    (hv : h.versions.last p ≤ Versions.greatest) :
    h.versions.Counts p (versionsAt p subject sent) k.versions := by
  induction hd with
  | nil =>
    rw [versionsAt_unversioned (by simp)]
    exact .refl hv
  | next _ hp _ ha ih =>
    rw [versionsAt_append]
    exact ih.trans (ha.counts hp ih.bound)

lemma run_counts (hc : h.Coherent) (hv : h.versions.last p ≤ Versions.greatest) (ms : List Move) :
    h.versions.Counts p ((h.turns ms).flatMap (·.versions p)) (h.run ms).versions := by
  induction ms generalizing h with
  | nil => exact .refl hv
  | cons m rest ih =>
    have hm := (Turn.discourse (t := ⟨h, m⟩) hc).counts hv
    rw [turns, List.flatMap_cons]
    exact hm.trans (ih (perform_coherent hc m) hm.bound)

lemma Discourse.numbered (hd : Discourse (Deed.Concerns subject) h sent k)
    {s : Nat × Submission} (hs : s ∈ sent)
    (hm : s.2.1.opensText = true ∨ s.2.1.changesText = true) :
    ∃ d version, subject = some d ∧ s.2.1.version? = some version ∧
      (d.path = none → version = 0) := by
  have ha : s.2.1.act?.isSome = true := by
    by_contra hn
    obtain ⟨-, hopen, hchange⟩ :=
      Outbound.version?_aside (Option.not_isSome_iff_eq_none.mp hn)
    simp [hopen, hchange] at hm
  obtain ⟨_, _, deed, d, l, i, j, act, -, hp, hsub, had⟩ := hd.addressed hs ha
  rcases had.numbered with ⟨hv, -⟩ | ⟨-, -, hopen, hchange⟩
  · refine ⟨d, _, hp d hsub, hv, fun hpath => ?_⟩
    rw [hpath]
    rfl
  · simp [hopen, hchange] at hm

/-- For every path, the versions of the documents that are opened and edited count up from one, over all
servers, until they stay at the greatest. A turn moves the counter of a path on by as many versions as
it submits for the path, so one that submits none leaves it. Whatever opens or edits a document has a
version, which is zero for a document without a path. -/
theorem versions_numbered (settings : Settings) (root : Option FilePath) (environment : Environment)
    (ms : List Move) :
    (∀ p, ∃ n, ((fresh settings root environment).turns ms).flatMap (·.versions p) =
        (List.range n).map (fun j => min (j + 1) Versions.greatest) ∧
      ((fresh settings root environment).run ms).versions.last p = min n Versions.greatest) ∧
    ∀ t ∈ (fresh settings root environment).turns ms,
      (∀ p, t.after.versions.last p =
        min (t.before.versions.last p + (t.versions p).length) Versions.greatest) ∧
      (∀ p, t.versions p = [] → t.after.versions.last p = t.before.versions.last p) ∧
      ∀ s ∈ t.sent, s.2.1.opensText = true ∨ s.2.1.changesText = true →
        ∃ d version, t.move.subject = some d ∧ s.2.1.version? = some version ∧
          (d.path = none → version = 0) := by
  have hc := fresh_coherent settings root environment
  have hzero (p : FilePath) : (fresh settings root environment).versions.last p = 0 := rfl
  have hcounts (ns : List Move) (p : FilePath) := run_counts hc (hzero p ▸ Nat.zero_le _) ns
  refine ⟨fun p => ?_, fun t ht => ?_⟩
  · obtain ⟨hgiven, hlast⟩ := hcounts ms p
    rw [hzero, Nat.zero_add] at hlast
    refine ⟨_, ?_, hlast⟩
    simpa only [hzero, Versions.following, Nat.zero_add] using hgiven
  · obtain ⟨pre, post, hsplit⟩ := List.append_of_mem ht
    obtain ⟨ns, rest, hbefore, -, -⟩ := turns_mem_split hsplit
    have htalk := Turn.discourse (turns_coherent hc ht)
    have hbound (p : FilePath) : t.before.versions.last p ≤ Versions.greatest :=
      hbefore ▸ (hcounts ns p).bound
    refine ⟨fun p => (htalk.counts (hbound p)).2, fun p hnone => ?_,
      fun s hs hm => htalk.numbered hs hm⟩
    have hlast := (htalk.counts (hbound p)).2
    rw [show versionsAt p t.move.subject t.sent = [] from hnone] at hlast
    exact hlast.trans (Nat.min_eq_left (hbound p))

end Host

namespace Sample

def saved (id : Nat) (path : String) : Document := { document with id := ⟨id⟩, path := some ⟨path⟩ }

def revision : List Move :=
  [.didOpen document, .stray 1 (.initializeResponse (.ok answer)) {}, .didOpen (saved 2 "/home/a.c"),
    .didChange (saved 2 "/home/a.c") ⟨none, "x"⟩, .didClose (saved 2 "/home/a.c"),
    .didOpen (saved 3 "/home/./a.c")]

end Sample

namespace Host

theorem revision_numbered :
    ((Sample.session.turns (Sample.revision ++ [Sample.edit])).flatMap
        (·.versions ⟨"/home/a.c"⟩) = [1, 2, 3]) ∧
      (∃ n, [1, 2, 3] = (List.range n).map fun j => min (j + 1) Versions.greatest) ∧
      let t : Turn := ⟨Sample.session.run Sample.revision, Sample.edit⟩
      t.after.versions.last ⟨"/home/a.c"⟩ = t.before.versions.last ⟨"/home/a.c"⟩ ∧
        ∃ s ∈ t.sent, s.2.1.opensText = true ∧ s.2.1.version? = some 0 := by
  obtain ⟨hcounts, hturns⟩ := versions_numbered Sample.settings none Sample.environment
    (Sample.revision ++ [Sample.edit])
  have hgiven : (Sample.session.turns (Sample.revision ++ [Sample.edit])).flatMap
      (·.versions ⟨"/home/a.c"⟩) = [1, 2, 3] := by decide +kernel
  have hturn : ⟨Sample.session.run Sample.revision, Sample.edit⟩ ∈
      Sample.session.turns (Sample.revision ++ [Sample.edit]) := by
    rw [turns_append]
    exact List.mem_append_right _ List.mem_cons_self
  obtain ⟨-, hstill, hnumbered⟩ := hturns _ hturn
  obtain ⟨n, hn, -⟩ := hcounts ⟨"/home/a.c"⟩
  refine ⟨hgiven, ⟨n, hgiven.symm.trans hn⟩, hstill _ (by decide +kernel), ?_⟩
  have hopens : (Turn.sent ⟨Sample.session.run Sample.revision, Sample.edit⟩).any
      (·.2.1.opensText) = true := by decide +kernel
  obtain ⟨s, hs, hm⟩ := List.any_eq_true.mp hopens
  obtain ⟨d, version, hd, hv, hzero⟩ := hnumbered s hs (.inl hm)
  obtain rfl := Option.some.inj hd
  exact ⟨s, hs, hm, hzero rfl ▸ hv⟩

end Host

end LanguageHost
