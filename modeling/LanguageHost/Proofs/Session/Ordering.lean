import LanguageHost.Proofs.Path.Uri
import LanguageHost.Proofs.Session.Naming

namespace LanguageHost

open Mention

lemma Versions.following_increases {last count : Nat} (h : last + count < greatest) :
    (following last count).Pairwise (· < ·) := by
  rw [following, List.pairwise_map]
  refine List.pairwise_lt_range.imp_of_mem fun {i j} hi hj hlt => ?_
  rw [List.mem_range] at hi hj
  omega

lemma Outbound.changesText_of_version? {m : Outbound} (hv : m.version?.isSome = true)
    (ha : m.act? ≠ some .opens) : m.changesText = true := by
  cases m with
  | notification method params =>
    have hopen : method ≠ "textDocument/didOpen" := by
      rintro rfl
      exact ha rfl
    cases params with
    | none => simp [version?] at hv
    | some params =>
      by_cases hchange : method = "textDocument/didChange"
      · simp [changesText, hchange]
      · simp [version?, hopen, hchange] at hv
  | request | reply => simp [version?] at hv

def Document.hasUri (u : Uri) (d : Document) : Bool := d.uri.toOption = some u

lemma Document.hasUri_iff {u : Uri} {d : Document} : d.hasUri u = true ↔ d.uri = .ok u := by
  rw [hasUri, decide_eq_true_eq]
  cases d.uri <;> simp [Except.toOption]

namespace Mention

variable {m o : Mention} {u : Uri}

def atHome (u : Uri) (m : Mention) : Bool := m.document.hasUri u

lemma IsOwn.atHome (h : m.IsOwn) (hu : m.message.uri? = some u.text) : m.atHome u = true := by
  obtain ⟨uri, huri, hm⟩ := h
  rw [Mention.atHome, Document.hasUri_iff]
  have htext : uri = u := by
    cases uri
    cases u
    exact congrArg Uri.mk (Option.some.inj (hm.symm.trans hu))
  rw [Document.uriOrError] at huri
  cases hd : m.document.uri with
  | ok uri' =>
    rw [hd] at huri
    rw [← htext, ← Except.ok.inj huri]
  | error e =>
    rw [hd] at huri
    cases huri

def versionsUnder (u : Uri) (ms : List Mention) : List Nat :=
  (ms.filter (·.message.uri? = some u.text)).filterMap (·.message.version?)

lemma versionsUnder_append (u : Uri) (ms ns : List Mention) :
    versionsUnder u (ms ++ ns) = versionsUnder u ms ++ versionsUnder u ns := by
  rw [versionsUnder, List.filter_append, List.filterMap_append]
  rfl

lemma versionsUnder_home {ms : List Mention}
    (h : ∀ m ∈ ms, m.message.uri? = some u.text → m.message.version?.isSome = true →
      m.atHome u = true) :
    versionsUnder u (ms.filter (·.atHome u)) = versionsUnder u ms := by
  induction ms with
  | nil => rfl
  | cons m ms ih =>
    rw [List.forall_mem_cons] at h
    rw [← List.singleton_append, List.filter_append, versionsUnder_append, versionsUnder_append,
      ih h.2]
    cases hm : m.atHome u with
    | true => rw [List.filter_singleton, hm]; rfl
    | false =>
      have hnone : versionsUnder u [m] = [] := by
        by_cases hu : m.message.uri? = some u.text
        · have hv : m.message.version? = none := by
            by_contra hv
            simp [h.1 hu (Option.isSome_iff_ne_none.mpr hv)] at hm
          simp [versionsUnder, hu, hv]
        · simp [versionsUnder, hu]
      rw [List.filter_singleton, hm, hnone]
      rfl

end Mention

section Turns

variable {p : FilePath} {u : Uri} {g : Nat}

lemma messagesTo_versions (g : Nat) (sent : List (Nat × Submission)) :
    ((Connections.messagesTo g sent).filterMap Outbound.version?).Sublist
      (sent.filterMap (·.2.1.version?)) := by
  induction sent with
  | nil => exact .slnil
  | cons s rest ih =>
    have hrest : (s :: rest).filterMap (·.2.1.version?) =
        s.2.1.version?.toList ++ rest.filterMap (·.2.1.version?) := by
      rw [List.filterMap_cons]
      cases s.2.1.version? <;> rfl
    have hto : (Connections.messagesTo g (s :: rest)).filterMap Outbound.version? =
        (if s.1 = g then s.2.1.version?.toList else []) ++
          (Connections.messagesTo g rest).filterMap Outbound.version? := by
      by_cases hs : s.1 = g
      · simp only [Connections.messagesTo, List.filterMap_cons, hs, if_true]
        cases s.2.1.version? <;> rfl
      · simp [Connections.messagesTo, hs]
    rw [hrest, hto]
    refine List.Sublist.append ?_ ih
    split
    · exact List.Sublist.refl _
    · exact List.nil_sublist _

lemma Turn.home_versions (t : Turn) (hp : Uri.ofPath p = .ok u) :
    (versionsUnder u ((t.mentions g).filter (·.atHome u))).Sublist (t.versions p) := by
  rw [mentions, mentionsTo, versions]
  cases t.move.subject with
  | none => exact List.nil_sublist _
  | some d =>
    simp only [Option.toList_some, List.flatMap_cons, List.flatMap_nil, List.append_nil]
    cases hhome : d.hasUri u with
    | false =>
      have hnone : (((Connections.messagesTo g t.sent).filter (·.act?.isSome)).map
          (Mention.mk d)).filter (·.atHome u) = [] := by
        refine List.filter_eq_nil_iff.mpr fun m hm => ?_
        obtain ⟨_, -, rfl⟩ := List.mem_map.mp hm
        simpa [atHome] using hhome
      rw [hnone]
      exact List.nil_sublist _
    | true =>
      obtain ⟨q, hq, hcomponents⟩ := Document.path_of_uri (Document.hasUri_iff.mp hhome) hp
      have hat : (some d).any (·.isAt p) = true := by
        simp [Document.isAt, hq, (FilePath.same_iff q p).mpr hcomponents]
      rw [versionsAt, if_pos hat]
      have hmessages : (((Connections.messagesTo g t.sent).filter (·.act?.isSome)).map
          (Mention.mk d)).filterMap (·.message.version?) =
          ((Connections.messagesTo g t.sent).filter (·.act?.isSome)).filterMap
            Outbound.version? := by
        rw [List.filterMap_map]
        rfl
      refine ((List.filter_sublist.trans List.filter_sublist).filterMap _).trans ?_
      rw [hmessages]
      exact (List.filter_sublist.filterMap _).trans (messagesTo_versions g t.sent)

end Turns

namespace Host

variable {h : Host} {p : FilePath} {u : Uri} {g : Nat} {id : DocumentId}

lemma home_versions_increase (hc : h.Coherent) (hzero : h.versions.last p = 0)
    (hp : Uri.ofPath p = .ok u) {moves : List Move}
    (hv : (h.run moves).versions.last p < Versions.greatest) (g : Nat) :
    (versionsUnder u
      (((h.turns moves).flatMap (·.mentions g)).filter (·.atHome u))).Pairwise (· < ·) := by
  obtain ⟨hgiven, hlast⟩ := run_counts hc (hzero ▸ Nat.zero_le _) moves
  have hincreases : ((h.turns moves).flatMap (·.versions p)).Pairwise (· < ·) := by
    rw [hgiven]
    refine Versions.following_increases ?_
    rw [hlast] at hv
    omega
  refine hincreases.sublist ?_
  generalize h.turns moves = turns
  induction turns with
  | nil => exact .slnil
  | cons t turns ih =>
    rw [List.flatMap_cons, List.flatMap_cons, List.filter_append, versionsUnder_append]
    exact (t.home_versions hp).append ih

lemma Listed.away {ms pre post : List Mention} {m : Mention} (hl : h.Listed g id ms)
    (hid : ∀ x ∈ ms, x.document.id = id) (hms : ms = pre ++ m :: post)
    (hu : m.message.uri? = some u.text) (hv : m.message.version?.isSome = true) :
    m.atHome u = true ∨ m.message.changesText = true ∧
      ∃ o, opening pre = some o ∧ o.atHome u = true ∧ m.document.path ≠ o.document.path := by
  subst hms
  have hagrees := hl.named.agrees
  cases ho : opening pre with
  | none =>
    rw [ho] at hagrees
    cases hagrees with
    | opens _ hown => exact .inl (hown.atHome hu)
  | some o =>
    rw [ho] at hagrees
    cases hagrees with
    | asks _ _ hnone => simp [hnone] at hv
    | tells ha _ hsame =>
      have hhome : o.atHome u = true := (hl.named.front.own ho).atHome (hsame.symm.trans hu)
      by_cases hpath : m.document.path = o.document.path
      · left
        have hids := (hid m (by simp)).trans
          (hid o (List.mem_append_left _ (opening_mem ho).1)).symm
        rw [atHome, Document.hasUri, Document.uri, hpath, hids]
        exact hhome
      · exact .inr ⟨Outbound.changesText_of_version? hv ha, o, rfl, hhome, hpath⟩

/-- As long as a path has versions left, the versions that a server is told under its URI for documents
that have the path go up. A server is told a version under the URI for another document only if that is
edited under another path than it was opened with, so the versions under the URI go up without exception
where no document that is open changes its path. -/
theorem versions_ordered (settings : Settings) (root : Option FilePath) (environment : Environment)
    (moves : List Move) {p : FilePath} {u : Uri} (hp : Uri.ofPath p = .ok u)
    (hv : ((fresh settings root environment).run moves).versions.last p < Versions.greatest)
    (g : Nat) :
    let told := ((fresh settings root environment).turns moves).flatMap (·.mentions g)
    (versionsUnder u (told.filter (·.atHome u))).Pairwise (· < ·) ∧
    (∀ id pre m post, ofDocument id told = pre ++ m :: post → m.message.uri? = some u.text →
      m.message.version?.isSome = true → m.atHome u = true ∨ m.message.changesText = true ∧
        ∃ o, opening pre = some o ∧ o.atHome u = true ∧ m.document.path ≠ o.document.path) ∧
    ((∀ id pre m post o, ofDocument id told = pre ++ m :: post → opening pre = some o →
      m.document.path = o.document.path) → (versionsUnder u told).Pairwise (· < ·)) := by
  intro told
  have hc := fresh_coherent settings root environment
  have hhome := home_versions_increase hc rfl hp hv g
  have haway (id : DocumentId) (pre : List Mention) (m : Mention) (post : List Mention)
      (hms : ofDocument id told = pre ++ m :: post) := by
    have hl := run_listed hc (fresh_listed settings root environment g id) moves
    rw [List.nil_append] at hl
    refine hl.away (u := u) (fun x hx => ?_) hms
    simpa [ofDocument] using (List.mem_filter.mp hx).2
  refine ⟨hhome, haway, fun hstable => ?_⟩
  rw [← versionsUnder_home fun m hm hu hsome => ?_]
  · exact hhome
  · have hmem : m ∈ ofDocument m.document.id told := List.mem_filter.mpr ⟨hm, by simp⟩
    obtain ⟨pre, post, hms⟩ := List.append_of_mem hmem
    refine (haway _ pre m post hms hu hsome).resolve_right ?_
    rintro ⟨-, o, ho, -, hpath⟩
    exact hpath (hstable _ pre m post o hms ho)

end Host

namespace Sample

def url : Uri := ⟨"file:///home/a.c"⟩

def drift : List Move :=
  greeting ++ [.didOpen (saved 1 "/home/a.c"), .didChange (saved 1 "/home/a.c") ⟨none, "x"⟩,
    .didChange (saved 1 "/home/b.c") ⟨none, "y"⟩]

end Sample

namespace Host

theorem drift_ordered :
    Uri.ofPath ⟨"/home/a.c"⟩ = .ok Sample.url ∧
      (Sample.session.run Sample.drift).versions.last ⟨"/home/a.c"⟩ < Versions.greatest ∧
      versionsUnder Sample.url (((Sample.session.turns Sample.drift).flatMap
        (·.mentions 1)).filter (·.atHome Sample.url)) = [1, 2] ∧ [1, 2].Pairwise (· < ·) := by
  have hp : Uri.ofPath ⟨"/home/a.c"⟩ = .ok Sample.url := by decide +kernel
  have hv : (Sample.session.run Sample.drift).versions.last ⟨"/home/a.c"⟩ < Versions.greatest := by
    decide +kernel
  have hversions : versionsUnder Sample.url (((Sample.session.turns Sample.drift).flatMap
      (·.mentions 1)).filter (·.atHome Sample.url)) = [1, 2] := by decide +kernel
  obtain ⟨hordered, -⟩ :=
    versions_ordered Sample.settings none Sample.environment Sample.drift hp hv 1
  exact ⟨hp, hv, hversions, hversions ▸ hordered⟩

/-- The edit under another name has the first version of that name under the URI of the old one. -/
theorem drift_disordered :
    (Sample.session.run Sample.drift).versions.last ⟨"/home/a.c"⟩ < Versions.greatest ∧
      (Sample.session.run Sample.drift).versions.last ⟨"/home/b.c"⟩ < Versions.greatest ∧
      versionsUnder Sample.url ((Sample.session.turns Sample.drift).flatMap (·.mentions 1)) =
        [1, 2, 1] ∧
      ¬ [1, 2, 1].Pairwise (· < ·) := by
  decide +kernel

end Host

end LanguageHost
