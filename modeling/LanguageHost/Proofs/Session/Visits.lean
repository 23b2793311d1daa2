import LanguageHost.Proofs.Session.Addressing

namespace LanguageHost

/-- Visits of a document, of which the last may not have ended. -/
inductive Visits : List DocumentAct → Prop
  | none : Visits []
  | last (uses : List DocumentAct) (hu : ∀ a ∈ uses, a = .uses) : Visits (.opens :: uses)
  | next (uses rest : List DocumentAct) (hu : ∀ a ∈ uses, a = .uses) (hr : Visits rest) :
      Visits (.opens :: uses ++ .closes :: rest)

namespace DocumentAct

variable {a b : Bool} {acts : List DocumentAct}

def follow (b : Bool) (acts : List DocumentAct) : Option Bool := acts.foldlM next b

lemma follow_append (b : Bool) (acts new : List DocumentAct) :
    follow b (acts ++ new) = (follow b acts).bind fun c => follow c new :=
  List.foldlM_append

lemma follow_cons (b : Bool) (act : DocumentAct) (acts : List DocumentAct) :
    follow b (act :: acts) = (next b act).bind fun c => follow c acts :=
  List.foldlM_cons

lemma visits_of_follow (h : follow a acts = some b) :
    (a = false → Visits acts) ∧ (a = true → ∃ uses rest, acts = uses ++ rest ∧
      (∀ x ∈ uses, x = .uses) ∧ (rest = [] ∨ ∃ more, rest = .closes :: more ∧ Visits more)) := by
  induction acts generalizing a with
  | nil => exact ⟨fun _ => .none, fun _ => ⟨[], [], rfl, by simp, .inl rfl⟩⟩
  | cons act acts ih =>
    rw [follow_cons, Option.bind_eq_some_iff] at h
    obtain ⟨c, hact, hacts⟩ := h
    obtain ⟨hshut, hopen⟩ := ih hacts
    cases a <;> cases act <;> cases hact
    case false.opens.refl =>
      obtain ⟨uses, rest, rfl, hu, rfl | ⟨more, rfl, hm⟩⟩ := hopen rfl
      · exact ⟨fun _ => by simpa using Visits.last uses hu, by simp⟩
      · exact ⟨fun _ => .next uses more hu hm, by simp⟩
    case true.uses.refl =>
      obtain ⟨uses, rest, rfl, hu, hr⟩ := hopen rfl
      exact ⟨by simp, fun _ => ⟨.uses :: uses, rest, rfl, by simpa using hu, hr⟩⟩
    case true.closes.refl =>
      exact ⟨by simp, fun _ => ⟨[], .closes :: acts, rfl, by simp, .inr ⟨acts, rfl, hshut rfl⟩⟩⟩

end DocumentAct

def actsOn (g : Nat) (sent : List (Nat × Submission)) : List DocumentAct :=
  (Connections.messagesTo g sent).filterMap Outbound.act?

lemma actsOn_append (g : Nat) (s t : List (Nat × Submission)) :
    actsOn g (s ++ t) = actsOn g s ++ actsOn g t := by
  rw [actsOn, Connections.messagesTo_append, List.filterMap_append]
  rfl

lemma actsOn_aside {g : Nat} {sent : List (Nat × Submission)}
    (hs : ∀ s ∈ sent, s.2.1.act? = none) : actsOn g sent = [] := by
  refine List.filterMap_eq_nil_iff.mpr fun m hm => ?_
  obtain ⟨s, hmem, hsm⟩ := List.mem_filterMap.mp hm
  split at hsm
  · exact Option.some.inj hsm ▸ hs s hmem
  · cases hsm

lemma actsOn_one {m : Outbound} {act : DocumentAct} (hm : m.act? = some act) (g n : Nat)
    (result : Except TransportError Unit) :
    actsOn g [(n, m, result)] = if n = g then [act] else [] := by
  by_cases hg : n = g <;> simp [actsOn, Connections.messagesTo, hg, hm]

namespace Turn

def acts (t : Turn) (g : Nat) (id : DocumentId) : List DocumentAct :=
  if t.move.subject.map (·.id) = some id then actsOn g t.sent else []

end Turn

namespace Host

variable {h k : Host} {g : Nat} {id : DocumentId} {as : List DocumentAct} {deed : Deed}
  {subject : Option Document} {sent : List (Nat × Submission)} {ms : List Move}

/-- What has been done with a document on a server leaves it open there just if the server says so. -/
structure Visited (h : Host) (g : Nat) (id : DocumentId) (as : List DocumentAct) : Prop where
  follows : ∃ b, DocumentAct.follow false as = some b ∧
    ∀ l i, h.Runs l i g → (i.openUri? id).isSome = b
  untold : h.Untold g → as = []

lemma Step.visited (hs : Step h deed k) (hc : h.Coherent) (hp : deed.Concerns subject)
    (ha : Addresses h k deed sent) (hv : h.Visited g id as) :
    k.Visited g id (as ++ if subject.map (·.id) = some id then actsOn g sent else []) := by
  obtain ⟨⟨b, hb, hopen⟩, huntold⟩ := hv
  cases ha with
  | aside hsent _ hr =>
    rw [actsOn_aside hsent, ite_self, List.append_nil]
    refine ⟨⟨b, hb, fun l i hk => ?_⟩, fun hk => huntold (hs.untold hc hk)⟩
    rcases hr l i g hk with hh | ⟨hu, ho⟩
    · exact hopen l i hh
    · -- Nothing was told on a connection that has only now been welcomed.
      rw [huntold hu] at hb
      obtain rfl : false = b := Option.some.inj hb
      simp [Instance.openUri?, ho]
  | addressed d l i j n m act result hd had =>
    rw [hp d hd, Option.map_some, actsOn_one had.acts]
    by_cases hn : n = g
    · subst hn
      have hj (m : LanguageId) (a : Instance) (hk : k.Runs m a n) : a = j := by
        rcases had.leaves m a n hk with ⟨-, rfl, -⟩ | ⟨-, -, hne⟩
        · rfl
        · exact absurd rfl hne
      refine ⟨?_, fun hk => absurd (hs.untold hc hk) (had.runs.told hc)⟩
      have hbi := hopen l i had.runs
      by_cases hid : d.id = id
      · subst hid
        refine ⟨(j.openUri? d.id).isSome, ?_, fun m a hk => by rw [hj m a hk]⟩
        have hlast : DocumentAct.follow b [act] = some (j.openUri? d.id).isSome := by
          rw [DocumentAct.follow_cons, ← hbi, had.follows]
          rfl
        rw [if_pos rfl, if_pos rfl, DocumentAct.follow_append, hb]
        exact hlast
      · rw [if_neg (by simpa using hid), List.append_nil]
        refine ⟨b, hb, fun m a hk => ?_⟩
        rw [hj m a hk, had.others id hid]
        exact hbi
    · rw [if_neg hn, ite_self, List.append_nil]
      refine ⟨⟨b, hb, fun m a hk => ?_⟩, fun hk => huntold (hs.untold hc hk)⟩
      rcases had.leaves m a g hk with ⟨-, -, rfl⟩ | ⟨hh, -, -⟩
      · exact absurd rfl hn
      · exact hopen m a hh

lemma Discourse.visited (hd : Discourse (Deed.Concerns subject) h sent k) (hc : h.Coherent)
    (hv : h.Visited g id as) :
    k.Visited g id (as ++ if subject.map (·.id) = some id then actsOn g sent else []) := by
  induction hd with
  | nil => simpa [actsOn, Connections.messagesTo] using hv
  | next hd hp hs ha ih =>
    have hnext := hs.visited (hd.walk.coherent hc) hp ha ih
    rw [List.append_assoc] at hnext
    rw [actsOn_append]
    split
    · next hid => simpa only [if_pos hid] using hnext
    · next hid => simpa only [if_neg hid, List.append_nil] using hnext

lemma run_visited (hc : h.Coherent) (hv : h.Visited g id as) (ms : List Move) :
    (h.run ms).Visited g id (as ++ (h.turns ms).flatMap (·.acts g id)) := by
  induction ms generalizing h as with
  | nil => simpa [turns, run] using hv
  | cons m rest ih =>
    have hm := (Turn.discourse (t := ⟨h, m⟩) hc).visited hc hv
    have hrest := ih (perform_coherent hc m) hm
    rw [turns, List.flatMap_cons, ← List.append_assoc]
    exact hrest

lemma fresh_visited (settings : Settings) (root : Option FilePath) (environment : Environment)
    (g : Nat) (id : DocumentId) : (fresh settings root environment).Visited g id [] :=
  ⟨⟨false, rfl, fun l i hi => absurd hi (fresh_runs settings root environment l i g)⟩, fun _ => rfl⟩

lemma Discourse.opening (hd : Discourse (Deed.Concerns subject) h sent k)
    {s : Nat × Submission} (hs : s ∈ sent) (ha : s.2.1.act?.isSome = true) :
    ∃ d, subject = some d ∧ (s.2.1.act? = some .opens → ∃ uri language version,
      s.2.1 = .notification "textDocument/didOpen"
        (some (Sync.openParams uri language version d.text))) := by
  obtain ⟨_, _, deed, d, l, i, j, act, -, hp, hsub, had⟩ := hd.addressed hs ha
  refine ⟨d, hp d hsub, fun ho => had.text ?_⟩
  exact Option.some.inj (had.acts.symm.trans ho)

end Host

section Delivering

variable {sent : List (Nat × Submission)} {g : Nat} {t : Turn}

lemma written_of_ok (hok : ∀ s ∈ sent, s.1 = g → s.2.2 = .ok ()) :
    written sent g = Connections.messagesTo g sent := by
  refine List.filterMap_congr fun s hs => ?_
  by_cases hg : s.1 = g
  · simp [hg, hok s hs hg, Except.isOk, Except.toBool]
  · simp [hg]

lemma Turn.writes_acts (hok : ∀ s ∈ t.sent, s.1 = g → s.2.2 = .ok ()) (id : DocumentId) :
    (t.writes g id).filterMap Outbound.act? = t.acts g id := by
  rw [writes, acts, written_of_ok hok]
  split <;> rfl

end Delivering

namespace Sync

variable {s : Sync} {l : LanguageId} {g : Nat} {d : Document}

lemma openAs_touches (s : Sync) (d : Document) (uri : Uri) :
    (s.openAs d uri).1.server = s.server.addOpen d.id uri ∧
      (s.openAs d uri).1.versions = (s.versions.next d.path).1 := by
  rw [openAs, Host.notify_fst]
  exact ⟨rfl, rfl⟩

lemma openAs_sends (hg : s.server.connection = some g) (hl : s.connections.language? g = some l)
    (d : Document) (uri : Uri) : ∃ result, s.connections.Evolves (s.openAs d uri).1.connections
        [(g, .notification "textDocument/didOpen" (some (openParams uri
          (d.language.getD s.server.language) (s.versions.next d.path).2 d.text)), result)] ∧
      (s.openAs d uri).2 = result.mapError fun e => .rpc s.server.language .didOpen (.transport e) := by
  let s' := { s with versions := (s.versions.next d.path).1 }.log "opening document"
    [("uri", uri.text), ("version", toString (s.versions.next d.path).2)]
  have hlog : s.connections.Evolves s'.connections [] := Connections.log_evolves _ _
  obtain ⟨result, he, hr⟩ := Connections.notify_evolves ((hlog.language g).trans hl)
    "textDocument/didOpen" (openParams uri (d.language.getD s.server.language)
      (s.versions.next d.path).2 d.text)
  have hopen : s.openAs d uri =
      { s' with server := s.server.addOpen d.id uri }.notify .didOpen "textDocument/didOpen"
        (openParams uri (d.language.getD s.server.language) (s.versions.next d.path).2 d.text) := rfl
  have hlinked : (s.server.addOpen d.id uri).connection = some g := hg
  refine ⟨result, ?_, ?_⟩ <;> rw [hopen, notify, hlinked]
  · exact hlog.quiet_trans he
  · simp only [hr]
    cases result <;> rfl

lemma didChange_opens {change : TextChange} (hready : s.server.state = .ready)
    (ho : s.server.openUri? d.id = none) (hg : s.server.connection = some g)
    (hl : s.connections.language? g = some l) (hok : (s.didChange d change).2 = .ok ()) :
    ∃ uri language version, (s.didChange d change).1.connections.submissions =
      s.connections.submissions ++ [(g, .notification "textDocument/didOpen"
        (some (openParams uri language version d.text)), .ok ())] := by
  have hr : s.isReady = true := by simp [isReady, hready]
  rcases hu : d.uriOrError with e | uri
  · simp [didChange, didOpen, hr, ho, hu, Except.map] at hok
  · obtain ⟨result, he, hresult⟩ := openAs_sends hg hl d uri
    have hchange : s.didChange d change =
        ((s.openAs d uri).1, ((s.openAs d uri).2.map fun _ => true).map fun _ => ()) := by
      simp [didChange, didOpen, hr, ho, hu]
    rw [hchange] at hok ⊢
    cases result with
    | ok => exact ⟨uri, _, _, he.submissions⟩
    | error e => simp [hresult, Except.mapError, Except.map] at hok

end Sync

namespace Host

variable {h : Host} {l n : LanguageId} {i : Instance} {g : Nat} {d : Document}

lemma writes_acts (hc : h.Coherent) {ms : List Move} (hd : (h.run ms).connections.Delivers g)
    (id : DocumentId) : ((h.turns ms).flatMap (·.writes g id)).filterMap Outbound.act? =
      (h.turns ms).flatMap (·.acts g id) := by
  rw [Connections.Delivers, run_submissions hc] at hd
  rw [List.filterMap_flatMap]
  refine List.flatMap_congr fun t ht => Turn.writes_acts (fun s hs => ?_) id
  exact hd s (List.mem_append_right _ (List.mem_flatMap.mpr ⟨t, ht, hs⟩))

lemma didChange_opens (hc : h.Coherent) (ha : h.Arranged) (hi : h.Runs l i g)
    (hn : d.language = some n) (hr : Routes h.settings n l) (hin : h.inScope l d = true)
    (ho : i.openUri? d.id = none) {change : TextChange}
    (hok : (h.didChange d change).2 = .ok ()) :
    ∃ uri language version, (h.didChange d change).1.connections.submissions =
      h.connections.submissions ++ [(g, .notification "textDocument/didOpen"
        (some (Sync.openParams uri language version d.text)), .ok ())] := by
  have hscope : eligible h.root i.settings d = true := by simpa [inScope, hi.current] using hin
  obtain ⟨hatt, hk⟩ := attach_running ha hi hn hr hscope
  have hquiet := (resolve_consults h n).quiet.1
  have hck : (h.resolve n).1.Coherent :=
    (resolve_walk (P := fun _ => True) trivial h n).coherent hc
  generalize (h.resolve n).1 = k at hatt hk hquiet hck
  rw [didChange, attachAndSync, hatt] at hok ⊢
  rw [← hquiet]
  simp only [syncOnly_fst hk.current]
  simp only [syncOnly, withSync, hk.current] at hok
  refine Sync.didChange_opens hk.ready ho hk.linked (hck.linked hk.current hk.linked) ?_
  cases hsync : (Sync.didChange ⟨i, k.versions, k.connections⟩ d change).2 with
  | ok => exact hsync
  | error e => simp [hsync, Except.map] at hok

/-- As long as writes to a server succeed, what is written to it for a document are visits: the
document is opened, changed, saved and asked about only while it is open, and not opened again before
it was closed. All of it is written in turns that are made for the document, which is opened with the
text that it has in that turn. An edit of a document that a ready server has not seen yet, and that is
in its scope, just opens it there, unless an error is returned. -/
theorem documents_visited (settings : Settings) (root : Option FilePath) (environment : Environment)
    (ms : List Move) :
    (∀ g id, ((fresh settings root environment).run ms).connections.Delivers g →
      Visits ((((fresh settings root environment).turns ms).flatMap
        (·.writes g id)).filterMap Outbound.act?)) ∧
    (∀ t ∈ (fresh settings root environment).turns ms, ∀ s ∈ t.sent,
      s.2.1.act?.isSome = true → ∃ d, t.move.subject = some d ∧
        (s.2.1.act? = some .opens → ∃ uri language version,
          s.2.1 = .notification "textDocument/didOpen"
            (some (Sync.openParams uri language version d.text)))) ∧
    ∀ d change n l i g, ((fresh settings root environment).run ms).Runs l i g →
      d.language = some n → Routes ((fresh settings root environment).run ms).settings n l →
      ((fresh settings root environment).run ms).inScope l d = true → i.openUri? d.id = none →
      (((fresh settings root environment).run ms).didChange d change).2 = .ok () →
      ∃ uri language version,
        Turn.sent ⟨(fresh settings root environment).run ms, .didChange d change⟩ =
          [(g, .notification "textDocument/didOpen"
            (some (Sync.openParams uri language version d.text)), .ok ())] := by
  have hc := fresh_coherent settings root environment
  have ha := fresh_arranged settings root environment
  refine ⟨fun g id hd => ?_, fun t ht s hs hact => ?_, ?_⟩
  · obtain ⟨b, hb, -⟩ := (run_visited hc (fresh_visited settings root environment g id) ms).follows
    rw [writes_acts hc hd]
    exact (DocumentAct.visits_of_follow hb).1 rfl
  · exact (Turn.discourse (turns_coherent hc ht)).opening hs hact
  · intro d change n l i g hi hn hr hin ho hok
    obtain ⟨uri, language, version, hsub⟩ :=
      didChange_opens (run_coherent hc ms) (run_arranged hc ha ms) hi hn hr hin ho hok
    exact ⟨uri, language, version, Turn.sent_eq hsub⟩

end Host

namespace Sample

def greeting : List Move :=
  [.didOpen document, .stray 1 (.initializeResponse (.ok (.object [("capabilities",
    .object [("textDocumentSync", .int 2), ("hoverProvider", .bool true)])]))) {}]

def stay : List Move :=
  greeting ++ [edit, edit, .didSave document, .request .hover document ⟨0, 0⟩, .didClose document]

end Sample

namespace Host

theorem stay_visited :
    ((Sample.session.turns Sample.stay).flatMap (·.writes 1 ⟨1⟩)).filterMap Outbound.act? =
        [.opens, .uses, .uses, .uses, .closes] ∧
      Visits (((Sample.session.turns Sample.stay).flatMap (·.writes 1 ⟨1⟩)).filterMap
        Outbound.act?) ∧
      ∃ d uri language version, Sample.edit.subject = some d ∧
        Turn.sent ⟨Sample.session.run Sample.greeting, Sample.edit⟩ =
          [(1, .notification "textDocument/didOpen"
            (some (Sync.openParams uri language version d.text)), .ok ())] := by
  obtain ⟨hvisits, htold, -⟩ :=
    documents_visited Sample.settings none Sample.environment Sample.stay
  obtain ⟨-, -, hopens⟩ :=
    documents_visited Sample.settings none Sample.environment Sample.greeting
  have hdelivers : (Sample.session.run Sample.stay).connections.submissions.all
      (fun s => s.1 = 1 → s.2.2 = .ok ()) = true := by decide +kernel
  have hserver : ((Sample.session.run Sample.greeting).instance? Sample.language).any (fun i =>
      i.state = .ready ∧ i.connection = some 1 ∧ i.openUri? ⟨1⟩ = none) = true := by
    decide +kernel
  have hscope : (Sample.session.run Sample.greeting).inScope Sample.language
      { Sample.document with text := "x" } = true := by decide +kernel
  have hok : ((Sample.session.run Sample.greeting).didChange { Sample.document with text := "x" }
      ⟨some ⟨⟨0, 0⟩, ⟨0, 0⟩⟩, "x"⟩).2.isOk = true := by decide +kernel
  obtain ⟨i, hi, hp⟩ := (Option.any_eq_true ..).mp hserver
  obtain ⟨hready, hlinked, hclosed⟩ := of_decide_eq_true hp
  have hreturned : ((Sample.session.run Sample.greeting).didChange
      { Sample.document with text := "x" } ⟨some ⟨⟨0, 0⟩, ⟨0, 0⟩⟩, "x"⟩).2 = .ok () := by
    cases hresult : ((Sample.session.run Sample.greeting).didChange
        { Sample.document with text := "x" } ⟨some ⟨⟨0, 0⟩, ⟨0, 0⟩⟩, "x"⟩).2 with
    | ok => rfl
    | error e => simp [hresult, Except.isOk, Except.toBool] at hok
  obtain ⟨uri, language, version, hsent⟩ := hopens _ _ Sample.language Sample.language i 1
    ⟨hi, hready, hlinked⟩ rfl (.inl rfl) hscope hclosed hreturned
  have hturn : ⟨Sample.session.run Sample.greeting, Sample.edit⟩ ∈
      Sample.session.turns Sample.stay := by
    rw [Sample.stay, turns_append]
    exact List.mem_append_right _ List.mem_cons_self
  obtain ⟨d, hd, -⟩ := htold _ hturn _ (hsent ▸ List.mem_singleton_self _) rfl
  obtain rfl := Option.some.inj hd
  exact ⟨by decide +kernel, hvisits 1 ⟨1⟩ fun s hs =>
    of_decide_eq_true (List.all_eq_true.mp hdelivers s hs), _, uri, language, version, rfl, hsent⟩

end Host

end LanguageHost
