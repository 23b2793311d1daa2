import LanguageHost.Proofs.Session.Numbering
import LanguageHost.Proofs.Session.Visits

namespace LanguageHost

structure Mention where
  document : Document
  message : Outbound

namespace Mention

variable {m o : Mention} {ms : List Mention}

def IsOwn (m : Mention) : Prop :=
  ∃ uri, m.document.uriOrError = .ok uri ∧ m.message.uri? = some uri.text

def next (o : Option Mention) (m : Mention) : Option Mention :=
  match m.message.act? with
  | some .opens => some m
  | some .closes => none
  | _ => o

def opening (ms : List Mention) : Option Mention := ms.foldl next none

inductive Agrees : Option Mention → Mention → Prop
  | opens {m : Mention} (ha : m.message.act? = some .opens) (ho : m.IsOwn) : Agrees none m
  | tells {o m : Mention} (ha : m.message.act? ≠ some .opens) (hr : m.message.isRequest = false)
      (hu : m.message.uri? = o.message.uri?) : Agrees (some o) m
  | asks {o m : Mention} (ha : m.message.act? ≠ some .opens) (hr : m.message.isRequest = true)
      (hv : m.message.version? = none) (ho : m.IsOwn) : Agrees (some o) m

inductive Named : List Mention → Prop
  | nil : Named []
  | snoc {ms : List Mention} {m : Mention} (hms : Named ms) (hm : Agrees (opening ms) m) :
      Named (ms ++ [m])

lemma opening_snoc (ms : List Mention) (m : Mention) : opening (ms ++ [m]) = next (opening ms) m := by
  rw [opening, List.foldl_append]
  rfl

lemma Named.agrees {pre post : List Mention} (h : Named (pre ++ m :: post)) :
    Agrees (opening pre) m := by
  generalize hms : pre ++ m :: post = ms at h
  induction h generalizing post with
  | nil => simp at hms
  | @snoc ms x hnamed hx ih =>
    rcases List.eq_nil_or_concat post with rfl | ⟨post, y, rfl⟩
    · obtain ⟨rfl, hm⟩ := List.append_inj' hms rfl
      obtain rfl := (List.cons.inj hm).1
      exact hx
    · rw [List.concat_eq_append, ← List.cons_append, ← List.append_assoc] at hms
      exact ih (List.append_inj' hms rfl).1

lemma opening_mem (h : opening ms = some o) : o ∈ ms ∧ o.message.act? = some .opens := by
  induction ms using List.reverseRecOn with
  | nil => cases h
  | append_singleton ms m ih =>
    rw [opening_snoc, next] at h
    split at h
    · next hopens =>
      obtain rfl := Option.some.inj h
      exact ⟨by simp, hopens⟩
    · cases h
    · exact ⟨List.mem_append_left _ (ih h).1, (ih h).2⟩

lemma Named.own (hn : Named ms) (h : opening ms = some o) : o.IsOwn := by
  obtain ⟨hmem, hopens⟩ := opening_mem h
  obtain ⟨pre, post, rfl⟩ := List.append_of_mem hmem
  have hagrees := hn.agrees
  generalize opening pre = before at hagrees
  cases hagrees with
  | opens _ ho => exact ho
  | tells ha => exact absurd hopens ha
  | asks ha => exact absurd hopens ha

lemma Named.front {post : List Mention} (h : Named (ms ++ post)) : Named ms := by
  induction post using List.reverseRecOn with
  | nil => rwa [List.append_nil] at h
  | append_singleton post m ih =>
    rw [← List.append_assoc] at h
    generalize hall : ms ++ post ++ [m] = all at h
    cases h with
    | nil => simp at hall
    | snoc hms _ => exact ih ((List.append_inj' hall rfl).1 ▸ hms)

def ofDocument (id : DocumentId) (ms : List Mention) : List Mention :=
  ms.filter (·.document.id = id)

end Mention

def mentionsTo (g : Nat) (subject : Option Document) (sent : List (Nat × Submission)) :
    List Mention :=
  subject.toList.flatMap fun d =>
    ((Connections.messagesTo g sent).filter (·.act?.isSome)).map (⟨d, ·⟩)

def Turn.mentions (t : Turn) (g : Nat) : List Mention := mentionsTo g t.move.subject t.sent

section Mentions

variable {g n : Nat} {subject : Option Document} {sent : List (Nat × Submission)} {d : Document}
  {m : Outbound}

lemma mentionsTo_append (g : Nat) (subject : Option Document) (s t : List (Nat × Submission)) :
    mentionsTo g subject (s ++ t) = mentionsTo g subject s ++ mentionsTo g subject t := by
  cases subject <;> simp [mentionsTo, Connections.messagesTo_append]

lemma mentionsTo_aside (hs : ∀ s ∈ sent, s.2.1.act? = none) : mentionsTo g subject sent = [] := by
  have hnone : (Connections.messagesTo g sent).filter (·.act?.isSome) = [] := by
    refine List.filter_eq_nil_iff.mpr fun m hm => ?_
    obtain ⟨s, hmem, hsm⟩ := List.mem_filterMap.mp hm
    split at hsm
    · obtain rfl := Option.some.inj hsm
      simp [hs s hmem]
    · cases hsm
  cases subject <;> simp [mentionsTo, hnone]

lemma mentionsTo_one {act : DocumentAct} (hm : m.act? = some act) (g n : Nat) (d : Document)
    (result : Except TransportError Unit) :
    mentionsTo g (some d) [(n, m, result)] = if n = g then [⟨d, m⟩] else [] := by
  by_cases hg : n = g <;> simp [mentionsTo, Connections.messagesTo, hg, hm]

lemma mem_mentionsTo {s : Nat × Submission} (hs : s ∈ sent) (ha : s.2.1.act?.isSome = true)
    (d : Document) : ⟨d, s.2.1⟩ ∈ mentionsTo s.1 (some d) sent := by
  simp only [mentionsTo, Option.toList_some, List.flatMap_cons, List.flatMap_nil, List.append_nil]
  refine List.mem_map_of_mem (List.mem_filter.mpr ⟨?_, ha⟩)
  exact List.mem_filterMap.mpr ⟨s, hs, by simp⟩

end Mentions

open Mention

namespace Host

variable {h k : Host} {l : LanguageId} {i j : Instance} {g : Nat} {id : DocumentId}
  {ms : List Mention} {deed : Deed} {subject : Option Document} {sent : List (Nat × Submission)}

structure Listed (h : Host) (g : Nat) (id : DocumentId) (ms : List Mention) : Prop where
  named : Named ms
  under : ∀ l i, h.Runs l i g →
    (i.openUri? id).map Uri.text = (opening ms).bind (·.message.uri?)
  untold : h.Untold g → ms = []

lemma Listed.opening_none (hl : h.Listed g id ms) (hi : h.Runs l i g) (ho : i.openUri? id = none) :
    opening ms = none := by
  have hunder := hl.under l i hi
  cases hopening : opening ms with
  | none => rfl
  | some o =>
    obtain ⟨uri, -, huri⟩ := hl.named.own hopening
    simp [ho, hopening, huri] at hunder

lemma Listed.opening_some (hl : h.Listed g id ms) (hi : h.Runs l i g) {uri : Uri}
    (ho : i.openUri? id = some uri) : ∃ o, opening ms = some o ∧ o.message.uri? = some uri.text := by
  have hunder := hl.under l i hi
  rw [ho, Option.map_some] at hunder
  exact Option.bind_eq_some_iff.mp hunder.symm

lemma Listed.told {d : Document} {m : Outbound} {act : DocumentAct} (hl : h.Listed g d.id ms)
    (ha : Addressed h k d l i j g m act) :
    Named (ms ++ [⟨d, m⟩]) ∧
      (j.openUri? d.id).map Uri.text = (opening (ms ++ [⟨d, m⟩])).bind (·.message.uri?) := by
  have hacts := ha.acts
  have hbears := ha.bears
  rw [opening_snoc]
  cases hbears with
  | opens uri hm hu hj =>
    have hshut : i.openUri? d.id = none := by
      have hfollows := ha.follows
      cases ho : i.openUri? d.id with
      | none => rfl
      | some => simp [ho, DocumentAct.next] at hfollows
    have hnone := hl.opening_none ha.runs hshut
    refine ⟨.snoc hl.named (hnone ▸ .opens hacts ⟨uri, hu, hm⟩), ?_⟩
    simp only [next, hacts, hj, Option.map_some, Option.bind_some, hm]
  | tells uri hm hr hi hj =>
    obtain ⟨o, ho, huri⟩ := hl.opening_some ha.runs hi
    refine ⟨.snoc hl.named (ho ▸ .tells (by simp [hacts]) hr (hm.trans huri.symm)), ?_⟩
    simp only [next, hacts, hj, ho, Option.map_some, Option.bind_some, huri]
  | asks uri hm hr hu hv hj =>
    have hopen : (i.openUri? d.id).isSome = true := by
      have hfollows := ha.follows
      cases ho : i.openUri? d.id with
      | none => simp [ho, DocumentAct.next] at hfollows
      | some => rfl
    obtain ⟨uri', hi⟩ := Option.isSome_iff_exists.mp hopen
    obtain ⟨o, ho, huri⟩ := hl.opening_some ha.runs hi
    refine ⟨.snoc hl.named (ho ▸ .asks (by simp [hacts]) hr hv ⟨uri, hu, hm⟩), ?_⟩
    simp only [next, hacts, hj, hi, ho, Option.map_some, Option.bind_some, huri]
  | closes uri hm hr hi =>
    obtain ⟨o, ho, huri⟩ := hl.opening_some ha.runs hi
    refine ⟨.snoc hl.named (ho ▸ .tells (by simp [hacts]) hr (hm.trans huri.symm)), ?_⟩
    have hshut : j.openUri? d.id = none := by
      have hfollows := ha.follows
      cases hj : j.openUri? d.id with
      | none => rfl
      | some => simp [hi, hj, DocumentAct.next] at hfollows
    simp only [next, hacts, hshut, Option.map_none, Option.bind_none]

lemma Step.listed (hs : Step h deed k) (hc : h.Coherent) (hp : deed.Concerns subject)
    (ha : Addresses h k deed sent) (hl : h.Listed g id ms) :
    k.Listed g id (ms ++ ofDocument id (mentionsTo g subject sent)) := by
  cases ha with
  | aside hsent _ hr =>
    rw [mentionsTo_aside hsent, ofDocument, List.filter_nil, List.append_nil]
    refine ⟨hl.named, fun l i hk => ?_, fun hk => hl.untold (hs.untold hc hk)⟩
    rcases hr l i g hk with hh | ⟨hu, ho⟩
    · exact hl.under l i hh
    · rw [hl.untold hu]
      simp [Instance.openUri?, ho, opening]
  | addressed d l i j n m act result hd had =>
    rw [hp d hd, mentionsTo_one had.acts]
    by_cases hn : n = g
    · subst hn
      have huntold (hk : k.Untold n) : False := had.runs.told hc (hs.untold hc hk)
      have hj (m : LanguageId) (a : Instance) (hk : k.Runs m a n) : a = j := by
        rcases had.leaves m a n hk with ⟨-, rfl, -⟩ | ⟨-, -, hne⟩
        · rfl
        · exact absurd rfl hne
      by_cases hid : d.id = id
      · subst hid
        obtain ⟨hnamed, hunder⟩ := hl.told had
        rw [if_pos rfl, ofDocument, List.filter_cons_of_pos (by simp), List.filter_nil]
        exact ⟨hnamed, fun m a hk => hj m a hk ▸ hunder, fun hk => (huntold hk).elim⟩
      · rw [if_pos rfl, ofDocument, List.filter_cons_of_neg (by simpa using hid), List.filter_nil,
          List.append_nil]
        refine ⟨hl.named, fun m a hk => ?_, fun hk => (huntold hk).elim⟩
        rw [hj m a hk, had.others id hid]
        exact hl.under l i had.runs
    · rw [if_neg hn, ofDocument, List.filter_nil, List.append_nil]
      refine ⟨hl.named, fun m a hk => ?_, fun hk => hl.untold (hs.untold hc hk)⟩
      rcases had.leaves m a g hk with ⟨-, -, rfl⟩ | ⟨hh, -, -⟩
      · exact absurd rfl hn
      · exact hl.under m a hh

lemma Discourse.listed (hd : Discourse (Deed.Concerns subject) h sent k) (hc : h.Coherent)
    (hl : h.Listed g id ms) : k.Listed g id (ms ++ ofDocument id (mentionsTo g subject sent)) := by
  induction hd with
  | nil => simpa [mentionsTo_aside, ofDocument] using hl
  | next hd hp hs ha ih =>
    have hnext := hs.listed (hd.walk.coherent hc) hp ha ih
    rw [mentionsTo_append, ofDocument, List.filter_append, ← List.append_assoc]
    exact hnext

lemma run_listed (hc : h.Coherent) (hl : h.Listed g id ms) (moves : List Move) :
    (h.run moves).Listed g id
      (ms ++ ofDocument id ((h.turns moves).flatMap (·.mentions g))) := by
  induction moves generalizing h ms with
  | nil => simpa [turns, run, ofDocument] using hl
  | cons m rest ih =>
    have hm := (Turn.discourse (t := ⟨h, m⟩) hc).listed hc hl
    rw [turns, List.flatMap_cons, ofDocument, List.filter_append, ← List.append_assoc]
    exact ih (perform_coherent hc m) hm

lemma fresh_listed (settings : Settings) (root : Option FilePath) (environment : Environment)
    (g : Nat) (id : DocumentId) : (fresh settings root environment).Listed g id [] :=
  ⟨.nil, fun l i hi => absurd hi (fresh_runs settings root environment l i g), fun _ => rfl⟩

lemma turn_told {t : Turn} (hc : t.before.Coherent) {s : Nat × Submission} (hs : s ∈ t.sent)
    (ha : s.2.1.act?.isSome = true) :
    ∃ d, t.move.subject = some d ∧ ⟨d, s.2.1⟩ ∈ t.mentions s.1 := by
  obtain ⟨d, hd, -⟩ := (Turn.discourse hc).opening hs ha
  exact ⟨d, hd, by rw [Turn.mentions, hd]; exact mem_mentionsTo hs ha d⟩

/-- A server is told about a document from its opening to its closing there. The opening has the URI of
the document, and each message before the closing, and the closing itself, has the URI of the opening;
but a request has the URI that the document has when the request is made, which is that of the opening
as long as the document keeps its path. -/
theorem documents_named (settings : Settings) (root : Option FilePath) (environment : Environment)
    (moves : List Move) :
    (∀ g id pre m post, ofDocument id
        (((fresh settings root environment).turns moves).flatMap (·.mentions g)) =
          pre ++ m :: post →
      (opening pre = none → m.message.act? = some .opens ∧ m.IsOwn) ∧
      ∀ o, opening pre = some o → m.message.act? ≠ some .opens ∧
        (m.message.isRequest = false → m.message.uri? = o.message.uri?) ∧
        (m.message.isRequest = true → m.IsOwn) ∧
        (m.document.path = o.document.path → m.message.uri? = o.message.uri?)) ∧
    ∀ t ∈ (fresh settings root environment).turns moves, ∀ s ∈ t.sent,
      s.2.1.act?.isSome = true →
        ∃ d, t.move.subject = some d ∧ ⟨d, s.2.1⟩ ∈ t.mentions s.1 := by
  have hc := fresh_coherent settings root environment
  refine ⟨fun g id pre m post hms => ?_, fun t ht s hs ha => turn_told (turns_coherent hc ht) hs ha⟩
  have hnamed := (run_listed hc (fresh_listed settings root environment g id) moves).named
  rw [List.nil_append, hms] at hnamed
  have hid (x : Mention) (hx : x ∈ pre ++ m :: post) : x.document.id = id := by
    rw [← hms, ofDocument] at hx
    simpa using (List.mem_filter.mp hx).2
  have hagrees := hnamed.agrees
  refine ⟨fun hnone => ?_, fun o ho => ?_⟩
  · rw [hnone] at hagrees
    cases hagrees with
    | opens ha hown => exact ⟨ha, hown⟩
  · rw [ho] at hagrees
    obtain ⟨hmem, -⟩ := opening_mem ho
    obtain ⟨uri, huri, hou⟩ := (hnamed.front).own ho
    cases hagrees with
    | tells ha hr hu => exact ⟨ha, fun _ => hu, by simp [hr], fun _ => hu⟩
    | asks ha hr hv hown =>
      refine ⟨ha, by simp [hr], fun _ => hown, fun hpath => ?_⟩
      obtain ⟨uri', huri', hmu⟩ := hown
      have hsame : m.document.uriOrError = o.document.uriOrError := by
        have hids := (hid m (by simp)).trans (hid o (List.mem_append_left _ hmem)).symm
        rw [Document.uriOrError, Document.uriOrError, Document.uri, Document.uri, hpath, hids]
      obtain rfl := Except.ok.inj (huri'.symm.trans (hsame.trans huri))
      exact hmu.trans hou.symm

end Host

namespace Sample

def relocation : List Move :=
  greeting ++ [.didOpen (saved 1 "/home/a.c"), .didSave (saved 1 "/home/b.c"),
    .request .hover (saved 1 "/home/b.c") ⟨0, 0⟩]

end Sample

namespace Host

theorem relocation_named :
    ∃ o m r, ofDocument ⟨1⟩ ((Sample.session.turns Sample.relocation).flatMap (·.mentions 1)) =
        [o, m, r] ∧
      opening [] = none ∧ o.message.act? = some .opens ∧ o.IsOwn ∧
      opening [o] = some o ∧ m.message.isRequest = false ∧ m.message.uri? = o.message.uri? := by
  obtain ⟨hnamed, -⟩ := documents_named Sample.settings none Sample.environment Sample.relocation
  obtain ⟨o, m, r, hms⟩ := List.length_eq_three.mp (show
    (ofDocument ⟨1⟩ ((Sample.session.turns Sample.relocation).flatMap (·.mentions 1))).length = 3 by
      decide +kernel)
  have hkinds : (ofDocument ⟨1⟩ ((Sample.session.turns Sample.relocation).flatMap
      (·.mentions 1))).map (·.message.isRequest) = [false, false, true] := by decide +kernel
  rw [hms] at hkinds
  have hm : m.message.isRequest = false := (List.cons.inj (List.cons.inj hkinds).2).1
  obtain ⟨ho, hown⟩ := (hnamed 1 ⟨1⟩ [] o [m, r] hms).1 rfl
  have hopening : opening [o] = some o := by simp [opening, next, ho]
  obtain ⟨-, htells, -⟩ := (hnamed 1 ⟨1⟩ [o] m [r] hms).2 o hopening
  exact ⟨o, m, r, hms, rfl, ho, hown, hopening, hm, htells hm⟩

/-- A request about a document that was saved under another name is about a file that the server was
never told of. -/
theorem relocation_misnamed :
    (ofDocument ⟨1⟩ ((Sample.session.turns Sample.relocation).flatMap (·.mentions 1))).map
        (fun m => (m.message.act?, m.message.uri?)) =
      [(some .opens, some "file:///home/a.c"), (some .uses, some "file:///home/a.c"),
        (some .uses, some "file:///home/b.c")] ∧
    ¬ ∀ pre m post o, ofDocument ⟨1⟩ ((Sample.session.turns Sample.relocation).flatMap
        (·.mentions 1)) = pre ++ m :: post →
      opening pre = some o → m.message.uri? = o.message.uri? := by
  have hlist : (ofDocument ⟨1⟩ ((Sample.session.turns Sample.relocation).flatMap
      (·.mentions 1))).map (fun m => (m.message.act?, m.message.uri?)) =
        [(some .opens, some "file:///home/a.c"), (some .uses, some "file:///home/a.c"),
          (some .uses, some "file:///home/b.c")] := by decide +kernel
  refine ⟨hlist, fun hclaim => ?_⟩
  have hlength := congrArg List.length hlist
  rw [List.length_map] at hlength
  obtain ⟨o, m, r, hms⟩ := List.length_eq_three.mp hlength
  rw [hms] at hlist
  simp only [List.map_cons, List.map_nil, List.cons.injEq, Prod.mk.injEq] at hlist
  obtain ⟨⟨ho, hou⟩, ⟨hm, -⟩, ⟨-, hru⟩, -⟩ := hlist
  have hopening : opening [o, m] = some o := by simp [opening, next, ho, hm]
  have hsame := hclaim [o, m] r [] o hms hopening
  rw [hou, hru] at hsame
  exact absurd hsame (by decide)

end Host

end LanguageHost
