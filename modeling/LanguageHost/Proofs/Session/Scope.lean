import LanguageHost.Proofs.Session.Governing

namespace LanguageHost

structure Within (root : Option FilePath) (c : ServerSettings) (d : Document) : Prop where
  loose : root = none → c.useWithoutProject = true
  inside : ∀ r, root = some r → c.useOutsideProjectDir = true ∨
    ∃ p, d.path = some p ∧ r.components <+: p.components

def Visible (s : Settings) (root : Option FilePath) (d : Document) : Prop :=
  ∃ n l c, d.language = some n ∧ Host.Routes s n l ∧ s.server l.name = .ok c ∧ Within root c d

lemma eligible_iff {root : Option FilePath} {c : ServerSettings} {d : Document} :
    Host.eligible root c d = true ↔ Within root c d := by
  cases root with
  | none => exact ⟨fun h => ⟨fun _ => h, by rintro _ ⟨⟩⟩, fun h => h.loose rfl⟩
  | some r =>
    simp only [Host.eligible, Bool.or_eq_true, Option.any_eq_true, FilePath.startsWith,
      List.isPrefixOf_iff_prefix]
    refine ⟨fun h => ⟨by rintro ⟨⟩, ?_⟩, fun h => h.inside r rfl⟩
    rintro _ ⟨⟩
    exact h

namespace Outbound

def Names (m : Outbound) (i : Instance) (d : Document) : Prop :=
  ∃ uri : Uri, m.uri? = some uri.text ∧ (d.uriOrError = .ok uri ∨ i.openUri? d.id = some uri)

end Outbound

namespace Host

variable {h k : Host} {l : LanguageId} {i : Instance} {g : Nat} {d : Document} {deed : Deed}
  {P : Deed → Prop} {s : Nat × Submission}

/-- A ready server is sent a message about a document that its settings let it see. -/
structure Tells (h : Host) (d : Document) (l : LanguageId) (i : Instance)
    (s : Nat × Submission) : Prop where
  runs : h.Runs l i s.1
  server : h.settings.server l.name = .ok i.settings
  names : s.2.1.Names i d
  within : Within h.root i.settings d

section Telling

lemma Admits.within (ha : h.Admits l d) (hi : h.instance? l = some i) :
    Within h.root i.settings d := by
  have hin := ha.2
  rw [inScope, hi, Option.any_some] at hin
  exact eligible_iff.mp hin

lemma Admits.visible (ha : h.Admits l d) (harr : h.Arranged) : Visible h.settings h.root d := by
  obtain ⟨n, hn, hr⟩ := ha.1.routes harr
  have hin := ha.2
  cases hi : h.instance? l with
  | none => simp [inScope, hi] at hin
  | some i => exact ⟨n, l, i.settings, hn, hr, harr.server hi, ha.within hi⟩

lemma Admits.tells (ha : h.Admits l d) (harr : h.Arranged) (hi : h.Runs l i g) {m : Outbound}
    (hn : m.Names i d) (result : Except TransportError Unit) : h.Tells d l i (g, m, result) :=
  ⟨hi, harr.server hi.current, hn, ha.within hi.current⟩

lemma Step.sends (hs : Step h deed k) (hc : h.Coherent) :
    k.connections.submissions = h.connections.submissions ∨
      ∃ s, k.connections.submissions = h.connections.submissions ++ [s] := by
  cases hs.talks hc with
  | quiet he => exact .inl he
  | spoken n p q m result he => exact .inr ⟨_, he⟩
  | greeted sent he hs =>
    rcases hs with rfl | ⟨id, params, result, rfl⟩
    · exact .inl (he.trans (List.append_nil _))
    · exact .inr ⟨_, he⟩

lemma Step.tells (hs : Step h deed k) (hc : h.Coherent) (ha : h.Arranged)
    (he : k.connections.submissions = h.connections.submissions ++ [s])
    (hact : s.2.1.act? = some .opens ∨ s.2.1.act? = some .uses) :
    ∃ d l i, deed.subject? = some d ∧ h.Tells d l i s := by
  cases hd : deed.subject? with
  | none =>
    have hnone := (hs.talks hc).unaddressed hd he s (List.mem_singleton_self s)
    simp [hnone] at hact
  | some d =>
    have hone {t : Nat × Submission}
        (ht : k.connections.submissions = h.connections.submissions ++ [t]) : s = t :=
      List.singleton_inj.mp (List.append_cancel_left (he.symm.trans ht))
    cases hs with
    | asked l i g kind d uri p hi hr hg hf hadm ho hu =>
      obtain ⟨sent, hev, hm⟩ := Connections.call_sends h.connections g kind.method
        (kind.documentParams uri p) .caller
      rcases hm with rfl | ⟨id, result, rfl⟩
      · simp [hev.silent] at he
      obtain rfl := hone hev.submissions
      exact ⟨d, l, i, hd.symm,
        hadm.tells ha ⟨hi, hr, hg⟩ ⟨uri, Outbound.uri?_request .., .inl hu⟩ result⟩
    | opened l i d uri hi hr ho hadm hu =>
      obtain ⟨g, hg⟩ := hc.runs hi hr
      obtain ⟨result, hsub⟩ := tell_said hc hg "textDocument/didOpen"
        (Sync.openParams uri (d.language.getD i.language) (h.versions.next d.path).2 d.text)
      obtain rfl := hone hsub
      exact ⟨d, l, i, hd.symm, hadm.tells ha hg ⟨uri, Outbound.uri?_open .., .inl hu⟩ result⟩
    | changed l i d change uri hi hr ho hadm =>
      obtain ⟨g, hg⟩ := hc.runs hi hr
      obtain ⟨result, hsub⟩ := tell_said hc hg "textDocument/didChange"
        (Sync.changeParams uri (h.versions.next d.path).2
          (Sync.contentOf ⟨i, h.versions, h.connections⟩ d change))
      obtain rfl := hone hsub
      exact ⟨d, l, i, hd.symm, hadm.tells ha hg ⟨uri, Outbound.uri?_change .., .inr ho⟩ result⟩
    | saved l i d uri hi hr ho hadm =>
      obtain ⟨g, hg⟩ := hc.runs hi hr
      obtain ⟨result, hsub⟩ := tell_said hc hg "textDocument/didSave" (Sync.saveParams uri d.text)
      obtain rfl := hone hsub
      exact ⟨d, l, i, hd.symm, hadm.tells ha hg ⟨uri, Outbound.uri?_save .., .inr ho⟩ result⟩
    | closed l i d uri hi hr ho =>
      obtain ⟨g, hg⟩ := hc.runs hi hr
      obtain ⟨result, hsub⟩ := tell_said hc hg "textDocument/didClose"
        (.object [Sync.identifier uri])
      obtain rfl := hone hsub
      rcases hact with hact | hact <;> cases hact
    | unlisted l i d hi hr => simp [setInstance, setSlot] at he
    | _ => cases hd

lemma Walk.sends (hw : Walk P h k) (hc : h.Coherent) {pre post : List (Nat × Submission)}
    (he : k.connections.submissions = h.connections.submissions ++ pre ++ s :: post) :
    ∃ u v deed, Walk P h u ∧ P deed ∧ Step u deed v ∧ Walk P v k ∧
      u.connections.submissions = h.connections.submissions ++ pre ∧
      v.connections.submissions = u.connections.submissions ++ [s] := by
  -- The last step has sent the message, or what came after it, or nothing.
  induction hw generalizing post with
  | refl => simp at he
  | @tail u v hw hlast ih =>
    obtain ⟨deed, hp, hs⟩ := hlast
    have hlast : Walk P u v := .step hs hp
    rcases hs.sends (Walk.coherent hw hc) with hv | ⟨t, hv⟩
    · obtain ⟨a, b, e, ha, hpe, hse, hb, hpre, hone⟩ := ih (hv.symm.trans he)
      exact ⟨a, b, e, ha, hpe, hse, hb.trans hlast, hpre, hone⟩
    rcases append_singleton_eq (hv.symm.trans he) with ⟨rfl, hu, rfl⟩ | ⟨rest, -, hu⟩
    · exact ⟨u, v, deed, hw, hp, hs, .refl v, hu.symm, hv⟩
    · obtain ⟨a, b, e, ha, hpe, hse, hb, hpre, hone⟩ := ih hu
      exact ⟨a, b, e, ha, hpe, hse, hb.trans hlast, hpre, hone⟩

end Telling

end Host

def Document.wordless (d : Document) : Document := { d with text := "" }

lemma visible_wordless {s : Settings} {root : Option FilePath} {d : Document} :
    Visible s root d.wordless ↔ Visible s root d := by
  have hwithin (c : ServerSettings) : Within root c d.wordless ↔ Within root c d := by
    rw [← eligible_iff, ← eligible_iff]
    rfl
  simp only [Visible, hwithin]
  rfl

def Workspace.wordless (w : Workspace) : Workspace :=
  { w with documents := w.documents.map Document.wordless }

namespace Move

def wordless : Move → Move
  | didOpen d => didOpen d.wordless
  | didChange d change => didChange d.wordless { change with text := "" }
  | didSave d => didSave d.wordless
  | didClose d => didClose d.wordless
  | reloaded d => reloaded d.wordless
  | languageChanged d previous => languageChanged d.wordless previous
  | request kind d p => request kind d.wordless p
  | restartAll w => restartAll w.wordless
  | reconfigure s w => reconfigure s w.wordless
  | handle w => handle w.wordless
  | stray generation kind w => stray generation kind w.wordless
  | catchUp l d => catchUp l d.wordless
  | settle w => settle w.wordless
  | m => m

lemma subject_wordless (m : Move) : m.wordless.subject = m.subject.map Document.wordless := by
  cases m <;> rfl

def Matches (s : Settings) (root : Option FilePath) (m n : Move) : Prop :=
  m = n ∨ m.wordless = n.wordless ∧ ∀ d, m.subject = some d → ¬Visible s root d

end Move

/-- The runs are the same but for the texts of documents that no server may see when they are moved. -/
inductive Veiled (root : Option FilePath) : Settings → List Move → List Move → Prop
  | nil (s : Settings) : Veiled root s [] []
  | cons {s : Settings} {m n : Move} {ms ns : List Move} (hm : m.Matches s root n)
      (hr : Veiled root (m.settings s) ms ns) : Veiled root s (m :: ms) (n :: ns)

namespace Host

variable {h k : Host} {l : LanguageId} {d : Document} {m n : Move} {ms ns : List Move}

section Texts

def Hides (h : Host) (d : Document) : Prop := h.Arranged ∧ ¬Visible h.settings h.root d

lemma Hides.admits (hh : h.Hides d) : ¬h.Admits l d := fun ha => hh.2 (ha.visible hh.1)

lemma Hides.walk (hh : h.Hides d) (hw : Walk (Deed.Gentle d) h k) : k.Hides d := by
  refine hw.keeps (I := fun k => k.Hides d) hh fun {a b deed} hp hs ha => ⟨hs.arranged ha.1, ?_⟩
  have hset : b.settings = a.settings := hs.settings_stay (by rintro rfl; exact hp)
  rw [hset, hs.root]
  exact ha.2

lemma attachAndSync_hidden {α : Type} {f f' : Sync → Sync.Result α} (hh : h.Hides d) :
    h.attachAndSync d.wordless f = h.attachAndSync d f' := by
  have hw := attach_walk (P := Deed.Gentle d) trivial (fun _ => trivial) h d
  have hd : h.attach d.wordless = h.attach d := rfl
  rcases ha : h.attach d with ⟨k, e | _ | l⟩ <;> rw [ha] at hw
  · simp only [attachAndSync, hd, ha]
  · simp only [attachAndSync, hd, ha]
  · exact absurd (attach_admits ha) (hh.walk hw).admits

lemma didOpen_hidden (hh : h.Hides d) : h.didOpen d.wordless = h.didOpen d :=
  attachAndSync_hidden hh

lemma didChange_hidden (hh : h.Hides d) (change new : TextChange) :
    h.didChange d.wordless new = h.didChange d change :=
  attachAndSync_hidden hh

lemma didSave_hidden (hh : h.Hides d) : h.didSave d.wordless = h.didSave d :=
  attachAndSync_hidden (hh.walk (noteSaved_gentle h d))

lemma documentReloaded_hidden (hh : h.Hides d) :
    h.documentReloaded d.wordless = h.documentReloaded d := by
  have hw := didClose_gentle h d
  have hc : h.didClose d.wordless = h.didClose d := rfl
  rcases hd : h.didClose d with ⟨k, e | u⟩ <;> rw [hd] at hw hc
  · simp only [documentReloaded, hc, hd]
  · simp only [documentReloaded, hc, hd]
    exact didOpen_hidden (hh.walk hw)

lemma documentLanguageChanged_hidden (hh : h.Hides d) (previous : LanguageId) :
    h.documentLanguageChanged d.wordless previous = h.documentLanguageChanged d previous := by
  have hw := closeOn_gentle h previous d
  have hc : h.closeOn previous d.wordless = h.closeOn previous d := rfl
  rcases hd : h.closeOn previous d with ⟨k, e | u⟩ <;> rw [hd] at hw hc
  · simp only [documentLanguageChanged, hc, hd]
  · simp only [documentLanguageChanged, hc, hd]
    exact didOpen_hidden (hh.walk hw)

lemma request_hidden (hh : h.Hides d) (kind : RequestKind) (p : Position) :
    h.request kind d.wordless p = h.request kind d p := by
  have hl : d.wordless.language = d.language := rfl
  have hu : d.wordless.uriOrError = d.uriOrError := by
    simp only [Document.uriOrError, Document.uri, Document.wordless]
  cases hd : d.language with
  | none => simp only [request, hl, hd]
  | some n =>
    have hw := gate_walk (P := Deed.Gentle d) trivial h n kind.feature
    rcases hg : h.gate n kind.feature with ⟨k, e | serving⟩ <;> rw [hg] at hw
    · simp only [request, hl, hd, hg]
    rcases hd' : d.uriOrError with e | uri
    · simp only [request, hl, hd, hg, hu, hd']
    have hout : k.inScope serving d = false := by
      rw [Bool.eq_false_iff]
      exact fun hin => (hh.walk hw).admits ⟨⟨n, hd, (gate_ok hg).1⟩, hin⟩
    have hout' : k.inScope serving d.wordless = false := hout
    simp only [request, hl, hd, hg, hu, hd', hout, hout', Bool.false_eq_true, if_false]

lemma catchUpOne_hidden (hh : h.Hides d) (l : LanguageId) :
    h.catchUpOne l d.wordless = h.catchUpOne l d := by
  have hl : d.wordless.language = d.language := rfl
  cases hd : d.language with
  | none => simp only [catchUpOne, hl, hd]
  | some n =>
    have hw := resolve_walk (P := Deed.Gentle d) trivial h n
    rcases hr : h.resolve n with ⟨k, e | serving⟩ <;> rw [hr] at hw
    · simp only [catchUpOne, hl, hd, hr]
    have hout : ¬(serving = l ∧ k.inScope l d = true) := by
      rintro ⟨rfl, hin⟩
      exact (hh.walk hw).admits ⟨⟨n, hd, (resolve_serves hr).1⟩, hin⟩
    have hout' : ¬(serving = l ∧ k.inScope l d.wordless = true) := hout
    simp only [catchUpOne, hl, hd, hr, hout, hout', if_false]

lemma restartAll_wordless (h : Host) (w : Workspace) : h.restartAll w.wordless = h.restartAll w := by
  simp only [restartAll, Workspace.wordless, List.foldl_map]
  rfl

lemma settle_wordless (h : Host) (w : Workspace) : h.settle w.wordless = h.settle w := by
  simp only [settle, restartAll_wordless]

lemma perform_wordless (ha : h.Arranged)
    (hm : ∀ d, m.subject = some d → ¬Visible h.settings h.root d) :
    h.perform m.wordless = h.perform m := by
  have hides (d : Document) (hd : m.subject = some d) : h.Hides d := ⟨ha, hm d hd⟩
  cases m with
  | didOpen d => exact congrArg Prod.fst (didOpen_hidden (hides d rfl))
  | didChange d change => exact congrArg Prod.fst (didChange_hidden (hides d rfl) _ _)
  | didSave d => exact congrArg Prod.fst (didSave_hidden (hides d rfl))
  | reloaded d => exact congrArg Prod.fst (documentReloaded_hidden (hides d rfl))
  | languageChanged d previous =>
    exact congrArg Prod.fst (documentLanguageChanged_hidden (hides d rfl) previous)
  | request kind d p => exact congrArg Prod.fst (request_hidden (hides d rfl) kind p)
  | catchUp l d => exact catchUpOne_hidden (hides d rfl) l
  | restartAll w => exact restartAll_wordless h w
  | reconfigure s w => exact restartAll_wordless _ w
  | settle w => exact settle_wordless h w
  | _ => rfl

lemma perform_matches (ha : h.Arranged) (hm : m.Matches h.settings h.root n) :
    h.perform n = h.perform m := by
  rcases hm with rfl | ⟨hw, hm⟩
  · rfl
  -- The documents differ in their texts only, and nobody looks at a text to tell who may see it.
  have hn (d : Document) (hd : n.subject = some d) : ¬Visible h.settings h.root d := by
    have hsubject := m.subject_wordless.symm.trans (hw ▸ n.subject_wordless)
    rw [hd, Option.map_some] at hsubject
    obtain ⟨e, he, hed⟩ := Option.map_eq_some_iff.mp hsubject
    rw [← visible_wordless, ← hed, visible_wordless]
    exact hm e he
  rw [← perform_wordless ha hm, hw, perform_wordless ha hn]

lemma run_veiled {root : Option FilePath} {s : Settings} (hv : Veiled root s ms ns)
    (hc : h.Coherent) (ha : h.Arranged) (hroot : h.root = root) (hs : h.settings = s) :
    h.run ns = h.run ms := by
  induction hv generalizing h with
  | nil => rfl
  | @cons s m n ms ns hm _ ih =>
    subst hroot hs
    have hrest := ih (perform_coherent hc m) (perform_arranged hc ha m) (run_root hc [m])
      (perform_settings hc m)
    calc h.run (n :: ns) = (h.perform n).run ns := rfl
      _ = (h.perform m).run ns := by rw [perform_matches ha hm]
      _ = h.run (m :: ms) := hrest

end Texts

section Turns

variable {t : Turn} {pre post : List (Nat × Submission)} {s : Nat × Submission}

structure Writes (t : Turn) (pre : List (Nat × Submission)) (s : Nat × Submission) (u v : Host) :
    Prop where
  before : Walk (Deed.Concerns t.move.subject) t.before u
  step : ∃ deed, Deed.Concerns t.move.subject deed ∧ Step u deed v
  after : Walk (Deed.Concerns t.move.subject) v t.after
  earlier : u.connections.submissions = t.before.connections.submissions ++ pre
  written : v.connections.submissions = u.connections.submissions ++ [s]

lemma turn_tells (hc : t.before.Coherent) (ha : t.before.Arranged) (hs : t.sent = pre ++ s :: post)
    (hact : s.2.1.act? = some .opens ∨ s.2.1.act? = some .uses) :
    ∃ u v d l i, Writes t pre s u v ∧ t.move.subject = some d ∧ u.Tells d l i s := by
  have hsub := Turn.submissions hc
  rw [hs, ← List.append_assoc] at hsub
  obtain ⟨u, v, deed, hu, hp, hstep, hv, hpre, hone⟩ := (perform_concerns hc t.move).sends hc hsub
  obtain ⟨d, l, i, hd, ht⟩ := hstep.tells (hu.coherent hc) (hu.arranged ha) hone hact
  exact ⟨u, v, d, l, i, ⟨hu, ⟨deed, hp, hstep⟩, hv, hpre, hone⟩, hp d hd, ht⟩

end Turns

/-- A server is only sent documents that its settings let it see when they are sent: by whatever move,
a message that opens a document, tells of a change or a save of it or asks about it goes to a server
with the document in its scope. The texts of documents that no server may see make no difference, so
none of them is sent. -/
theorem documents_in_scope (settings : Settings) (root : Option FilePath) (environment : Environment)
    (ms : List Move) :
    (∀ t ∈ (fresh settings root environment).turns ms, ∀ pre s post, t.sent = pre ++ s :: post →
      s.2.1.act? = some .opens ∨ s.2.1.act? = some .uses →
        ∃ u v d l i, Writes t pre s u v ∧ t.move.subject = some d ∧ u.Tells d l i s ∧
          u.root = root) ∧
      ∀ ns, Veiled root settings ms ns →
        (fresh settings root environment).run ns = (fresh settings root environment).run ms := by
  have hc := fresh_coherent settings root environment
  have ha := fresh_arranged settings root environment
  refine ⟨fun t ht pre s post hs hact => ?_, fun ns hv => run_veiled hv hc ha rfl rfl⟩
  obtain ⟨front, back, hsplit⟩ := List.append_of_mem ht
  obtain ⟨ns, rest, hb, -, -⟩ := turns_mem_split hsplit
  have hct : t.before.Coherent := hb ▸ run_coherent hc ns
  have hat : t.before.Arranged := hb ▸ run_arranged hc ha ns
  obtain ⟨u, v, d, l, i, hw, hd, htells⟩ := turn_tells hct hat hs hact
  refine ⟨u, v, d, l, i, hw, hd, htells, ?_⟩
  have hroot : t.before.root = root := hb ▸ run_root hc ns
  exact hw.before.keeps (I := fun k => k.root = root) hroot fun _ hs hk => hs.root.trans hk

end Host

namespace Sample

def project : Option FilePath := some ⟨"/p"⟩

def inner : Document := { document with path := some ⟨"/p/a.c"⟩ }

def outer (text : String) : Document := { document with id := ⟨2⟩, path := some ⟨"/q/b.c"⟩, text }

def tour (text : String) : List Move :=
  [.didOpen inner, .stray 1 (.initializeResponse (.ok (.object [("capabilities", .object [])]))) {},
    .didOpen inner, .didOpen (outer text), .didSave (outer text)]

lemma outer_hidden (text : String) : ¬Visible settings project (outer text) := by
  rintro ⟨n, l, c, hn, hr, hc, hw⟩
  obtain rfl : language = n := Option.some.inj hn
  have hown : ((Host.configure settings language).2.toOption.bind Slot.instance?).isSome = true := by
    decide +kernel
  have hinside : ((settings.server "c").toOption.any fun c => !c.useOutsideProjectDir) = true := by
    decide +kernel
  obtain rfl : language = l := hr.resolve_right fun hr => by
    simp [hr, Except.toOption, Slot.instance?] at hown
  have hout : c.useOutsideProjectDir = false := by
    simpa [show settings.server "c" = .ok c from hc, Except.toOption] using hinside
  have helse : (⟨"/q/b.c"⟩ : FilePath).startsWith ⟨"/p"⟩ = false := by decide +kernel
  have hin := eligible_iff.mpr hw
  simp [Host.eligible, project, hout, outer, helse] at hin

def housed : Host := Host.fresh settings project environment

end Sample

namespace Host

theorem tour_sealed :
    (∃ s u v l i, Writes ⟨Sample.housed.run ((Sample.tour "secret").take 2), .didOpen Sample.inner⟩
        [] s u v ∧ u.Tells Sample.inner l i s ∧ u.root = Sample.project) ∧
      Sample.housed.run (Sample.tour "") = Sample.housed.run (Sample.tour "secret") := by
  obtain ⟨htells, hveiled⟩ := documents_in_scope Sample.settings Sample.project Sample.environment
    (Sample.tour "secret")
  have hacts : (Turn.sent ⟨Sample.housed.run ((Sample.tour "secret").take 2),
      .didOpen Sample.inner⟩).map (·.2.1.act?) = [some .opens] := by decide +kernel
  obtain ⟨s, hsent, hact⟩ := List.map_eq_singleton_iff.mp hacts
  have hturn : ⟨Sample.housed.run ((Sample.tour "secret").take 2), .didOpen Sample.inner⟩ ∈
      Sample.housed.turns (Sample.tour "secret") := by
    simp [Sample.tour, turns, run]
  obtain ⟨u, v, d, l, i, hw, hd, ht, hroot⟩ := htells _ hturn [] s [] hsent (.inl hact)
  obtain rfl := Option.some.inj hd
  have hhidden (text : String) (d : Document) (hd : some (Sample.outer text) = some d) :
      ¬Visible Sample.settings Sample.project d :=
    Option.some.inj hd ▸ Sample.outer_hidden text
  have htexts : Veiled Sample.project Sample.settings (Sample.tour "secret") (Sample.tour "") :=
    .cons (.inl rfl) (.cons (.inl rfl) (.cons (.inl rfl)
      (.cons (.inr ⟨rfl, hhidden _⟩) (.cons (.inr ⟨rfl, hhidden _⟩) (.nil _)))))
  exact ⟨⟨s, u, v, l, i, hw, ht, hroot⟩, hveiled _ htexts⟩

end Host

end LanguageHost
