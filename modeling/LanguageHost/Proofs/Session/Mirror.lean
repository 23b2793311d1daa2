import Mathlib.Logic.Function.Basic
import LanguageHost.Proofs.Session.Ranges

namespace LanguageHost

structure Buffer where
  language : Option LanguageId
  path : Option FilePath
  text : String

abbrev Buffers := DocumentId → Buffer

def Document.buffer (d : Document) : Buffer := ⟨d.language, d.path, d.text⟩

def Buffer.document (b : Buffer) (id : DocumentId) : Document :=
  ⟨id, b.language, b.path, b.text, false⟩

namespace Move

/-- A move is made with the buffers as they are, but for the one that has just changed. An edit of a
range has replaced that range. -/
def Reports (edit : Edit) (b : Buffers) : Move → Prop
  | didChange d change =>
    d.language = (b d.id).language ∧ d.path = (b d.id).path ∧
      ∀ r, change.range = some r → d.text = edit r change.text (b d.id).text
  | reloaded d => d.language = (b d.id).language ∧ d.path = (b d.id).path
  | languageChanged d previous => (b d.id).language = some previous ∧ d.path = (b d.id).path
  | m => ∀ d ∈ m.documents, d.buffer = b d.id

def buffers (m : Move) (b : Buffers) : Buffers :=
  match m with
  | didChange d _ | reloaded d | languageChanged d _ => Function.update b d.id d.buffer
  | _ => b

end Move

/-- Every edit of a buffer is reported before any other move is made. -/
def Reported (edit : Edit) : Buffers → List Move → Prop
  | _, [] => True
  | b, m :: rest => m.Reports edit b ∧ Reported edit (m.buffers b) rest

def Buffers.run (b : Buffers) (ms : List Move) : Buffers := ms.foldl (fun b m => m.buffers b) b

def Connections.Delivers (c : Connections) (g : Nat) : Prop :=
  ∀ s ∈ c.submissions, s.1 = g → s.2.2 = .ok ()

abbrev Texts := Nat → DocumentId → Option String

def Texts.hear (edit : Edit) (subject : Option Document) (sent : List (Nat × Submission))
    (seen : Texts) : Texts :=
  fun g id => if subject.map (·.id) = some id then replay edit (seen g id) (written sent g)
    else seen g id

def Names (subject : Option Document) (sent : List (Nat × Submission)) : Prop :=
  ∀ s ∈ sent, ∀ r, s.2.1.revision? = some r →
    ∃ d uri, subject = some d ∧ d.uriOrError = .ok uri ∧ r.1 = uri.text

namespace Host

structure Holds (h : Host) (b : Buffer) (seen : Option String) (l : LanguageId) (i : Instance)
    (g : Nat) (id : DocumentId) (uri : Uri) : Prop where
  routed : ∃ n, b.language = some n ∧ Routes h.settings n l
  admitted : eligible h.root i.settings (b.document id) = true
  named : (b.document id).uriOrError = .ok uri
  heard : h.connections.Delivers g → seen = some b.text

def Mirrors (h : Host) (b : Buffers) (seen : Texts) : Prop :=
  ∀ ⦃l i g id uri⦄, h.Runs l i g → i.openUri? id = some uri →
    h.Holds (b id) (seen g id) l i g id uri

def Unheld (h : Host) (id : DocumentId) : Prop := ∀ ⦃l i g⦄, h.Runs l i g → i.openUri? id = none

def InStep (edit : Edit) (subject : Option Document) (h k : Host) (b c : Buffers) : Prop :=
  ∀ seen, h.Mirrors b seen → ∃ sent, k.connections.submissions = h.connections.submissions ++ sent ∧
    Names subject sent ∧ k.Mirrors c (seen.hear edit subject sent)

end Host

section Hearing

variable {edit : Edit} {subject : Option Document} {sent : List (Nat × Submission)} {seen : Texts}
  {g n : Nat} {id : DocumentId} {d : Document}

lemma hear_append (s t : List (Nat × Submission)) (seen : Texts) :
    (seen.hear edit subject s).hear edit subject t = seen.hear edit subject (s ++ t) := by
  funext g id
  simp only [Texts.hear]
  split
  · rw [written_append, replay_append]
  · rfl

lemma hear_silent (hs : Silent sent) (seen : Texts) : seen.hear edit subject sent = seen := by
  funext g id
  simp only [Texts.hear, replay, hs.revisions, List.foldl_nil, ite_self]

lemma hear_other (hid : d.id ≠ id) : seen.hear edit (some d) sent g id = seen g id := by
  simp [Texts.hear, hid]

lemma hear_elsewhere (m : Outbound) (result : Except TransportError Unit) (hn : n ≠ g) :
    seen.hear edit subject [(n, m, result)] g id = seen g id := by
  simp [Texts.hear, written, hn, replay, revisions]

lemma hear_self {m : Outbound} {result : Except TransportError Unit} {u : String} {r : Revision}
    (hm : m.revision? = some (u, r)) (hr : result = .ok ()) :
    seen.hear edit (some d) [(g, m, result)] g d.id = r.apply edit (seen g d.id) := by
  simp [Texts.hear, written, hr, replay, revisions, hm, Except.isOk, Except.toBool]

lemma Names.silent (hs : Silent sent) : Names subject sent :=
  fun s hm r hr => by simp [hs s hm] at hr

lemma Names.append {s t : List (Nat × Submission)} (hs : Names subject s) (ht : Names subject t) :
    Names subject (s ++ t) :=
  fun x hx => (List.mem_append.mp hx).elim (hs x) (ht x)

lemma Names.one {m : Outbound} {result : Except TransportError Unit} {uri : Uri} {r : Revision}
    (hm : m.revision? = some (uri.text, r)) (hu : d.uriOrError = .ok uri) :
    Names (some d) [(g, m, result)] := by
  intro s hs x hx
  obtain rfl := List.mem_singleton.mp hs
  exact ⟨d, uri, rfl, hu, congrArg Prod.fst (Option.some.inj (hx.symm.trans hm))⟩

end Hearing

namespace Host

variable {edit : Edit} {subject : Option Document} {h k : Host} {b c : Buffers} {seen : Texts}
  {l m : LanguageId} {i j : Instance} {g n : Nat} {id : DocumentId} {uri : Uri} {d : Document}
  {deed : Deed} {sent : List (Nat × Submission)}

section Records

lemma uriOrError_congr {e : Document} (hid : d.id = e.id) (hpath : d.path = e.path) :
    d.uriOrError = e.uriOrError := by
  simp only [Document.uriOrError, Document.uri, hid, hpath]

lemma uriOrError_buffer (d : Document) :
    (d.buffer.document d.id).uriOrError = d.uriOrError :=
  uriOrError_congr (d := d.buffer.document d.id) (e := d) rfl rfl

lemma eligible_congr {e : Document} (hpath : d.path = e.path) (root : Option FilePath)
    (settings : ServerSettings) : eligible root settings d = eligible root settings e := by
  simp only [eligible, hpath]

lemma openUri?_addOpen (ho : i.openUri? id = none) (uri : Uri) (other : DocumentId) :
    (i.addOpen id uri).openUri? other = if id = other then some uri else i.openUri? other := by
  by_cases hid : id = other
  · subst hid
    have hnone : i.opened.find? (·.1 = id) = none := by simpa [Instance.openUri?] using ho
    simp [Instance.openUri?, Instance.addOpen, List.find?_append, hnone]
  · simp [Instance.openUri?, Instance.addOpen, List.find?_append, hid]

lemma openUri?_removeOpen (i : Instance) (id other : DocumentId) :
    (i.removeOpen id).openUri? other = if id = other then none else i.openUri? other := by
  by_cases hid : id = other
  · subst hid
    simp [Instance.openUri?, Instance.removeOpen, List.find?_filter]
  · simp only [Instance.openUri?, Instance.removeOpen, List.find?_filter, hid, if_false]
    congr 2
    funext e
    by_cases he : e.1 = other
    · simp [he, Ne.symm hid]
    · simp [he]

lemma Runs.settings (hk : k.Runs l i g) (hs : Step h deed k) : k.settings = h.settings := by
  refine hs.settings.resolve_right fun hn => ?_
  have hi := instance?_eq_some.mp hk.current
  simp [hn, Slots.get?] at hi

lemma Holds.later {b : Buffer} {text text' : Option String} (hh : h.Holds b text l i g id uri)
    (hset : k.settings = h.settings) (hroot : k.root = h.root)
    (hsub : k.connections.submissions = h.connections.submissions ++ sent)
    (hj : j.settings = i.settings) (htext : text' = text) : k.Holds b text' l j g id uri where
  routed := hset ▸ hh.routed
  admitted := by
    rw [hroot, hj]
    exact hh.admitted
  named := hh.named
  heard hd := htext.trans (hh.heard fun s hs => hd s (hsub ▸ List.mem_append_left _ hs))

end Records

section Steps

lemma Delivers.last {c : Connections} {m : Outbound} {result : Except TransportError Unit}
    (hd : c.Delivers g) {before : List (Nat × Submission)}
    (hsub : c.submissions = before ++ [(g, m, result)]) : result = .ok () :=
  hd (g, m, result) (by simp [hsub]) rfl

lemma Step.inStep (hs : Step h deed k) (hc : h.Coherent) (ha : h.Arranged)
    (hd : ∀ d, deed = .about d → subject = some d ∧ d.buffer = b d.id)
    (he : ∀ d change, deed ≠ .edit d change) : InStep edit subject h k b b := by
  intro seen hm
  have hroot := hs.root
  have hset {l : LanguageId} {i : Instance} {g : Nat} (hk : k.Runs l i g) := hk.settings hs
  -- What the step says about texts is all that matters from here on.
  obtain ⟨sent, hsub, hu⟩ := hs.speaks hc
  clear hs
  refine ⟨sent, hsub, ?_⟩
  cases hu with
  | silent hsilent hr =>
    refine ⟨.silent hsilent, ?_⟩
    rw [hear_silent hsilent]
    intro l i g id uri hk ho
    rcases hr l i g hk with hh | ⟨response, j, -, hj, rfl⟩
    · exact (hm hh ho).later (hset hk) hroot hsub rfl rfl
    · simp [Instance.openUri?, Instance.welcomed, hj] at ho
  | opened l i g d uri m result hi ho had hu hrev hslots =>
    obtain ⟨rfl, hb⟩ := hd d rfl
    refine ⟨.one hrev hu, fun l' i' g' id' uri' hk ho' => ?_⟩
    have hset := hset hk
    rcases runs_set hc hi hslots rfl hk with ⟨rfl, rfl, rfl⟩ | ⟨hh, -, hg⟩
    · rw [openUri?_addOpen ho] at ho'
      split at ho'
      · next hid =>
        subst hid
        obtain rfl := Option.some.inj ho'
        obtain ⟨n, hn, hroute⟩ := had.1.routes ha
        have hin : eligible h.root i.settings d = true := by
          simpa [inScope, hi.current] using had.2
        rw [← hb]
        exact
          { routed := ⟨n, hn, hset ▸ hroute⟩
            admitted := by rw [hroot]; exact hin
            named := (uriOrError_buffer d).trans hu
            heard hdel := by rw [hear_self hrev (Delivers.last hdel hsub)]; rfl }
      · next hid => exact (hm hi ho').later hset hroot hsub rfl (hear_other hid)
    · exact (hm hh ho').later hset hroot hsub rfl (hear_elsewhere m result hg)
  | changed l i g d change => exact absurd rfl (he d change)
  | closed l i g d uri m result hi ho hrev hslots =>
    obtain ⟨rfl, hb⟩ := hd d rfl
    have hnamed : d.uriOrError = .ok uri := by
      rw [← uriOrError_buffer, hb]
      exact (hm hi ho).named
    refine ⟨.one hrev hnamed, fun l' i' g' id' uri' hk ho' => ?_⟩
    have hset := hset hk
    rcases runs_set hc hi hslots rfl hk with ⟨rfl, rfl, rfl⟩ | ⟨hh, -, hg⟩
    · rw [openUri?_removeOpen] at ho'
      split at ho'
      · cases ho'
      · next hid => exact (hm hi ho').later hset hroot hsub rfl (hear_other hid)
    · exact (hm hh ho').later hset hroot hsub rfl (hear_elsewhere m result hg)

end Steps

section Walks

lemma InStep.refl (edit : Edit) (subject : Option Document) (h : Host) (b : Buffers) :
    InStep edit subject h h b b := by
  refine fun seen hm => ⟨[], by simp, .silent .nil, ?_⟩
  rwa [hear_silent .nil]

lemma InStep.trans {e : Buffers} {v : Host} (hk : InStep edit subject h k b c)
    (hv : InStep edit subject k v c e) : InStep edit subject h v b e := by
  intro seen hm
  obtain ⟨s, hs, hsn, hms⟩ := hk seen hm
  obtain ⟨t, ht, htn, hmt⟩ := hv _ hms
  refine ⟨s ++ t, by rw [ht, hs, List.append_assoc], hsn.append htn, ?_⟩
  rwa [← hear_append]

lemma InStep.of (hk : ∀ seen, h.Mirrors b seen → InStep edit subject h k b c) :
    InStep edit subject h k b c := fun seen hm => hk seen hm seen hm

lemma InStep.retold {e : Document} (hk : InStep edit (some d) h k b c) (hid : d.id = e.id)
    (hpath : d.path = e.path) : InStep edit (some e) h k b c := by
  intro seen hm
  obtain ⟨sent, hsub, hn, hmk⟩ := hk seen hm
  refine ⟨sent, hsub, fun s hs r hr => ?_, ?_⟩
  · obtain ⟨_, uri, hd, hu, hru⟩ := hn s hs r hr
    obtain rfl := Option.some.inj hd
    exact ⟨e, uri, rfl, uriOrError_congr hid hpath ▸ hu, hru⟩
  · have hhear : seen.hear edit (some e) sent = seen.hear edit (some d) sent := by
      funext g id
      simp only [Texts.hear, Option.map_some, hid]
    rwa [hhear]

lemma Walk.inStep {P : Deed → Prop} (hw : Walk P h k) (hc : h.Coherent) (ha : h.Arranged)
    (hd : ∀ d, P (.about d) → subject = some d ∧ d.buffer = b d.id)
    (he : ∀ d change, ¬P (.edit d change)) : InStep edit subject h k b b := by
  refine (hw.keeps (I := fun k => k.Coherent ∧ k.Arranged ∧ InStep edit subject h k b b)
    ⟨hc, ha, .refl edit subject h b⟩ fun {u v deed} hp hs ⟨hcu, hau, hu⟩ => ?_).2.2
  refine ⟨hs.coherent hcu, hs.arranged hau, hu.trans (hs.inStep hcu hau ?_ ?_)⟩
  · rintro d rfl
    exact hd d hp
  · rintro d change rfl
    exact he d change hp

lemma Walk.gentle_inStep (hw : Walk (Deed.Gentle d) h k) (hc : h.Coherent) (ha : h.Arranged)
    (hb : d.buffer = b d.id) : InStep edit (some d) h k b b :=
  hw.inStep hc ha (fun e he => by cases (show e = d from he); exact ⟨rfl, hb⟩) fun _ _ => id

lemma Walk.runs (hw : Walk (Deed.Calm none) h k) (hc : h.Coherent) (hk : k.Runs l i g) :
    h.Runs l i g := by
  have hkeep : k.Coherent ∧ ∀ l i g, k.Runs l i g → h.Runs l i g := by
    refine hw.keeps (I := fun k => k.Coherent ∧ ∀ l i g, k.Runs l i g → h.Runs l i g)
      ⟨hc, fun _ _ _ hr => hr⟩ fun {u v deed} hp hs ⟨hcu, hu⟩ => ⟨hs.coherent hcu, ?_⟩
    intro l i g hv
    obtain ⟨sent, -, hut⟩ := hs.speaks hcu
    cases hut with
    | silent _ hr =>
      rcases hr l i g hv with hh | ⟨response, j, rfl, -⟩
      · exact hu l i g hh
      · exact hp.elim
    | opened | changed | closed => simp [Deed.Calm] at hp
  exact hkeep.2 l i g hk

lemma Walk.root {P : Deed → Prop} (hw : Walk P h k) : k.root = h.root :=
  hw.keeps (I := fun k => k.root = h.root) rfl fun _ hs hr => hs.root.trans hr

end Walks

section Closing

lemma Mirrors.update (hm : h.Mirrors b seen) (hu : h.Unheld id) (x : Buffer) :
    h.Mirrors (Function.update b id x) seen := by
  intro l i g other uri hi ho
  have hne : other ≠ id := by
    rintro rfl
    simp [hu hi] at ho
  rw [Function.update_of_ne hne]
  exact hm hi ho

lemma InStep.update (hk : InStep edit subject h k b c) (hu : k.Unheld id) (x : Buffer) :
    InStep edit subject h k b (Function.update c id x) := by
  intro seen hm
  obtain ⟨sent, hsub, hn, hmk⟩ := hk seen hm
  exact ⟨sent, hsub, hn, hmk.update hu x⟩

lemma closeOn_congr {e : Document} (hid : d.id = e.id) (n : LanguageId) :
    h.closeOn n d = h.closeOn n e := by
  simp only [closeOn, Sync.didClose, hid]

lemma didClose_server (s : Sync) (d : Document) :
    (s.didClose d).1.server.openUri? d.id = none := by
  cases ho : s.server.openUri? d.id with
  | none => simp only [Sync.didClose, ho]
  | some uri =>
    simp only [Sync.didClose, ho]
    split <;> simp [notify_fst, Sync.log, openUri?_removeOpen]

lemma Mirrors.resolve (hm : h.Mirrors b seen) (ha : h.Arranged) (hi : h.Runs l i g)
    (ho : i.openUri? id = some uri) {n : LanguageId} (hn : (b id).language = some n) :
    ∃ k, h.resolve n = (k, .ok l) ∧ k.instance? l = some i := by
  obtain ⟨n', hn', hroute⟩ := (hm hi ho).routed
  obtain rfl : n = n' := Option.some.inj (hn.symm.trans hn')
  exact resolve_routed ha hi.current hroute

lemma closeOn_unheld (hc : h.Coherent) (ha : h.Arranged) (hm : h.Mirrors b seen) {n : LanguageId}
    (hn : (b d.id).language = some n) : (h.closeOn n d).1.Unheld d.id := by
  intro l i g hk
  by_contra hne
  obtain ⟨uri, ho⟩ := Option.ne_none_iff_exists'.mp hne
  have hw := resolve_walk (P := Deed.Calm none) trivial h n
  rcases hr : h.resolve n with ⟨k, e | serving⟩ <;> rw [hr] at hw
  · simp only [closeOn, hr] at hk
    obtain ⟨_, hl, -⟩ := hm.resolve ha (hw.runs hc hk) ho hn
    simp [hr] at hl
  · simp only [closeOn, hr] at hk
    obtain ⟨-, j, hj⟩ := resolve_serves hr
    rw [syncOnly_fst hj] at hk
    by_cases hl : serving = l
    · subst hl
      obtain rfl := runs_self rfl hk
      simp [didClose_server] at ho
    · have hkl : k.Runs l i g :=
        runs_other (show _ = k.slots.set serving _ from rfl) hl hk
      obtain ⟨_, hl', -⟩ := hm.resolve ha (hw.runs hc hkl) ho hn
      rw [hr] at hl'
      simp only [Prod.mk.injEq, Except.ok.injEq] at hl'
      exact hl hl'.2

end Closing

section Moves

lemma attach_running (ha : h.Arranged) (hi : h.Runs l i g) {n : LanguageId}
    (hn : d.language = some n) (hr : Routes h.settings n l)
    (hin : eligible h.root i.settings d = true) :
    h.attach d = ((h.resolve n).1, .ok (some l)) ∧ (h.resolve n).1.Runs l i g := by
  obtain ⟨k, hres, hk⟩ := resolve_routed ha hi.current hr
  have hroot : k.root = h.root := by
    have hw := (resolve_walk (P := fun _ => True) trivial h n).root
    rwa [hres] at hw
  have hscope : k.inScope l d = true := by simpa [inScope, hk, hroot] using hin
  have hstart : k.ensureStarted l = (k, .ok ()) := by
    refine ensureStarted_running fun j hj => ?_
    obtain rfl : i = j := Option.some.inj (hk.symm.trans hj)
    simp [hi.ready]
  rw [hres]
  refine ⟨?_, hk, hi.ready, hi.linked⟩
  simp only [attach, hn, hres, hscope, if_true, hstart]

lemma attach_held (ha : h.Arranged) (hm : h.Mirrors b seen) (hi : h.Runs l i g)
    (ho : i.openUri? d.id = some uri) (hlang : d.language = (b d.id).language)
    (hpath : d.path = (b d.id).path) : ∃ k, h.attach d = (k, .ok (some l)) ∧ k.Runs l i g := by
  obtain ⟨n, hn, hroute⟩ := (hm hi ho).routed
  have hin := (hm hi ho).admitted
  rw [← eligible_congr (d := d) hpath] at hin
  exact ⟨_, attach_running ha hi (hlang.trans hn) hroute hin⟩

lemma contentOf_apply {change : TextChange} {text : String} (s : Sync)
    (htext : ∀ r, change.range = some r → d.text = edit r change.text text) :
    (s.contentOf d change).apply edit text = d.text := by
  simp only [Sync.contentOf]
  split
  · next hr =>
    obtain ⟨r, hr⟩ := Option.isSome_iff_exists.mp (Bool.and_eq_true_iff.mp hr).1
    simp only [Sync.Content.apply, hr, htext r hr]
  · rfl

lemma Step.edit_inStep {change : TextChange} (hs : Step h (.edit d change) k) (hc : h.Coherent)
    (ha : h.Arranged) (hlang : d.language = (b d.id).language) (hpath : d.path = (b d.id).path)
    (htext : ∀ r, change.range = some r → d.text = edit r change.text (b d.id).text) :
    InStep edit (some d) h k b (Function.update b d.id d.buffer) := by
  intro seen hm
  cases hs with
  | changed l i _ _ uri hi hr ho had =>
    obtain ⟨g, hg⟩ := hc.runs hi hr
    obtain ⟨result, hsub⟩ := tell_said hc hg "textDocument/didChange"
      (Sync.changeParams uri (h.versions.next d.path).2
        (Sync.contentOf ⟨i, h.versions, h.connections⟩ d change))
    have hrev := Outbound.revision?_change uri (h.versions.next d.path).2
      (Sync.contentOf ⟨i, h.versions, h.connections⟩ d change)
    have hold := hm hg ho
    have hnamed : d.uriOrError = .ok uri := by
      rw [← hold.named]
      exact uriOrError_congr rfl hpath
    refine ⟨_, hsub, .one hrev hnamed, fun m j n id uri' hk ho' => ?_⟩
    have hhas : j.openUri? id = some uri' ∧ h.Runs m j n := ⟨ho', runs_touched rfl hi hk⟩
    by_cases hid : d.id = id
    · subst hid
      -- The document is open on one server only, the one that its language is routed to.
      have hml : m = l := by
        obtain ⟨p, hp, hroute⟩ := hold.routed
        obtain ⟨q, hq, hroute'⟩ := (hm hhas.2 ho').routed
        obtain rfl : p = q := Option.some.inj (hp.symm.trans hq)
        exact ha.route_unique hhas.2.current hi hroute' hroute
      subst hml
      obtain rfl : i = j := Option.some.inj (hi.symm.trans hhas.2.current)
      obtain rfl : g = n := Option.some.inj (hg.linked.symm.trans hhas.2.linked)
      obtain rfl : uri = uri' := Option.some.inj (ho.symm.trans ho')
      rw [Function.update_self]
      exact
        { routed := by rw [Document.buffer, hlang]; exact hold.routed
          admitted := by
            rw [← hold.admitted]
            exact eligible_congr hpath _ _
          named := (uriOrError_buffer d).trans hnamed
          heard hdel := by
            rw [hear_self hrev (Delivers.last hdel hsub), hold.heard fun s hs hsg =>
              hdel s (hsub ▸ List.mem_append_left _ hs) hsg]
            exact congrArg some (contentOf_apply _ htext) }
    · rw [Function.update_of_ne (Ne.symm hid)]
      exact (hm hhas.2 ho').later rfl rfl hsub rfl (hear_other hid)

lemma didChange_unheld (hc : h.Coherent) (hu : h.Unheld d.id) (change : TextChange) :
    (h.didChange d change).1 = (h.didOpen d).1 := by
  have hw := attach_walk (P := Deed.Calm none) trivial (fun _ => trivial) h d
  rcases hatt : h.attach d with ⟨k, e | _ | l⟩ <;> rw [hatt] at hw
  · simp only [didChange, didOpen, attachAndSync, hatt]
  · simp only [didChange, didOpen, attachAndSync, hatt]
  · simp only [didChange, didOpen, attachAndSync, hatt]
    cases hi : k.instance? l with
    | none => simp only [syncOnly, withSync, hi]
    | some i =>
      rw [syncOnly_fst hi, syncOnly_fst hi]
      by_cases hr : i.state = .ready
      · obtain ⟨g, hg⟩ := (hw.coherent hc).runs hi hr
        have ho := hu (hw.runs hc hg)
        simp [Sync.didChange, Sync.isReady, syncing, hr, ho]
      · simp [Sync.didChange, Sync.didOpen, Sync.isReady, syncing, hr]

lemma didChange_inStep (hc : h.Coherent) (ha : h.Arranged) {change : TextChange}
    (hlang : d.language = (b d.id).language) (hpath : d.path = (b d.id).path)
    (htext : ∀ r, change.range = some r → d.text = edit r change.text (b d.id).text) :
    InStep edit (some d) h (h.didChange d change).1 b (Function.update b d.id d.buffer) := by
  refine .of fun seen hm => ?_
  by_cases hu : h.Unheld d.id
  -- No server has the document: it is opened with the text that it has after the edit.
  · rw [didChange_unheld hc hu]
    exact ((InStep.refl edit (some d) h b).update hu d.buffer).trans
      ((didOpen_gentle h d).gentle_inStep hc ha (by simp))
  simp only [Unheld, not_forall] at hu
  obtain ⟨l, i, g, hi, hne⟩ := hu
  obtain ⟨uri, ho⟩ := Option.ne_none_iff_exists'.mp hne
  -- The server that has the document is the one that the edit is sent to, and it has the text to
  -- which the edit was made.
  obtain ⟨k, hatt, hk⟩ := attach_held ha hm hi ho hlang hpath
  have hw := attach_walk (P := Deed.Calm none) trivial (fun _ => trivial) h d
  rw [hatt] at hw
  have hck := hw.coherent hc
  have hak := hw.arranged ha
  obtain ⟨v, hlog, hedit⟩ := didChange_steps hk.current hk.ready ho (attach_admits hatt) change
  have hcalm : InStep edit (some d) h k b b :=
    hw.inStep hc ha (fun _ he => by simp [Deed.Calm] at he) (by simp [Deed.Calm])
  have hquiet : InStep edit (some d) k v b b := hlog.inStep hck hak (by simp) (by simp)
  have hlast := hedit.edit_inStep (hlog.coherent hck) (hlog.arranged hak) hlang hpath htext
  simp only [didChange, attachAndSync, hatt]
  rw [syncOnly_fst hk.current]
  exact (hcalm.trans hquiet).trans hlast

lemma closeOn_inStep (hc : h.Coherent) (ha : h.Arranged) (hpath : d.path = (b d.id).path)
    (n : LanguageId) : InStep edit (some d) h (h.closeOn n d).1 b b := by
  rw [closeOn_congr (d := d) (e := (b d.id).document d.id) rfl]
  exact ((closeOn_gentle h n ((b d.id).document d.id)).gentle_inStep hc ha rfl).retold rfl
    hpath.symm

lemma reopen_inStep (hc : h.Coherent) (ha : h.Arranged) (hpath : d.path = (b d.id).path)
    {n : LanguageId} (hn : (b d.id).language = some n) {result : Except HostError Unit}
    (hr : h.closeOn n d = (k, result)) :
    InStep edit (some d) h k b (Function.update b d.id d.buffer) ∧
      InStep edit (some d) h (k.didOpen d).1 b (Function.update b d.id d.buffer) := by
  have hw := closeOn_gentle h n d
  have hclosed : InStep edit (some d) h k b (Function.update b d.id d.buffer) := by
    refine .of fun seen hm => ?_
    have hstep : InStep edit (some d) h (h.closeOn n d).1 b b := closeOn_inStep hc ha hpath n
    have hu := hstep.update (closeOn_unheld hc ha hm hn) d.buffer
    rwa [hr] at hu
  rw [hr] at hw
  exact ⟨hclosed, hclosed.trans
    ((didOpen_gentle k d).gentle_inStep (hw.coherent hc) (hw.arranged ha) (by simp))⟩

lemma documentReloaded_inStep (hc : h.Coherent) (ha : h.Arranged)
    (hlang : d.language = (b d.id).language) (hpath : d.path = (b d.id).path) :
    InStep edit (some d) h (h.documentReloaded d).1 b (Function.update b d.id d.buffer) := by
  cases hn : d.language with
  | none =>
    refine .of fun seen hm => ?_
    have hu : h.Unheld d.id := by
      intro l i g hi
      by_contra hne
      obtain ⟨uri, ho⟩ := Option.ne_none_iff_exists'.mp hne
      obtain ⟨n, hb, -⟩ := (hm hi ho).routed
      simp [← hlang, hn] at hb
    simp only [documentReloaded, didClose, hn]
    exact ((InStep.refl edit (some d) h b).update hu d.buffer).trans
      ((didOpen_gentle h d).gentle_inStep hc ha (by simp))
  | some n =>
    rcases hr : h.closeOn n d with ⟨k, e | u⟩
    · simpa only [documentReloaded, didClose, hn, hr] using
        (reopen_inStep hc ha hpath (hlang ▸ hn) hr).1
    · simpa only [documentReloaded, didClose, hn, hr] using
        (reopen_inStep hc ha hpath (hlang ▸ hn) hr).2

lemma documentLanguageChanged_inStep (hc : h.Coherent) (ha : h.Arranged) {previous : LanguageId}
    (hlang : (b d.id).language = some previous) (hpath : d.path = (b d.id).path) :
    InStep edit (some d) h (h.documentLanguageChanged d previous).1 b
      (Function.update b d.id d.buffer) := by
  rcases hr : h.closeOn previous d with ⟨k, e | u⟩
  · simpa only [documentLanguageChanged, hr] using (reopen_inStep hc ha hpath hlang hr).1
  · simpa only [documentLanguageChanged, hr] using (reopen_inStep hc ha hpath hlang hr).2

lemma perform_aside_inStep (hc : h.Coherent) (ha : h.Arranged) {m : Move} (hm : m.subject = none) :
    InStep edit none h (h.perform m) b b := by
  obtain ⟨k, hw, hcalm⟩ := perform_walk hc.languages m
  rw [hm] at hcalm
  have hk : InStep edit none h k b b := hw.inStep hc ha (fun _ => False.elim) fun _ _ => id
  exact hk.trans (hcalm.inStep (hw.coherent hc) (hw.arranged ha)
    (fun _ he => by simp [Deed.Calm] at he) (by simp [Deed.Calm]))

theorem perform_inStep (hc : h.Coherent) (ha : h.Arranged) {m : Move} (hr : m.Reports edit b) :
    InStep edit m.subject h (h.perform m) b (m.buffers b) := by
  cases m with
  | didOpen d => exact (didOpen_gentle h d).gentle_inStep hc ha (hr d List.mem_cons_self)
  | didSave d => exact (didSave_gentle h d).gentle_inStep hc ha (hr d List.mem_cons_self)
  | didClose d => exact (didClose_gentle h d).gentle_inStep hc ha (hr d List.mem_cons_self)
  | request kind d p =>
    exact (request_gentle h kind d p).gentle_inStep hc ha (hr d List.mem_cons_self)
  | catchUp l d => exact (catchUpOne_gentle h l d).gentle_inStep hc ha (hr d List.mem_cons_self)
  | didChange d change => exact didChange_inStep hc ha hr.1 hr.2.1 hr.2.2
  | reloaded d => exact documentReloaded_inStep hc ha hr.1 hr.2
  | languageChanged d previous => exact documentLanguageChanged_inStep hc ha hr.1 hr.2
  | _ => exact perform_aside_inStep hc ha rfl

end Moves

end Host

section Paths

variable {edit : Edit} {b : Buffers} {m : Move} {ms : List Move} {d : Document}

lemma Move.Reports.path (hr : m.Reports edit b) (hd : m.subject = some d) :
    d.path = (b d.id).path := by
  cases m <;> cases hd
  case didChange => exact hr.2.1
  case reloaded | languageChanged => exact hr.2
  all_goals exact congrArg Buffer.path (hr d List.mem_cons_self)

lemma Move.Reports.buffers_path (hr : m.Reports edit b) (id : DocumentId) :
    (m.buffers b id).path = (b id).path := by
  have hupdate {e : Document} (he : e.path = (b e.id).path) :
      (Function.update b e.id e.buffer id).path = (b id).path := by
    by_cases hid : id = e.id
    · subst hid
      simpa [Document.buffer] using he
    · rw [Function.update_of_ne hid]
  cases m with
  | didChange e change => exact hupdate hr.2.1
  | reloaded e | languageChanged e previous => exact hupdate hr.2
  | _ => rfl

lemma Reported.path (hr : Reported edit b ms) :
    (∀ id, (Buffers.run b ms id).path = (b id).path) ∧
      ∀ m ∈ ms, ∀ d, m.subject = some d → d.path = (b d.id).path := by
  induction ms generalizing b with
  | nil => exact ⟨fun _ => rfl, by simp⟩
  | cons m rest ih =>
    obtain ⟨hm, hrest⟩ := hr
    obtain ⟨hrun, hall⟩ := ih hrest
    refine ⟨fun id => (hrun id).trans (hm.buffers_path id), fun n hn d hd => ?_⟩
    rcases List.mem_cons.mp hn with rfl | hn
    · exact hm.path hd
    · exact (hall n hn d hd).trans (hm.buffers_path d.id)

end Paths

namespace Turn

def writes (t : Turn) (g : Nat) (id : DocumentId) : List Outbound :=
  if t.move.subject.map (·.id) = some id then written t.sent g else []

variable {t : Turn} {uri : Uri} {id : DocumentId}

lemma revisions_writes (hn : Names t.move.subject t.sent) (g : Nat)
    (hself : ∀ d, t.move.subject = some d → d.id = id → d.uriOrError = .ok uri)
    (hother : ∀ d, t.move.subject = some d → d.uriOrError = .ok uri → d.id = id) :
    revisions ((written t.sent g).filter (·.revises uri)) = revisions (t.writes g id) := by
  have hnamed : ∀ r ∈ revisions (written t.sent g), ∃ d u, t.move.subject = some d ∧
      d.uriOrError = .ok u ∧ r.1 = u.text := by
    intro r hr
    obtain ⟨m, hm, hmr⟩ := List.mem_filterMap.mp hr
    obtain ⟨s, hs, hsm⟩ := List.mem_filterMap.mp hm
    split at hsm
    · exact hn s hs r (by rw [Option.some.inj hsm, hmr])
    · cases hsm
  rw [revisions_revises]
  by_cases hid : t.move.subject.map (·.id) = some id
  · rw [writes, if_pos hid, List.filter_eq_self]
    intro r hr
    obtain ⟨d, u, hd, hu, hru⟩ := hnamed r hr
    have hdid : d.id = id := by simpa [hd] using hid
    obtain rfl : u = uri := Except.ok.inj (hu.symm.trans (hself d hd hdid))
    simpa using hru
  · rw [writes, if_neg hid]
    refine List.filter_eq_nil_iff.mpr fun r hr hru => hid ?_
    obtain ⟨d, u, hd, hu, hrd⟩ := hnamed r hr
    have huri : u = uri := congrArg Uri.mk (hrd.symm.trans (of_decide_eq_true hru))
    simp [hd, hother d hd (huri ▸ hu)]

end Turn

namespace Sample

def answer : Json := .object [("capabilities", .object [("textDocumentSync", .int 2)])]

def edit : Move := .didChange { document with text := "x" } ⟨some ⟨⟨0, 0⟩, ⟨0, 0⟩⟩, "x"⟩

def typing : List Move :=
  [.didOpen document, .stray 1 (.initializeResponse (.ok answer)) {}, .didOpen document, edit]

end Sample

namespace Host

variable {edit : Edit} {h : Host} {b : Buffers} {seen : Texts} {ms : List Move}

lemma run_inStep (hc : h.Coherent) (ha : h.Arranged) (hm : h.Mirrors b seen)
    (hr : Reported edit b ms) :
    (h.run ms).connections.submissions =
        h.connections.submissions ++ (h.turns ms).flatMap (·.sent) ∧
      (∀ t ∈ h.turns ms, Names t.move.subject t.sent) ∧
      (h.run ms).Mirrors (Buffers.run b ms) fun g id =>
        replay edit (seen g id) ((h.turns ms).flatMap (·.writes g id)) := by
  induction ms generalizing h b seen with
  | nil => exact ⟨by simp [run, turns], by simp [turns], hm⟩
  | cons m rest ih =>
    obtain ⟨sent, hsub, hn, hmk⟩ := perform_inStep hc ha hr.1 seen hm
    obtain ⟨hrun, hnames, hmirrors⟩ :=
      ih (perform_coherent hc m) (perform_arranged hc ha m) hmk hr.2
    have hsent : (⟨h, m⟩ : Turn).sent = sent := Turn.sent_eq hsub
    refine ⟨?_, fun t ht => ?_, ?_⟩
    · rw [turns, List.flatMap_cons, hsent, ← List.append_assoc, ← hsub]
      exact hrun
    · rcases List.mem_cons.mp ht with rfl | ht
      · exact hsent ▸ hn
      · exact hnames t ht
    · have hheard : (fun g id => replay edit (seen.hear edit m.subject sent g id)
          (((h.perform m).turns rest).flatMap (·.writes g id))) =
          fun g id => replay edit (seen g id) ((h.turns (m :: rest)).flatMap (·.writes g id)) := by
        funext g id
        rw [turns, List.flatMap_cons, replay_append, Turn.writes, hsent, Texts.hear]
        split <;> rfl
      rw [← hheard]
      exact hmirrors

lemma revisions_turns {ts : List Turn} {uri : Uri} {id : DocumentId} {g : Nat}
    (ht : ∀ t ∈ ts, revisions ((written t.sent g).filter (·.revises uri)) =
      revisions (t.writes g id)) :
    revisions ((written (ts.flatMap (·.sent)) g).filter (·.revises uri)) =
      revisions (ts.flatMap (·.writes g id)) := by
  induction ts with
  | nil => rfl
  | cons t rest ih =>
    simp only [List.flatMap_cons, written_append, List.filter_append, revisions_append]
    rw [ht t List.mem_cons_self, ih fun u hu => ht u (List.mem_cons_of_mem t hu)]

lemma fresh_runs (settings : Settings) (root : Option FilePath) (environment : Environment)
    (l : LanguageId) (i : Instance) (g : Nat) :
    ¬(fresh settings root environment).Runs l i g := by
  intro hi
  simpa [fresh, Slots.get?] using instance?_eq_some.mp hi.current

/-- As long as the editor reports every edit of a buffer, and writes to a ready server succeed, the
server has the texts of the buffers that are open on it: that is what comes of the messages that were
written for a document, which are those under its URI if no other document has the same. A range goes
only to a server that has announced that it takes ranges, and only if the settings allow it. -/
theorem buffers_mirrored (settings : Settings) (root : Option FilePath) (environment : Environment)
    (edit : Edit) (b : Buffers) (ms : List Move) (hr : Reported edit b ms) :
    (∀ l i g id uri, ((fresh settings root environment).run ms).Runs l i g →
      i.openUri? id = some uri →
      ((fresh settings root environment).run ms).connections.Delivers g →
      replay edit none (((fresh settings root environment).turns ms).flatMap (·.writes g id)) =
        some (Buffers.run b ms id).text ∧
      ((∀ m ∈ ms, ∀ d, m.subject = some d → d.uriOrError = .ok uri → d.id = id) →
        replay edit none
          ((written ((fresh settings root environment).run ms).connections.submissions g).filter
            (·.revises uri)) = some (Buffers.run b ms id).text)) ∧
    ∀ pre t post, (fresh settings root environment).turns ms = pre ++ t :: post →
      ∀ s ∈ t.sent, s.2.1.isRanged = true → TakesRanges pre t.before s.1 := by
  have hc := fresh_coherent settings root environment
  have ha := fresh_arranged settings root environment
  have hn := fresh_runs settings root environment
  have hempty : (fresh settings root environment).connections.submissions = [] := rfl
  generalize fresh settings root environment = h at hc ha hn hempty
  refine ⟨fun l i g id uri hi ho hd => ?_, fun pre t post hts s hs hranged =>
    ranges_announced hc ha hn hts hs hranged⟩
  have hstart : h.Mirrors b fun _ _ => none := fun l i g _ _ hi _ => absurd hi (hn l i g)
  obtain ⟨hsub, hnames, hmirrors⟩ := run_inStep hc ha hstart hr
  have hheld := hmirrors hi ho
  refine ⟨hheld.heard hd, fun hother => ?_⟩
  obtain ⟨hrun, hpath⟩ := hr.path
  -- The path of a buffer never changes, so its document has the same URI in every turn.
  have hrev : revisions ((written ((h.turns ms).flatMap (·.sent)) g).filter (·.revises uri)) =
      revisions ((h.turns ms).flatMap (·.writes g id)) := by
    refine revisions_turns fun t ht => ?_
    have hmove := turns_move ht
    refine Turn.revisions_writes (hnames t ht) g (fun d hdt hid => ?_) (hother t.move hmove)
    rw [← hheld.named]
    subst hid
    exact uriOrError_congr rfl ((hpath t.move hmove d hdt).trans (hrun d.id).symm)
  rw [← hheld.heard hd, hsub, hempty, List.nil_append]
  simp only [replay, hrev]

theorem session_mirrored :
    replay (fun _ new text => text ++ new) none
      ((Sample.session.turns Sample.typing).flatMap (·.writes 1 ⟨1⟩)) = some "x" ∧
    TakesRanges (Sample.session.turns (Sample.typing.take 3))
      (Sample.session.run (Sample.typing.take 3)) 1 := by
  have hreported : Reported (fun _ new text => text ++ new) (fun _ => Sample.document.buffer)
      Sample.typing := by
    simp [Reported, Sample.typing, Sample.edit, Move.Reports, Move.buffers, Move.documents,
      Move.subject, Sample.document, Document.buffer]
  obtain ⟨hmirrored, hranges⟩ := buffers_mirrored Sample.settings none Sample.environment _ _
    Sample.typing hreported
  have hserver : ((Sample.session.run Sample.typing).instance? Sample.language).any (fun i =>
      i.state = .ready ∧ i.connection = some 1 ∧
        i.openUri? ⟨1⟩ = some ⟨"untitled:Untitled-1"⟩) = true := by decide +kernel
  have hdelivers : (Sample.session.run Sample.typing).connections.submissions.all
      (fun s => s.1 = 1 → s.2.2 = .ok ()) = true := by decide +kernel
  have hsent : (Turn.sent ⟨Sample.session.run (Sample.typing.take 3), Sample.edit⟩).any
      (fun s => s.1 = 1 ∧ s.2.1.isRanged = true) = true := by decide +kernel
  obtain ⟨i, hi, hp⟩ := (Option.any_eq_true ..).mp hserver
  obtain ⟨hready, hlinked, hopen⟩ := of_decide_eq_true hp
  obtain ⟨⟨g, message⟩, hs, hg⟩ := List.any_eq_true.mp hsent
  obtain ⟨rfl, hranged⟩ := of_decide_eq_true hg
  refine ⟨(hmirrored Sample.language i 1 ⟨1⟩ _ ⟨hi, hready, hlinked⟩ hopen fun s hs =>
    of_decide_eq_true (List.all_eq_true.mp hdelivers s hs)).1, ?_⟩
  exact hranges _ ⟨Sample.session.run (Sample.typing.take 3), Sample.edit⟩ [] rfl _ hs hranged

end Host

end LanguageHost
