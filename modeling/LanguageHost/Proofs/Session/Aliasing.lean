import LanguageHost.Proofs.Session.Governing
import LanguageHost.Proofs.Session.Likeness
import LanguageHost.Proofs.Session.Visits

namespace LanguageHost

namespace ServerSettings

def Owns (c : ServerSettings) (l : LanguageId) : Prop :=
  c.commandLine? ≠ none ∧ (c.alias? = none ∨ c.alias?.bind LanguageId.parse? = some l)

instance (c : ServerSettings) (l : LanguageId) : Decidable (c.Owns l) :=
  inferInstanceAs (Decidable (_ ∧ _))

instance (c : ServerSettings) (l target : LanguageId) : Decidable (c.Defers l target) :=
  inferInstanceAs (Decidable (_ ∧ _))

end ServerSettings

inductive Errand where
  | opened
  | changed (change : TextChange)
  | saved
  | closed
  | reloaded
  | asked (kind : RequestKind) (p : Position)

namespace Errand

def move (d : Document) : Errand → Move
  | opened => .didOpen d
  | changed change => .didChange d change
  | saved => .didSave d
  | closed => .didClose d
  | reloaded => .reloaded d
  | asked kind p => .request kind d p

def answer (h : Host) (d : Document) : Errand → Except HostError (Option PendingRequest)
  | opened => (h.didOpen d).2.map fun _ => none
  | changed change => (h.didChange d change).2.map fun _ => none
  | saved => (h.didSave d).2.map fun _ => none
  | closed => (h.didClose d).2.map fun _ => none
  | reloaded => (h.documentReloaded d).2.map fun _ => none
  | asked kind p => (h.request kind d p).2.map some

end Errand

namespace Host

variable {a b l : LanguageId} {x y : Option Slot} {h k : Host} {s : Settings} {c : ServerSettings}

/-- Sessions that are alike but for the slot of a language, which is `x` in one and `y` in the other. -/
inductive Alike (a b : LanguageId) (x y : Option Slot) (h : Host) : Host → Prop
  | intro (slots : Slots) (connections : Connections) (hx : h.slots.get? a = x)
      (hy : slots.get? a = y) (hs : ∀ l, l ≠ a → slots.get? l = h.slots.get? l)
      (hc : h.connections.Alike a b connections) : Alike a b x y h { h with slots, connections }

namespace Alike

lemma refl (h : Host) : h.Alike a b (h.slots.get? a) (h.slots.get? a) h :=
  .intro h.slots h.connections rfl rfl (fun _ _ => rfl) (.refl _)

lemma slot_left (hk : h.Alike a b x y k) : h.slots.get? a = x := by
  obtain ⟨slots, c, hx, -, -, -⟩ := hk
  exact hx

lemma slot_right (hk : h.Alike a b x y k) : k.slots.get? a = y := by
  obtain ⟨slots, c, -, hy, -, -⟩ := hk
  exact hy

lemma connections (hk : h.Alike a b x y k) : h.connections.Alike a b k.connections := by
  obtain ⟨slots, c, -, -, -, hc⟩ := hk
  exact hc

lemma frame (hk : h.Alike a b x y k) :
    k = { h with slots := k.slots, connections := k.connections } := by
  obtain ⟨slots, c, -, -, -, -⟩ := hk
  rfl

lemma get? (hk : h.Alike a b x y k) (hl : l ≠ a) : k.slots.get? l = h.slots.get? l := by
  obtain ⟨slots, c, -, -, hs, -⟩ := hk
  exact hs l hl

lemma instance? (hk : h.Alike a b x y k) (hl : l ≠ a) : k.instance? l = h.instance? l :=
  congrArg (·.bind Slot.instance?) (hk.get? hl)

lemma settings (hk : h.Alike a b x y k) : k.settings = h.settings := by
  obtain ⟨_, _, -, -, -, -⟩ := hk
  rfl

lemma log (hk : h.Alike a b x y k) (level : LogLevel) (message : String)
    (fields : List (String × String)) :
    (h.log level message fields).Alike a b x y (k.log level message fields) := by
  obtain ⟨slots, c, hx, hy, hs, hc⟩ := hk
  exact .intro slots _ hx hy hs (hc.log _ _)

lemma queue (hk : h.Alike a b x y k) (e : HostEvent) :
    (h.queue e).Alike a b x y (k.queue e) := by
  obtain ⟨slots, c, hx, hy, hs, hc⟩ := hk
  exact .intro slots c hx hy hs hc

lemma setSlot (hk : h.Alike a b x y k) (hl : l ≠ a) (slot : Slot) :
    (h.setSlot l slot).Alike a b x y (k.setSlot l slot) := by
  obtain ⟨slots, c, hx, hy, hs, hc⟩ := hk
  refine .intro (slots.set l slot) c ?_ ?_ (fun m hm => ?_) hc
  · simpa [Host.setSlot, Slots.get?_set, hl] using hx
  · simpa [Slots.get?_set, hl] using hy
  · simp only [Host.setSlot, Slots.get?_set, hs m hm]

lemma launchFailed (hk : h.Alike a b x y k) (hl : l ≠ a) (restarts : Nat) (e : LaunchError) :
    (h.launchFailed l restarts e).Alike a b x y (k.launchFailed l restarts e) := by
  have hcleared : Alike a b x y
      { h.log .error "failed to launch language server" [("language", l.name)] with
        progress := h.progress.clear l }
      { k.log .error "failed to launch language server" [("language", l.name)] with
        progress := k.progress.clear l } := by
    obtain ⟨slots, c, hx, hy, hs, hc⟩ := hk
    exact .intro slots _ hx hy hs (hc.log _ _)
  have hdead := hcleared.setSlot hl (.dead restarts ("failed to launch: " ++ e.message))
  exact hdead.queue _

lemma ensureStarted (hk : h.Alike a b x y k) (hl : l ≠ a) :
    Tandem (Alike a b x y) (h.ensureStarted l) (k.ensureStarted l) := by
  have hi := hk.instance? hl
  have hshut : k.shuttingDown = h.shuttingDown := by
    obtain ⟨_, _, -, -, -, -⟩ := hk
    rfl
  simp only [Host.ensureStarted, hi, hshut]
  split
  · exact ⟨hk, rfl⟩
  cases h.instance? l with
  | none => exact ⟨hk, rfl⟩
  | some i =>
    simp only
    split
    · exact ⟨hk, rfl⟩
    obtain ⟨slots, c, hx, hy, hs, hc⟩ := hk
    obtain ⟨u, v, started, hu, hv, huv⟩ :=
      (i.start_tandem h.root h.environment h.nextGeneration hc).split
    have hbegun : Alike a b x y
        { h with connections := u, nextGeneration := h.nextGeneration + 1 }
        { h with slots, connections := v, nextGeneration := h.nextGeneration + 1 } :=
      .intro slots v hx hy hs huv
    simp only [hu, hv]
    cases started with
    | error e => exact ⟨hbegun.launchFailed hl _ e, rfl⟩
    | ok j => exact ⟨hbegun.setSlot hl _, rfl⟩

lemma inScope (hk : h.Alike a b x y k) (hl : l ≠ a) (d : Document) :
    k.inScope l (d.labelled b) = h.inScope l (d.labelled a) := by
  have hi := hk.instance? hl
  obtain ⟨_, _, -, -, -, -⟩ := hk
  simp only [Host.inScope, hi]
  rfl

lemma syncOnly (hk : h.Alike a b x y k) (hl : l ≠ a) {α : Type} {f f' : Sync → Sync.Result α}
    (hf : ∀ s t, s.Alike a b t → Tandem (Sync.Alike a b) (f s) (f' t)) :
    Tandem (Alike a b x y) (h.syncOnly l f) (k.syncOnly l f') := by
  have hi := hk.instance? hl
  cases hj : h.instance? l with
  | none =>
    simp only [Host.syncOnly, withSync, hi, hj]
    exact ⟨hk, rfl⟩
  | some i =>
    obtain ⟨slots, c, hx, hy, hs, hc⟩ := hk
    obtain ⟨u, v, result, hu, hv, huv⟩ := (hf ⟨i, h.versions, h.connections⟩
      ⟨i, h.versions, c⟩ (.intro c hc)).split
    obtain ⟨e, he⟩ := huv
    have hsynced : Alike a b x y { h with versions := u.versions, connections := u.connections }
        { h with slots, versions := u.versions, connections := e } := .intro slots e hx hy hs he
    simp only [Host.syncOnly, withSync, hi, hj, hu, hv]
    exact ⟨hsynced.setSlot hl _, rfl⟩

lemma slot (hk : h.Alike a b x y k) (hl : l ≠ a) :
    Tandem (Alike a b x y) (h.slot l) (k.slot l) := by
  have hg := hk.get? hl
  have hset := hk.settings
  cases hold : h.slots.get? l with
  | some old =>
    simp only [Host.slot, hg, hold]
    exact ⟨hk, rfl⟩
  | none =>
    rcases hm : configure h.settings l with ⟨notes, made⟩
    obtain ⟨slots, c, hx, hy, hs, hc⟩ := hk
    have hnoted : Alike a b x y
        { h with connections := notes.foldl Connections.log h.connections }
        { h with slots, connections := notes.foldl Connections.log c } :=
      .intro slots _ hx hy hs (hc.logs notes notes)
    simp only [Host.slot, hg, hold, hm]
    cases made with
    | error e => exact ⟨hnoted, rfl⟩
    | ok new => exact ⟨hnoted.setSlot hl new, rfl⟩

end Alike

section Resolving

lemma configure_defers (hs : s.server a.name = .ok c) (hd : c.Defers a b) :
    (configure s a).2 = .ok (.servedBy b) := by
  obtain ⟨hb, hne⟩ := hd
  obtain ⟨name, hname, hparse⟩ := Option.bind_eq_some_iff.mp hb
  simp only [configure, hs, hname, hparse, if_neg hne]

lemma configure_owns (hs : s.server b.name = .ok c) (ho : c.Owns b) :
    (configure s b).2 = .ok (.active { language := b, settings := c }) := by
  obtain ⟨hcommand, halias⟩ := ho
  have hsome : c.commandLine?.isNone = false := by simpa [Option.isSome_iff_ne_none] using hcommand
  rcases halias with halias | halias
  · simp [configure, hs, halias, hsome]
  · obtain ⟨name, hname, hparse⟩ := Option.bind_eq_some_iff.mp halias
    simp [configure, hs, hname, hparse, hsome]

/-- The language `a` is served by the server of `b`, which has a command of its own or was given up. -/
structure Aliases (h : Host) (a b : LanguageId) : Prop where
  deferred : ∃ c, h.settings.server a.name = .ok c ∧ c.Defers a b
  owned : (∃ c, h.settings.server b.name = .ok c ∧ c.Owns b) ∨
    ∃ restarts reason, h.slots.get? b = some (.dead restarts reason)

structure Forwards (h : Host) (a b : LanguageId) : Prop where
  arranged : h.Arranged
  deferred : (configure h.settings a).2 = .ok (.servedBy b)
  owned : ∃ i, (configure h.settings b).2 = .ok (.active i)

lemma Aliases.forwards (hh : h.Aliases a b) (ha : h.Arranged) : h.Forwards a b := by
  obtain ⟨⟨c, hc, hd⟩, howned⟩ := hh
  refine ⟨ha, configure_defers hc hd, ?_⟩
  rcases howned with ⟨e, he, ho⟩ | ⟨restarts, reason, hdead⟩
  · exact ⟨_, configure_owns he ho⟩
  · obtain ⟨made, hm, i, rfl⟩ := ha b _ hdead
    exact ⟨i, hm⟩

lemma Forwards.ne (hf : h.Forwards a b) : b ≠ a := by
  rintro rfl
  obtain ⟨i, hi⟩ := hf.owned
  simpa using hf.deferred.symm.trans hi

lemma Forwards.kept (hf : h.Forwards a b) (hk : k.Arranged) (hs : k.settings = h.settings) :
    k.Forwards a b :=
  ⟨hk, hs ▸ hf.deferred, hs ▸ hf.owned⟩

namespace Alike

lemma recorded (hk : h.Alike a b x y k) (hf : h.Forwards a b) :
    ∃ u, h.slot a = (u, .ok (.servedBy b)) ∧ u.Alike a b (some (.servedBy b)) y k := by
  obtain ⟨u, hu⟩ := slot_routed hf.arranged hf.deferred
  have hnew := slot_get? hu
  refine ⟨u, hu, ?_⟩
  obtain ⟨slots, c, hx, hy, hs, hc⟩ := hk
  -- If the slot is new, it is noted in the log of this session alone.
  cases hold : h.slots.get? a with
  | some slot =>
    obtain rfl : h = u := by simpa using congrArg Prod.fst ((slot_eq hold).symm.trans hu)
    exact .intro slots c hnew hy hs hc
  | none =>
    rcases hm : configure h.settings a with ⟨notes, made⟩
    obtain rfl : made = .ok (.servedBy b) := by simpa [hm] using hf.deferred
    simp only [Host.slot, hold, hm, Prod.mk.injEq, and_true] at hu
    subst hu
    refine .intro slots c hnew hy (fun l hl => (hs l hl).trans ?_) (hc.logs notes [])
    simp [Host.setSlot, Slots.get?_set, hl.symm]

lemma resolve (hk : h.Alike a b x y k) (hf : h.Forwards a b) :
    ∃ u v answer, h.resolve a = (u, answer) ∧ k.resolve b = (v, answer) ∧
      u.Alike a b (some (.servedBy b)) y v ∧
      (answer = .ok b ∨ answer = .error (.serverUnavailable b)) := by
  obtain ⟨u, hu, huk⟩ := hk.recorded hf
  have harranged := (slot_walk (P := fun _ => True) trivial h a).arranged hf.arranged
  rw [hu] at harranged
  obtain ⟨i, hi⟩ := hf.owned
  rw [← hk.settings, huk.settings] at hi
  obtain ⟨v, slot, hv, hfollows⟩ := slot_follows harranged hi
  obtain ⟨v', w, answer, hv', hw, hvw⟩ := (huk.slot hf.ne).split
  obtain ⟨rfl, rfl⟩ := Prod.mk.inj (hv.symm.trans hv')
  cases slot with
  | active j => exact ⟨v, w, .ok b, by simp only [Host.resolve, hu, hv],
      by simp only [Host.resolve, hw], hvw, .inl rfl⟩
  | dead => exact ⟨v, w, .error (.serverUnavailable b), by simp only [Host.resolve, hu, hv],
      by simp only [Host.resolve, hw], hvw, .inr rfl⟩
  | unused | servedBy => cases hfollows

end Alike

end Resolving

section Errands

namespace Alike

variable (d : Document)

lemma attach (hk : h.Alike a b x y k) (hf : h.Forwards a b) :
    ∃ u v answer, h.attach (d.labelled a) = (u, answer) ∧ k.attach (d.labelled b) = (v, answer) ∧
      u.Alike a b (some (.servedBy b)) y v ∧ ∀ l, answer = .ok (some l) → l = b := by
  obtain ⟨u, v, answer, hu, hv, huv, rfl | rfl⟩ := hk.resolve hf
  · have hscope := huv.inScope hf.ne d
    by_cases hin : u.inScope b (d.labelled a) = true
    · obtain ⟨u', v', started, hu', hv', huv'⟩ := (huv.ensureStarted hf.ne).split
      simp only [Host.attach, Document.labelled_language, hu, hv, hscope, hin, if_true, hu', hv']
      cases started with
      | error e => exact ⟨u', v', _, rfl, rfl, huv', by simp⟩
      | ok => exact ⟨u', v', _, rfl, rfl, huv', by simp⟩
    · simp only [Host.attach, Document.labelled_language, hu, hv, hscope, hin]
      exact ⟨_, _, _, rfl, rfl, huv.log _ _ _, by simp⟩
  · simp only [Host.attach, Document.labelled_language, hu, hv]
    exact ⟨u, v, _, rfl, rfl, huv, by simp⟩

lemma attachAndSync (hk : h.Alike a b x y k) (hf : h.Forwards a b) {α : Type}
    {f f' : Sync → Sync.Result α}
    (hs : ∀ s t, s.Alike a b t → Tandem (Sync.Alike a b) (f s) (f' t)) :
    Tandem (Alike a b (some (.servedBy b)) y) (h.attachAndSync (d.labelled a) f)
      (k.attachAndSync (d.labelled b) f') := by
  obtain ⟨u, v, answer, hu, hv, huv, hserving⟩ := hk.attach d hf
  simp only [Host.attachAndSync, hu, hv]
  rcases answer with e | _ | l
  · exact ⟨huv, rfl⟩
  · exact ⟨huv, rfl⟩
  · obtain rfl := hserving l rfl
    exact huv.syncOnly hf.ne hs

lemma didOpen (hk : h.Alike a b x y k) (hf : h.Forwards a b) :
    Tandem (Alike a b (some (.servedBy b)) y) (h.didOpen (d.labelled a))
      (k.didOpen (d.labelled b)) :=
  hk.attachAndSync d hf fun _ _ hst => hst.didOpen d

lemma didClose (hk : h.Alike a b x y k) (hf : h.Forwards a b) :
    Tandem (Alike a b (some (.servedBy b)) y) (h.didClose (d.labelled a))
      (k.didClose (d.labelled b)) := by
  obtain ⟨u, v, answer, hu, hv, huv, rfl | rfl⟩ := hk.resolve hf
  · simp only [Host.didClose, Host.closeOn, Document.labelled_language, hu, hv]
    exact huv.syncOnly hf.ne fun _ _ hst => hst.didClose d
  · simp only [Host.didClose, Host.closeOn, Document.labelled_language, hu, hv]
    exact ⟨huv, rfl⟩

lemma issue (hk : h.Alike a b x y k) (hl : l ≠ a) (kind : RequestKind) (params : Json) :
    Tandem (Alike a b x y) (h.issue l kind params) (k.issue l kind params) := by
  have hi := hk.instance? hl
  cases hg : (h.instance? l).bind (·.connection) with
  | none =>
    simp only [Host.issue, hi, hg]
    exact ⟨hk, rfl⟩
  | some g =>
    obtain ⟨slots, c, hx, hy, hs, hc⟩ := hk
    obtain ⟨u, v, called, hu, hv, huv⟩ :=
      (hc.call g kind.method params .caller).split
    simp only [Host.issue, hi, hg, hu, hv]
    exact ⟨.intro slots v hx hy hs huv, rfl⟩

lemma gate (hk : h.Alike a b x y k) (hf : h.Forwards a b) (f : Feature) :
    ∃ u v answer, h.gate a f = (u, answer) ∧ k.gate b f = (v, answer) ∧
      u.Alike a b (some (.servedBy b)) y v ∧ ∀ l, answer = .ok l → l = b := by
  obtain ⟨u, v, answer, hu, hv, huv, rfl | rfl⟩ := hk.resolve hf
  · obtain ⟨-, i, hi⟩ := resolve_serves hu
    simp only [Host.gate, hu, hv, huv.instance? hf.ne, hi]
    split
    · exact ⟨u, v, _, rfl, rfl, huv, by simp⟩
    · split
      · exact ⟨u, v, _, rfl, rfl, huv, by simp⟩
      · exact ⟨u, v, _, rfl, rfl, huv, by simp⟩
  · simp only [Host.gate, hu, hv]
    exact ⟨u, v, _, rfl, rfl, huv, by simp⟩

lemma request (hk : h.Alike a b x y k) (hf : h.Forwards a b) (kind : RequestKind) (p : Position) :
    Tandem (Alike a b (some (.servedBy b)) y) (h.request kind (d.labelled a) p)
      (k.request kind (d.labelled b) p) := by
  obtain ⟨u, v, answer, hu, hv, huv, hserving⟩ := hk.gate hf kind.feature
  simp only [Host.request, Document.labelled_language, Document.labelled_uriOrError, hu, hv]
  rcases answer with e | l
  · exact ⟨huv, rfl⟩
  obtain rfl := hserving l rfl
  cases d.uriOrError with
  | error e => exact ⟨huv, rfl⟩
  | ok uri =>
    simp only [huv.inScope hf.ne d]
    split
    · obtain ⟨u', v', opened, hu', hv', huv'⟩ :=
        (huv.syncOnly hf.ne fun _ _ hst => hst.didOpen d).split
      simp only [hu', hv']
      cases opened with
      | error e => exact ⟨huv', rfl⟩
      | ok => exact huv'.issue hf.ne kind _
    · exact ⟨huv, rfl⟩

end Alike

lemma errand_tandem (hc : h.Coherent) (hf : h.Forwards a b) (d : Document) (e : Errand) :
    Tandem (Alike a b (some (.servedBy b)) (h.slots.get? a))
      (h.perform (e.move (d.labelled a)), e.answer h (d.labelled a))
      (h.perform (e.move (d.labelled b)), e.answer h (d.labelled b)) := by
  have hself := Alike.refl (a := a) (b := b) h
  cases e with
  | opened => exact (hself.didOpen d hf).map (·.map fun _ => none)
  | changed change =>
    exact (hself.attachAndSync d hf fun _ _ hst => hst.didChange d change).map (·.map fun _ => none)
  | saved =>
    have hsaved := noteSaved_kept h d
    have hself := Alike.refl (a := a) (b := b) (h.noteSaved d)
    rw [hsaved.1] at hself
    have hf := hf.kept (hf.arranged.kept hsaved.1 hsaved.2) hsaved.2
    exact (hself.attachAndSync d hf fun _ _ hst => hst.didSave d).map (·.map fun _ => none)
  | closed => exact (hself.didClose d hf).map (·.map fun _ => none)
  | reloaded =>
    -- Closing leaves the settings as they are, so the document is opened by the same route.
    have harranged := perform_arranged hc hf.arranged (.didClose (d.labelled a))
    have hset := perform_settings hc (.didClose (d.labelled a))
    obtain ⟨u, v, answer, hu, hv, huv⟩ := (hself.didClose d hf).split
    simp only [perform, hu] at harranged hset
    have hdone : Tandem (Alike a b (some (.servedBy b)) (h.slots.get? a))
        (h.documentReloaded (d.labelled a)) (h.documentReloaded (d.labelled b)) := by
      simp only [documentReloaded, hu, hv]
      cases answer with
      | error e => exact ⟨huv, rfl⟩
      | ok => exact huv.didOpen d (hf.kept harranged hset)
    exact hdone.map (·.map fun _ => none)
  | asked kind p => exact (hself.request d hf kind p).map (·.map some)

end Errands

lemma Requests.owned {request : LaunchRequest} (hr : h.Requests l request) (ha : h.Arranged) :
    ∃ i, (configure h.settings request.language).2 = .ok (.active i) := by
  obtain ⟨rfl, i, hi, -⟩ := hr
  obtain ⟨made, hm, j, rfl, -⟩ := ha _ _ (instance?_eq_some.mp hi)
  exact ⟨j, hm⟩

end Host

/-- Two turns from the same session go alike, but for the language in which a document is opened, and
for the slot of `a`, which is recorded to be served by `b` in one of them. All else that the session
holds is the same, with the versions and what the editor is told. -/
structure Turn.Matches (a b : LanguageId) (t t' : Turn) : Prop where
  sent : List.Forall₂ (Submission.Alike a b) t.sent t'.sent
  launches : t'.launches = t.launches
  endings : t'.after.connections.endings = t.after.connections.endings
  clients : List.Forall₂ Client.Alike t.after.connections.clients t'.after.connections.clients
  inbox : t'.after.connections.inbox = t.after.connections.inbox
  mailbox : t'.after.connections.mailbox = t.after.connections.mailbox
  recorded : t.after.slots.get? a = some (.servedBy b)
  unrecorded : t'.after.slots.get? a = t'.before.slots.get? a
  slots : ∀ l, l ≠ a → t'.after.slots.get? l = t.after.slots.get? l
  rest : t'.after =
    { t.after with slots := t'.after.slots, connections := t'.after.connections }

namespace Host

variable {a b : LanguageId} {h k : Host}

lemma Alike.turns_match {t t' : Turn} (hb : t'.before = t.before)
    (ha : t.after.Alike a b (some (.servedBy b)) (t.before.slots.get? a) t'.after) :
    t.Matches a b t' where
  sent := by
    rw [Turn.sent, Turn.sent, hb]
    exact List.forall₂_drop _ ha.connections.submissions
  launches := by
    rw [Turn.launches, Turn.launches, hb]
    exact congrArg (List.drop _) (ha.connections.picked (fun _ _ => rfl) fun _ _ _ => rfl)
  endings := ha.connections.picked (fun _ _ => rfl) fun _ _ _ => rfl
  clients := ha.connections.clients
  inbox := ha.connections.inbox
  mailbox := ha.connections.mailbox
  recorded := ha.slot_left
  unrecorded := hb ▸ ha.slot_right
  slots _ hl := ha.get? hl
  rest := ha.frame

/-- As long as the server of one language is used for another one, whatever the editor does about a
document comes to the same in both languages: the server is sent the same, but for the language in which
the document is opened, the same is launched, and the editor is answered and told the same. Nothing is
ever launched for a language that another one serves. -/
theorem aliases_transparent (settings : Settings) (root : Option FilePath) (environment : Environment)
    (ms : List Move) (hk : (fresh settings root environment).run ms = k) :
    (∀ a b, k.Aliases a b → ∀ (e : Errand) (d : Document),
      e.answer k (d.labelled a) = e.answer k (d.labelled b) ∧
        Turn.Matches a b ⟨k, e.move (d.labelled a)⟩ ⟨k, e.move (d.labelled b)⟩) ∧
    ∀ t ∈ (fresh settings root environment).turns ms, ∀ a b c,
      t.after.settings.server a.name = .ok c → c.Defers a b →
        ∀ r ∈ t.launches, r.2.language ≠ a := by
  subst hk
  have hc := fresh_coherent settings root environment
  have ha := fresh_arranged settings root environment
  generalize fresh settings root environment = h at hc ha
  refine ⟨fun a b haliases e d => ?_, fun t ht a b c hserver hdefers r hr => ?_⟩
  · obtain ⟨halike, hanswer⟩ := errand_tandem (run_coherent hc ms)
      (haliases.forwards (run_arranged hc ha ms)) d e
    exact ⟨hanswer.symm, Alike.turns_match rfl halike⟩
  · obtain ⟨pre, post, hsplit⟩ := List.append_of_mem ht
    obtain ⟨ns, -, hbefore, -, -⟩ := turns_mem_split hsplit
    obtain ⟨i, hi⟩ := turn_launched
      (P := fun r s _ => ∃ i, (configure s r.language).2 = .ok (.active i))
      (fun _ _ _ hr hau => hr.owned hau) (hbefore ▸ run_coherent hc ns)
      (hbefore ▸ run_arranged hc ha ns) r hr
    rintro rfl
    simpa using (configure_defers hserver hdefers).symm.trans hi

end Host

namespace Sample

def dialect : LanguageId := ⟨"d", by decide, by decide⟩

def dialects : Settings :=
  ⟨[⟨⟨"settings"⟩, [], [], [("c", [[("command", .str "serve")]]), ("d", [[("use", .str "c")]])]⟩], {}⟩

def bilingual : Host := Host.fresh dialects none environment

def detour : List Move := .didOpen (document.labelled dialect) :: greeting

def question : Errand := .asked .hover ⟨0, 0⟩

end Sample

namespace Host

theorem detour_transparent :
    (Sample.bilingual.run Sample.detour).Aliases Sample.dialect Sample.language ∧
      Sample.question.answer (Sample.bilingual.run Sample.detour)
          (Sample.document.labelled Sample.dialect) =
        Sample.question.answer (Sample.bilingual.run Sample.detour)
          (Sample.document.labelled Sample.language) ∧
      Turn.Matches Sample.dialect Sample.language
        ⟨Sample.bilingual.run Sample.detour,
          Sample.question.move (Sample.document.labelled Sample.dialect)⟩
        ⟨Sample.bilingual.run Sample.detour,
          Sample.question.move (Sample.document.labelled Sample.language)⟩ ∧
      (Turn.sent ⟨Sample.bilingual.run Sample.detour,
        Sample.question.move (Sample.document.labelled Sample.dialect)⟩).length = 2 ∧
      ∃ t ∈ Sample.bilingual.turns Sample.detour, t.launches.length = 1 ∧
        ∀ r ∈ t.launches, r.2.language ≠ Sample.dialect := by
  obtain ⟨hmatches, hlaunches⟩ :=
    aliases_transparent Sample.dialects none Sample.environment Sample.detour rfl
  have hsettings (ms : List Move) (hm : ∀ m ∈ ms, ∀ s w, m ≠ .reconfigure s w) :
      (Sample.bilingual.run ms).settings = Sample.dialects :=
    (run_settings (fresh_coherent ..) ms).trans (settings_unchanged _ hm)
  have hdialect : (Sample.dialects.server Sample.dialect.name).toOption.any
      (·.Defers Sample.dialect Sample.language) = true := by decide +kernel
  have hlanguage : (Sample.dialects.server Sample.language.name).toOption.any
      (·.Owns Sample.language) = true := by decide +kernel
  have hserver {l : LanguageId} {p : ServerSettings → Bool}
      (hp : (Sample.dialects.server l.name).toOption.any p = true) :
      ∃ c, Sample.dialects.server l.name = .ok c ∧ p c = true := by
    cases hs : Sample.dialects.server l.name with
    | error e => simp [hs, Except.toOption] at hp
    | ok c => exact ⟨c, rfl, by simpa [hs, Except.toOption] using hp⟩
  obtain ⟨c, hc, hdefers⟩ := hserver hdialect
  obtain ⟨e, he, howns⟩ := hserver hlanguage
  have haliases : (Sample.bilingual.run Sample.detour).Aliases Sample.dialect Sample.language := by
    have hset := hsettings Sample.detour (by simp [Sample.detour, Sample.greeting])
    exact ⟨⟨c, hset ▸ hc, of_decide_eq_true hdefers⟩, .inl ⟨e, hset ▸ he, of_decide_eq_true howns⟩⟩
  obtain ⟨hanswer, hturns⟩ := hmatches _ _ haliases Sample.question Sample.document
  refine ⟨haliases, hanswer, hturns, by decide +kernel,
    ⟨Sample.bilingual, .didOpen (Sample.document.labelled Sample.dialect)⟩, ?_, by decide +kernel, ?_⟩
  · exact List.mem_cons_self
  · refine hlaunches _ List.mem_cons_self _ _ c ?_ (of_decide_eq_true hdefers)
    have hset := hsettings [.didOpen (Sample.document.labelled Sample.dialect)] (by simp)
    exact hset ▸ hc

end Host

end LanguageHost
