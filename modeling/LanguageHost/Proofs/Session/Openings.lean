import LanguageHost.Proofs.Session.Aliasing
import LanguageHost.Proofs.Session.Ranges
import LanguageHost.Proofs.Session.Requests

namespace LanguageHost

def HostError.operation? : HostError → Option Operation
  | rpc _ operation _ => some operation
  | _ => none

def HostError.refuses : HostError → Bool
  | rpc .. | invalidUri _ => false
  | _ => true

lemma HostError.refuses_operation {e : HostError} (he : e.refuses = true) : e.operation? = none := by
  cases e <;> first | rfl | cases he

def Errand.attends : Errand → Bool
  | closed | reloaded => false
  | opened | changed _ | saved | asked .. => true

def Errand.synchronises : Errand → Bool
  | opened | changed _ | saved => true
  | closed | reloaded | asked .. => false

namespace Sync

variable {s t : Sync} {d : Document} {e : HostError}

inductive Misses (s : Sync) (d : Document) : Sync → HostError → Prop
  | unnamed (e : HostError) (ho : s.server.openUri? d.id = none) (hu : d.uriOrError = .error e) :
    Misses s d s e
  | unwritten (t : Sync) (uri : Uri) (e : HostError) (ho : s.server.openUri? d.id = none)
      (hu : d.uriOrError = .ok uri) (hw : s.openAs d uri = (t, .error e)) : Misses s d t e

structure Fails (s : Sync) (d : Document) (t : Sync) (e : HostError) : Prop where
  ready : s.isReady = true
  missed : s.Misses d t e ∨ ∃ operation, e.operation? = some operation ∧ operation ≠ .didOpen

lemma notify_error {operation : Operation} {method : String} {params : Json}
    (h : s.notify operation method params = (t, .error e)) : e.operation? = some operation := by
  cases hg : s.server.connection with
  | none => simp [notify, hg] at h
  | some g =>
    cases hsent : (s.connections.notify g method params).2 with
    | ok => simp [notify, hg, hsent, Except.mapError] at h
    | error cause =>
      obtain ⟨-, rfl⟩ : _ ∧ HostError.rpc s.server.language operation cause = e := by
        simpa [notify, hg, hsent, Except.mapError] using h
      rfl

lemma didOpen_fails (h : s.didOpen d = (t, .error e)) : s.Fails d t e := by
  by_cases hr : s.isReady = true
  · cases ho : s.server.openUri? d.id with
    | some uri => simp [didOpen, ho] at h
    | none =>
      rcases hu : d.uriOrError with x | uri
      · obtain ⟨rfl, rfl⟩ : s = t ∧ x = e := by simpa [didOpen, hr, ho, hu] using h
        exact ⟨hr, .inl (.unnamed x ho hu)⟩
      · rcases hw : s.openAs d uri with ⟨u, x | _⟩
        · obtain ⟨rfl, rfl⟩ : u = t ∧ x = e := by
            simpa [didOpen, hr, ho, hu, hw, Except.map] using h
          exact ⟨hr, .inl (.unwritten u uri x ho hu hw)⟩
        · simp [didOpen, hr, ho, hu, hw, Except.map] at h
  · simp [didOpen, hr] at h

lemma didChange_fails {change : TextChange} (h : s.didChange d change = (t, .error e)) :
    s.Fails d t e := by
  by_cases hr : s.isReady = true
  · cases ho : s.server.openUri? d.id with
    | some uri =>
      simp only [didChange, hr, ho, Bool.not_true, Bool.false_eq_true, if_false, changeOpen] at h
      exact ⟨hr, .inr ⟨_, notify_error h, by decide⟩⟩
    | none =>
      rcases hw : s.didOpen d with ⟨u, x | b⟩
      · obtain ⟨rfl, rfl⟩ : u = t ∧ x = e := by
          simpa [didChange, hr, ho, hw, Except.map] using h
        exact didOpen_fails hw
      · simp [didChange, hr, ho, hw, Except.map] at h
  · simp [didChange, hr] at h

lemma didSave_fails (h : s.didSave d = (t, .error e)) : s.Fails d t e := by
  by_cases hr : s.isReady = true
  · rcases hw : s.didOpen d with ⟨u, x | b⟩
    · obtain ⟨rfl, rfl⟩ : u = t ∧ x = e := by simpa [didSave, hr, hw] using h
      exact didOpen_fails hw
    · cases ho : u.server.openUri? d.id with
      | none => simp [didSave, hr, hw, ho] at h
      | some uri =>
        simp only [didSave, hr, hw, ho, Bool.not_true, Bool.false_eq_true, if_false] at h
        exact ⟨hr, .inr ⟨_, notify_error h, by decide⟩⟩
  · simp [didSave, hr] at h

end Sync

namespace Host

variable {h k m : Host} {l : LanguageId} {i : Instance} {g : Nat} {d : Document} {e : HostError}

structure Unsaid (h k : Host) : Prop where
  said : ∃ sent, k.connections.submissions = h.connections.submissions ++ sent ∧
    ∀ s ∈ sent, s.2.1.act? = none
  runs : ∀ l i g, k.Runs l i g → h.Runs l i g

/-- The server for a document has not seen it, if it is ready. -/
def Lacks (h : Host) (d : Document) : Prop :=
  ∀ l i g, h.Serves l d → h.Runs l i g → i.openUri? d.id = none

/-- The frame that opens a document is not taken by its server, which has the document as open all the
same. -/
structure Spoils (h k : Host) (d : Document) (l : LanguageId) (g : Nat) (fault : TransportError) :
    Prop where
  unseen : ∃ i, h.Runs l i g ∧ i.openUri? d.id = none
  sent : ∃ uri language version, d.uriOrError = .ok uri ∧
    k.connections.submissions = h.connections.submissions ++
      [(g, .notification "textDocument/didOpen"
        (some (Sync.openParams uri language version d.text)), .error fault)]
  recorded : ∃ uri i, d.uriOrError = .ok uri ∧ k.Runs l i g ∧ i.openUri? d.id = some uri

inductive Fails (h : Host) (d : Document) : Host → HostError → Prop
  | unsaid (k : Host) (e : HostError) (hs : h.Unsaid k) (he : e.operation? = none) : Fails h d k e
  | spoilt (k : Host) (l : LanguageId) (g : Nat) (fault : TransportError)
      (hs : h.Spoils k d l g fault) : Fails h d k (.rpc l .didOpen (.transport fault))
  | undone (k : Host) (e : HostError) (operation : Operation) (he : e.operation? = some operation)
      (hop : operation ≠ .didOpen) : Fails h d k e

lemma Walk.unsaid (hw : Walk (Deed.Calm none) h k) (hc : h.Coherent) : h.Unsaid k := by
  obtain ⟨sent, hsub, hd⟩ := hw.discourse hc
  have hstep : ∀ deed, Deed.Calm none deed → Deed.Concerns none deed := by
    rintro deed hp d hd
    cases deed <;> cases hd <;> exact hp
  refine ⟨⟨sent, hsub, fun s hs => ?_⟩, fun l i g => hw.runs hc⟩
  by_contra hact
  obtain ⟨_, _, deed, d, _, _, _, _, -, hp, hdeed, -⟩ :=
    hd.addressed hs (Option.ne_none_iff_isSome.mp hact)
  cases hstep deed hp d hdeed

lemma Consults.unsaid (hk : h.Consults k) (hc : h.Coherent) : h.Unsaid k where
  said := ⟨[], by simp [hk.quiet.1], by simp⟩
  runs l i g hi := by
    obtain ⟨n, hn⟩ := hk.runs hc hi.current hi.ready
    obtain rfl := Option.some.inj (hn.linked.symm.trans hi.linked)
    exact hn

lemma slot_error {k : Host} (hs : h.slot l = (k, .error e)) : e.refuses = true := by
  cases hl : h.slots.get? l with
  | some slot => simp [Host.slot, hl] at hs
  | none =>
    have hmade : (configure h.settings l).2 = .error e := by
      rcases hc : configure h.settings l with ⟨notes, x | slot⟩ <;> simp [Host.slot, hl, hc] at hs
      rw [hs.2]
    simp only [configure] at hmade
    repeat' split at hmade
    all_goals cases hmade
    all_goals rfl

lemma resolve_error (hr : h.resolve l = (k, .error e)) : e.refuses = true := by
  rcases hs : h.slot l with ⟨m, x | slot⟩
  · obtain ⟨-, rfl⟩ : m = k ∧ x = e := by simpa [resolve, hs] using hr
    exact slot_error hs
  cases slot with
  | active i => simp [resolve, hs] at hr
  | unused | dead =>
    obtain ⟨-, rfl⟩ := by simpa only [resolve, hs, Prod.mk.injEq, Except.error.injEq] using hr
    rfl
  | servedBy target =>
    rcases ht : m.slot target with ⟨n, x | slot⟩
    · obtain ⟨-, rfl⟩ : n = k ∧ x = e := by simpa [resolve, hs, ht] using hr
      exact slot_error ht
    · cases slot with
      | active i => simp [resolve, hs, ht] at hr
      | _ =>
        obtain ⟨-, rfl⟩ := by
          simpa only [resolve, hs, ht, Prod.mk.injEq, Except.error.injEq] using hr
        rfl

lemma ensureStarted_error (hs : h.ensureStarted l = (k, .error e)) : e.refuses = true := by
  by_cases hd : h.shuttingDown = true
  · simp [ensureStarted_shut hd] at hs
  by_cases hn : ∀ i, h.instance? l = some i → i.state ≠ .stopped
  · simp [ensureStarted_running hn] at hs
  push Not at hn
  obtain ⟨i, hi, hst⟩ := hn
  rw [Bool.not_eq_true] at hd
  rcases hr : i.start h.root h.environment h.nextGeneration h.connections with ⟨c, x | j⟩
  · obtain ⟨-, rfl⟩ : _ ∧ HostError.launch l x = e := by
      simpa [ensureStarted, hd, hi, hst, hr] using hs
    rfl
  · simp [ensureStarted, hd, hi, hst, hr] at hs

lemma attach_error (ha : h.attach d = (k, .error e)) : e.refuses = true := by
  cases hd : d.language with
  | none => simp [attach, hd] at ha
  | some n =>
    rcases hr : h.resolve n with ⟨m, x | serving⟩
    · have hx := resolve_error hr
      cases x <;> simp only [attach, hd, hr, Prod.mk.injEq, Except.error.injEq, reduceCtorEq,
        and_false] at ha <;> exact ha.2 ▸ hx
    · by_cases hin : m.inScope serving d = true
      · rcases hs : m.ensureStarted serving with ⟨n, x | u⟩
        · obtain ⟨-, rfl⟩ : n = k ∧ x = e := by simpa [attach, hd, hr, hin, hs] using ha
          exact ensureStarted_error hs
        · simp [attach, hd, hr, hin, hs] at ha
      · simp [attach, hd, hr, hin] at ha

lemma attach_ready (ha : h.attach d = (k, .ok (some l))) (hi : k.instance? l = some i)
    (hr : i.state = .ready) : h.Consults k := by
  cases hd : d.language with
  | none => simp [attach, hd] at ha
  | some n =>
    have hm := resolve_consults h n
    rcases hres : h.resolve n with ⟨m, x | serving⟩ <;> rw [hres] at hm
    · cases x <;> simp [attach, hd, hres] at ha
    · by_cases hin : m.inScope serving d = true
      · rcases hs : m.ensureStarted serving with ⟨v, x | u⟩
        · simp [attach, hd, hres, hin, hs] at ha
        · obtain ⟨rfl, rfl⟩ : v = k ∧ serving = l := by simpa [attach, hd, hres, hin, hs] using ha
          rcases ensureStarted_ok hs with rfl | ⟨j, c, g, -, -, rfl⟩
          · exact hm
          -- A server that was launched right now is not ready.
          · obtain rfl : j.greeting g = i := by simpa [instance?_setInstance] using hi
            simp [Instance.greeting] at hr
      · simp [attach, hd, hres, hin] at ha

lemma uriOrError_operation (hu : d.uriOrError = .error e) : e.operation? = none := by
  cases hd : d.uri with
  | ok uri => simp [Document.uriOrError, hd, Except.mapError] at hu
  | error text =>
    obtain rfl : HostError.invalidUri text = e := by
      simpa [Document.uriOrError, hd, Except.mapError] using hu
    rfl

section Synchronising

variable {t : Sync} (hc : h.Coherent) (hk : h.Consults k) (hi : k.instance? l = some i)
  (hr : i.state = .ready)
include hc hk hi hr

lemma misses_fails (hkc : k.Coherent) (hm : (k.syncing i).Misses d t e) :
    h.Fails d (k.synced l t) e := by
  obtain ⟨g, hrun⟩ := hk.runs hc hi hr
  cases hm with
  | unnamed e ho hu =>
    have hun := hk.unsaid hc
    exact .unsaid _ e ⟨hun.said, fun l i g hv => hun.runs l i g (runs_touched rfl hi hv)⟩
      (uriOrError_operation hu)
  | unwritten t uri e ho hu hw =>
    have hl : k.connections.language? g = some l := hkc.linked hi hrun.linked
    obtain ⟨result, he, hresult⟩ := Sync.openAs_sends (s := k.syncing i) hrun.linked hl d uri
    -- The record is made first, and a frame that is refused does not take it back.
    have hserver : ((k.syncing i).openAs d uri).1.server = i.addOpen d.id uri :=
      ((k.syncing i).openAs_touches d uri).1
    rw [hw] at he hresult hserver
    have hlang : i.language = l := (hkc.sound hi).language
    cases result with
    | ok => simp [Except.mapError] at hresult
    | error fault =>
      obtain rfl : e = .rpc l .didOpen (.transport fault) := by
        simpa [Except.mapError, syncing, hlang] using hresult
      have hsent := he.submissions
      rw [show (k.syncing i).connections.submissions = h.connections.submissions from hk.quiet.1] at hsent
      refine .spoilt _ l g fault ⟨⟨i, hrun, ho⟩, ⟨uri, _, _, hu, hsent⟩,
        ⟨uri, t.server, hu, ⟨?_, ?_, ?_⟩, ?_⟩⟩
      · simp [synced, instance?_setInstance]
      · rw [hserver]
        exact hr
      · rw [hserver]
        exact hrun.linked
      · rw [hserver, openUri?_addOpen (i := i) ho, if_pos rfl]

lemma synced_fails (hkc : k.Coherent) (hf : (k.syncing i).Fails d t e) :
    h.Fails d (k.synced l t) e := by
  rcases hf.missed with hm | ⟨operation, he, hop⟩
  · exact misses_fails hc hk hi hr hkc hm
  · exact .undone _ e operation he hop

lemma syncOnly_fails {α : Type} {f : Sync → Sync.Result α} (hkc : k.Coherent)
    (hf : ∀ t, f (k.syncing i) = (t, .error e) → (k.syncing i).Fails d t e)
    (hs : k.syncOnly l f = (m, .error e)) : h.Fails d m e := by
  rw [syncOnly_eq hi] at hs
  rcases hw : f (k.syncing i) with ⟨t, x | a⟩
  · obtain ⟨rfl, rfl⟩ : k.synced l t = m ∧ x = e := by simpa [hw, Except.map] using hs
    exact synced_fails hc hk hi hr hkc (hf t hw)
  · simp [hw, Except.map] at hs

end Synchronising

lemma attachAndSync_error {α : Type} {f : Sync → Sync.Result α}
    (hs : h.attachAndSync d f = (m, .error e)) :
    h.attach d = (m, .error e) ∨ ∃ k l i t, h.attach d = (k, .ok (some l)) ∧ k.instance? l = some i ∧
      f (k.syncing i) = (t, .error e) ∧ k.synced l t = m := by
  rcases ha : h.attach d with ⟨k, x | _ | l⟩
  · obtain ⟨rfl, rfl⟩ : k = m ∧ x = e := by simpa [attachAndSync, ha] using hs
    exact .inl rfl
  · simp [attachAndSync, ha] at hs
  · have hsync : k.syncOnly l f = (m, .error e) := by simpa only [attachAndSync, ha] using hs
    cases hi : k.instance? l with
    | none => simp [syncOnly, withSync, hi, Except.map] at hsync
    | some i =>
      rw [syncOnly_eq hi] at hsync
      rcases hw : f (k.syncing i) with ⟨t, x | a⟩
      · obtain ⟨rfl, rfl⟩ : k.synced l t = m ∧ x = e := by simpa [hw, Except.map] using hsync
        exact .inr ⟨k, l, i, t, rfl, hi, hw, rfl⟩
      · simp [hw, Except.map] at hsync

lemma attachAndSync_fails {α : Type} {f : Sync → Sync.Result α} (hc : h.Coherent)
    (hf : ∀ s t e, f s = (t, .error e) → s.Fails d t e)
    (hs : h.attachAndSync d f = (m, .error e)) : h.Fails d m e := by
  have hw := attach_walk (P := Deed.Calm none) trivial (fun _ => trivial) h d
  rcases attachAndSync_error hs with ha | ⟨k, l, i, t, ha, hi, ht, rfl⟩ <;> rw [ha] at hw
  · exact .unsaid m e (hw.unsaid hc) (HostError.refuses_operation (attach_error ha))
  · have hr : i.state = .ready := of_decide_eq_true (hf _ t e ht).ready
    exact synced_fails hc (attach_ready ha hi hr) hi hr (hw.coherent hc) (hf _ t e ht)

section Lacking

lemma attach_unready (hc : h.Coherent) (har : h.Arranged) (ha : h.attach d = (k, .error e))
    (hs : k.Serves l d) : ¬k.Runs l i g := by
  intro hi
  have hw := attach_walk (P := Deed.Calm none) trivial (fun _ => trivial) h d
  rw [ha] at hw
  obtain ⟨n, hn, hroutes⟩ := hs.routes (hw.arranged har)
  rw [(hw.continues hc).settings] at hroutes
  obtain ⟨v, hv, hvi⟩ := resolve_routed har ((hw.unsaid hc).runs l i g hi).current hroutes
  have hstarted : v.ensureStarted l = (v, .ok ()) :=
    ensureStarted_running fun j hj => by
      obtain rfl := Option.some.inj (hvi.symm.trans hj)
      simp [hi.ready]
  by_cases hin : v.inScope l d = true
  · simp [attach, hn, hv, hin, hstarted] at ha
  · simp [attach, hn, hv, hin] at ha

lemma attachAndSync_lacks {α : Type} {f : Sync → Sync.Result α} (hc : h.Coherent) (har : h.Arranged)
    (hf : ∀ s t e, f s = (t, .error e) → s.Fails d t e) (he : e.operation? = none)
    (hs : h.attachAndSync d f = (m, .error e)) :
    m.Lacks d ∧ (e.refuses = false → ∃ l i g, m.Serves l d ∧ m.Runs l i g) := by
  rcases attachAndSync_error hs with ha | ⟨k, l, i, t, ha, hi, ht, rfl⟩
  · refine ⟨fun l i g hserves hrun => absurd hrun (attach_unready hc har ha hserves), fun hrefuses => ?_⟩
    simp [attach_error ha] at hrefuses
  have hw := attach_walk (P := Deed.Calm none) trivial (fun _ => trivial) h d
  rw [ha] at hw
  have hready : i.state = .ready := of_decide_eq_true (hf _ t e ht).ready
  rcases (hf _ t e ht).missed with hm | ⟨operation, hsome, -⟩
  · cases hm with
    | unwritten t uri e ho hu hw => cases he.symm.trans (Sync.notify_error hw)
    | unnamed e ho hu =>
      have hka := hw.arranged har
      have hma : (k.synced l (k.syncing i)).Arranged := hka.filled rfl rfl (hka.active hi rfl)
      have hserves : (k.synced l (k.syncing i)).Serves l d :=
        serves_setInstance (attach_admits ha).1 hi i
      have hinstance : (k.synced l (k.syncing i)).instance? l = some i := by
        simp [synced, syncing, instance?_setInstance]
      refine ⟨fun n j g hn hj => ?_, fun _ => ?_⟩
      · obtain ⟨a, hlang, hl⟩ := hserves.routes hma
        obtain ⟨b, hb, hn⟩ := hn.routes hma
        obtain rfl := Option.some.inj (hlang.symm.trans hb)
        obtain rfl := hma.route_unique hinstance hj.current hl hn
        obtain rfl := Option.some.inj (hinstance.symm.trans hj.current)
        exact ho
      · obtain ⟨g, hrun⟩ := (hw.coherent hc).runs hi hready
        exact ⟨l, i, g, hserves, ⟨hinstance, hready, hrun.linked⟩⟩
  · cases he.symm.trans hsome

end Lacking

lemma gate_error {f : Feature} (hg : h.gate l f = (k, .error e)) : e.refuses = true := by
  rcases hr : h.resolve l with ⟨m, x | serving⟩
  · obtain ⟨-, rfl⟩ : m = k ∧ x = e := by simpa [gate, hr] using hg
    exact resolve_error hr
  · simp only [gate, hr] at hg
    split at hg
    · obtain ⟨-, rfl⟩ := by simpa using hg
      rfl
    · split at hg
      · obtain ⟨-, rfl⟩ := by simpa using hg
        rfl
      · split at hg
        · cases hg
        · obtain ⟨-, rfl⟩ := by simpa using hg
          rfl

lemma issue_error {kind : RequestKind} {params : Json} (hi : h.instance? l = some i)
    (hg : i.connection = some g) (hs : h.issue l kind params = (k, .error e)) :
    e.operation? = some kind.operation := by
  rcases hc : h.connections.call g kind.method params .caller with ⟨c, cause | id⟩
  · obtain ⟨-, rfl⟩ : _ ∧ HostError.rpc l kind.operation cause = e := by
      simpa [issue, hi, hg, hc] using hs
    rfl
  · simp [issue, hi, hg, hc] at hs

lemma request_fails (hc : h.Coherent) {kind : RequestKind} {p : Position}
    (hs : h.request kind d p = (m, .error e)) : h.Fails d m e := by
  cases hd : d.language with
  | none =>
    obtain ⟨rfl, rfl⟩ : h = m ∧ HostError.unknownLanguage = e := by simpa [request, hd] using hs
    exact .unsaid h _ ((Consults.refl h).unsaid hc) rfl
  | some n =>
    have hk := gate_consults h n kind.feature
    have hw := gate_walk (P := fun _ => True) trivial h n kind.feature
    rcases hg : h.gate n kind.feature with ⟨k, x | l⟩ <;> rw [hg] at hk hw
    · obtain ⟨rfl, rfl⟩ : k = m ∧ x = e := by simpa [request, hd, hg] using hs
      exact .unsaid k x (hk.unsaid hc) (HostError.refuses_operation (gate_error hg))
    obtain ⟨-, i, hi, hr, -⟩ := gate_ok hg
    have hkc := hw.coherent hc
    rcases hu : d.uriOrError with x | uri
    · obtain ⟨rfl, rfl⟩ : k = m ∧ x = e := by simpa [request, hd, hg, hu] using hs
      exact .unsaid k x (hk.unsaid hc) (uriOrError_operation hu)
    by_cases hin : k.inScope l d = true
    · rcases ho : k.syncOnly l (·.didOpen d) with ⟨v, x | u⟩
      · obtain ⟨rfl, rfl⟩ : v = m ∧ x = e := by simpa [request, hd, hg, hu, hin, ho] using hs
        exact syncOnly_fails hc hk hi hr hkc (fun _ => Sync.didOpen_fails) ho
      · -- The document is open now, and what fails is the request.
        have hissue : v.issue l kind (kind.documentParams uri p) = (m, .error e) := by
          simpa [request, hd, hg, hu, hin, ho] using hs
        obtain ⟨g, hrun⟩ := hkc.runs hi hr
        have hl : (k.connections.language? g).isSome = true := by rw [hkc.linked hi hrun.linked]; rfl
        rcases opening_cases hrun hl hu kind p with ⟨_, _, hv, -⟩ | ⟨_, j, _, hv, hj, hjg, -, -⟩ <;>
          rw [ho] at hv <;> cases hv
        exact .undone m e _ (issue_error hj hjg hissue) (by cases kind <;> simp [RequestKind.operation])
    · obtain ⟨rfl, rfl⟩ : k = m ∧ HostError.outsideProject l = e := by
        simpa [request, hd, hg, hu, hin] using hs
      exact .unsaid k _ (hk.unsaid hc) rfl

lemma Fails.of_kept (hs : k.slots = h.slots)
    (he : k.connections.submissions = h.connections.submissions) (hf : k.Fails d m e) :
    h.Fails d m e := by
  have hruns {l : LanguageId} {i : Instance} {g : Nat} (hi : k.Runs l i g) : h.Runs l i g :=
    runs_kept hs hi
  cases hf with
  | unsaid e hm hop =>
    exact .unsaid m e ⟨he ▸ hm.said, fun l i g hi => hruns (hm.runs l i g hi)⟩ hop
  | spoilt l g fault hm =>
    obtain ⟨i, hi, ho⟩ := hm.unseen
    exact .spoilt m l g fault ⟨⟨i, hruns hi, ho⟩, he ▸ hm.sent, hm.recorded⟩
  | undone e operation hop hne => exact .undone m e operation hop hne

lemma answer_error {α β : Type} {r : Host × Except HostError α} {f : α → β}
    (hr : r.2.map f = .error e) : r = (r.1, .error e) := by
  rcases r with ⟨k, x | a⟩
  · obtain rfl : x = e := by simpa [Except.map] using hr
    rfl
  · simp [Except.map] at hr

lemma errand_fails (hc : h.Coherent) {c : Errand} (hn : c.attends = true)
    (he : c.answer h d = .error e) : h.Fails d (h.perform (c.move d)) e := by
  cases c with
  | opened => exact attachAndSync_fails hc (fun _ _ _ => Sync.didOpen_fails) (answer_error he)
  | changed change => exact attachAndSync_fails hc (fun _ _ _ => Sync.didChange_fails) (answer_error he)
  | saved =>
    have hkept := noteSaved_kept h d
    have hnoted : (h.noteSaved d).connections.submissions = h.connections.submissions := by
      simpa using (noteSaved_evolves h d).submissions
    have hcoherent := (noteSaved_gentle h d).coherent hc
    exact (attachAndSync_fails hcoherent (fun _ _ _ => Sync.didSave_fails)
      (answer_error he)).of_kept hkept.1 hnoted
  | asked kind p => exact request_fails hc (answer_error he)
  | closed | reloaded => cases hn

lemma errand_lacks (hc : h.Coherent) (har : h.Arranged) {c : Errand} (hn : c.synchronises = true)
    (he : c.answer h d = .error e) (hop : e.operation? = none) :
    (h.perform (c.move d)).Lacks d ∧ (e.refuses = false → ∃ l i g,
      (h.perform (c.move d)).Serves l d ∧ (h.perform (c.move d)).Runs l i g) := by
  cases c with
  | opened => exact attachAndSync_lacks hc har (fun _ _ _ => Sync.didOpen_fails) hop (answer_error he)
  | changed change =>
    exact attachAndSync_lacks hc har (fun _ _ _ => Sync.didChange_fails) hop (answer_error he)
  | saved =>
    have hnoted := noteSaved_gentle h d
    exact attachAndSync_lacks (hnoted.coherent hc) (hnoted.calm.arranged har)
      (fun _ _ _ => Sync.didSave_fails) hop (answer_error he)
  | closed | reloaded | asked => cases hn

/-- What is said about a document from now on, if it is open already: it is opened only after it was
closed. -/
def Stays (acts : List DocumentAct) : Prop :=
  ∃ uses rest, acts = uses ++ rest ∧ (∀ a ∈ uses, a = .uses) ∧
    (rest = [] ∨ ∃ more, rest = .closes :: more ∧ Visits more)

lemma run_future {settings : Settings} {root : Option FilePath} {environment : Environment}
    {ms : List Move} (hi : ((fresh settings root environment).run ms).Runs l i g) (id : DocumentId)
    (ns : List Move) :
    (i.openUri? id = none →
      Visits ((((fresh settings root environment).run ms).turns ns).flatMap (·.acts g id))) ∧
    ((i.openUri? id).isSome = true →
      Stays ((((fresh settings root environment).run ms).turns ns).flatMap (·.acts g id))) := by
  have hc := fresh_coherent settings root environment
  have hv := run_visited hc (fresh_visited settings root environment g id) ms
  obtain ⟨b, hb, hopen⟩ := hv.follows
  obtain ⟨c, hlast, -⟩ := (run_visited (run_coherent hc ms) hv ns).follows
  rw [DocumentAct.follow_append, hb] at hlast
  obtain ⟨hshut, hstays⟩ := DocumentAct.visits_of_follow hlast
  have hbi := hopen l i hi
  exact ⟨fun ho => hshut (by rw [← hbi, ho]; rfl), fun ho => hstays (hbi.symm.trans ho)⟩

/-- When something is to be done with a document that has to be open for it, and the error that is
returned is not that of a message, nothing was said about documents. The servers that are ready then had
been so before, and one that had not seen the document hears of it next when it is opened there. If the
document was to be brought up to date, its server has not seen it or is not ready, and is ready when all
that is missing is a URI. But when
the frame that opens the document is not taken, the server that had not seen it has it as open, and hears
that it is opened only after it was closed. -/
theorem openings_recorded (settings : Settings) (root : Option FilePath) (environment : Environment)
    (ms : List Move) (hk : (fresh settings root environment).run ms = k) (d : Document) {c : Errand}
    (hn : c.attends = true) (he : c.answer k d = .error e) (hm : k.perform (c.move d) = m) :
    (e.operation? = none →
      (∀ s ∈ Turn.sent ⟨k, c.move d⟩, s.2.1.act? = none) ∧
      (∀ l i g, m.Runs l i g → k.Runs l i g ∧
        (i.openUri? d.id = none → ∀ ns, Visits ((m.turns ns).flatMap (·.acts g d.id)))) ∧
      (c.synchronises = true → m.Lacks d ∧
        ∀ text, e = .invalidUri text → ∃ l i g, m.Serves l d ∧ m.Runs l i g)) ∧
    (e.operation? = some .didOpen → ∃ l g fault, e = .rpc l .didOpen (.transport fault) ∧
      k.Spoils m d l g fault ∧ ∀ ns, Stays ((m.turns ns).flatMap (·.acts g d.id))) := by
  subst hk
  have hrun : m = (fresh settings root environment).run (ms ++ [c.move d]) := by
    rw [run_append, ← hm]
    rfl
  have hc := run_coherent (fresh_coherent settings root environment) ms
  have har := run_arranged (fresh_coherent settings root environment)
    (fresh_arranged settings root environment) ms
  have hfails := errand_fails hc hn he
  rw [hm] at hfails
  constructor
  · intro hop
    cases hfails with
    | unsaid e hs =>
      refine ⟨?_, fun l i g hi => ⟨hs.runs l i g hi, fun ho => ?_⟩, fun hsync => ?_⟩
      · obtain ⟨sent, hsub, hacts⟩ := hs.said
        rwa [Turn.sent_eq (hm ▸ hsub)]
      · subst hrun
        exact fun ns => (run_future hi d.id ns).1 ho
      · obtain ⟨hlacks, hready⟩ := errand_lacks hc har hsync he hop
        rw [hm] at hlacks hready
        refine ⟨hlacks, fun text htext => hready ?_⟩
        rw [htext]
        rfl
    | spoilt => cases hop
    | undone e operation hsome => cases hop.symm.trans hsome
  · intro hop
    cases hfails with
    | unsaid e hs hnone => cases hnone.symm.trans hop
    | spoilt l g fault hs =>
      refine ⟨l, g, fault, rfl, hs, ?_⟩
      obtain ⟨uri, i, -, hi, ho⟩ := hs.recorded
      subst hrun
      exact fun ns => (run_future hi d.id ns).2 (by rw [ho]; rfl)
    | undone e operation hsome hne => exact absurd (Option.some.inj (hsome.symm.trans hop)) hne

end Host

namespace Sample

def deaf : Host := session.run (greeting ++ [.setPlan 1 (Sink.broken .brokenPipe)])

def stray : Document := { document with path := some ⟨"a.c"⟩ }

end Sample

namespace Host

theorem deafness_recorded :
    (Errand.saved.attends = true ∧ ∃ e, Errand.saved.answer Sample.deaf Sample.document = .error e ∧
      e.operation? = some .didOpen ∧ ∃ l g fault, e = .rpc l .didOpen (.transport fault) ∧
        Sample.deaf.Spoils (Sample.deaf.perform (.didSave Sample.document)) Sample.document l g fault) ∧
    (Errand.opened.attends = true ∧ ∃ text,
      Errand.opened.answer Sample.deaf Sample.stray = .error (.invalidUri text) ∧
        (∀ s ∈ Turn.sent ⟨Sample.deaf, .didOpen Sample.stray⟩, s.2.1.act? = none) ∧
        ∃ l i g, (Sample.deaf.perform (.didOpen Sample.stray)).Runs l i g ∧
          i.openUri? Sample.stray.id = none) := by
  have hsaved : (match Errand.saved.answer Sample.deaf Sample.document with
      | .ok _ => none
      | .error e => some e.operation?) = some (some .didOpen) := by decide +kernel
  have hopened : (match Errand.opened.answer Sample.deaf Sample.stray with
      | .ok _ => none
      | .error e => some (e.operation?, e.refuses)) = some (none, false) := by decide +kernel
  constructor
  · cases he : Errand.saved.answer Sample.deaf Sample.document with
    | ok => simp [he] at hsaved
    | error e =>
      have hop : e.operation? = some .didOpen := by simpa [he] using hsaved
      obtain ⟨-, hspoilt⟩ := openings_recorded Sample.settings none Sample.environment _ rfl
        Sample.document rfl he rfl
      obtain ⟨l, g, fault, rfl, hs, -⟩ := hspoilt hop
      exact ⟨rfl, _, rfl, hop, l, g, fault, rfl, hs⟩
  · cases he : Errand.opened.answer Sample.deaf Sample.stray with
    | ok => simp [he] at hopened
    | error e =>
      obtain ⟨hop, hrefuses⟩ : e.operation? = none ∧ e.refuses = false := by simpa [he] using hopened
      obtain ⟨text, rfl⟩ : ∃ text, e = .invalidUri text := by
        cases e <;> simp_all [HostError.operation?, HostError.refuses]
      obtain ⟨hunsaid, -⟩ := openings_recorded Sample.settings none Sample.environment _ rfl
        Sample.stray rfl he rfl
      obtain ⟨hsent, -, hsync⟩ := hunsaid rfl
      obtain ⟨hlacks, hready⟩ := hsync rfl
      obtain ⟨l, i, g, hserves, hrun⟩ := hready text rfl
      exact ⟨rfl, text, rfl, hsent, l, i, g, hrun, hlacks l i g hserves hrun⟩

/-- The document is on no server, and an edit of it is sent all the same. -/
theorem deafness_forgotten :
    (match Errand.opened.answer Sample.deaf Sample.document with
      | .ok _ => none
      | .error e => some e.operation?) = some (some .didOpen) ∧
    ((Sample.deaf.perform (.didOpen Sample.document)).instance? Sample.language).any (fun i =>
      i.state = .ready ∧ i.connection = some 1 ∧ (i.openUri? Sample.document.id).isSome) = true ∧
    Turn.acts ⟨Sample.deaf.perform (.didOpen Sample.document), Sample.edit⟩ 1 Sample.document.id =
      [.uses] := by
  refine ⟨?_, ?_, ?_⟩ <;> decide +kernel

end Host

end LanguageHost
