import LanguageHost.Proofs.Session.Openings

namespace LanguageHost

structure Opening where
  document : Document
  language : LanguageId
  uri : Uri

namespace Opening

variable {v : Versions} {o : Opening} {os : List Opening}

def entry (o : Opening) : DocumentId × Uri := (o.document.id, o.uri)

def message (o : Opening) (version : Nat) : Outbound :=
  .notification "textDocument/didOpen"
    (some (Sync.openParams o.uri o.language version o.document.text))

def messages : Versions → List Opening → List Outbound
  | _, [] => []
  | v, o :: os => o.message (v.next o.document.path).2 :: messages (v.next o.document.path).1 os

def versions (v : Versions) (os : List Opening) : Versions :=
  os.foldl (fun v o => (v.next o.document.path).1) v

lemma versions_snoc (v : Versions) (os : List Opening) (o : Opening) :
    versions v (os ++ [o]) = ((versions v os).next o.document.path).1 := by
  simp [versions]

lemma messages_snoc (v : Versions) (os : List Opening) (o : Opening) :
    messages v (os ++ [o]) =
      messages v os ++ [o.message ((versions v os).next o.document.path).2] := by
  induction os generalizing v with
  | nil => rfl
  | cons p os ih => exact congrArg (_ :: ·) (ih _)

end Opening

namespace Connections

variable {c d e : Connections} {g : Nat} {ms ns : List Outbound} {l : LanguageId}

def Takes (c : Connections) (g : Nat) : Prop :=
  ∃ client s, c.get? g = some client ∧ client.sink = some s ∧
    ∀ n, s.attempts ≤ n → s.plan n = .whole

/-- Messages are sent on one connection and nothing on any other one. They get through if the writer
takes them. -/
def Tells (c : Connections) (g : Nat) (ms : List Outbound) (d : Connections) : Prop :=
  ∃ results : List (Except TransportError Unit), results.length = ms.length ∧
    d.submissions = c.submissions ++ (ms.zip results).map (g, ·) ∧
    (c.Takes g → d.Takes g ∧ ∀ r ∈ results, r = .ok ())

lemma Tells.quiet (hs : d.submissions = c.submissions) (hg : d.get? g = c.get? g) :
    c.Tells g [] d :=
  ⟨[], rfl, by simp [hs], fun ⟨client, s, hc, h⟩ => ⟨⟨client, s, hg.trans hc, h⟩, by simp⟩⟩

lemma Tells.trans (h : c.Tells g ms d) (h' : d.Tells g ns e) : c.Tells g (ms ++ ns) e := by
  obtain ⟨rs, hrs, hd, hok⟩ := h
  obtain ⟨ss, hss, he, hok'⟩ := h'
  refine ⟨rs ++ ss, by simp [hrs, hss], ?_, fun ht => ?_⟩
  · rw [he, hd, List.zip_append hrs.symm, List.map_append, List.append_assoc]
  · obtain ⟨hd, hr⟩ := hok ht
    obtain ⟨he, hs⟩ := hok' hd
    exact ⟨he, fun r hm => (List.mem_append.mp hm).elim (hr r) (hs r)⟩

lemma Tells.trans_quiet (h : c.Tells g ms d) (h' : d.Tells g [] e) : c.Tells g ms e := by
  simpa using h.trans h'

lemma tells_logs (notes : List LogRecord) (c : Connections) :
    c.Tells g [] (notes.foldl log c) :=
  .quiet (logs_evolves notes c).silent (logs_get? notes c g)

lemma Takes.notify (h : c.Takes g) (method : String) (params : Json) :
    (c.notify g method params).1.Takes g ∧ (c.notify g method params).2 = .ok () := by
  obtain ⟨client, s, hc, hs, hplan⟩ := h
  have hget := accept_get? hc ((Client.notify_same client method params).1.trans (get?_generation hc))
    (client.notify method params).2.1 g
  rw [if_pos rfl] at hget
  have hwhole : (client.submit (.notification method (Client.paramsOf params))).1.sink =
      some { s with
        attempts := s.attempts + 1,
        written := s.written ++
          Frame.encode (Outbound.notification method (Client.paramsOf params)).bytes } ∧
      (client.submit (.notification method (Client.paramsOf params))).2.2 = .ok () := by
    simp only [Client.submit, hs, Sink.send, hplan _ (Nat.le_refl _), and_self]
  simp only [Connections.notify, ask, hc]
  refine ⟨⟨_, _, hget, hwhole.1, fun n hn => hplan n (Nat.le_of_succ_le hn)⟩, ?_⟩
  simp only [Client.notify, hwhole.2]
  rfl

lemma tells_notify (hl : c.language? g = some l) (method : String) (params : Json) :
    c.Tells g [.notification method (Client.paramsOf params)] (c.notify g method params).1 := by
  obtain ⟨result, he, hresult⟩ := notify_evolves hl method params
  refine ⟨[result], rfl, he.submissions, fun ht => ?_⟩
  obtain ⟨htakes, hok⟩ := ht.notify method params
  refine ⟨htakes, fun r hr => ?_⟩
  rw [List.mem_singleton.mp hr]
  cases result with
  | ok => rfl
  | error => simp [hok, Except.mapError] at hresult

end Connections

lemma Instance.initializeSucceeded_tells {i : Instance} {c : Connections} {g : Nat} {l : LanguageId}
    (hg : i.connection = some g) (hl : c.language? g = some l) (response : Json) :
    c.Tells g [.notification "initialized" (some (.obj []))] (i.initializeSucceeded response c).1 := by
  let notes := (CapabilitySet.negotiate response i.settings).features.map
    (i.welcomed response).featureNote
  have heq : (i.initializeSucceeded response c).1 =
      ((notes.foldl Connections.log c).notify g "initialized" (.obj [])).1 := by
    simp only [initializeSucceeded, notify, hg, notes, List.foldl_map]
    rfl
  rw [heq]
  exact (Connections.tells_logs notes c).trans
    (Connections.tells_notify (((Connections.logs_evolves notes c).language g).trans hl) _ _)

lemma Sync.openAs_tells {s : Sync} {g : Nat} {l : LanguageId} (hg : s.server.connection = some g)
    (hl : s.connections.language? g = some l) {o : Opening}
    (hd : o.document.language = some o.language) :
    s.connections.Tells g [o.message (s.versions.next o.document.path).2]
      (s.openAs o.document o.uri).1.connections := by
  have hlog : s.connections.Tells g [] (Sync.log s "opening document" [("uri", o.uri.text),
      ("version", toString (s.versions.next o.document.path).2)]).connections :=
    Connections.tells_logs [_] s.connections
  have hnotify := hlog.trans (Connections.tells_notify (l := l)
    ((Connections.log_evolves s.connections _).language g |>.trans hl) "textDocument/didOpen"
    (openParams o.uri o.language (s.versions.next o.document.path).2 o.document.text))
  rw [openAs, Host.notify_fst]
  show s.connections.Tells g _ (Connections.tell _ s.server.connection _
    (openParams o.uri (o.document.language.getD _) _ _))
  rw [hg, hd]
  exact hnotify

namespace Host

variable {h k m : Host} {l n : LanguageId} {i j : Instance} {g : Nat} {d : Document} {w : Workspace}
  {o : Opening} {os : List Opening}

def resolvesTo (h : Host) (n l : LanguageId) : Bool :=
  match (h.resolve n).2 with
  | .ok serving => serving = l
  | .error _ => false

def opening? (h : Host) (l : LanguageId) (d : Document) : Option Opening :=
  d.language.bind fun n =>
    if h.resolvesTo n l && h.inScope l d then d.uri.toOption.map (⟨d, n, ·⟩) else none

def owed (h : Host) (w : Workspace) (l : LanguageId) : List Opening :=
  (w.documents.filter fun d => d.modified || w.active = some d.id).filterMap (h.opening? l)

lemma opening?_document (ho : h.opening? l d = some o) : o.document = d := by
  obtain ⟨n, -, ho⟩ := Option.bind_eq_some_iff.mp ho
  rw [Option.ite_none_right_eq_some, Option.map_eq_some_iff] at ho
  obtain ⟨-, uri, -, rfl⟩ := ho
  rfl

section Resolving

lemma Consults.arranged (hk : h.Consults k) (ha : h.Arranged) : k.Arranged := by
  intro l slot hl
  rw [hk.settings]
  rcases hk.made l slot hl with hl | ⟨-, hc⟩
  · exact ha l slot hl
  · exact ⟨slot, hc, configure_follows hc⟩

lemma Consults.instance? (hk : h.Consults k) (hi : h.instance? l = some i) : k.instance? l = some i :=
  instance?_eq_some.mpr (hk.kept l _ (instance?_eq_some.mp hi))

lemma Consults.inScope (hk : h.Consults k) (hi : h.instance? l = some i) (d : Document) :
    k.inScope l d = h.inScope l d := by
  have hroot : k.root = h.root := (congrArg Host.root hk.frame :)
  rw [Host.inScope, Host.inScope, hk.instance? hi, hi, hroot]

lemma log_consults (h : Host) (level : LogLevel) (message : String) (fields : List (String × String)) :
    h.Consults (h.log level message fields) :=
  ⟨rfl, ⟨[⟨level, sessionTarget, message, fields⟩], rfl⟩, fun _ _ => id, fun _ _ => .inl⟩

lemma setInstance_consults (hi : h.instance? l = some i) : h.Consults (h.setInstance l i) := by
  have hget (n : LanguageId) : (h.setInstance l i).slots.get? n = h.slots.get? n := by
    rw [setInstance, setSlot, Slots.get?_set]
    split
    · next hl => rw [← hl, instance?_eq_some.mp hi]
    · rfl
  exact ⟨rfl, ⟨[], by simp [setInstance, setSlot]⟩, fun n slot hn => (hget n).trans hn,
    fun n slot hn => .inl ((hget n).symm.trans hn)⟩

lemma resolvesTo_iff (ha : h.Arranged) (hi : h.instance? l = some i) :
    h.resolvesTo n l = true ↔ Routes h.settings n l := by
  constructor
  · intro hn
    rw [resolvesTo] at hn
    rcases hr : h.resolve n with ⟨k, e | serving⟩ <;> simp only [hr] at hn
    · cases hn
    obtain rfl : serving = l := of_decide_eq_true hn
    have hk := resolve_consults h n
    rw [hr] at hk
    exact hk.settings ▸ (hk.arranged ha).routes (resolve_serves hr).1
  · intro hn
    obtain ⟨k, hk, -⟩ := resolve_routed ha hi hn
    simp [resolvesTo, hk]

lemma opening?_eq (ha : h.Arranged) (hi : h.instance? l = some i) (hk : k.Arranged)
    (hj : k.instance? l = some j) (hs : k.settings = h.settings) (hr : k.root = h.root)
    (hij : j.settings = i.settings) (d : Document) : k.opening? l d = h.opening? l d := by
  have hresolve (n : LanguageId) : k.resolvesTo n l = h.resolvesTo n l := by
    rw [Bool.eq_iff_iff, resolvesTo_iff hk hj, resolvesTo_iff ha hi, hs]
  have hscope : k.inScope l d = h.inScope l d := by
    simp only [inScope, hi, hj, hr, hij, Option.any_some]
  simp only [opening?, hresolve, hscope]

end Resolving

structure CaughtUp (h : Host) (l : LanguageId) (g : Nat) (i : Instance) (os : List Opening) (k : Host) :
    Prop where
  settings : k.settings = h.settings
  root : k.root = h.root
  arranged : k.Arranged
  language : k.connections.language? g = some l
  server : k.instance? l = some { i with opened := os.map Opening.entry }
  versions : k.versions = Opening.versions h.versions os
  queued : k.queued = h.queued
  told : h.connections.Tells g (Opening.messages h.versions os) k.connections

namespace CaughtUp

variable (hk : h.CaughtUp l g i os k)
include hk

lemma consults (hm : k.Consults m) : h.CaughtUp l g i os m := by
  have hget : m.connections.get? g = k.connections.get? g :=
    (congrArg (fun x : Host => x.connections.get? g) hm.frame :)
  exact
    { settings := hm.settings.trans hk.settings
      root := Eq.trans (congrArg Host.root hm.frame :) hk.root
      arranged := hm.arranged hk.arranged
      language := by rw [Connections.language?, hget, ← Connections.language?, hk.language]
      server := hm.instance? hk.server
      versions := Eq.trans (congrArg Host.versions hm.frame :) hk.versions
      queued := Eq.trans (congrArg Host.queued hm.frame :) hk.queued
      told := hk.told.trans_quiet (.quiet hm.quiet.1 hget) }

lemma opens (hg : i.connection = some g) (ho : o.document.language = some o.language)
    (hj : k.instance? l = some j) :
    h.CaughtUp l g i (os ++ [o]) (k.synced l ((k.syncing j).openAs o.document o.uri).1) := by
  obtain rfl := Option.some.inj (hj.symm.trans hk.server)
  obtain ⟨hserver, hversions⟩ := (k.syncing _).openAs_touches o.document o.uri
  have htold := Sync.openAs_tells (s := k.syncing { i with opened := os.map Opening.entry }) hg
    hk.language ho
  refine ⟨hk.settings, hk.root, ?_, ?_, ?_, ?_, hk.queued, ?_⟩
  · refine hk.arranged.filled rfl rfl (hk.arranged.active hj ?_)
    rw [hserver]
    rfl
  · obtain ⟨_, hsent, -⟩ := Sync.openAs_sends
      (s := k.syncing { i with opened := os.map Opening.entry }) hg hk.language o.document o.uri
    exact (hsent.language g).trans hk.language
  · rw [synced, instance?_setInstance, if_pos rfl, hserver]
    simp [Instance.addOpen, syncing, Opening.entry]
  · rw [Opening.versions_snoc, ← hk.versions]
    exact hversions
  · rw [Opening.messages_snoc, ← hk.versions]
    exact hk.told.trans htold

end CaughtUp

lemma withSync_eq {α : Type} {f : Sync → Sync.Result α} (hi : h.instance? l = some i) :
    h.withSync l f = (h.synced l (f (h.syncing i)).1, (f (h.syncing i)).2.map some) := by
  simp only [withSync, hi, syncing, synced]

section Looping

variable (ha : h.Arranged) (hi : h.instance? l = some i) (hr : i.state = .ready)
  (hg : i.connection = some g)
include ha hi hr hg

lemma catchUpOne_caughtUp (hk : h.CaughtUp l g i os k) (hnew : ∀ o ∈ os, o.document.id ≠ d.id) :
    h.CaughtUp l g i (os ++ (h.opening? l d).toList) (k.catchUpOne l d) := by
  rw [← opening?_eq ha hi hk.arranged hk.server hk.settings hk.root rfl d]
  cases hd : d.language with
  | none => simpa [opening?, catchUpOne, hd] using hk
  | some n =>
    have hm := resolve_consults k n
    rcases hres : k.resolve n with ⟨m, e | serving⟩ <;> rw [hres] at hm
    · simpa [opening?, catchUpOne, hd, resolvesTo, hres] using hk.consults hm
    have hscope := hm.inScope hk.server d
    by_cases hc : serving = l ∧ m.inScope l d = true
    · obtain ⟨rfl, hin⟩ := hc
      have hkm := hk.consults hm
      have hj := hkm.server
      generalize hij : { i with opened := os.map Opening.entry } = j at hj hscope
      have hready : (m.syncing j).isReady = true := by simp [Sync.isReady, syncing, ← hij, hr]
      have hopen : (m.syncing j).server.openUri? d.id = none := by
        rw [syncing, ← hij, Instance.openUri?, Option.map_eq_none_iff, List.find?_eq_none]
        intro e he
        obtain ⟨o, ho, rfl⟩ := List.mem_map.mp he
        exact fun hid => hnew o ho (of_decide_eq_true hid)
      have hresolves : (k.resolvesTo n serving && k.inScope serving d) = true := by
        simp [resolvesTo, hres, ← hscope, hin]
      rw [opening?, hd, Option.bind_some, if_pos hresolves]
      rcases hu : d.uri with text | uri
      · have hsync : m.withSync serving (·.didOpen d) =
            (m.setInstance serving j, .error (.invalidUri text)) := by
          rw [withSync_eq hj]
          simp [Sync.didOpen, hready, hopen, Document.uriOrError, hu, Except.mapError, Except.map]
          rfl
        simp only [catchUpOne, hd, hres, hin, and_self, if_true, hsync]
        simpa [Except.toOption] using
          (hkm.consults (setInstance_consults hj)).consults (log_consults _ _ _ _)
      · have hsync : m.withSync serving (·.didOpen d) =
            (m.synced serving ((m.syncing j).openAs d uri).1,
              (((m.syncing j).openAs d uri).2.map fun _ => true).map some) := by
          rw [withSync_eq hj]
          simp [Sync.didOpen, hready, hopen, Document.uriOrError, hu, Except.mapError]
        have hopened := hkm.opens (o := ⟨d, n, uri⟩) hg hd hj
        simp only [catchUpOne, hd, hres, hin, and_self, if_true, hsync]
        cases ((m.syncing j).openAs d uri).2 with
        | ok => exact hopened
        | error e => exact hopened.consults (log_consults _ _ _ _)
    · have hno : k.opening? l d = none := by
        rw [opening?, hd, Option.bind_some, if_neg]
        simpa [resolvesTo, hres, ← hscope] using hc
      simpa [catchUpOne, hd, hres, hc, hno] using hk.consults hm

lemma catchUpAll_caughtUp {ds : List Document} (hk : h.CaughtUp l g i os k)
    (hnew : ∀ d ∈ ds, ∀ o ∈ os, o.document.id ≠ d.id) (hd : (ds.map (·.id)).Nodup) :
    h.CaughtUp l g i (os ++ ds.filterMap (h.opening? l))
      (ds.foldl (fun k d => k.catchUpOne l d) k) := by
  induction ds generalizing k os with
  | nil => simpa using hk
  | cons d ds ih =>
    obtain ⟨hout, hrest⟩ := List.nodup_cons.mp hd
    have hone := catchUpOne_caughtUp ha hi hr hg hk (hnew d List.mem_cons_self)
    have hall := ih hone (fun e he o ho => ?_) hrest
    · rw [List.append_assoc] at hall
      rw [List.foldl_cons, List.filterMap_cons]
      cases hopening : h.opening? l d <;> simpa [hopening] using hall
    · rcases List.mem_append.mp ho with ho | ho
      · exact hnew e (List.mem_cons_of_mem d he) o ho
      · -- The documents that follow are other ones.
        rw [opening?_document (Option.mem_toList.mp ho)]
        exact fun hid => hout (List.mem_map.mpr ⟨e, he, hid.symm⟩)

end Looping

/-- A server has become ready: it was told so, and of the documents that it has to be told of, and has
these open; the editor is told once. -/
structure Welcomes (h : Host) (w : Workspace) (l : LanguageId) (g : Nat) (i : Instance)
    (response : Json) (k : Host) : Prop where
  told : h.connections.Tells g (.notification "initialized" (some (.obj [])) ::
    Opening.messages h.versions (h.owed w l)) k.connections
  server : k.instance? l =
    some { i.welcomed response with opened := (h.owed w l).map Opening.entry }
  queued : k.queued = h.queued ++ [.ready l]
  versions : k.versions = Opening.versions h.versions (h.owed w l)

def greeted (h : Host) (l : LanguageId) (i : Instance) (response : Json) : Host :=
  { h with connections := (i.initializeSucceeded response h.connections).1 }.setInstance l
    (i.welcomed response)

lemma onInitialized_eq (hi : h.instance? l = some i) (hs : i.state = .awaitingInitialize)
    (w : Workspace) (response : Json) : ∃ m, (h.greeted l i response).Consults m ∧
      h.onInitialized w l response = (m.queue (.ready l)).catchUp w l := by
  simp only [onInitialized, hi, hs, ne_eq, not_true_eq_false, if_false]
  split
  · exact ⟨_, log_consults _ _ _ _, rfl⟩
  · exact ⟨_, (log_consults _ _ _ _).trans (log_consults _ _ _ _), rfl⟩

lemma onInitialized_welcomes (hc : h.Coherent) (ha : h.Arranged) (hi : h.instance? l = some i)
    (hs : i.state = .awaitingInitialize) (hg : i.connection = some g)
    (hw : (w.documents.map (·.id)).Nodup) (response : Json) :
    h.Welcomes w l g i response (h.onInitialized w l response) := by
  obtain ⟨m, hm, heq⟩ := onInitialized_eq hi hs w response
  have hnone : i.opened = [] := by
    by_contra ho
    rcases (hc.sound hi).listed ho with hst | hst <;> simp [hs] at hst
  have hgreeted : (h.greeted l i response).instance? l = some (i.welcomed response) := by
    rw [greeted, instance?_setInstance, if_pos rfl]
  have harranged : (h.greeted l i response).Arranged := ha.filled rfl rfl (ha.active hi rfl)
  have hget : m.connections.get? g = (h.greeted l i response).connections.get? g :=
    (congrArg (fun x : Host => x.connections.get? g) hm.frame :)
  have htold : h.connections.Tells g [.notification "initialized" (some (.obj []))] m.connections :=
    (Instance.initializeSucceeded_tells hg (hc.linked hi hg) response).trans_quiet
      (.quiet hm.quiet.1 hget)
  have hlanguage : m.connections.language? g = some l := by
    obtain ⟨_, he, -⟩ := i.initializeSucceeded_evolves response h.connections
    rw [Connections.language?, hget]
    exact (he.language g).trans (hc.linked hi hg)
  have hmi := hm.instance? hgreeted
  have hsettings : m.settings = h.settings := hm.settings
  have hroot : m.root = h.root := (congrArg Host.root hm.frame :)
  have hversions : m.versions = h.versions := (congrArg Host.versions hm.frame :)
  have hqueued : m.queued = h.queued := (congrArg Host.queued hm.frame :)
  -- Nothing is open on a server that is ready for the first time.
  have hstart : (m.queue (.ready l)).CaughtUp l g (i.welcomed response) [] (m.queue (.ready l)) :=
    { settings := rfl
      root := rfl
      arranged := hm.arranged harranged
      language := hlanguage
      server := hmi.trans (by rw [List.map_nil, ← hnone]; rfl)
      versions := rfl
      queued := rfl
      told := .quiet rfl rfl }
  have hopenings : (m.queue (.ready l)).opening? l = h.opening? l :=
    funext (opening?_eq ha hi (hm.arranged harranged) hmi hsettings hroot rfl)
  have hnodup : ((w.documents.filter (wantsCatchUp w)).map (·.id)).Nodup :=
    hw.sublist (List.filter_sublist.map _)
  have hall := catchUpAll_caughtUp (h := m.queue (.ready l)) (hm.arranged harranged) hmi rfl hg
    hstart (by simp) hnodup
  rw [hopenings, List.nil_append] at hall
  rw [heq]
  refine ⟨?_, hall.server, hall.queued.trans (congrArg (· ++ [_]) hqueued), ?_⟩
  · have hopened := htold.trans hall.told
    rwa [show (m.queue (.ready l)).versions = h.versions from hversions] at hopened
  · have hlast := hall.versions
    rwa [show (m.queue (.ready l)).versions = h.versions from hversions] at hlast

/-- Whatever happened to a session, when a server answers its handshake it is told that it is ready, and
then of each document of the workspace that is modified or active, goes to this server and has a name, in
the order of the workspace and once. It has these documents open and no other ones, and the editor is
told that it is ready. -/
theorem documents_caught_up (settings : Settings) (root : Option FilePath) (environment : Environment)
    (ms : List Move) (hk : (fresh settings root environment).run ms = k)
    (hi : k.instance? l = some i) (hs : i.state = .awaitingInitialize) (w : Workspace)
    (hw : (w.documents.map (·.id)).Nodup) (response : Json) :
    ∃ g, i.connection = some g ∧
      k.Welcomes w l g i response (k.handleEvent w ⟨l, g, .initializeResponse (.ok response)⟩).1 ∧
      ∀ rest, k.connections.inbox = ⟨l, g, .initializeResponse (.ok response)⟩ :: rest →
        ∃ p, k.handleNext w = some p ∧ k.Welcomes w l g i response p.1 := by
  have hc : k.Coherent := hk ▸ run_coherent (fresh_coherent settings root environment) ms
  have ha : k.Arranged := hk ▸ run_arranged (fresh_coherent settings root environment)
    (fresh_arranged settings root environment) ms
  obtain ⟨g, hg⟩ := Option.isSome_iff_exists.mp ((hc.sound hi).connected.mpr (by simp [hs]))
  refine ⟨g, hg, ?_, fun rest hq => ?_⟩
  · rw [handleEvent_current hc hi hg]
    exact onInitialized_welcomes hc ha hi hs hg hw response
  · have hpopped : Coherent { k with connections := { k.connections with inbox := rest } } :=
      Step.coherent (.popped _ rest hq) hc
    refine ⟨_, by rw [handleNext, hq], ?_⟩
    rw [handleEvent_current hpopped hi hg]
    have hwelcomed := onInitialized_welcomes hpopped (ha.kept rfl rfl) hi hs hg hw response
    have howed : owed { k with connections := { k.connections with inbox := rest } } w l =
        k.owed w l :=
      congrArg (List.filterMap · _) (funext (opening?_eq ha hi (ha.kept rfl rfl) hi rfl rfl rfl))
    exact
      { told := howed ▸ hwelcomed.told
        server := howed ▸ hwelcomed.server
        queued := hwelcomed.queued
        versions := howed ▸ hwelcomed.versions }

end Host

namespace Sample

def arrival : Host := session.run [.didOpen document]

def desk : Workspace where
  documents := [
    ⟨⟨1⟩, some language, some ⟨"/w/a.c"⟩, "int a;", true⟩,
    ⟨⟨2⟩, some language, some ⟨"b.c"⟩, "int b;", true⟩,
    ⟨⟨3⟩, some language, some ⟨"/w/c.c"⟩, "int c;", false⟩,
    ⟨⟨4⟩, some language, none, "int d;", false⟩]
  active := some ⟨4⟩

end Sample

theorem Host.desk_caught_up :
    (Sample.desk.documents.map (·.id)).Nodup ∧
      ∃ i g, Sample.arrival.instance? Sample.language = some i ∧ i.state = .awaitingInitialize ∧
        Sample.arrival.Welcomes Sample.desk Sample.language g i (.obj []) (Sample.arrival.handleEvent
          Sample.desk ⟨Sample.language, g, .initializeResponse (.ok (.obj []))⟩).1 ∧
        (Sample.arrival.owed Sample.desk Sample.language).map (·.uri.text) =
          ["file:///w/a.c", "untitled:Untitled-4"] := by
  have hd : (Sample.desk.documents.map (·.id)).Nodup := by decide
  have hwaits : (Sample.arrival.instance? Sample.language).map (·.state) =
      some .awaitingInitialize := by decide +kernel
  obtain ⟨i, hi, hs⟩ := Option.map_eq_some_iff.mp hwaits
  obtain ⟨g, -, hw, -⟩ := documents_caught_up Sample.settings none Sample.environment _ rfl hi hs
    Sample.desk hd (.obj [])
  exact ⟨hd, i, g, hi, hs, hw, by decide +kernel⟩

end LanguageHost
