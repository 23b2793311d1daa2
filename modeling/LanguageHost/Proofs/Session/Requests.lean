import LanguageHost.Proofs.Session.Identifiers
import LanguageHost.Proofs.Session.Visits

namespace LanguageHost

def HostError.isRefusal : HostError → Bool
  | rpc .. | launch .. | timeout .. => false
  | _ => true

inductive Inquiry where
  | about (kind : RequestKind) (d : Document) (p : Position)
  | symbols (l : LanguageId) (query : String)

namespace Inquiry

def kind : Inquiry → RequestKind
  | about kind _ _ => kind
  | symbols .. => .workspaceSymbols

def language : Inquiry → Option LanguageId
  | about _ d _ => d.language
  | symbols l _ => some l

def params : Inquiry → Except HostError Json
  | about kind d p => d.uriOrError.map fun uri => kind.documentParams uri p
  | symbols _ query => .ok (.object [("query", .str query)])

inductive Opens (i : Instance) : Inquiry → List Outbound → Prop
  | symbols (l : LanguageId) (query : String) : Opens i (symbols l query) []
  | already (kind : RequestKind) (d : Document) (p : Position)
      (ho : (i.openUri? d.id).isSome = true) : Opens i (about kind d p) []
  | opening (kind : RequestKind) (d : Document) (p : Position) (uri : Uri) (language : LanguageId)
      (version : Nat) (ho : i.openUri? d.id = none) (hu : d.uriOrError = .ok uri) :
      Opens i (about kind d p)
        [.notification "textDocument/didOpen" (some (Sync.openParams uri language version d.text))]

end Inquiry

lemma Client.call_ok {κ : Type} {c : Client κ} {method : String} {params : Json} {tag : κ} {id : Nat}
    (h : (c.call method params tag).2.2 = .ok id) :
    id = c.nextId ∧ submissions (c.call method params tag).2.1 =
      [(.request id method (paramsOf params), .ok ())] := by
  cases hc : c.closed with
  | true => simp [call_closed hc] at h
  | false =>
    obtain ⟨sink, sending, es, result, hsub, hcall⟩ := call_open hc method params tag
    have hsent := submissions_submit (c.reserved method tag)
      (.request c.nextId method (paramsOf params))
    rw [hsub] at hsent
    rw [hcall] at h ⊢
    cases result with
    | error e => cases h
    | ok =>
      obtain rfl := Except.ok.inj h
      refine ⟨rfl, ?_⟩
      rw [← List.singleton_append, submissions_append, hsent]
      rfl

namespace Connections

lemma call_ok {c : Connections} {g : Nat} {method : String} {params : Json} {t : Ticket} {id : Nat}
    (h : (c.call g method params t).2 = .ok id) : ∃ client, c.get? g = some client ∧
      id = client.nextId ∧ Evolves c (c.call g method params t).1
        [(g, .request id method (Client.paramsOf params), .ok ())] := by
  cases hc : c.get? g with
  | none => simp [call, ask, hc] at h
  | some client =>
    simp only [call, ask, hc] at h ⊢
    obtain ⟨hid, hsub⟩ := Client.call_ok h
    refine ⟨client, rfl, hid, ?_⟩
    have ha := accept_evolves c hc (client.call_counts method params t).same
      (client.call method params t).2.1
    rwa [hsub] at ha

end Connections

namespace Host

variable {h k m : Host} {l : LanguageId} {i : Instance} {g : Nat} {d : Document} {kind : RequestKind}

/-- Nothing is sent or launched, no number of a call and no version is used up, and what is open or
waits on a server stays. A server that is new was never started. -/
structure Untouched (h k : Host) : Prop where
  submissions : k.connections.submissions = h.connections.submissions
  launches : k.connections.launches = h.connections.launches
  clients : k.connections.clients = h.connections.clients
  versions : k.versions = h.versions
  kept : ∀ l i, h.instance? l = some i → k.instance? l = some i
  unstarted : ∀ l i, k.instance? l = some i → h.instance? l = some i ∨
    h.slots.get? l = none ∧ i = { language := l, settings := i.settings }

lemma Consults.untouched (hk : h.Consults k) : h.Untouched k where
  submissions := hk.quiet.1
  launches := hk.quiet.2
  clients := (congrArg (·.connections.clients) hk.frame :)
  versions := (congrArg Host.versions hk.frame :)
  kept _ _ hi := instance?_eq_some.mpr (hk.kept _ _ (instance?_eq_some.mp hi))
  unstarted l i hi := by
    rcases hk.made l _ (instance?_eq_some.mp hi) with hl | ⟨hn, hc⟩
    · exact .inl (instance?_eq_some.mpr hl)
    · have hmade : configure h.settings l = ((configure h.settings l).1, .ok (.active i)) :=
        Prod.ext rfl hc
      exact .inr ⟨hn, ((configure_ok hmade).2 i rfl).2⟩

lemma Consults.runs (hk : h.Consults k) (hc : h.Coherent) (hi : k.instance? l = some i)
    (hr : i.state = .ready) : ∃ g, h.Runs l i g := by
  rcases hk.untouched.unstarted l i hi with hi | ⟨-, hnew⟩
  · exact hc.runs hi hr
  · rw [hnew] at hr
    cases hr

section Asking

variable {q : Inquiry} {r : PendingRequest}

def ask (h : Host) : Inquiry → Host × Except HostError PendingRequest
  | .about kind d p => h.request kind d p
  | .symbols l query => h.workspaceSymbols l query

structure Places (h k : Host) (q : Inquiry) (r : PendingRequest) (i : Instance)
    (before : List Outbound) (params : Json) : Prop where
  runs : h.Runs r.language i r.name.generation
  routed : ∃ n, q.language = some n ∧ Routes h.settings n r.language
  kind : r.kind = q.kind
  opens : q.Opens i before
  asked : q.params = .ok params
  writes : k.connections.submissions = h.connections.submissions ++
    (before ++ [Outbound.request r.name.id q.kind.method (Client.paramsOf params)]).map
      fun m => (r.name.generation, m, .ok ())
  fresh : ∀ (id : Int) method params result, (r.name.generation,
    .request id method params, result) ∈ h.connections.submissions → id < r.name.id
  launches : k.connections.launches = h.connections.launches

/-- A request is refused and changes nothing, or fails while it is written, or is written. -/
inductive Decides (h : Host) (q : Inquiry) : Host × Except HostError PendingRequest → Prop
  | refused (k : Host) (e : HostError) (hs : h.Consults k) : Decides h q (k, .error e)
  | failed (k : Host) (e : HostError) (he : e.isRefusal = false) : Decides h q (k, .error e)
  | placed (k : Host) (r : PendingRequest) (i : Instance) (before : List Outbound) (params : Json)
      (hp : h.Places k q r i before params) : Decides h q (k, .ok r)

lemma opening_cases (hi : h.Runs l i g) (hl : (h.connections.language? g).isSome = true) {uri : Uri}
    (hu : d.uriOrError = .ok uri) (kind : RequestKind) (p : Position) :
    (∃ k e, h.syncOnly l (·.didOpen d) = (k, .error e) ∧ e.isRefusal = false) ∨
      ∃ k j before, h.syncOnly l (·.didOpen d) = (k, .ok ()) ∧ k.instance? l = some j ∧
        j.connection = some g ∧ (Inquiry.about kind d p).Opens i before ∧
        h.connections.Evolves k.connections (before.map (g, ·, .ok ())) := by
  obtain ⟨n, hl⟩ := Option.isSome_iff_exists.mp hl
  rw [syncOnly_eq hi.current]
  cases ho : i.openUri? d.id with
  | some old =>
    have hs : (h.syncing i).didOpen d = (h.syncing i, .ok false) := by
      simp [Sync.didOpen, syncing, ho]
    rw [hs]
    exact .inr ⟨_, i, [], rfl, by simp [synced, instance?_setInstance, syncing], hi.linked,
      .already kind d p (by simp [ho]), .refl _⟩
  | none =>
    -- All that can still go wrong is that the frame is not taken, and that is no refusal.
    have hs : (h.syncing i).didOpen d =
        (((h.syncing i).openAs d uri).1, ((h.syncing i).openAs d uri).2.map fun _ => true) := by
      simp [Sync.didOpen, Sync.isReady, syncing, hi.ready, ho, hu]
    obtain ⟨result, he, hr⟩ := Sync.openAs_sends (s := h.syncing i) hi.linked hl d uri
    rw [hs, hr]
    cases result with
    | error e => exact .inl ⟨_, _, rfl, rfl⟩
    | ok =>
      refine .inr ⟨_, i.addOpen d.id uri, _, rfl, ?_, hi.linked,
        .opening kind d p uri _ _ ho hu, he⟩
      rw [synced, instance?_setInstance, if_pos rfl]
      exact congrArg some ((h.syncing i).openAs_touches d uri).1

lemma issue_cases (hi : h.instance? l = some i) (hg : i.connection = some g)
    (hk : h.connections.Counted) (kind : RequestKind) (params : Json) :
    (∃ k e, h.issue l kind params = (k, .error e) ∧ e.isRefusal = false) ∨
      ∃ k id, h.issue l kind params = (k, .ok ⟨⟨g, id⟩, l, kind⟩) ∧
        h.connections.Evolves k.connections
          [(g, .request id kind.method (Client.paramsOf params), .ok ())] ∧
        ∀ (earlier : Int) method params result,
          (g, .request earlier method params, result) ∈ h.connections.submissions → earlier < id := by
  rcases hc : h.connections.call g kind.method params .caller with ⟨c, e | id⟩
  · refine .inl ⟨{ h with connections := c }, .rpc l kind.operation e, ?_, rfl⟩
    simp only [issue, hi, hg, Option.bind_some, hc]
  · obtain ⟨client, hclient, rfl, he⟩ := Connections.call_ok (congrArg Prod.snd hc)
    rw [hc] at he
    refine .inr ⟨{ h with connections := c }, client.nextId, ?_, he, fun id method ps result hm => ?_⟩
    · simp only [issue, hi, hg, Option.bind_some, hc]
    · obtain ⟨other, hother, hlt⟩ := hk g id method ps result hm
      obtain rfl := Option.some.inj (hclient.symm.trans hother)
      exact hlt

lemma issue_decides {n : LanguageId} {j : Instance} {before : List Outbound} {params : Json}
    (hk : h.Consults k) (hi : h.Runs l i g) (hn : q.language = some n)
    (hr : Routes h.settings n l) (ho : q.Opens i before) (hp : q.params = .ok params)
    (he : k.connections.Evolves m.connections (before.map (g, ·, .ok ())))
    (hj : m.instance? l = some j) (hjg : j.connection = some g) (hm : m.connections.Counted) :
    h.Decides q (m.issue l q.kind params) := by
  have hbefore := hk.quiet.1 ▸ he.submissions
  rcases issue_cases hj hjg hm q.kind params with ⟨a, e, ha, hfail⟩ | ⟨a, id, ha, hsent, hfresh⟩
  · rw [ha]
    exact .failed a e hfail
  · rw [ha]
    refine .placed a _ i before params
      { runs := hi
        routed := ⟨n, hn, hr⟩
        kind := rfl
        opens := ho
        asked := hp
        writes := ?_
        fresh := fun earlier method ps result hs => hfresh earlier method ps result ?_
        launches := hsent.launches.trans (he.launches.trans hk.quiet.2) }
    · rw [hsent.submissions, hbefore, List.append_assoc, List.map_append]
      rfl
    · rw [hbefore]
      exact List.mem_append_left _ hs

lemma request_decides (hc : h.Coherent) (ha : h.Arranged) (hn : h.connections.Counted)
    (kind : RequestKind) (d : Document) (p : Position) :
    h.Decides (.about kind d p) (h.request kind d p) := by
  cases hd : d.language with
  | none =>
    simp only [request, hd]
    exact .refused h _ (.refl h)
  | some n =>
    have hw := gate_walk (P := Deed.Gentle d) trivial h n kind.feature
    have hconsults := gate_consults h n kind.feature
    rcases hg : h.gate n kind.feature with ⟨k, e | l⟩ <;> rw [hg] at hw hconsults
    · simp only [request, hd, hg]
      exact .refused k e hconsults
    obtain ⟨hs, i, hi, hr, -⟩ := gate_ok hg
    rcases hu : d.uriOrError with e | uri
    · simp only [request, hd, hg, hu]
      exact .refused k e hconsults
    by_cases hin : k.inScope l d = true
    · obtain ⟨g, hrun⟩ := hconsults.runs hc hi hr
      have hck := hw.coherent hc
      -- The document is in scope, so opening it is a walk and keeps the numbers of the calls counted.
      have hopen : Walk (Deed.Gentle d) k (k.syncOnly l (·.didOpen d)).1 :=
        syncOnly_walk fun i hi => didOpen_walk trivial rfl hi ⟨⟨n, hd, hs⟩, hin⟩
      rcases opening_cases (d := d) ⟨hi, hr, hrun.linked⟩ (by rw [hck.linked hi hrun.linked]; rfl) hu
        kind p with ⟨m, e, hm, hfail⟩ | ⟨m, j, before, hm, hj, hjg, ho, he⟩ <;> rw [hm] at hopen
      · simp only [request, hd, hg, hu, hin, if_true, hm]
        exact .failed m e hfail
      · simp only [request, hd, hg, hu, hin, if_true, hm]
        exact issue_decides hconsults hrun hd (hconsults.settings ▸ (hw.arranged ha).routes hs) ho
          (by simp [Inquiry.params, hu, Except.map]) he hj hjg
          ((hw.trans hopen).worked.counted hn)
    · simp only [request, hd, hg, hu, hin, Bool.false_eq_true, if_false]
      exact .refused k _ hconsults

lemma workspaceSymbols_decides (hc : h.Coherent) (ha : h.Arranged) (hn : h.connections.Counted)
    (l : LanguageId) (query : String) :
    h.Decides (.symbols l query) (h.workspaceSymbols l query) := by
  have hw := gate_walk (P := fun _ => True) trivial h l .workspaceSymbols
  have hconsults := gate_consults h l .workspaceSymbols
  rcases hg : h.gate l .workspaceSymbols with ⟨k, e | serving⟩ <;> rw [hg] at hw hconsults
  · simp only [workspaceSymbols, hg]
    exact .refused k e hconsults
  obtain ⟨hs, i, hi, hr, -⟩ := gate_ok hg
  obtain ⟨g, hrun⟩ := hconsults.runs hc hi hr
  simp only [workspaceSymbols, hg]
  exact issue_decides hconsults hrun rfl (hconsults.settings ▸ (hw.arranged ha).routes hs)
    (.symbols l query) rfl (.refl _) hi hrun.linked (hw.worked.counted hn)

lemma ask_decides (hc : h.Coherent) (ha : h.Arranged) (hn : h.connections.Counted) (q : Inquiry) :
    h.Decides q (h.ask q) := by
  cases q with
  | about kind d p => exact request_decides hc ha hn kind d p
  | symbols l query => exact workspaceSymbols_decides hc ha hn l query

end Asking

/-- A request that is refused leaves a session as it was, but for what the settings make of languages
that were not asked for before. A request that succeeds writes one frame to the ready server for it,
under a number that no request on the connection had before; one frame that opens the document goes
before it if the document is not open there. -/
theorem requests_decided (settings : Settings) (root : Option FilePath) (environment : Environment)
    (ms : List Move) (hk : (fresh settings root environment).run ms = k) (q : Inquiry) :
    (∀ e, (k.ask q).2 = .error e → e.isRefusal = true →
        k.Untouched (k.ask q).1 ∧ k.Consults (k.ask q).1) ∧
      ∀ r, (k.ask q).2 = .ok r → ∃ i before params, k.Places (k.ask q).1 q r i before params := by
  subst hk
  have hc := fresh_coherent settings root environment
  have hcounted : (fresh settings root environment).connections.Counted := by
    simp [fresh, Connections.Counted, Connections.submissions]
  have hd := ask_decides (run_coherent hc ms)
    (run_arranged hc (fresh_arranged settings root environment) ms) (run_counted hc hcounted ms) q
  generalize ((fresh settings root environment).run ms).ask q = asked at hd
  cases hd with
  | refused k e hs =>
    exact ⟨fun _ _ _ => ⟨hs.untouched, hs⟩, by rintro _ ⟨⟩⟩
  | failed k e he =>
    refine ⟨fun e' hr href => ?_, by rintro _ ⟨⟩⟩
    obtain rfl := Except.error.inj hr
    simp [he] at href
  | placed k r i before params hp =>
    refine ⟨by rintro _ ⟨⟩, fun r' hr => ?_⟩
    obtain rfl := Except.ok.inj hr
    exact ⟨i, before, params, hp⟩

end Host

namespace Sample

def hover : Inquiry := .about .hover document ⟨0, 0⟩

end Sample

namespace Host

theorem hover_decided :
    (∃ r i before params, (Sample.session.run Sample.greeting).Places
        ((Sample.session.run Sample.greeting).ask Sample.hover).1 Sample.hover r i before params) ∧
      (Sample.session.run (Sample.greeting.take 1)).Untouched
        ((Sample.session.run (Sample.greeting.take 1)).ask Sample.hover).1 := by
  obtain ⟨-, hplaced⟩ := requests_decided Sample.settings none Sample.environment Sample.greeting rfl
    Sample.hover
  obtain ⟨hconsults, -⟩ := requests_decided Sample.settings none Sample.environment
    (Sample.greeting.take 1) rfl Sample.hover
  have hready : (((Sample.session.run Sample.greeting).ask Sample.hover).2.toOption).isSome = true := by
    decide +kernel
  have hearly : (match ((Sample.session.run (Sample.greeting.take 1)).ask Sample.hover).2 with
      | .ok _ => false
      | .error e => e.isRefusal) = true := by decide +kernel
  constructor
  · cases hr : ((Sample.session.run Sample.greeting).ask Sample.hover).2 with
    | error e => simp [hr, Except.toOption] at hready
    | ok r => exact ⟨r, hplaced r hr⟩
  · cases he : ((Sample.session.run (Sample.greeting.take 1)).ask Sample.hover).2 with
    | error e => exact (hconsults e he (by simpa [he] using hearly)).1
    | ok r => simp [he] at hearly

end Host

end LanguageHost
