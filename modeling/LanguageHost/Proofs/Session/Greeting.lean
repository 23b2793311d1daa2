import LanguageHost.Proofs.Session.Course
import LanguageHost.Proofs.Session.Custody

/-! The handshake of a new server. Its reader works already when the handshake is submitted, and a
reader that has stopped by then leaves a connection on which the handshake is never sent. -/

namespace LanguageHost

def Frame.lasts (p : Phase) : List Signal → Bool
  | [] => true
  | s :: rest =>
    match feed p s with
    | .more p => lasts p rest
    | .done r => (message r).isOk && lasts .start rest

/-- The output of a new server can still be read when the server is greeted. -/
structure Overture.Lasts (o : Overture) : Prop where
  unended : o.ended = false
  legible : Frame.lasts .start o.signals = true

structure Turn.Connects (t : Turn) (g : Nat) (request : LaunchRequest) (plan : Nat → Verdict) :
    Prop where
  attempted : (g, request) ∈ t.launches
  launched : (t.before.environment.launch g request).2 = .ok plan
  attached : t.before.environment.attach g = .ok ()

namespace Client

variable {κ : Type} {c : Client κ}

lemma dispatch_keeps (c : Client κ) (m : Json) :
    ∃ pending, (c.dispatch m).1 = { c with pending } := by
  cases hm : Inbound.classify m with
  | error e => exact ⟨c.pending, by simp only [dispatch, hm]⟩
  | ok inbound =>
    cases inbound with
    | response r =>
      cases hr : r.id.bind c.pendingOf with
      | none => exact ⟨c.pending, by simp only [dispatch, hm, complete, hr]⟩
      | some call => exact ⟨_, by simp only [dispatch, hm, complete, hr, withdraw]; rfl⟩
    | _ => exact ⟨c.pending, by simp only [dispatch, hm]⟩

lemma receive_lasts {signals : List Frame.Signal} (hr : c.reading = true)
    (hl : Frame.lasts c.phase signals = true) :
    ∃ phase pending, (c.receive signals).1 = { c with phase, pending } := by
  induction signals generalizing c with
  | nil => exact ⟨c.phase, c.pending, rfl⟩
  | cons s rest ih =>
    rw [Frame.lasts] at hl
    rw [receive]
    cases hf : Frame.feed c.phase s with
    | more p =>
      rw [hf] at hl
      obtain ⟨phase, pending, he⟩ := ih (c := { c with phase := p }) hr hl
      have hfeed : c.feed s = ({ c with phase := p }, []) := by rw [feed, if_pos hr, hf]
      exact ⟨phase, pending, by rw [hfeed]; exact he⟩
    | done r =>
      rw [hf] at hl
      cases hm : Frame.message r with
      | error e => simp [hm, Except.isOk, Except.toBool] at hl
      | ok m =>
        obtain ⟨kept, hd⟩ := { c with phase := .start }.dispatch_keeps m
        have hrest : Frame.lasts .start rest = true := by
          simpa [hm, Except.isOk, Except.toBool] using hl
        obtain ⟨phase, pending, he⟩ := ih (c := { c with phase := .start, pending := kept }) hr hrest
        have hfeed : (c.feed s).1 = { c with phase := .start, pending := kept } := by
          rw [feed, if_pos hr, hf]
          simp only [hm, take, hd]
        exact ⟨phase, pending, (congrArg (·.receive rest |>.1) hfeed).trans he⟩

lemma call_submits {s : Sink} (hc : c.closed = false) (hs : c.sink = some s) (method : String)
    (params : Json) (tag : κ) :
    ∃ result, submissions (c.call method params tag).2.1 =
        [(.request c.nextId method (paramsOf params), result)] ∧
      (s.plan s.attempts = .whole → result = .ok ()) := by
  obtain ⟨sink, sending, es, result, hsub, hcall⟩ := call_open hc method params tag
  have hsent := submissions_submit (c.reserved method tag)
    (.request c.nextId method (paramsOf params))
  have hresult : s.plan s.attempts = .whole → result = .ok () := by
    intro hw
    have hfst : ((c.reserved method tag).submit
        (.request c.nextId method (paramsOf params))).2.2 = .ok () := by
      simp only [submit, reserved, hs, Sink.send, hw]
    rwa [hsub] at hfst
  rw [hsub] at hsent
  refine ⟨result, ?_, hresult⟩
  rw [hcall]
  cases result <;>
  · rw [← List.singleton_append, submissions_append, hsent]
    rfl

end Client

lemma Connections.update_get? {c : Connections} {g : Nat} {client : Client Ticket}
    {f : Client Ticket → Client Ticket × List (Emission Ticket)} (hc : c.get? g = some client)
    (hf : (f client).1.generation = client.generation) :
    (c.update g f).get? g = some (f client).1 := by
  simp only [update, hc]
  rw [accept_get? hc (hf.trans (get?_generation hc)), if_pos rfl]

lemma Connections.call_submits {c : Connections} {g : Nat} {client : Client Ticket} {s : Sink}
    (hc : c.get? g = some client) (ho : client.closed = false) (hs : client.sink = some s)
    (method : String) (params : Json) (t : Ticket) :
    ∃ (id : Int) (result : Except TransportError Unit),
      (g, .request id method (Client.paramsOf params), result) ∈
        (c.call g method params t).1.submissions ∧
      (s.plan s.attempts = .whole → result = .ok ()) := by
  obtain ⟨result, hsub, hresult⟩ := Client.call_submits ho hs method params t
  have hsame := (Client.call_traffic ho method params t).1
  refine ⟨client.nextId, result, ?_, hresult⟩
  simp only [call, ask, hc]
  rw [(accept_evolves c hc hsame _).submissions, hsub]
  exact List.mem_append_right _ (List.mem_singleton_self _)

namespace Instance

variable {c : Connections} {g : Nat} {plan : Nat → Verdict} {o : Overture}

lemma ungreeted_get? (i : Instance) (root : Option FilePath) (env : Environment)
    (plan : Nat → Verdict) (hn : c.language? g = none) (ho : o.Lasts) :
    ∃ client, (i.ungreeted root env g plan o c).get? g = some client ∧ client.closed = false ∧
      client.sink = some { plan } := by
  let new : Client Ticket := .start i.language g i.settings.rpcTrace plan
  have hnew : (c.add new).get? g = some new := Connections.add_get? c hn
  have hsame := (Client.receive_traffic new o.signals).1.1
  obtain ⟨phase, pending, he⟩ := Client.receive_lasts (c := new) rfl ho.legible
  refine ⟨(new.receive o.signals).1, ?_, by rw [he]; rfl, by rw [he]; rfl⟩
  simp only [ungreeted, Connections.overhear, ho.unended, Bool.false_eq_true, if_false]
  exact Connections.update_get? ((Connections.logs_get? _ _ g).trans hnew) hsame

lemma connect_greets (i : Instance) (root : Option FilePath) (env : Environment)
    (hn : c.language? g = none) (ho : o.Lasts) :
    ∃ (id : Int) (params : Option Json) (result : Except TransportError Unit),
      (g, .request id "initialize" params, result) ∈ (i.connect root env g plan o c).1.submissions ∧
      (plan 0 = .whole → result = .ok ()) := by
  obtain ⟨client, hclient, hclosed, hsink⟩ := i.ungreeted_get? root env plan hn ho
  obtain ⟨id, result, hm, hresult⟩ := Connections.call_submits hclient hclosed hsink "initialize"
    (Handshake.params env.processId root (i.options root env).2) .handshake
  refine ⟨id, Client.paramsOf (Handshake.params env.processId root (i.options root env).2), result,
    ?_, hresult⟩
  rcases i.connect_cases root env g plan o c rfl with hd | ⟨e, hd⟩ <;> rw [hd]
  · exact hm
  · exact hm

end Instance

namespace Host

variable {h k m : Host} {deed : Deed} {a : Nat × LaunchRequest}

/-- A server that was launched meanwhile was greeted if its output lasts, and was so with success if
it takes the first frame. -/
def Greets (h k : Host) (a : Nat × LaunchRequest) : Prop :=
  ∀ plan, (h.environment.launch a.1 a.2).2 = .ok plan → h.environment.attach a.1 = .ok () →
    (h.environment.overture a.1 a.2).Lasts →
      ∃ (id : Int) (params : Option Json) (result : Except TransportError Unit),
        (a.1, .request id "initialize" params, result) ∈ k.connections.submissions ∧
        (plan 0 = .whole → result = .ok ())

lemma Greets.mono (hk : h.Greets k a)
    (hm : k.connections.submissions <+: m.connections.submissions) : h.Greets m a := by
  intro plan hl ha ho
  obtain ⟨id, params, result, hs, hr⟩ := hk plan hl ha ho
  exact ⟨id, params, result, hm.subset hs, hr⟩

lemma Step.grows (hs : Step h deed k) (hc : h.Coherent) :
    h.connections.submissions <+: k.connections.submissions := by
  cases hs.talks hc with
  | quiet he => exact he ▸ List.prefix_rfl
  | spoken _ _ _ _ _ he | greeted _ he => exact ⟨_, he.symm⟩

lemma run_grows (hc : h.Coherent) (ms : List Move) :
    h.connections.submissions <+: (h.run ms).connections.submissions :=
  run_keeps (P := fun _ => True)
    (I := fun k => h.connections.submissions <+: k.connections.submissions) hc List.prefix_rfl ms
    (fun _ _ _ _ => trivial) (fun _ _ _ => trivial) fun _ hs ha hi => hi.trans (hs.grows ha)

lemma Step.greets (hs : Step h deed k) (hc : h.Coherent) :
    ∃ news, k.connections.launches = h.connections.launches ++ news ∧
      ∀ a ∈ news, h.Greets k a := by
  rcases hs.attempts hc with he | ⟨a, rfl, -, he⟩
  · exact ⟨[], by simp [he], by simp⟩
  refine ⟨[a], he, fun b hb => ?_⟩
  obtain rfl := List.mem_singleton.mp hb
  have hlast {request : LaunchRequest} (notes : List LogRecord)
      (hl : k.connections.launches = (h.launching request notes).launches) :
      b = (h.nextGeneration, request) := by
    rw [launching_launches, he] at hl
    exact List.singleton_inj.mp (List.append_cancel_left hl)
  intro plan hplan hattach ho
  generalize hd : Deed.launch b.2.language = deed at hs
  cases hs with
  | launched l i request notes p hi hst hshut hr hl ha =>
    have hnone : (h.launching request notes).language? h.nextGeneration = none :=
      ((launching_keeps h request notes).language _).trans (hc.fresh _ (Nat.le_refl _))
    obtain ⟨_, hev, -⟩ := i.connect_evolves h.root h.environment h.nextGeneration p
      (h.environment.overture h.nextGeneration request) _ hnone
    obtain rfl := hlast notes hev.launches
    obtain rfl : p = plan := by simpa [hl] using hplan
    exact i.connect_greets h.root h.environment hnone ho
  | unlaunched =>
    exact absurd (he.symm.trans (Connections.log_evolves _ _).launches) (by simp)
  | failed l i request notes e hi hst hshut hr hl =>
    obtain rfl := hlast notes (Connections.log_evolves _ _).launches
    simp [hl] at hplan
  | unattached l i request notes p e hi hst hshut hr hl ha =>
    obtain rfl := hlast notes
      ((Connections.record_evolves _ rfl rfl).trans (Connections.log_evolves _ _)).launches
    simp [ha] at hattach
  | _ => cases hd

lemma turn_greets {t : Turn} (hc : t.before.Coherent) (ha : a ∈ t.launches) :
    t.before.Greets t.after a := by
  suffices hn : ∃ news, t.after.connections.launches = t.before.connections.launches ++ news ∧
      ∀ b ∈ news, t.before.Greets t.after b by
    obtain ⟨news, hl, hg⟩ := hn
    rw [Turn.launches, hl, List.drop_left] at ha
    exact hg a ha
  obtain ⟨h, m⟩ := t
  by_cases hm : ∃ e, m = .surround e
  · obtain ⟨e, rfl⟩ := hm
    exact ⟨[], (List.append_nil _).symm, by simp⟩
  refine And.right (perform_keeps (P := fun d => d ≠ .surround)
    (I := fun k => k.environment = h.environment ∧ ∃ news,
      k.connections.launches = h.connections.launches ++ news ∧ ∀ b ∈ news, h.Greets k b) hc
    ⟨rfl, [], by simp, by simp⟩ m ?_ ?_ ?_)
  · rintro d hd rfl
    exact hm hd
  · rintro subject d hd rfl
    exact hd
  · rintro x y d hd hs hx ⟨he, news, hl, hg⟩
    obtain ⟨more, hmore, hgreets⟩ := hs.greets hx
    refine ⟨(hs.environment hd).trans he, news ++ more, by rw [hmore, hl, List.append_assoc], ?_⟩
    intro b hb
    rcases List.mem_append.mp hb with hb | hb
    · exact (hg b hb).mono (hs.grows hx)
    · have hnew := hgreets b hb
      rwa [Greets, he] at hnew

lemma run_greets (hc : h.Coherent) (ms : List Move) {t : Turn} (ht : t ∈ h.turns ms)
    (ha : a ∈ t.launches) : t.before.Greets (h.run ms) a := by
  induction ms generalizing h with
  | nil => cases ht
  | cons m rest ih =>
    have hafter := perform_coherent hc m
    rcases List.mem_cons.mp ht with rfl | ht
    · exact (turn_greets hc ha).mono (run_grows hafter rest)
    · exact ih hafter ht

/-- Whatever happens to a session, nothing comes before the handshake in what is submitted to a
server or written to it, and nothing after a shutdown but what helps the server to its end. The
handshake is the first message submitted where the output of the server lasts until then, and the
first message written if the server takes its first frame. That it is initialized, a server is told
at most once, and only when its own answer to the handshake is handled; what is about documents
comes after that. -/
theorem conversations_orderly (settings : Settings) (root : Option FilePath)
    (environment : Environment) (ms : List Move) (g : Nat) :
    Orderly (((fresh settings root environment).run ms).connections.messages g) ∧
      HandshakeLeads (((fresh settings root environment).run ms).connections.written g) ∧
      ShutdownEnds (((fresh settings root environment).run ms).connections.written g) ∧
      (∀ t ∈ (fresh settings root environment).turns ms, ∀ request plan,
        t.Connects g request plan → (t.before.environment.overture g request).Lasts →
          (∃ m, (((fresh settings root environment).run ms).connections.messages g).head? = some m ∧
            m.isInitialize = true) ∧
          (plan 0 = .whole →
            ∃ m, (((fresh settings root environment).run ms).connections.written g).head? = some m ∧
              m.isInitialize = true)) ∧
      ∀ pre t post, (fresh settings root environment).turns ms = pre ++ t :: post →
        ∀ s ∈ t.sent, s.1 = g → s.2.1.isInitialized = true → t.Follows pre .handshake g := by
  have hc := fresh_coherent settings root environment
  obtain ⟨st, hx, -⟩ := run_courses hc (fresh_courses settings root environment g) ms
  have hleads := hx.orderly.first
  have hsub := Connections.written_sublist ((fresh settings root environment).run ms).connections g
  have hwritten := hleads.sublist hsub
  refine ⟨hx.orderly, hwritten, hx.orderly.parting.sublist hsub, ?_, ?_⟩
  · intro t ht request plan hconnects ho
    obtain ⟨id, params, result, hs, hr⟩ := run_greets hc ms ht hconnects.attempted plan
      hconnects.launched hconnects.attached ho
    refine ⟨⟨_, hleads.head? (Connections.mem_messagesTo hs) rfl, rfl⟩, fun hw => ?_⟩
    obtain rfl := hr hw
    exact ⟨_, hwritten.head? (Connections.mem_messagesTo (List.mem_filter.mpr ⟨hs, rfl⟩)) rfl, rfl⟩
  · intro pre t post hts s hs hg hi
    obtain ⟨ns, rest, hb, -⟩ := turns_mem_split hts
    obtain ⟨l, response, he, -⟩ := (turn_marks (hb ▸ run_coherent hc ns) hs).1 hi
    have hf := turns_follow hc (fresh_known settings root environment) hts he rfl
    exact hg ▸ hf

end Host

namespace Sample

def hasty : Environment where
  processId := 1
  home := none
  launch _ _ := ([], .ok Sink.open_.plan)
  readText _ := .error .notFound
  early _ _ :=
    { signals := (Frame.encode (Utf8.encode (Json.renderOrdered
        [("id", .str "a"), ("method", .str "client/registerCapability")])) ++
          Utf8.encode "bad\n".toList).map .byte }
  lead := 100

def choking : Environment where
  processId := 1
  home := none
  launch _ _ := ([], .ok fun n => if n = 0 then .cut 0 .brokenPipe else .whole)
  readText _ := .error .notFound

end Sample

namespace Host

theorem visit_orderly :
    ((Sample.session.run Sample.visit).connections.messages 1).map Outbound.method? =
        [some "initialize", some "initialized", some "textDocument/didOpen", some "shutdown"] ∧
      Orderly ((Sample.session.run Sample.visit).connections.messages 1) ∧
      (∃ m, ((Sample.session.run Sample.visit).connections.written 1).head? = some m ∧
        m.isInitialize = true) ∧
      Turn.Follows ⟨Sample.session.run (Sample.visit.take 2), .handle {}⟩
        (Sample.session.turns (Sample.visit.take 2)) .handshake 1 := by
  have hturns := turns_append Sample.session (Sample.visit.take 2) (.handle {} :: Sample.visit.drop 3)
  obtain ⟨horderly, -, -, hgreeted, hfollows⟩ :=
    conversations_orderly Sample.settings none Sample.environment Sample.visit 1
  have hlaunched : (Turn.launches ⟨Sample.session, .didOpen Sample.document⟩).any
      (fun a => a.1 = 1) = true := by decide +kernel
  obtain ⟨⟨n, request⟩, ha, hn⟩ := List.any_eq_true.mp hlaunched
  obtain rfl : n = 1 := of_decide_eq_true hn
  have hsent : (Turn.sent ⟨Sample.session.run (Sample.visit.take 2), .handle {}⟩).any
      (fun s => s.1 = 1 ∧ s.2.1.isInitialized = true) = true := by decide +kernel
  obtain ⟨⟨g, message⟩, hs, hm⟩ := List.any_eq_true.mp hsent
  obtain ⟨rfl, hi⟩ := of_decide_eq_true hm
  refine ⟨by decide +kernel, horderly, ?_, ?_⟩
  · exact (hgreeted ⟨Sample.session, .didOpen Sample.document⟩ List.mem_cons_self request _
      ⟨ha, rfl, rfl⟩ ⟨rfl, rfl⟩).2 rfl
  · exact hfollows _ ⟨Sample.session.run (Sample.visit.take 2), .handle {}⟩ _ hturns _ hs rfl hi

/-- A server is written an answer, or asked to shut down, and no handshake comes before. -/
theorem hasty_ungreeted :
    (((fresh Sample.settings none Sample.hasty).run
        [.didOpen Sample.document, .handle {}]).connections.written 1).map Outbound.isReply = [true] ∧
      (((fresh Sample.settings none Sample.choking).run
        [.didOpen Sample.document, .shutdown Sample.language]).connections.written 1).map
          Outbound.method? = [some "shutdown"] := by
  decide +kernel

end Host

end LanguageHost
