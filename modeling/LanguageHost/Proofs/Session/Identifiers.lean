import Mathlib.Logic.Relation
import LanguageHost.Proofs.Rpc.Settlement
import LanguageHost.Proofs.Session.Hearing

namespace LanguageHost

namespace Client

variable {κ : Type} {c d e : Client κ} {es fs : List (Emission κ)}

def emissions (c : Client κ) (acts : List (Act κ)) : List (Emission κ) :=
  (c.turns acts).flatMap fun t => (t.before.perform t.act).2.1

lemma receive_run (c : Client κ) (signals : List Frame.Signal) :
    c.receive signals = (c.run (signals.map .signal), c.emissions (signals.map .signal)) := by
  induction signals generalizing c with
  | nil => rfl
  | cons s rest ih =>
    simp only [receive, ih]
    rfl

lemma perform_call (c : Client κ) (method : String) (params : Json) (tag : κ) :
    (c.perform (.call method params tag)).1 = (c.call method params tag).1 ∧
      (c.perform (.call method params tag)).2.1 = (c.call method params tag).2.1 := by
  simp only [perform]
  split
  · next hcall => simp only [hcall, and_self]
  · next hcall => simp only [hcall, and_self]

structure Counts (c d : Client κ) (es : List (Emission κ)) : Prop where
  same : Same c d
  le : c.nextId ≤ d.nextId
  taken : ∀ s ∈ submissions es, ∀ id method params, s.1 = .request id method params →
    (c.nextId : Int) ≤ id ∧ id < d.nextId

namespace Counts

lemma refl (c : Client κ) : Counts c c [] := ⟨⟨rfl, rfl⟩, Nat.le_refl _, by simp [submissions]⟩

lemma trans (h : Counts c d es) (h' : Counts d e fs) : Counts c e (es ++ fs) := by
  have hle := h.le
  have hle' := h'.le
  refine ⟨h.same.trans h'.same, Nat.le_trans hle hle', fun s hs id method params hm => ?_⟩
  rw [submissions_append] at hs
  rcases List.mem_append.mp hs with hs | hs
  · have := h.taken s hs id method params hm
    omega
  · have := h'.taken s hs id method params hm
    omega

lemma still (hs : Same c d) (hn : d.nextId = c.nextId)
    (hq : ∀ s ∈ submissions es, ∀ id method params, s.1 ≠ .request id method params) :
    Counts c d es :=
  ⟨hs, Nat.le_of_eq hn.symm, fun s hm id method params hr => absurd hr (hq s hm id method params)⟩

end Counts

lemma submit_nextId (c : Client κ) (m : Outbound) : (c.submit m).1.nextId = c.nextId := by
  obtain ⟨sink, hs⟩ := submit_fst c m
  rw [hs]

lemma call_counts (c : Client κ) (method : String) (params : Json) (tag : κ) :
    Counts c (c.call method params tag).1 (c.call method params tag).2.1 := by
  cases hc : c.closed with
  | true =>
    rw [call_closed hc]
    exact ⟨⟨rfl, rfl⟩, Nat.le_succ _, by simp [submissions]⟩
  | false =>
    obtain ⟨hsame, -, result, hs, -⟩ := call_traffic hc method params tag
    have hnext : (c.call method params tag).1.nextId = c.nextId + 1 := by
      obtain ⟨sink, sending, es, result, -, hcall⟩ := call_open hc method params tag
      rw [hcall]
      cases result <;> rfl
    refine ⟨hsame, hnext ▸ Nat.le_succ _, fun s hm id name ps hr => ?_⟩
    rw [hs] at hm
    obtain rfl := List.mem_singleton.mp hm
    obtain ⟨rfl, -, -⟩ := Outbound.request.inj hr
    omega

lemma perform_counts (c : Client κ) (a : Act κ) : Counts c (c.perform a).1 (c.perform a).2.1 := by
  cases a with
  | call method params tag =>
    rw [(perform_call c method params tag).1, (perform_call c method params tag).2]
    exact call_counts c method params tag
  | notify method params =>
    obtain ⟨result, hs, -⟩ := submissions_notify c method params
    refine .still (notify_same c method params) (submit_nextId c _) fun s hm => ?_
    obtain rfl := List.mem_singleton.mp (hs ▸ hm)
    nofun
  | reply id r =>
    obtain ⟨result, hs⟩ := submissions_reply c id r
    refine .still (reply_same c id r) (submit_nextId c _) fun s hm => ?_
    obtain rfl := List.mem_singleton.mp (hs ▸ hm)
    nofun
  | close => exact .still (close_traffic c).1 rfl (by simp [perform, (close_traffic c).2])
  | signal s =>
    exact .still (feed_traffic c s).1 (signal_reads c s).change.nextId
      (by simp [perform, (feed_traffic c s).2])
  | finish =>
    exact .still (finish_traffic c).1 (finish_reads c).change.nextId
      (by simp [perform, (finish_traffic c).2])

lemma run_counts (c : Client κ) (acts : List (Act κ)) : Counts c (c.run acts) (c.emissions acts) := by
  induction acts generalizing c with
  | nil => exact .refl c
  | cons a rest ih => exact (perform_counts c a).trans (ih _)

end Client

namespace Connections

variable {c d e : Connections} {g : Nat} {client : Client Ticket}

inductive Works (c : Connections) : Connections → Prop
  | aside {d : Connections} (hc : d.clients = c.clients) (hs : d.submissions = c.submissions) :
      Works c d
  | acted {g : Nat} {client : Client Ticket} (acts : List (Client.Act Ticket))
      (hc : c.get? g = some client) :
      Works c (c.accept (client.run acts) (client.emissions acts))
  | replanned {g : Nat} {client : Client Ticket} (sink : Option Sink)
      (hc : c.get? g = some client) : Works c (c.accept { client with sink } [])
  | joined (client : Client Ticket) : Works c (c.add client)

def Worked : Connections → Connections → Prop := Relation.ReflTransGen Works

lemma Works.worked (h : Works c d) : Worked c d := .single h

lemma Worked.aside (hc : d.clients = c.clients) (hs : d.submissions = c.submissions) :
    Worked c d := (Works.aside hc hs).worked

lemma Worked.trans (h : Worked c d) (h' : Worked d e) : Worked c e :=
  Relation.ReflTransGen.trans h h'

lemma Worked.refl (c : Connections) : Worked c c := Relation.ReflTransGen.refl

section Operations

lemma record_worked (c : Connections) {e : Effect} (he : e.submission? = none) :
    Worked c (c.record e) := .aside rfl (by simp [submissions, record, he])

lemma log_worked (c : Connections) (r : LogRecord) : Worked c (c.log r) := record_worked c rfl

lemma logs_worked (notes : List LogRecord) (c : Connections) : Worked c (notes.foldl log c) := by
  induction notes generalizing c with
  | nil => exact .refl c
  | cons r rest ih => exact (log_worked c r).trans (ih (c.log r))

lemma update_worked {f : Client Ticket → Client Ticket × List (Emission Ticket)}
    (hf : ∀ client, ∃ acts, f client = (client.run acts, client.emissions acts))
    (c : Connections) (g : Nat) : Worked c (c.update g f) := by
  cases hc : c.get? g with
  | none =>
    simp only [update, hc]
    exact .refl c
  | some client =>
    obtain ⟨acts, ha⟩ := hf client
    simp only [update, hc, ha]
    exact (Works.acted acts hc).worked

lemma ask_worked {α : Type} {f : Client Ticket → Client.Result Ticket (Except RpcError α)}
    {a : Client.Act Ticket} (hf : ∀ client : Client Ticket,
      (client.perform a).1 = (f client).1 ∧ (client.perform a).2.1 = (f client).2.1)
    (c : Connections) (g : Nat) : Worked c (c.ask g f).1 := by
  cases hc : c.get? g with
  | none =>
    simp only [ask, hc]
    exact .refl c
  | some client =>
    have hacted := Works.acted [a] hc
    simp only [Client.emissions, Client.turns, Client.run, List.flatMap_cons, List.flatMap_nil,
      List.append_nil, List.foldl_cons, List.foldl_nil, (hf client).1, (hf client).2] at hacted
    simp only [ask, hc]
    exact hacted.worked

variable (c g)

lemma call_worked (method : String) (params : Json) (t : Ticket) :
    Worked c (c.call g method params t).1 :=
  ask_worked (fun client => client.perform_call method params t) c g

lemma notify_worked (method : String) (params : Json) : Worked c (c.notify g method params).1 :=
  ask_worked (a := .notify method params) (fun _ => ⟨rfl, rfl⟩) c g

lemma reply_worked (id : RequestId) (r : Reply) : Worked c (c.reply g id r).1 :=
  ask_worked (a := .reply id r) (fun _ => ⟨rfl, rfl⟩) c g

lemma receive_worked (signals : List Frame.Signal) : Worked c (c.receive g signals) :=
  update_worked (fun client => ⟨_, client.receive_run signals⟩) c g

lemma endOutput_worked : Worked c (c.endOutput g) :=
  update_worked (fun client => ⟨[.finish], by simp [Client.run, Client.emissions, Client.turns,
    Client.perform]⟩) c g

lemma overhear_worked (o : Overture) : Worked c (c.overhear g o) := by
  simp only [overhear]
  split
  · exact (receive_worked c g o.signals).trans (endOutput_worked _ g)
  · exact receive_worked c g o.signals

lemma setPlan_worked (plan : Nat → Verdict) : Worked c (c.setPlan g plan) := by
  cases hc : c.get? g with
  | none =>
    simp only [setPlan, update, hc]
    exact .refl c
  | some client =>
    simp only [setPlan, update, hc]
    exact (Works.replanned _ hc).worked

lemma finish_worked (how : Ending) : Worked c (c.finish g how) := by
  have hclose : Worked c (c.update g Client.close) :=
    update_worked (fun client => ⟨[.close], by simp [Client.run, Client.emissions, Client.turns,
      Client.perform]⟩) c g
  exact (hclose.trans (record_worked _ rfl)).trans (endOutput_worked _ g)

lemma tell_worked (n : Option Nat) (method : String) (params : Json) :
    Worked c (c.tell n method params) := by
  cases n with
  | none => exact .refl c
  | some g => exact notify_worked c g method params

end Operations

def Counted (c : Connections) : Prop :=
  ∀ (g : Nat) (id : Int) method params result,
    (g, .request id method params, result) ∈ c.submissions →
      ∃ client, c.get? g = some client ∧ id < client.nextId

lemma Counted.accepted (hk : c.Counted) (hc : c.get? g = some client) {new : Client Ticket}
    {es : List (Emission Ticket)} (hn : Client.Counts client new es) : (c.accept new es).Counted := by
  have hg : new.generation = g := hn.same.1.trans (get?_generation hc)
  intro n id method params result hm
  rw [(accept_evolves c hc hn.same es).submissions] at hm
  rw [accept_get? hc hg]
  rcases List.mem_append.mp hm with hm | hm
  · obtain ⟨old, hold, hid⟩ := hk n id method params result hm
    split
    · next hgn =>
      subst hgn
      obtain rfl := Option.some.inj (hc.symm.trans hold)
      have := hn.le
      exact ⟨new, rfl, by omega⟩
    · exact ⟨old, hold, hid⟩
  · obtain ⟨s, hs, hsm⟩ := List.mem_map.mp hm
    obtain ⟨rfl, rfl⟩ := Prod.mk.inj hsm
    rw [if_pos rfl]
    exact ⟨new, rfl, (hn.taken _ hs id method params rfl).2⟩

lemma Works.counted (h : Works c d) (hk : c.Counted) : d.Counted := by
  cases h with
  | aside hc hs =>
    intro g id method params result hm
    rw [hs] at hm
    obtain ⟨client, hg, hid⟩ := hk g id method params result hm
    exact ⟨client, by simpa only [get?, hc] using hg, hid⟩
  | acted acts hc => exact hk.accepted hc (Client.run_counts _ acts)
  | replanned sink hc =>
    exact hk.accepted hc (.still ⟨rfl, rfl⟩ rfl (by simp [LanguageHost.submissions]))
  | joined new =>
    intro g id method params result hm
    obtain ⟨client, hg, hid⟩ := hk g id method params result hm
    refine ⟨client, ?_, hid⟩
    simp only [get?] at hg
    simp only [get?, add, List.find?_append, hg, Option.some_or]

lemma Worked.counted (h : Worked c d) (hk : c.Counted) : d.Counted := by
  induction h with
  | refl => exact hk
  | tail _ hlast ih => exact hlast.counted ih

end Connections

namespace Instance

lemma finish_worked (i : Instance) (how : Ending) (c : Connections) :
    Connections.Worked c (i.finish how c).1 := by
  simp only [finish]
  split
  · exact Connections.finish_worked c _ how
  · exact .refl c

lemma notify_worked (i : Instance) (method : String) (params : Json) (c : Connections) :
    Connections.Worked c (i.notify method params c).1 := by
  simp only [notify]
  split
  · exact Connections.notify_worked c _ method params
  · exact .refl c

lemma initializeSucceeded_worked (i : Instance) (response : Json) (c : Connections) :
    Connections.Worked c (i.initializeSucceeded response c).1 := by
  have hlogs (fs : List (Feature × FeatureSource)) (j : Instance) (c : Connections) :
      Connections.Worked c (fs.foldl (fun c f => c.log (j.featureNote f)) c) := by
    induction fs generalizing c with
    | nil => exact .refl c
    | cons f rest ih => exact (Connections.log_worked c _).trans (ih _)
  exact (hlogs _ (i.welcomed response) c).trans
    ((i.welcomed response).notify_worked "initialized" (.obj []) _)

lemma connect_worked (i : Instance) (root : Option FilePath) (env : Environment) (g : Nat)
    (plan : Nat → Verdict) (o : Overture) (c : Connections) :
    Connections.Worked c (i.connect root env g plan o c).1 := by
  have hadd := (Connections.Works.joined (c := c)
    (Client.start i.language g i.settings.rpcTrace plan)).worked
  have hnotes := (hadd.trans (Connections.log_worked _ (i.note .info "language server started"
    [("generation", toString g), ("restarts", toString i.restarts)]))).trans
      (Connections.logs_worked (i.options root env).1 _)
  have hcall := (hnotes.trans (Connections.overhear_worked _ g o)).trans
    (Connections.call_worked _ g "initialize"
      (Handshake.params env.processId root (i.options root env).2) .handshake)
  rcases i.connect_cases root env g plan o c rfl with hd | ⟨e, hd⟩ <;> rw [hd]
  · exact hcall
  · exact hcall.trans (.aside rfl rfl)

end Instance

namespace Host

variable {h k : Host} {deed : Deed} {P : Deed → Prop} {ms : List Move}

lemma launching_worked (h : Host) (request : LaunchRequest) (notes : List LogRecord) :
    h.connections.Worked (h.launching request notes) :=
  (Connections.record_worked h.connections (e := .launched h.nextGeneration request) rfl).trans
    (Connections.logs_worked notes _)

lemma Step.worked (hs : Step h deed k) : h.connections.Worked k.connections := by
  have haside {c d : Connections} (hc : d.clients = c.clients) (ht : d.trace = c.trace) :
      c.Worked d := .aside hc (by simp only [Connections.submissions, ht])
  cases hs with
  | logged r => exact Connections.log_worked _ r
  | told | taken | progressed | announced | requested | elapsed | surrounded | touched | unlisted
    | excused | idled | retired | forgotten | sealed | replaced | shuffled | popped | collected =>
    exact haside rfl rfl
  | received g signals => exact Connections.receive_worked _ g signals
  | ended g => exact Connections.endOutput_worked _ g
  | planned g plan => exact Connections.setPlan_worked _ g plan
  | configured l slot notes => exact Connections.logs_worked notes _
  | replied l i g id r => exact Connections.reply_worked _ g id r
  | searched l i g | asked l i g | stopping l i g | reminded l i g =>
    exact Connections.call_worked _ g _ _ _
  | opened l i | changed l i | saved l i | closed l i =>
    exact Connections.tell_worked _ i.connection _ _
  | launched l i request notes plan =>
    exact (launching_worked h request notes).trans
      (i.connect_worked h.root h.environment h.nextGeneration plan _ _)
  | unlaunched => exact Connections.log_worked _ _
  | failed l i request notes =>
    exact (launching_worked h request notes).trans (Connections.log_worked _ _)
  | unattached l i request notes =>
    exact (launching_worked h request notes).trans
      ((Connections.record_worked _ rfl).trans (Connections.log_worked _ _))
  | welcomed l i g response => exact i.initializeSucceeded_worked response _
  | lost l i | abandoned l i | muted l i | evicted l i | expelled i =>
    exact i.finish_worked .forceExit _
  | acknowledged l i | released i => exact i.notify_worked "exit" .null _
  | dropped l i how | departed i rest how => exact i.finish_worked how _

lemma Walk.worked (hw : Walk P h k) : h.connections.Worked k.connections :=
  hw.keeps (I := fun k => h.connections.Worked k.connections) (.refl _)
    fun _ hs ha => ha.trans hs.worked

lemma run_counted (hc : h.Coherent) (hk : h.connections.Counted) (ms : List Move) :
    (h.run ms).connections.Counted :=
  run_keeps (P := fun _ => True) (I := fun k => k.connections.Counted) hc hk ms
    (fun _ _ _ _ => trivial) (fun _ _ _ => trivial) fun _ hs _ ha => hs.worked.counted ha

end Host

end LanguageHost
