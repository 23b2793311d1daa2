import LanguageHost.Proofs.Session.Calls

namespace LanguageHost

variable {heard other : Nat → PendingCall Ticket → Json → Prop}

namespace Instance

lemma finish_heeds (i : Instance) (how : Ending) (c : Connections) :
    Connections.Heeds heard c (i.finish how c).1 := by
  simp only [finish]
  split
  · exact Connections.finish_heeds c _ how
  · exact .refl c

lemma notify_heeds (i : Instance) (method : String) (params : Json) (c : Connections) :
    Connections.Heeds heard c (i.notify method params c).1 := by
  simp only [notify]
  split
  · exact Connections.notify_heeds c _ method params
  · exact .refl c

lemma initializeSucceeded_heeds (i : Instance) (response : Json) (c : Connections) :
    Connections.Heeds heard c (i.initializeSucceeded response c).1 := by
  have hlogs (fs : List (Feature × FeatureSource)) (j : Instance) (c : Connections) :
      Connections.Heeds heard c (fs.foldl (fun c f => c.log (j.featureNote f)) c) := by
    induction fs generalizing c with
    | nil => exact .refl c
    | cons f rest ih => exact (Connections.log_heeds c _).trans (ih _)
  exact (hlogs _ (i.welcomed response) c).trans
    ((i.welcomed response).notify_heeds "initialized" (.obj []) _)

lemma connect_heeds (i : Instance) (root : Option FilePath) (env : Environment) (g : Nat)
    (plan : Nat → Verdict) (o : Overture) {c : Connections} (hn : c.language? g = none) :
    Connections.Heeds heard c (i.connect root env g plan o c).1 := by
  have hadd : Connections.Heeds heard c
      (c.add (Client.start i.language g i.settings.rpcTrace plan)) := Connections.add_heeds rfl
  have hnotes := (hadd.trans (Connections.log_heeds _ (i.note .info "language server started"
    [("generation", toString g), ("restarts", toString i.restarts)]))).trans
      (Connections.logs_heeds (i.options root env).1 _)
  have hnew : (c.add (Client.start i.language g i.settings.rpcTrace plan)).get? g =
      some (Client.start i.language g i.settings.rpcTrace plan) := Connections.add_get? c hn
  -- No call was made yet, so nothing that is overheard answers one.
  have hheard := hnotes.trans (Connections.overhear_heeds _ g o fun client hclient call v => by
    rw [Connections.logs_get?] at hclient
    obtain rfl := Option.some.inj (hnew.symm.trans hclient)
    exact Client.not_hears rfl o.signals call v)
  have hfits (m : String) (hm : Ticket.method? .handshake = some m) : "initialize" = m :=
    Option.some.inj hm
  have hcall := hheard.trans (Connections.call_heeds _ g
    (Handshake.params env.processId root (i.options root env).2) hfits)
  rcases i.connect_cases root env g plan o c rfl with hd | ⟨e, hd⟩ <;> rw [hd]
  · exact hcall
  · refine hcall.trans (Connections.post_heeds _ (fun _ => ?_) fun _ _ => ?_)
    · simp [ServerEvent.settles, ServerEventKind.answer?]
    · simp [ServerEventKind.answer?]

end Instance

lemma Connections.Known.mono {c : Connections} (hk : c.Known heard)
    (hm : ∀ g call v, heard g call v → other g call v) : c.Known other :=
  ⟨hk.calls, fun e he t v ha =>
    let ⟨call, ht, hmade, hh⟩ := hk.answers e he t v ha
    ⟨call, ht, hmade, hm _ _ _ hh⟩⟩

namespace Host

variable {h k : Host} {deed : Deed} {P : Deed → Prop}

lemma launching_heeds (h : Host) (request : LaunchRequest) (notes : List LogRecord) :
    h.connections.Heeds heard (h.launching request notes) :=
  (Connections.record_heeds h.connections (e := .launched h.nextGeneration request) rfl).trans
    (Connections.logs_heeds notes _)

lemma Step.heeds (hs : Step h deed k) (hc : h.Coherent)
    (hh : ∀ g signals, deed = .hear g signals → ∀ client, h.connections.get? g = some client →
      ∀ call v, client.Hears signals call v → heard g call v) :
    h.connections.Heeds heard k.connections := by
  have hcaller {method : String} (m : String) (hm : Ticket.method? .caller = some m) :
      method = m := by cases hm
  cases hs with
  | logged r => exact Connections.log_heeds _ r
  | told | taken | progressed | announced | requested | elapsed | surrounded | touched | unlisted
    | excused | idled | retired | forgotten | sealed | replaced | shuffled => exact .refl _
  | popped e rest hq => exact Connections.popped_heeds hq
  | received g signals => exact Connections.receive_heeds _ g signals (hh g signals rfl)
  | ended g => exact Connections.endOutput_heeds _ g
  | planned g plan => exact Connections.setPlan_heeds _ g plan
  | collected name => exact Connections.collect_heeds _ name
  | configured l slot notes => exact Connections.logs_heeds notes _
  | replied l i g id r => exact Connections.reply_heeds _ g id r
  | searched l i g query => exact Connections.call_heeds _ g _ hcaller
  | asked l i g kind d uri p => exact Connections.call_heeds _ g _ hcaller
  | opened l i | changed l i | saved l i | closed l i =>
    exact Connections.tell_heeds _ i.connection _ _
  | launched l i request notes plan =>
    have hnone : (h.launching request notes).language? h.nextGeneration = none :=
      ((launching_keeps h request notes).language _).trans (hc.fresh _ (Nat.le_refl _))
    exact (launching_heeds h request notes).trans
      (i.connect_heeds h.root h.environment h.nextGeneration plan _ hnone)
  | unlaunched => exact Connections.log_heeds _ _
  | failed l i request notes =>
    exact (launching_heeds h request notes).trans (Connections.log_heeds _ _)
  | unattached l i request notes =>
    exact (launching_heeds h request notes).trans
      ((Connections.record_heeds _ rfl).trans (Connections.log_heeds _ _))
  | welcomed l i g response => exact i.initializeSucceeded_heeds response _
  | lost l i | abandoned l i | muted l i | evicted l i | expelled i =>
    exact i.finish_heeds .forceExit _
  | stopping l i g | reminded l i g =>
    exact Connections.call_heeds _ g _ fun _ hm => Option.some.inj hm
  | acknowledged l i | released i => exact i.notify_heeds "exit" .null _
  | dropped l i how | departed i rest how => exact i.finish_heeds how _

lemma Walk.heeds (hw : Walk P h k) (hc : h.Coherent) (hp : ∀ g signals, ¬P (.hear g signals)) :
    h.connections.Heeds heard k.connections :=
  (hw.keeps (I := fun k => k.Coherent ∧ h.connections.Heeds heard k.connections) ⟨hc, .refl _⟩
    fun hd hs ha => ⟨hs.coherent ha.1, ha.2.trans
      (hs.heeds ha.1 fun g signals he => absurd (he ▸ hd) (hp g signals))⟩).2

end Host

namespace Turn

variable {t : Turn} {pre post : List Turn}

def Hears (t : Turn) (g : Nat) (call : PendingCall Ticket) (v : Json) : Prop :=
  ∃ signals client, t.move = .receive g signals ∧ t.before.connections.get? g = some client ∧
    client.Hears signals call v

lemma heeds (hc : t.before.Coherent) (hh : ∀ g call v, t.Hears g call v → heard g call v) :
    t.before.connections.Heeds heard t.after.connections := by
  by_cases hm : ∃ g signals, t.move = .receive g signals
  · obtain ⟨g, signals, hm⟩ := hm
    have hafter : t.after.connections = t.before.connections.receive g signals := by
      rw [Turn.after, hm]
      rfl
    rw [hafter]
    exact Connections.receive_heeds _ g signals fun client hclient call v hv =>
      hh g call v ⟨signals, client, hm, hclient, hv⟩
  · obtain ⟨k, hw, hcalm⟩ := Host.perform_walk hc.languages t.move
    exact (hw.heeds hc fun g signals hg => hm ⟨g, signals, hg⟩).trans
      (hcalm.heeds (hw.coherent hc) fun g signals hg => hg)

/-- A successful answer to a call of the session is handled. Unless it turns up out of order, it was
heard in one of the turns before, for a call that was made. -/
def Follows (t : Turn) (pre : List Turn) (ticket : Ticket) (g : Nat) : Prop :=
  ∃ e v, t.event? = some e ∧ e.generation = g ∧ e.kind.answer? = some (ticket, .ok v) ∧
    ((∃ w, t.move = .handle w) → ∃ call, call.tag = ticket ∧ t.before.connections.Made g call ∧
      ∃ u ∈ pre, u.Hears g call v)

end Turn

namespace Host

variable {h : Host} {ms : List Move}

lemma run_known (hc : h.Coherent) (hk : h.connections.Known fun _ _ _ => False) (ms : List Move) :
    (h.run ms).connections.Known fun g call v => ∃ u ∈ h.turns ms, u.Hears g call v := by
  induction ms using List.reverseRecOn with
  | nil => exact hk.mono fun _ _ _ => False.elim
  | append_singleton ms m ih =>
    have hturns : h.turns (ms ++ [m]) = h.turns ms ++ [⟨h.run ms, m⟩] := turns_append h ms [m]
    rw [run_append, hturns]
    refine (Turn.heeds (t := ⟨h.run ms, m⟩) (run_coherent hc ms) fun g call v hv => ?_).known
      (ih.mono fun g call v ⟨u, hu, hv⟩ => ⟨u, List.mem_append_left _ hu, hv⟩)
    exact ⟨_, List.mem_append_right _ (List.mem_singleton_self _), hv⟩

lemma fresh_known (settings : Settings) (root : Option FilePath) (environment : Environment) :
    (fresh settings root environment).connections.Known heard where
  calls g client hg := by simp [fresh, Connections.get?] at hg
  answers e he := by simp [fresh] at he

lemma turns_follow (hc : h.Coherent) (hk : h.connections.Known fun _ _ _ => False)
    {pre post : List Turn} {t : Turn} (hts : h.turns ms = pre ++ t :: post) {e : ServerEvent}
    (he : t.event? = some e) {ticket : Ticket} {v : Json}
    (ha : e.kind.answer? = some (ticket, .ok v)) : t.Follows pre ticket e.generation := by
  refine ⟨e, v, he, rfl, ha, fun ⟨w, hw⟩ => ?_⟩
  obtain ⟨ns, rest, hb, hpre, -⟩ := turns_mem_split hts
  have hin : e ∈ t.before.connections.inbox := by
    rw [Turn.event?, hw] at he
    exact List.mem_of_head? he
  have hknown := run_known hc hk ns
  rw [← hb, ← hpre] at hknown
  exact hknown.answers e hin ticket v ha

end Host

end LanguageHost
