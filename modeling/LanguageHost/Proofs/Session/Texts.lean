import LanguageHost.Proofs.Session.Registry
import LanguageHost.Proofs.Session.Replay

namespace LanguageHost

namespace Turn

def sent (t : Turn) : List (Nat × Submission) :=
  t.after.connections.submissions.drop t.before.connections.submissions.length

lemma sent_eq {t : Turn} {sent : List (Nat × Submission)}
    (hs : t.after.connections.submissions = t.before.connections.submissions ++ sent) :
    t.sent = sent := by
  rw [Turn.sent, hs, List.drop_left]

end Turn

namespace Host

variable {h k : Host} {l m : LanguageId} {i j : Instance} {g : Nat} {slot : Slot} {deed : Deed}
  {sent : List (Nat × Submission)}

/-- A ready server with its connection. -/
structure Runs (h : Host) (l : LanguageId) (i : Instance) (g : Nat) : Prop where
  current : h.instance? l = some i
  ready : i.state = .ready
  linked : i.connection = some g

/-- What a step says about texts, and what becomes of the ready servers. -/
inductive Utters (h k : Host) : Deed → List (Nat × Submission) → Prop
  | silent {deed : Deed} {sent : List (Nat × Submission)} (hs : Silent sent)
      (hr : ∀ l i g, k.Runs l i g → h.Runs l i g ∨ ∃ (response : Json) (j : Instance),
        deed = .welcome l g response ∧ j.opened = [] ∧ i = j.welcomed response) :
      Utters h k deed sent
  | opened (l : LanguageId) (i : Instance) (g : Nat) (d : Document) (uri : Uri) (m : Outbound)
      (result : Except TransportError Unit) (hi : h.Runs l i g) (ho : i.openUri? d.id = none)
      (ha : h.Admits l d) (hu : d.uriOrError = .ok uri)
      (hm : m.revision? = some (uri.text, .opened d.text))
      (hk : k.slots = h.slots.set l (.active (i.addOpen d.id uri))) :
      Utters h k (.about d) [(g, m, result)]
  | changed (l : LanguageId) (i : Instance) (g : Nat) (d : Document) (change : TextChange)
      (uri : Uri) (m : Outbound) (result : Except TransportError Unit) (hi : h.Runs l i g)
      (ho : i.openUri? d.id = some uri)
      (hm : m.revision? = some (uri.text,
        .changed [Sync.contentOf ⟨i, h.versions, h.connections⟩ d change]))
      (hk : k.slots = h.slots.set l (.active i)) :
      Utters h k (.edit d change) [(g, m, result)]
  | closed (l : LanguageId) (i : Instance) (g : Nat) (d : Document) (uri : Uri) (m : Outbound)
      (result : Except TransportError Unit) (hi : h.Runs l i g) (ho : i.openUri? d.id = some uri)
      (hm : m.revision? = some (uri.text, .closed))
      (hk : k.slots = h.slots.set l (.active (i.removeOpen d.id))) :
      Utters h k (.about d) [(g, m, result)]

def Speaks (h k : Host) (deed : Deed) : Prop :=
  ∃ sent, k.connections.submissions = h.connections.submissions ++ sent ∧ Utters h k deed sent

section Running

lemma runs_kept (hs : k.slots = h.slots) (hk : k.Runs l i g) : h.Runs l i g :=
  ⟨by simpa only [instance?, hs] using hk.current, hk.ready, hk.linked⟩

lemma runs_other (hs : k.slots = h.slots.set m slot) (hm : m ≠ l) (hk : k.Runs l i g) :
    h.Runs l i g := by
  refine ⟨?_, hk.ready, hk.linked⟩
  have hi := instance?_eq_some.mp hk.current
  rw [hs, Slots.get?_set, if_neg hm] at hi
  exact instance?_eq_some.mpr hi

lemma runs_self (hs : k.slots = h.slots.set l (.active j)) (hk : k.Runs l i g) : i = j := by
  have hi := instance?_eq_some.mp hk.current
  rw [hs, Slots.get?_set, if_pos rfl] at hi
  simpa using hi.symm

lemma runs_touched (hs : k.slots = h.slots.set m (.active j)) (hj : h.instance? m = some j)
    (hk : k.Runs l i g) : h.Runs l i g := by
  by_cases hm : m = l
  · subst hm
    obtain rfl := runs_self hs hk
    exact ⟨hj, hk.ready, hk.linked⟩
  · exact runs_other hs hm hk

lemma runs_filled (hs : k.slots = h.slots.set m slot)
    (hslot : ∀ j, slot = .active j → j.state ≠ .ready) (hk : k.Runs l i g) : h.Runs l i g := by
  by_cases hm : m = l
  · have hi := instance?_eq_some.mp hk.current
    rw [hs, Slots.get?_set, if_pos hm] at hi
    exact absurd hk.ready (hslot i (Option.some.inj hi))
  · exact runs_other hs hm hk

lemma runs_erased (hs : k.slots = h.slots.erase m) (hk : k.Runs l i g) : h.Runs l i g :=
  ⟨instance?_eq_some.mpr (Coherent.unfilled hs l _ (instance?_eq_some.mp hk.current)), hk.ready,
    hk.linked⟩

lemma Coherent.runs (hc : h.Coherent) (hi : h.instance? l = some i) (hr : i.state = .ready) :
    ∃ g, h.Runs l i g := by
  have hg := (hc.sound hi).connected.mpr (by simp [hr])
  exact (Option.isSome_iff_exists.mp hg).imp fun g hg => ⟨hi, hr, hg⟩

lemma runs_set (hc : h.Coherent) (hi : h.Runs l i g)
    (hs : k.slots = h.slots.set l (.active j)) (hj : j.connection = i.connection) {a : Instance}
    {n : Nat}
    (hk : k.Runs m a n) : (m = l ∧ a = j ∧ n = g) ∨ (h.Runs m a n ∧ m ≠ l ∧ g ≠ n) := by
  by_cases hm : l = m
  · subst hm
    obtain rfl := runs_self hs hk
    exact .inl ⟨rfl, rfl, Option.some.inj (hk.linked.symm.trans (hj.trans hi.linked))⟩
  · have hh := runs_other hs hm hk
    refine .inr ⟨hh, Ne.symm hm, ?_⟩
    rintro rfl
    have hl := (hc.linked hi.current hi.linked).symm.trans (hc.linked hh.current hh.linked)
    exact hm (Option.some.inj hl)

end Running

section Speaking

lemma Speaks.aside (he : k.connections.submissions = h.connections.submissions ++ sent)
    (hs : Silent sent) (hr : ∀ {l i g}, k.Runs l i g → h.Runs l i g) : Speaks h k deed :=
  ⟨sent, he, .silent hs fun _ _ _ hk => .inl (hr hk)⟩

lemma Speaks.quiet (he : h.connections.Evolves k.connections [])
    (hr : ∀ {l i g}, k.Runs l i g → h.Runs l i g) : Speaks h k deed :=
  .aside he.submissions .nil hr

lemma Speaks.nothing (he : k.connections.submissions = h.connections.submissions)
    (hr : ∀ {l i g}, k.Runs l i g → h.Runs l i g) : Speaks h k deed :=
  .aside (by simp [he]) .nil hr

lemma tell_said (hc : h.Coherent) (hi : h.Runs l i g) (method : String) (params : Json) :
    ∃ result, (h.connections.tell i.connection method params).submissions =
      h.connections.submissions ++ [(g, .notification method (Client.paramsOf params), result)] := by
  obtain ⟨result, he, -⟩ :=
    Connections.notify_evolves (hc.linked hi.current hi.linked) method params
  refine ⟨result, ?_⟩
  rw [hi.linked]
  exact he.submissions

lemma launching_submissions (h : Host) (request : LaunchRequest) (notes : List LogRecord) :
    (h.launching request notes).submissions = h.connections.submissions := by
  rw [launching, (Connections.logs_evolves notes _).submissions]
  simp [Connections.submissions, Connections.record, Effect.submission?]

lemma silent_of_request {method : String}
    (hs : ∀ s ∈ sent, ∃ (id : Int) (params : Option Json), s.2.1 = .request id method params) :
    Silent sent := by
  intro s hm
  obtain ⟨id, params, hid⟩ := hs s hm
  rw [hid]
  rfl

lemma silent_of_notification {method : String} {params : Option Json}
    (hs : ∀ s ∈ sent, s.2.1 = .notification method params)
    (hm : method ≠ "textDocument/didOpen" ∧ method ≠ "textDocument/didChange" ∧
      method ≠ "textDocument/didClose") : Silent sent :=
  fun s hmem => by rw [hs s hmem, Outbound.revision?_other params hm]

lemma call_said (h : Host) (n : Nat) (method : String) (params : Json) (t : Ticket) :
    ∃ sent, (h.connections.call n method params t).1.submissions =
      h.connections.submissions ++ sent ∧ Silent sent := by
  obtain ⟨sent, he, hs⟩ := Connections.call_evolves h.connections n method params t
  exact ⟨sent, he.submissions, silent_of_request fun s hm => (hs s hm).2.imp fun id hid => ⟨_, hid⟩⟩

lemma Step.speaks (hs : Step h deed k) (hc : h.Coherent) : Speaks h k deed := by
  cases hs with
  | logged r => exact .quiet (Connections.log_evolves _ r) (runs_kept rfl)
  | told | taken | progressed | announced | requested | elapsed | surrounded | sealed | shuffled
    | replaced | popped | collected => exact .nothing rfl (runs_kept rfl)
  | received g signals =>
    exact .quiet (Connections.receive_evolves _ g signals) (runs_kept rfl)
  | ended g =>
    exact .quiet (Connections.endOutput_evolves _ g) (runs_kept rfl)
  | planned g plan =>
    exact .quiet (Connections.setPlan_evolves _ g plan) (runs_kept rfl)
  | configured l slot notes hn hconf =>
    refine .quiet (Connections.logs_evolves notes _)
      (runs_filled (show _ = h.slots.set l slot from rfl) ?_)
    rintro i rfl
    rw [((configure_ok hconf).2 i rfl).2]
    simp
  | touched l i hi => exact .nothing rfl (runs_touched rfl hi)
  | replied l i g id r =>
    obtain ⟨sent, he, hr⟩ := Connections.reply_evolves h.connections g id r
    refine .aside he.submissions (fun s hm => ?_) (runs_kept rfl)
    rcases hr with rfl | ⟨result, rfl⟩
    · cases hm
    · rw [List.mem_singleton.mp hm]
      rfl
  | searched l i g query =>
    obtain ⟨sent, he, hr⟩ := call_said h g "workspace/symbol" (.object [("query", .str query)])
      .caller
    exact .aside he hr (runs_kept rfl)
  | asked l i g kind d uri p =>
    obtain ⟨sent, he, hr⟩ := call_said h g kind.method (kind.documentParams uri p) .caller
    exact .aside he hr (runs_kept rfl)
  | opened l i d uri hi hr ho ha hu =>
    obtain ⟨g, hg⟩ := hc.runs hi hr
    obtain ⟨result, he⟩ := tell_said hc hg "textDocument/didOpen"
      (Sync.openParams uri (d.language.getD i.language) (h.versions.next d.path).2 d.text)
    exact ⟨_, he, .opened l i g d uri _ result hg ho ha hu (Outbound.revision?_open ..) rfl⟩
  | changed l i d change uri hi hr ho ha =>
    obtain ⟨g, hg⟩ := hc.runs hi hr
    obtain ⟨result, he⟩ := tell_said hc hg "textDocument/didChange"
      (Sync.changeParams uri (h.versions.next d.path).2
        (Sync.contentOf ⟨i, h.versions, h.connections⟩ d change))
    exact ⟨_, he, .changed l i g d change uri _ result hg ho (Outbound.revision?_change ..) rfl⟩
  | saved l i d uri hi hr ho ha =>
    obtain ⟨sent, he, hm⟩ := Connections.tell_evolves h.connections i.connection
      "textDocument/didSave" (Sync.saveParams uri d.text)
    exact .aside he.submissions (silent_of_notification hm (by decide)) (runs_touched rfl hi)
  | closed l i d uri hi hr ho =>
    obtain ⟨g, hg⟩ := hc.runs hi hr
    obtain ⟨result, he⟩ := tell_said hc hg "textDocument/didClose" (.object [Sync.identifier uri])
    exact ⟨_, he, .closed l i g d uri _ result hg ho (Outbound.revision?_close uri) rfl⟩
  | unlisted l i d hi hr =>
    refine .nothing rfl (runs_filled (m := l) rfl ?_)
    rintro _ ⟨⟩
    exact hr
  | launched l i request notes plan hi hst hd hr hl =>
    have hnone : (h.launching request notes).language? h.nextGeneration = none :=
      ((launching_keeps h request notes).language _).trans (hc.fresh _ (Nat.le_refl _))
    obtain ⟨sent, he, hsent⟩ := i.connect_evolves h.root h.environment h.nextGeneration plan
      (h.environment.overture h.nextGeneration request) _ hnone
    have hm : Silent sent := by
      rcases hsent with rfl | ⟨id, params, result, rfl⟩
      · simp [Silent]
      · exact fun s hs => List.mem_singleton.mp hs ▸ rfl
    have hsub := he.submissions
    refine .aside ?_ hm (runs_filled (m := l) rfl ?_)
    · rw [← launching_submissions h request notes]
      exact hsub
    · rintro _ ⟨⟩
      simp [Instance.greeting]
  | unlaunched l i e =>
    exact .quiet (Connections.log_evolves _ _) (runs_filled (m := l) rfl (by simp))
  | failed l i request notes e =>
    refine .nothing ?_ (runs_filled (m := l) rfl (by simp))
    rw [← launching_submissions h request notes, ← List.append_nil (h.launching _ _).submissions]
    exact (Connections.log_evolves _ _).submissions
  | unattached l i request notes plan e =>
    refine .nothing ?_ (runs_filled (m := l) rfl (by simp))
    rw [← launching_submissions h request notes, ← List.append_nil (h.launching _ _).submissions]
    exact ((Connections.record_evolves _ rfl rfl).trans (Connections.log_evolves _ _)).submissions
  | welcomed l i g response hi hst hg =>
    obtain ⟨sent, he, hm⟩ := i.initializeSucceeded_evolves response h.connections
    refine ⟨sent, he.submissions, .silent (silent_of_notification hm (by decide)) ?_⟩
    intro m j n hk
    by_cases hml : l = m
    · subst hml
      obtain rfl := runs_self rfl hk
      obtain rfl : g = n := Option.some.inj (hg.symm.trans hk.linked)
      have hlisted := (hc.sound hi).listed
      refine .inr ⟨response, i, rfl, ?_, rfl⟩
      by_contra hne
      simpa [hst] using hlisted hne
    · exact .inl (runs_other rfl hml hk)
  | lost l i reason =>
    refine .quiet (i.finish_evolves .forceExit h.connections) (runs_filled (m := l) rfl ?_)
    rintro _ ⟨⟩
    simp [Instance.successor]
  | abandoned l i reason last =>
    exact .quiet (i.finish_evolves .forceExit h.connections) (runs_filled (m := l) rfl (by simp))
  | stopping l i g hi hg =>
    obtain ⟨sent, he, hm⟩ := call_said h g "shutdown" .null .shutdown
    refine .aside he hm (runs_filled (m := l) rfl ?_)
    rintro _ ⟨⟩
    simp [Instance.leaving]
  | acknowledged l i =>
    obtain ⟨sent, he, hm⟩ := i.notify_evolves "exit" .null h.connections
    exact .aside he.submissions (silent_of_notification hm (by decide)) (runs_kept rfl)
  | released i =>
    obtain ⟨sent, he, hm⟩ := i.notify_evolves "exit" .null h.connections
    exact .aside he.submissions (silent_of_notification hm (by decide)) (runs_kept rfl)
  | reminded l i g hi hg hs =>
    obtain ⟨sent, he, hm⟩ := call_said h g "shutdown" .null .shutdown
    exact .aside he hm (runs_erased (m := l) rfl)
  | dropped l i how =>
    exact .quiet (i.finish_evolves how h.connections) (runs_erased (m := l) rfl)
  | excused l | idled l | retired l | forgotten l => exact .nothing rfl (runs_erased (m := l) rfl)
  | muted l i | evicted l i =>
    exact .quiet (i.finish_evolves .forceExit h.connections) (runs_erased (m := l) rfl)
  | departed i rest how =>
    exact .quiet (i.finish_evolves how h.connections) (runs_kept rfl)
  | expelled i =>
    exact .quiet (i.finish_evolves .forceExit h.connections) (runs_kept rfl)

end Speaking

end Host

end LanguageHost
