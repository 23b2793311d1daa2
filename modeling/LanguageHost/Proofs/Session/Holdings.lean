import LanguageHost.Proofs.Session.Registry

/-! The connections that the servers of a session have. Each is handed on from step to step until its
process is told to end, and of most ends the editor is told. -/

namespace LanguageHost

structure Holding where
  generation : Nat
  language : LanguageId
  leaving : Bool

def HostEvent.stop? : HostEvent → Option LanguageId
  | .stopped l => some l
  | _ => none

lemma Connections.tell_retains (c : Connections) (g : Option Nat) (method : String) (params : Json) :
    c.Retains (c.tell g method params) := by
  cases g with
  | none => exact .refl c
  | some g => exact notify_retains c g method params

namespace Instance

variable {i j : Instance} {c : Connections} {g : Nat}

def holding? (i : Instance) : Option Holding :=
  i.connection.map fun g => ⟨g, i.language, i.state = .shuttingDown⟩

lemma holding?_some (hg : i.connection = some g) :
    i.holding? = some ⟨g, i.language, i.state = .shuttingDown⟩ := by
  rw [holding?, hg]
  rfl

lemma holding?_none (hg : i.connection = none) : i.holding? = none := by
  rw [holding?, hg]
  rfl

lemma notify_retains (i : Instance) (method : String) (params : Json) (c : Connections) :
    c.Retains (i.notify method params c).1 := by
  simp only [notify]
  split
  · exact Connections.notify_retains c _ method params
  · exact .refl c

lemma initializeSucceeded_retains (i : Instance) (response : Json) (c : Connections) :
    c.Retains (i.initializeSucceeded response c).1 := by
  have hnotes := Connections.logs_retains
    ((i.welcomed response).capabilities.features.map (i.welcomed response).featureNote) c
  rw [List.foldl_map] at hnotes
  exact hnotes.trans ((i.welcomed response).notify_retains "initialized" (.obj []) _)

lemma connect_retains (i : Instance) (root : Option FilePath) (env : Environment) (g : Nat)
    (plan : Nat → Verdict) (o : Overture) (c : Connections) :
    c.Retains (i.connect root env g plan o c).1 := by
  have hadd : c.Retains (c.add (.start i.language g i.settings.rpcTrace plan)) := ⟨rfl, rfl⟩
  have hnotes := (hadd.trans (Connections.log_retains _ (i.note .info "language server started"
      [("generation", toString g), ("restarts", toString i.restarts)]))).trans
    (Connections.logs_retains (i.options root env).1 _)
  have hcall := (hnotes.trans (Connections.overhear_retains _ g o)).trans
    (Connections.call_retains _ g "initialize"
      (Handshake.params env.processId root (i.options root env).2) .handshake)
  rcases i.connect_cases root env g plan o c rfl with hd | ⟨e, hd⟩ <;> rw [hd]
  · exact hcall
  · exact hcall.trans ⟨rfl, rfl⟩

lemma finish_retains (hg : i.connection = none) (how : Ending) (c : Connections) :
    c.Retains (i.finish how c).1 := by
  simp only [finish, hg]
  exact .refl c

lemma finish_ends (hg : i.connection = some g) (how : Ending) (c : Connections) :
    (i.finish how c).1.launches = c.launches ∧ (i.finish how c).1.endings = c.endings ++ [g] := by
  simp only [finish, hg]
  exact Connections.finish_ends c g how

lemma launchRequest_language {root : Option FilePath} {env : Environment} {request : LaunchRequest}
    (hr : i.launchRequest root env = .ok request) : request.language = i.language := by
  simp only [launchRequest] at hr
  split at hr
  · cases hr
  · rw [← Except.ok.inj hr]

end Instance

def Slot.holding? (slot : Slot) : Option Holding := slot.instance?.bind Instance.holding?

namespace Host

variable {h k : Host} {l : LanguageId} {i j : Instance} {g : Nat} {slot : Slot} {deed : Deed}

def holdings (h : Host) : List Holding :=
  h.slots.pick Slot.holding? ++ h.retiring.filterMap Instance.holding?

def besides (h : Host) (l : LanguageId) : List Holding :=
  (h.slots.erase l).pick Slot.holding? ++ h.retiring.filterMap Instance.holding?

def stops (h : Host) : List LanguageId := h.queued.filterMap HostEvent.stop?

section Holdings

lemma holdings_generations (h : Host) : h.holdings.map Holding.generation = h.generations := by
  have hi (i : Instance) : i.holding?.map Holding.generation = i.connection := by
    simp [Instance.holding?, Function.comp_def]
  have hs (slot : Slot) : slot.holding?.map Holding.generation = slot.connection? := by
    cases slot <;> simp [Slot.holding?, Slot.connection?, Slot.instance?, hi]
  simp only [holdings, generations_eq, Slots.live, Slots.pick, List.map_append, List.map_filterMap,
    hi, hs]

lemma holdings_kept (hs : k.slots = h.slots) (hr : h.retiring.Perm k.retiring) :
    h.holdings.Perm k.holdings := by
  rw [holdings, holdings, hs]
  exact (hr.filterMap _).append_left _

lemma holdings_of (hn : h.slots.languages.Nodup) (hs : h.slots.get? l = some slot) :
    h.holdings.Perm (slot.holding?.toList ++ h.besides l) := by
  rw [besides, ← List.append_assoc]
  exact (Slots.pick_erase hn hs).append_right _

lemma holdings_vacant (hs : h.slots.get? l = none) : h.holdings = h.besides l := by
  have he : h.slots.erase l = h.slots := by
    rw [Slots.erase, List.filter_eq_self]
    intro e he
    have hne := (List.find?_eq_none.mp (Option.map_eq_none_iff.mp hs)) e he
    simpa using hne
  rw [holdings, besides, he]

lemma holdings_set (hs : k.slots = h.slots.set l slot) (hr : k.retiring = h.retiring) :
    k.holdings.Perm (slot.holding?.toList ++ h.besides l) := by
  rw [holdings, besides, hs, hr, ← List.append_assoc]
  exact (Slots.pick_set h.slots l slot).append_right _

lemma holdings_erase (hn : h.slots.languages.Nodup) (hi : h.instance? l = some i)
    (hs : k.slots = h.slots.erase l) (hr : k.retiring = h.retiring) :
    h.holdings.Perm (i.holding?.toList ++ k.holdings) := by
  rw [show k.holdings = h.besides l by rw [holdings, besides, hs, hr]]
  exact holdings_of hn (instance?_eq_some.mp hi)

lemma holdings_moved (hs : k.slots = h.slots.erase l) (hr : k.retiring = h.retiring ++ [i]) :
    k.holdings.Perm (i.holding?.toList ++ h.besides l) := by
  have hlast : [i].filterMap Instance.holding? = i.holding?.toList := by
    cases hi : i.holding? <;> simp [hi]
  rw [holdings, besides, hs, hr, List.filterMap_append, hlast, ← List.append_assoc]
  exact List.perm_append_comm

lemma holdings_departed {rest : List Instance} (hp : h.retiring.Perm (i :: rest))
    (hs : k.slots = h.slots) (hr : k.retiring = rest) :
    h.holdings.Perm (i.holding?.toList ++ k.holdings) := by
  have hcons : (i :: rest).filterMap Instance.holding? =
      i.holding?.toList ++ rest.filterMap Instance.holding? := by
    cases hi : i.holding? <;> simp [hi]
  rw [holdings, holdings, hs, hr]
  refine ((hp.filterMap _).append_left _).trans ?_
  rw [hcons, ← List.append_assoc, ← List.append_assoc]
  exact List.perm_append_comm.append_right _

lemma holdings_same (hn : h.slots.languages.Nodup) (hi : h.instance? l = some i)
    (hs : k.slots = h.slots.set l (.active j)) (hr : k.retiring = h.retiring)
    (hj : j.holding? = i.holding?) : h.holdings.Perm k.holdings := by
  refine (holdings_of hn (instance?_eq_some.mp hi)).trans ?_
  rw [show (Slot.active i).holding? = (Slot.active j).holding? from hj.symm]
  exact (holdings_set hs hr).symm

lemma mem_holdings {x : Holding} (hn : h.slots.languages.Nodup) : x ∈ h.holdings ↔
    ∃ i, ((∃ l, h.instance? l = some i) ∨ i ∈ h.retiring) ∧ i.holding? = some x := by
  simp only [holdings, List.mem_append, Slots.pick, List.mem_filterMap]
  constructor
  · rintro (⟨⟨l, slot⟩, hm, hx⟩ | ⟨i, hi, hx⟩)
    · cases slot with
      | active i => exact ⟨i, .inl ⟨l, instance?_eq_some.mpr (Slots.get?_of_mem hn hm)⟩, hx⟩
      | _ => cases hx
    · exact ⟨i, .inr hi, hx⟩
  · rintro ⟨i, ⟨l, hi⟩ | hi, hx⟩
    · exact .inl ⟨(l, .active i), Slots.mem_of_get? (instance?_eq_some.mp hi), hx⟩
    · exact .inr ⟨i, hi, hx⟩

lemma Coherent.holding_language (hc : h.Coherent) {x : Holding} (hx : x ∈ h.holdings) :
    h.connections.language? x.generation = some x.language := by
  obtain ⟨i, hi, hx⟩ := (mem_holdings hc.languages).mp hx
  obtain ⟨g, hg, rfl⟩ := Option.map_eq_some_iff.mp hx
  rcases hi with ⟨l, hi⟩ | hi
  · exact (hc.sound hi).language ▸ hc.linked hi hg
  · obtain ⟨n, hn, hl⟩ := (hc.leaves i hi).linked
    obtain rfl : n = g := Option.some.inj (hn.symm.trans hg)
    exact hl

end Holdings

inductive Hears (h k : Host) (x : Holding) : Deed → Prop
  | lost (hx : x.leaving = false) (hs : k.stops = h.stops) : Hears h k x (.loss x.language)
  | muted (hs : k.stops = h.stops) : Hears h k x (.mute x.generation)
  | parted (hx : x.leaving = true) (hs : k.stops = h.stops ++ [x.language]) :
      Hears h k x (.part x.language)
  | evicted (hx : h.isCurrent x.language x.generation = true)
      (hs : k.stops = h.stops ++ [x.language]) : Hears h k x (.evict x.language)
  | departed (hx : x.leaving = true) (hs : k.stops = h.stops ++ [x.language]) : Hears h k x .depart

structure Requests (h : Host) (l : LanguageId) (request : LaunchRequest) : Prop where
  language : request.language = l
  asked : ∃ i, h.instance? l = some i ∧ i.launchRequest h.root h.environment = .ok request

/-- What a step does with the connections and the processes behind them. -/
inductive Transfers (h k : Host) : Deed → Prop
  | kept {deed : Deed} (hc : h.connections.Retains k.connections) (hh : h.holdings.Perm k.holdings)
      (hs : deed ≠ .take → k.stops = h.stops) : Transfers h k deed
  | begun (l : LanguageId) (request : LaunchRequest) (hr : h.Requests l request)
      (hd : h.shuttingDown = false)
      (hl : (h.environment.launch h.nextGeneration request).2.isOk = true)
      (hlaunches : k.connections.launches = h.connections.launches ++ [(h.nextGeneration, request)])
      (hends : k.connections.endings = h.connections.endings)
      (hn : k.nextGeneration = h.nextGeneration + 1)
      (hh : k.holdings.Perm (⟨h.nextGeneration, l, false⟩ :: h.holdings)) (hs : k.stops = h.stops) :
      Transfers h k (.launch l)
  | failed (l : LanguageId) (request : LaunchRequest) (hr : h.Requests l request)
      (hd : h.shuttingDown = false)
      (hl : (h.environment.launch h.nextGeneration request).2.isOk = false)
      (hlaunches : k.connections.launches = h.connections.launches ++ [(h.nextGeneration, request)])
      (hends : k.connections.endings = h.connections.endings)
      (hn : k.nextGeneration = h.nextGeneration + 1) (hh : h.holdings.Perm k.holdings)
      (hs : k.stops = h.stops) : Transfers h k (.launch l)
  | broken (l : LanguageId) (request : LaunchRequest) (hr : h.Requests l request)
      (hd : h.shuttingDown = false)
      (hl : (h.environment.launch h.nextGeneration request).2.isOk = true)
      (hlaunches : k.connections.launches = h.connections.launches ++ [(h.nextGeneration, request)])
      (hends : k.connections.endings = h.connections.endings ++ [h.nextGeneration])
      (hn : k.nextGeneration = h.nextGeneration + 1) (hh : h.holdings.Perm k.holdings)
      (hs : k.stops = h.stops) : Transfers h k (.launch l)
  | stopping (l : LanguageId) (g : Nat) (rest : List Holding)
      (hc : h.connections.Retains k.connections) (hcur : h.isCurrent l g = true)
      (hh : h.holdings.Perm (⟨g, l, false⟩ :: rest)) (hk : k.holdings.Perm (⟨g, l, true⟩ :: rest))
      (hs : k.stops = h.stops) : Transfers h k (.stop l)
  | ended {deed : Deed} (x : Holding) (hl : k.connections.launches = h.connections.launches)
      (he : k.connections.endings = h.connections.endings ++ [x.generation])
      (hh : h.holdings.Perm (x :: k.holdings)) (hx : Hears h k x deed) : Transfers h k deed
  | idle (l : LanguageId) (i : Instance) (hi : h.instance? l = some i) (hg : i.connection = none)
      (hc : h.connections.Retains k.connections) (hh : h.holdings.Perm k.holdings)
      (hs : k.stops = h.stops ++ [l]) : Transfers h k (.excuse l)

section Steps

lemma launching_ends (h : Host) (request : LaunchRequest) (notes : List LogRecord) :
    (h.launching request notes).launches =
        h.connections.launches ++ [(h.nextGeneration, request)] ∧
      (h.launching request notes).endings = h.connections.endings := by
  have hnotes := Connections.logs_retains notes
    (h.connections.record (.launched h.nextGeneration request))
  constructor
  · refine hnotes.launches.trans ?_
    simp [Connections.launches, Connections.record, Effect.launch?]
  · refine hnotes.endings.trans ?_
    simp [Connections.endings, Connections.record, Effect.ending?]

lemma launchFailed_transfers (h : Host) (l : LanguageId) (restarts : Nat) (e : LaunchError) :
    h.connections.Retains (h.launchFailed l restarts e).connections ∧
      (h.launchFailed l restarts e).stops = h.stops := by
  refine ⟨Connections.record_retains _ rfl rfl, ?_⟩
  simp [launchFailed, kill, queue, log, setSlot, stops, HostEvent.stop?]

lemma holdings_dead {restarts : Nat} {reason : String} (hn : h.slots.languages.Nodup)
    (hi : h.instance? l = some i) (hs : k.slots = h.slots.set l (.dead restarts reason))
    (hr : k.retiring = h.retiring) : h.holdings.Perm (i.holding?.toList ++ k.holdings) :=
  (holdings_of hn (instance?_eq_some.mp hi)).trans ((holdings_set hs hr).symm.append_left _)

lemma Transfers.finished (how : Ending) (hc : k.connections = (i.finish how h.connections).1)
    (hh : h.holdings.Perm (i.holding?.toList ++ k.holdings))
    (hidle : i.connection = none → h.connections.Retains k.connections →
      h.holdings.Perm k.holdings → Transfers h k deed)
    (hx : ∀ g, i.connection = some g →
      Hears h k ⟨g, i.language, i.state = .shuttingDown⟩ deed) : Transfers h k deed := by
  cases hg : i.connection with
  | none =>
    rw [Instance.holding?_none hg] at hh
    exact hidle hg (hc ▸ Instance.finish_retains hg how h.connections) hh
  | some g =>
    rw [Instance.holding?_some hg] at hh
    obtain ⟨hl, he⟩ := Instance.finish_ends hg how h.connections
    exact .ended _ (hc ▸ hl) (hc ▸ he) hh (hx g hg)

section Launching

variable {request : LaunchRequest} {notes : List LogRecord} {plan : Nat → Verdict} {e : LaunchError}
  (hc : h.Coherent) (hi : h.instance? l = some i) (hst : i.state = .stopped)
include hc hi

lemma Coherent.requests (hr : i.launchRequest h.root h.environment = .ok request) :
    h.Requests l request :=
  ⟨(Instance.launchRequest_language hr).trans (hc.sound hi).language, i, hi, hr⟩

include hst

/-- A server that is to be launched has no connection, so a launch takes none away. -/
lemma Coherent.stopped_holding : i.holding? = none := by
  refine Instance.holding?_none (Option.not_isSome_iff_eq_none.mp fun hg => ?_)
  exact (hc.sound hi).connected.mp hg hst

lemma launched_holdings (hs : k.slots = h.slots.set l (.active (i.greeting h.nextGeneration)))
    (hr : k.retiring = h.retiring) :
    k.holdings.Perm (⟨h.nextGeneration, l, false⟩ :: h.holdings) := by
  have hold := holdings_of hc.languages (instance?_eq_some.mp hi)
  rw [show (Slot.active i).holding? = none from hc.stopped_holding hi hst] at hold
  have hnew : (Slot.active (i.greeting h.nextGeneration)).holding? =
      some ⟨h.nextGeneration, l, false⟩ := by
    simp [Slot.holding?, Slot.instance?, Instance.holding?, Instance.greeting,
      (hc.sound hi).language]
  have hk := holdings_set hs hr
  rw [hnew] at hk
  exact hk.trans (hold.symm.cons _)

lemma dead_holdings {restarts : Nat} {reason : String}
    (hs : k.slots = h.slots.set l (.dead restarts reason)) (hr : k.retiring = h.retiring) :
    h.holdings.Perm k.holdings := by
  have hh := holdings_dead hc.languages hi hs hr
  rwa [hc.stopped_holding hi hst] at hh

lemma failed_transfers (hd : h.shuttingDown = false)
    (hr : i.launchRequest h.root h.environment = .ok request)
    (hl : h.environment.launch h.nextGeneration request = (notes, .error e)) :
    Transfers h ({ h with
      connections := h.launching request notes
      nextGeneration := h.nextGeneration + 1 }.launchFailed l i.restarts e) (.launch l) := by
  obtain ⟨hret, hstops⟩ := launchFailed_transfers { h with
    connections := h.launching request notes
    nextGeneration := h.nextGeneration + 1 } l i.restarts e
  obtain ⟨hlaunches, hends⟩ := launching_ends h request notes
  exact .failed l request (hc.requests hi hr) hd (by rw [hl]; rfl) (hret.launches.trans hlaunches)
    (hret.endings.trans hends) rfl (dead_holdings hc hi hst rfl rfl) hstops

lemma unattached_transfers (hd : h.shuttingDown = false)
    (hr : i.launchRequest h.root h.environment = .ok request)
    (hl : h.environment.launch h.nextGeneration request = (notes, .ok plan)) :
    Transfers h ({ h with
      connections := (h.launching request notes).record (.ended h.nextGeneration .forceExit)
      nextGeneration := h.nextGeneration + 1 }.launchFailed l i.restarts e) (.launch l) := by
  obtain ⟨hret, hstops⟩ := launchFailed_transfers { h with
    connections := (h.launching request notes).record (.ended h.nextGeneration .forceExit)
    nextGeneration := h.nextGeneration + 1 } l i.restarts e
  obtain ⟨hlaunches, hends⟩ := launching_ends h request notes
  refine .broken l request (hc.requests hi hr) hd (by rw [hl]; rfl) (hret.launches.trans ?_)
    (hret.endings.trans ?_) rfl (dead_holdings hc hi hst rfl rfl) hstops
  · rw [← hlaunches]
    simp [Connections.launches, Connections.record, Effect.launch?]
  · rw [← hends]
    simp [Connections.endings, Connections.record, Effect.ending?]

end Launching

lemma configured_holdings {notes : List LogRecord} (hg : h.slots.get? l = none)
    (hconf : configure h.settings l = (notes, .ok slot)) (hs : k.slots = h.slots.set l slot)
    (hr : k.retiring = h.retiring) : h.holdings.Perm k.holdings := by
  have hslot : slot.holding? = none := by
    cases slot with
    | active i =>
      rw [Slot.holding?, Slot.instance?, ((configure_ok hconf).2 i rfl).2]
      rfl
    | _ => rfl
  rw [holdings_vacant hg]
  have hk := holdings_set hs hr
  rw [hslot] at hk
  exact hk.symm

lemma forgotten_holdings (hn : h.slots.languages.Nodup) (hi : h.instance? l = none)
    (hs : k.slots = h.slots.erase l) (hr : k.retiring = h.retiring) :
    h.holdings.Perm k.holdings := by
  rw [show k.holdings = h.besides l by rw [holdings, besides, hs, hr]]
  cases hslot : h.slots.get? l with
  | none => exact .of_eq (holdings_vacant hslot)
  | some slot =>
    have hnone : slot.holding? = none := by
      have hempty : slot.instance? = none := by simpa [instance?, hslot] using hi
      rw [Slot.holding?, hempty]
      rfl
    have hh := holdings_of hn hslot
    rwa [hnone] at hh

lemma Step.transfers (hs : Step h deed k) (hc : h.Coherent) : Transfers h k deed := by
  have hn := hc.languages
  have hstopped (l : LanguageId) : (h.queued ++ [HostEvent.stopped l]).filterMap HostEvent.stop? =
      h.stops ++ [l] := List.filterMap_append
  cases hs with
  | logged r =>
    exact .kept (Connections.log_retains _ r) (holdings_kept rfl (.refl _)) fun _ => rfl
  | told e he =>
    refine .kept (.refl _) (holdings_kept rfl (.refl _)) fun _ => ?_
    cases e <;> simp_all [stops, queue, HostEvent.stop?, HostEvent.isFateful]
  | taken => exact .kept (.refl _) (holdings_kept rfl (.refl _)) fun hd => absurd rfl hd
  | progressed | announced | requested | elapsed | surrounded | sealed | replaced =>
    exact .kept (.refl _) (holdings_kept rfl (.refl _)) fun _ => rfl
  | popped | collected => exact .kept ⟨rfl, rfl⟩ (holdings_kept rfl (.refl _)) fun _ => rfl
  | received g | ended g =>
    exact .kept (Connections.update_retains _ g _) (holdings_kept rfl (.refl _)) fun _ => rfl
  | planned g plan =>
    refine .kept ?_ (holdings_kept rfl (.refl _)) fun _ => rfl
    exact Connections.update_retains _ g fun client =>
      ({ client with sink := client.sink.map ({ · with plan }) }, [])
  | replied | searched | asked =>
    exact .kept (Connections.ask_retains _ _ _) (holdings_kept rfl (.refl _)) fun _ => rfl
  | shuffled retiring hp => exact .kept (.refl _) (holdings_kept rfl hp) fun _ => rfl
  | configured l slot notes hg hconf =>
    exact .kept (Connections.logs_retains notes _) (configured_holdings hg hconf rfl rfl)
      fun _ => rfl
  | touched l i hi => exact .kept (.refl _) (holdings_same hn hi rfl rfl rfl) fun _ => rfl
  | opened l i d uri hi | changed l i d change uri hi | saved l i d uri hi | closed l i d uri hi =>
    exact .kept (Connections.tell_retains _ i.connection _ _) (holdings_same hn hi rfl rfl rfl)
      fun _ => rfl
  | unlisted l i d hi => exact .kept (.refl _) (holdings_same hn hi rfl rfl rfl) fun _ => rfl
  | launched l i request notes plan hi hst hd hr hl ha =>
    have hconnect := i.connect_retains h.root h.environment h.nextGeneration plan
      (h.environment.overture h.nextGeneration request) (h.launching request notes)
    obtain ⟨hlaunches, hends⟩ := launching_ends h request notes
    exact .begun l request (hc.requests hi hr) hd (by rw [hl]; rfl)
      (hconnect.launches.trans hlaunches) (hconnect.endings.trans hends) rfl
      (launched_holdings hc hi hst rfl rfl) rfl
  | unlaunched l i e hi hst =>
    obtain ⟨hret, hstops⟩ := launchFailed_transfers { h with nextGeneration := h.nextGeneration + 1 }
      l i.restarts e
    exact .kept hret (dead_holdings hc hi hst rfl rfl) fun _ => hstops
  | failed l i request notes e hi hst hd hr hl => exact failed_transfers hc hi hst hd hr hl
  | unattached l i request notes plan e hi hst hd hr hl ha =>
    exact unattached_transfers hc hi hst hd hr hl
  | welcomed l i g response hi hst =>
    refine .kept (i.initializeSucceeded_retains response _) (holdings_same hn hi rfl rfl ?_)
      fun _ => rfl
    simp [Instance.holding?, Instance.welcomed, hst]
  | lost l i reason hi hst hm =>
    have hstops : (h.bereft l i reason).stops = h.stops := by
      simp [bereft, stops, setInstance, setSlot, HostEvent.stop?]
    have hold := (holdings_of hn (instance?_eq_some.mp hi)).trans
      ((holdings_set (h := h) (k := h.bereft l i reason) (l := l) rfl rfl).symm.append_left _)
    refine .finished (k := h.bereft l i reason) .forceExit rfl hold (fun _ hret hperm => ?_)
      fun g hg => ?_
    · exact .kept hret hperm fun _ => hstops
    · obtain rfl := (hc.sound hi).language
      exact .lost (by simpa using hst) hstops
  | abandoned l i reason last hi hst hm =>
    have hstops : (h.forsaken l i reason last).stops = h.stops := by
      simp [forsaken, stops, setSlot, HostEvent.stop?]
    have hold := holdings_dead (k := h.forsaken l i reason last) hn hi rfl rfl
    refine .finished (k := h.forsaken l i reason last) .forceExit rfl hold (fun _ hret hperm => ?_)
      fun g hg => ?_
    · exact .kept hret hperm fun _ => hstops
    · obtain rfl := (hc.sound hi).language
      exact .lost (by simpa using hst) hstops
  | stopping l i g hi hg hst =>
    have hx := Instance.holding?_some hg
    have hy := Instance.holding?_some (i := i.leaving h.now) hg
    have hold := holdings_of hn (instance?_eq_some.mp hi)
    have hnew := holdings_set (h := h) (l := l) (k := { h with
      connections := (h.connections.call g "shutdown" .null .shutdown).1 }.setInstance l
        (i.leaving h.now)) rfl rfl
    obtain rfl := (hc.sound hi).language
    rw [show (Slot.active i).holding? = _ from hx] at hold
    rw [show (Slot.active (i.leaving h.now)).holding? = _ from hy] at hnew
    refine .stopping i.language g (h.besides i.language) (Connections.call_retains _ g _ _ _)
      (isCurrent_iff.mpr ⟨i, hi, hg⟩) ?_ hnew rfl
    simpa [hst] using hold
  | reminded l i g hi hg hst =>
    have hx : (i.leaving h.now).holding? = i.holding? := by
      simp [Instance.holding?, Instance.leaving, hst]
    have hold := holdings_of hn (instance?_eq_some.mp hi)
    rw [show (Slot.active i).holding? = _ from hx.symm] at hold
    exact .kept (Connections.call_retains _ g _ _ _) (hold.trans (holdings_moved rfl rfl).symm)
      fun _ => rfl
  | acknowledged l i | released i =>
    exact .kept (i.notify_retains "exit" .null _) (holdings_kept rfl (.refl _)) fun _ => rfl
  | dropped l i how hi hst =>
    obtain rfl := (hc.sound hi).language
    refine .finished how rfl (holdings_erase hn hi rfl rfl) (fun hg hret hperm => ?_) fun g hg => ?_
    · have hsome := (hc.sound hi).connected.mpr (by simp [hst])
      simp [hg] at hsome
    · exact .parted (by simpa using hst) (hstopped i.language)
  | excused l i hi hg =>
    have hh := holdings_erase (k := { h with
      slots := h.slots.erase l
      progress := h.progress.clear l
      queued := h.queued ++ [HostEvent.stopped l] }) hn hi rfl rfl
    rw [Instance.holding?_none hg] at hh
    exact .idle l i hi hg (.refl _) hh (hstopped l)
  | idled l i hi hg =>
    have hh := holdings_erase (k := { h with
      slots := h.slots.erase l, progress := h.progress.clear l }) hn hi rfl rfl
    rw [Instance.holding?_none hg] at hh
    exact .kept (.refl _) hh fun _ => rfl
  | muted l i g hi hg hst =>
    refine .finished .forceExit rfl (holdings_erase hn hi rfl rfl) (fun hnone => ?_) fun m hm => ?_
    · simp [hg] at hnone
    · obtain rfl : g = m := Option.some.inj (hg.symm.trans hm)
      exact .muted rfl
  | retired l i hi hst =>
    have hh := holdings_of hn (instance?_eq_some.mp hi)
    exact .kept (.refl _) (hh.trans (holdings_moved rfl rfl).symm) fun _ => rfl
  | evicted l i hi =>
    obtain rfl := (hc.sound hi).language
    have hrunning : isRunning i = true ↔ i.connection.isSome = true :=
      decide_eq_true_iff.trans (hc.sound hi).connected.symm
    refine .finished .forceExit rfl (holdings_erase hn hi rfl rfl) (fun hg hret hperm => ?_)
      fun g hg => ?_
    · have hr : isRunning i = false := by simpa [hg] using mt hrunning.mp
      exact .kept hret hperm fun _ => by simp [stops, hr]
    · have hr : isRunning i = true := hrunning.mpr (by simp [hg])
      refine .evicted (isCurrent_iff.mpr ⟨i, hi, hg⟩) ?_
      simp [stops, HostEvent.stop?, hr]
  | forgotten l hi => exact .kept (.refl _) (forgotten_holdings hn hi rfl rfl) fun _ => rfl
  | departed i rest how hp =>
    have hleaves := hc.leaves i (hp.mem_iff.mpr List.mem_cons_self)
    refine .finished how rfl (holdings_departed hp rfl rfl) (fun hnone => ?_) fun g hg => ?_
    · obtain ⟨g, hg, -⟩ := hleaves.linked
      simp [hnone] at hg
    · exact .departed (by simpa using hleaves.leaving) (hstopped i.language)
  | expelled i g rest hp hg =>
    refine .finished .forceExit rfl (holdings_departed hp rfl rfl) (fun hnone => ?_) fun m hm => ?_
    · simp [hg] at hnone
    · obtain rfl : g = m := Option.some.inj (hg.symm.trans hm)
      exact .muted rfl

end Steps

end Host

end LanguageHost
