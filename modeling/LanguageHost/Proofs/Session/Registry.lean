import LanguageHost.Proofs.Session.Handling

namespace LanguageHost

namespace ServerSettings

def Defers (c : ServerSettings) (l target : LanguageId) : Prop :=
  c.alias?.bind LanguageId.parse? = some target ∧ target ≠ l

inductive Makes (c : ServerSettings) (l : LanguageId) : Slot → Prop
  | deferred (target : LanguageId) (hd : c.Defers l target) : Makes c l (.servedBy target)
  | idle (hd : ∀ target, ¬c.Defers l target) (hc : c.commandLine? = none) : Makes c l .unused
  | own (hd : ∀ target, ¬c.Defers l target) (hc : c.commandLine? ≠ none) :
      Makes c l (.active { language := l, settings := c })

end ServerSettings

structure Instance.Sound (l : LanguageId) (i : Instance) : Prop where
  language : i.language = l
  begun : i.state ≠ .starting
  connected : i.connection.isSome = true ↔ i.state ≠ .stopped
  hurried : i.deadline.isSome = true ↔ i.state = .shuttingDown
  listed : i.opened ≠ [] → i.state = .ready ∨ i.state = .shuttingDown
  limited : i.restarts ≤ maxRestarts

structure Host.Fits (h : Host) (l : LanguageId) (slot : Slot) : Prop where
  foreign : slot ≠ .servedBy l
  sound : ∀ i, slot = .active i → i.Sound l
  commanded : ∀ i, slot = .active i → i.settings.commandLine?.isSome = true
  linked : ∀ i g, slot = .active i → i.connection = some g → h.connections.language? g = some l
  halted : h.shuttingDown = true → ∀ i, slot = .active i →
    i.state = .stopped ∨ i.state = .shuttingDown

structure Host.Leaves (h : Host) (i : Instance) : Prop where
  leaving : i.state = .shuttingDown
  hurried : i.deadline.isSome = true
  linked : ∃ g, i.connection = some g ∧ h.connections.language? g = some i.language

def Host.generations (h : Host) : List Nat :=
  (h.slots.instances ++ h.retiring).filterMap (·.connection)

structure Host.Coherent (h : Host) : Prop where
  languages : h.slots.languages.Nodup
  fits : ∀ l slot, h.slots.get? l = some slot → h.Fits l slot
  leaves : ∀ i ∈ h.retiring, h.Leaves i
  distinct : h.generations.Nodup
  fresh : ∀ g, h.nextGeneration ≤ g → h.connections.language? g = none
  labelled : h.connections.Labelled

namespace Connections

lemma notify_evolves' (c : Connections) (g : Nat) (method : String) (params : Json) :
    ∃ sent, Evolves c (c.notify g method params).1 sent ∧
      ∀ s ∈ sent, s.2.1 = .notification method (Client.paramsOf params) := by
  cases hl : c.language? g with
  | none =>
    have hc : c.get? g = none := by simpa [language?] using hl
    exact ⟨[], by simp only [notify, ask, hc]; exact .refl c, by simp⟩
  | some l =>
    obtain ⟨_, he, -⟩ := notify_evolves hl method params
    exact ⟨_, he, by simp⟩

lemma tell_evolves (c : Connections) (g : Option Nat) (method : String) (params : Json) :
    ∃ sent, Evolves c (c.tell g method params) sent ∧
      ∀ s ∈ sent, s.2.1 = .notification method (Client.paramsOf params) := by
  cases g with
  | none => exact ⟨[], .refl c, by simp⟩
  | some g => exact notify_evolves' c g method params

end Connections

namespace Instance

lemma finish_evolves (i : Instance) (how : Ending) (c : Connections) :
    c.Evolves (i.finish how c).1 [] := by
  simp only [finish]
  split
  · exact Connections.finish_evolves c _ how
  · exact .refl c

lemma notify_evolves (i : Instance) (method : String) (params : Json) (c : Connections) :
    ∃ sent, c.Evolves (i.notify method params c).1 sent ∧
      ∀ s ∈ sent, s.2.1 = .notification method (Client.paramsOf params) := by
  simp only [notify]
  split
  · exact Connections.notify_evolves' c _ method params
  · exact ⟨[], .refl c, by simp⟩

lemma notify_sends {i : Instance} {c : Connections} {g : Nat} {l : LanguageId}
    (hg : i.connection = some g) (hl : c.language? g = some l) (method : String) (params : Json) :
    ∃ result, c.Evolves (i.notify method params c).1
      [(g, .notification method (Client.paramsOf params), result)] := by
  obtain ⟨result, he, -⟩ := Connections.notify_evolves hl method params
  exact ⟨result, by simp only [notify, hg]; exact he⟩

lemma initializeSucceeded_logs (i : Instance) (response : Json) (c : Connections) :
    ∃ d, c.Evolves d [] ∧ (i.initializeSucceeded response c).1 =
      ((i.welcomed response).notify "initialized" (.obj []) d).1 := by
  have hlogs (fs : List (Feature × FeatureSource)) (j : Instance) (c : Connections) :
      c.Evolves (fs.foldl (fun c f => c.log (j.featureNote f)) c) [] := by
    induction fs generalizing c with
    | nil => exact .refl c
    | cons f rest ih => exact (Connections.log_evolves c _).trans (ih _)
  exact ⟨_, hlogs _ (i.welcomed response) c, rfl⟩

lemma initializeSucceeded_evolves (i : Instance) (response : Json) (c : Connections) :
    ∃ sent, c.Evolves (i.initializeSucceeded response c).1 sent ∧
      ∀ s ∈ sent, s.2.1 = .notification "initialized" (some (.obj [])) := by
  obtain ⟨d, hd, he⟩ := i.initializeSucceeded_logs response c
  obtain ⟨sent, hs, hm⟩ := (i.welcomed response).notify_evolves "initialized" (.obj []) d
  exact ⟨sent, by rw [he]; exact hd.quiet_trans hs, hm⟩

lemma initializeSucceeded_sends {i : Instance} {c : Connections} {g : Nat} {l : LanguageId}
    (hg : i.connection = some g) (hl : c.language? g = some l) (response : Json) :
    ∃ result, c.Evolves (i.initializeSucceeded response c).1
      [(g, .notification "initialized" (some (.obj [])), result)] := by
  obtain ⟨d, hd, he⟩ := i.initializeSucceeded_logs response c
  obtain ⟨result, hs⟩ := notify_sends (i := i.welcomed response) hg ((hd.language g).trans hl)
    "initialized" (.obj [])
  exact ⟨result, by rw [he]; exact hd.quiet_trans hs⟩

def ungreeted (i : Instance) (root : Option FilePath) (env : Environment) (g : Nat)
    (plan : Nat → Verdict) (o : Overture) (c : Connections) : Connections :=
  ((i.options root env).1.foldl Connections.log
    ((c.add (Client.start i.language g i.settings.rpcTrace plan)).log
      (i.note .info "language server started"
        [("generation", toString g), ("restarts", toString i.restarts)]))).overhear g o

lemma connect_cases (i : Instance) (root : Option FilePath) (env : Environment) (g : Nat)
    (plan : Nat → Verdict) (o : Overture) (c : Connections) {asked : Connections}
    (ha : ((i.ungreeted root env g plan o c).call g "initialize"
      (Handshake.params env.processId root (i.options root env).2) .handshake).1 = asked) :
    (i.connect root env g plan o c).1 = asked ∨ ∃ e, (i.connect root env g plan o c).1 =
      asked.post ⟨i.language, g, .initializeResponse (.error e)⟩ := by
  subst ha
  simp only [connect, ungreeted]
  split
  · next hd => exact .inl (congrArg Prod.fst hd).symm
  · next e hd => exact .inr ⟨e, by rw [hd]⟩

lemma ungreeted_evolves (i : Instance) (root : Option FilePath) (env : Environment) (g : Nat)
    (plan : Nat → Verdict) (o : Overture) (c : Connections) :
    (c.add (Client.start i.language g i.settings.rpcTrace plan)).Evolves
      (i.ungreeted root env g plan o c) [] :=
  ((Connections.log_evolves _ _).trans (Connections.logs_evolves _ _)).trans
    (Connections.overhear_evolves _ g o)

lemma connect_evolves (i : Instance) (root : Option FilePath) (env : Environment) (g : Nat)
    (plan : Nat → Verdict) (o : Overture) (c : Connections) (hg : c.language? g = none) :
    ∃ sent, (c.add (Client.start i.language g i.settings.rpcTrace plan)).Evolves
      (i.connect root env g plan o c).1 sent ∧ (sent = [] ∨
        ∃ (id : Int) (params : Option Json) (result : Except TransportError Unit),
          sent = [(g, .request id "initialize" params, result)]) := by
  have hl : (c.add (Client.start i.language g i.settings.rpcTrace plan)).language? g =
      some i.language := by
    rw [Connections.add_language? c hg]
    exact if_pos rfl
  obtain ⟨sent, hc, hsent⟩ := Connections.call_sends (i.ungreeted root env g plan o c) g
    "initialize" (Handshake.params env.processId root (i.options root env).2) .handshake
  have hcall := (i.ungreeted_evolves root env g plan o c).quiet_trans hc
  refine ⟨sent, ?_, hsent.imp_right fun ⟨id, result, h⟩ => ⟨id, _, result, h⟩⟩
  rcases i.connect_cases root env g plan o c rfl with hd | ⟨e, hd⟩ <;> rw [hd]
  · exact hcall
  · exact hcall.trans_quiet (Connections.post_evolves _ ((hcall.language g).trans hl))

end Instance

namespace Instance.Sound

variable {l : LanguageId} {i : Instance}

lemma unstarted (l : LanguageId) (settings : ServerSettings) {restarts : Nat}
    (hm : restarts ≤ maxRestarts) :
    Sound l { language := l, settings, restarts : Instance } where
  language := rfl
  begun := by simp
  connected := by simp
  hurried := by simp
  listed := by simp
  limited := hm

lemma addOpen (hs : i.Sound l) (hr : i.state = .ready) (id : DocumentId) (uri : Uri) :
    (i.addOpen id uri).Sound l :=
  { hs with listed := fun _ => .inl hr }

lemma removeOpen (hs : i.Sound l) (id : DocumentId) : (i.removeOpen id).Sound l :=
  { hs with
    listed := fun ho => hs.listed fun hn => ho (by simp [Instance.removeOpen, hn]) }

lemma greeting (hs : i.Sound l) (hst : i.state = .stopped) (g : Nat) : (i.greeting g).Sound l where
  language := hs.language
  begun := by simp [Instance.greeting]
  connected := by simp [Instance.greeting]
  hurried := by
    have hd := hs.hurried
    simpa [Instance.greeting, hst] using hd
  listed ho := by
    have hl := hs.listed ho
    simp [hst] at hl
  limited := hs.limited

lemma welcomed (hs : i.Sound l) (hst : i.state = .awaitingInitialize) (response : Json) :
    (i.welcomed response).Sound l where
  language := hs.language
  begun := by simp [Instance.welcomed]
  connected := by
    have hc := hs.connected
    simpa [Instance.welcomed, hst] using hc
  hurried := by
    have hd := hs.hurried
    simpa [Instance.welcomed, hst] using hd
  listed _ := .inl rfl
  limited := hs.limited

lemma leaving (hs : i.Sound l) {g : Nat} (hg : i.connection = some g) (now : Nat) :
    (i.leaving now).Sound l where
  language := hs.language
  begun := by simp [Instance.leaving]
  connected := by simp [Instance.leaving, hg]
  hurried := by simp [Instance.leaving]
  listed _ := .inr rfl
  limited := hs.limited

end Instance.Sound

namespace Host

variable {h k : Host} {l : LanguageId} {i j : Instance} {slot : Slot}
  {sent : List (Nat × Submission)}

lemma generations_eq (h : Host) :
    h.generations = h.slots.live ++ h.retiring.filterMap (·.connection) := by
  rw [generations, List.filterMap_append, Slots.instances_connection]

namespace Coherent

lemma instance_fits (hc : h.Coherent) (hi : h.instance? l = some i) : h.Fits l (.active i) :=
  hc.fits l _ (instance?_eq_some.mp hi)

lemma sound (hc : h.Coherent) (hi : h.instance? l = some i) : i.Sound l :=
  (hc.instance_fits hi).sound i rfl

lemma linked (hc : h.Coherent) (hi : h.instance? l = some i) {g : Nat}
    (hg : i.connection = some g) : h.connections.language? g = some l :=
  (hc.instance_fits hi).linked i g rfl hg

lemma issued (hc : h.Coherent) {g : Nat} (hg : (h.connections.language? g).isSome = true) :
    g < h.nextGeneration := by
  by_contra hn
  simp [hc.fresh g (Nat.le_of_not_lt hn)] at hg

end Coherent

lemma Fits.mono (hf : h.Fits l slot)
    (hl : ∀ g m, h.connections.language? g = some m → k.connections.language? g = some m)
    (hd : k.shuttingDown = true → h.shuttingDown = true) : k.Fits l slot where
  foreign := hf.foreign
  sound := hf.sound
  commanded := hf.commanded
  linked i g hi hg := hl g l (hf.linked i g hi hg)
  halted hk := hf.halted (hd hk)

lemma Fits.vacant (hs : ∀ i, slot ≠ .active i) (hf : slot ≠ .servedBy l) : h.Fits l slot where
  foreign := hf
  sound i hi := absurd hi (hs i)
  commanded i hi := absurd hi (hs i)
  linked i _ hi _ := absurd hi (hs i)
  halted _ i hi := absurd hi (hs i)

lemma Fits.amend (hf : h.Fits l (.active i)) (hs : j.Sound l) (hset : j.settings = i.settings)
    (hg : j.connection = i.connection)
    (hd : j.state = i.state ∨ j.state = .shuttingDown ∨ i.state = .awaitingInitialize) :
    h.Fits l (.active j) where
  foreign := by simp
  sound _ hi := by cases hi; exact hs
  commanded _ hi := by cases hi; exact hset ▸ hf.commanded i rfl
  linked _ g hi hjg := by cases hi; exact hf.linked i g rfl (hg ▸ hjg)
  halted hk _ hi := by
    cases hi
    rcases hd with hd | hd | hd
    · exact hd ▸ hf.halted hk i rfl
    · exact .inr hd
    · simpa [hd] using hf.halted hk i rfl

lemma Leaves.mono (hf : h.Leaves i)
    (hl : ∀ g m, h.connections.language? g = some m → k.connections.language? g = some m) :
    k.Leaves i :=
  { hf with linked := let ⟨g, hg, hm⟩ := hf.linked; ⟨g, hg, hl g _ hm⟩ }

namespace Coherent

lemma next (hc : h.Coherent) (hl : ∀ g m, h.connections.language? g = some m →
      k.connections.language? g = some m)
    (hd : k.shuttingDown = true → h.shuttingDown = true) (hn : k.slots.languages.Nodup)
    (hs : ∀ m slot, k.slots.get? m = some slot → h.slots.get? m = some slot ∨ k.Fits m slot)
    (hr : ∀ i ∈ k.retiring, i ∈ h.retiring ∨ k.Leaves i) (hdist : k.generations.Nodup)
    (hfresh : ∀ g, k.nextGeneration ≤ g → k.connections.language? g = none)
    (hlab : k.connections.Labelled) : k.Coherent where
  languages := hn
  fits m slot hm := (hs m slot hm).elim (fun hm => (hc.fits m slot hm).mono hl hd) id
  leaves i hi := (hr i hi).elim (fun hi => (hc.leaves i hi).mono hl) id
  distinct := hdist
  fresh := hfresh
  labelled := hlab

lemma quiet (hc : h.Coherent) (he : h.connections.Keeps k.connections)
    (hd : k.shuttingDown = true → h.shuttingDown = true)
    (hn : k.slots.languages.Nodup) (hg : h.nextGeneration ≤ k.nextGeneration)
    (hs : ∀ m slot, k.slots.get? m = some slot → h.slots.get? m = some slot ∨ h.Fits m slot)
    (hr : ∀ i ∈ k.retiring, i ∈ h.retiring ∨ h.Leaves i) (hdist : k.generations.Nodup) :
    k.Coherent := by
  have hl g m (hm : h.connections.language? g = some m) := (he.language g).trans hm
  exact hc.next hl hd hn (fun m slot hm => (hs m slot hm).imp_right fun hf => hf.mono hl hd)
    (fun i hi => (hr i hi).imp_right fun hf => hf.mono hl) hdist
    (fun g hk => (he.language g).trans (hc.fresh g (Nat.le_trans hg hk))) (he.labelled hc.labelled)

lemma kept (hc : h.Coherent) (he : h.connections.Keeps k.connections)
    (hs : k.slots = h.slots) (hr : h.retiring.Perm k.retiring)
    (hg : k.nextGeneration = h.nextGeneration)
    (hd : k.shuttingDown = true → h.shuttingDown = true) : k.Coherent := by
  refine hc.quiet he hd (hs ▸ hc.languages) (Nat.le_of_eq hg.symm) (fun m slot hm => .inl (hs ▸ hm))
    (fun i hi => .inl (hr.mem_iff.mpr hi)) ?_
  rw [generations_eq, hs]
  have hp := hr.filterMap (·.connection)
  exact ((hp.append_left h.slots.live).nodup_iff).mp (generations_eq h ▸ hc.distinct)

lemma same (hc : h.Coherent) (he : k.connections = h.connections) (hs : k.slots = h.slots)
    (hr : k.retiring = h.retiring) (hg : k.nextGeneration = h.nextGeneration)
    (hd : k.shuttingDown = h.shuttingDown) : k.Coherent :=
  hc.kept (he ▸ .refl _) hs (hr ▸ .refl _) hg (fun hk => hd ▸ hk)

lemma traffic (hc : h.Coherent) {c : Connections} (he : h.connections.Keeps c) :
    Coherent { h with connections := c } :=
  hc.kept he rfl (.refl _) rfl id

lemma filled (hf : h.Fits l slot) (hs : k.slots = h.slots.set l slot) (m : LanguageId) (new : Slot)
    (hm : k.slots.get? m = some new) : h.slots.get? m = some new ∨ h.Fits m new := by
  rw [hs, Slots.get?_set] at hm
  split at hm
  · next hl =>
    obtain rfl := Option.some.inj hm
    exact .inr (hl ▸ hf)
  · exact .inl hm

lemma amended (hc : h.Coherent) (he : h.connections.Keeps k.connections)
    (hi : h.instance? l = some i) (hs : k.slots = h.slots.set l (.active j))
    (hj : h.Fits l (.active j)) (hcon : j.connection = i.connection)
    (hr : k.retiring = h.retiring) (hg : k.nextGeneration = h.nextGeneration)
    (hd : k.shuttingDown = h.shuttingDown) : k.Coherent := by
  refine hc.quiet he (fun hk => hd ▸ hk) (hs ▸ Slots.languages_set_nodup hc.languages _ _)
    (Nat.le_of_eq hg.symm) (filled hj hs) (fun i hi => .inl (hr ▸ hi)) ?_
  have hlive : (h.slots.set l (.active j)).live.Perm h.slots.live :=
    Slots.live_set_same hc.languages (instance?_eq_some.mp hi) hcon
  rw [generations_eq, hs, hr, (hlive.append_right _).nodup_iff, ← generations_eq]
  exact hc.distinct

lemma vacated (hc : h.Coherent) (he : h.connections.Keeps k.connections)
    (hs : k.slots = h.slots.set l slot) (hf : h.Fits l slot) (hcon : slot.connection? = none)
    (hr : k.retiring = h.retiring) (hg : h.nextGeneration ≤ k.nextGeneration)
    (hd : k.shuttingDown = h.shuttingDown) : k.Coherent := by
  refine hc.quiet he (fun hk => hd ▸ hk) (hs ▸ Slots.languages_set_nodup hc.languages _ _) hg
    (filled hf hs) (fun i hi => .inl (hr ▸ hi)) ?_
  have hlive := Slots.live_set h.slots l slot
  rw [hcon, Option.toList_none, List.nil_append] at hlive
  have hsub : (h.slots.erase l).live.Sublist h.slots.live := List.filter_sublist.filterMap _
  rw [generations_eq, hs, hr, (hlive.append_right _).nodup_iff]
  exact (hsub.append_right _).nodup (generations_eq h ▸ hc.distinct)

lemma unfilled (hs : k.slots = h.slots.erase l) (m : LanguageId) (new : Slot)
    (hm : k.slots.get? m = some new) : h.slots.get? m = some new := by
  rw [hs, Slots.get?_erase] at hm
  split at hm
  · cases hm
  · exact hm

lemma erased (hc : h.Coherent) (he : h.connections.Keeps k.connections)
    (hs : k.slots = h.slots.erase l) (hr : k.retiring = h.retiring)
    (hg : k.nextGeneration = h.nextGeneration) (hd : k.shuttingDown = h.shuttingDown) :
    k.Coherent := by
  refine hc.quiet he (fun hk => hd ▸ hk) (hs ▸ Slots.languages_erase_nodup hc.languages _)
    (Nat.le_of_eq hg.symm) (fun m slot hm => .inl (unfilled hs m slot hm))
    (fun i hi => .inl (hr ▸ hi)) ?_
  have hsub : (h.slots.erase l).live.Sublist h.slots.live := List.filter_sublist.filterMap _
  rw [generations_eq, hs, hr]
  exact (hsub.append_right _).nodup (generations_eq h ▸ hc.distinct)

lemma moved (hc : h.Coherent) (hi : h.instance? l = some i) (hst : i.state = .shuttingDown)
    (hcon : k.connections = h.connections) (hs : k.slots = h.slots.erase l)
    (hr : k.retiring = h.retiring ++ [i]) (hg : k.nextGeneration = h.nextGeneration)
    (hd : k.shuttingDown = h.shuttingDown) : k.Coherent := by
  have hsound := hc.sound hi
  obtain ⟨g, hig⟩ := Option.isSome_iff_exists.mp (hsound.connected.mpr (by simp [hst]))
  refine hc.quiet (hcon ▸ .refl _) (fun hk => hd ▸ hk)
    (hs ▸ Slots.languages_erase_nodup hc.languages _) (Nat.le_of_eq hg.symm)
    (fun m slot hm => .inl (unfilled hs m slot hm)) (fun j hj => ?_) ?_
  · rcases List.mem_append.mp (hr ▸ hj) with hj | hj
    · exact .inl hj
    · obtain rfl := List.mem_singleton.mp hj
      exact .inr ⟨hst, hsound.hurried.mpr hst, g, hig, hsound.language ▸ hc.linked hi hig⟩
  · have hlive := Slots.live_erase hc.languages (instance?_eq_some.mp hi)
    have hperm : (h.slots.live ++ h.retiring.filterMap (·.connection)).Perm k.generations := by
      have hlast : [i].filterMap (·.connection) = (Slot.active i).connection?.toList := by
        simp [Slot.connection?, Slot.instance?, hig]
      rw [generations_eq, hs, hr, List.filterMap_append, hlast]
      refine (hlive.append_right _).trans ?_
      rw [List.append_assoc, ← List.append_assoc (h.slots.erase l).live]
      exact List.perm_append_comm
    exact hperm.nodup_iff.mp (generations_eq h ▸ hc.distinct)

lemma departed (hc : h.Coherent) {rest : List Instance} (he : h.connections.Keeps k.connections)
    (hp : h.retiring.Perm (i :: rest)) (hs : k.slots = h.slots) (hr : k.retiring = rest)
    (hg : k.nextGeneration = h.nextGeneration) (hd : k.shuttingDown = h.shuttingDown) :
    k.Coherent := by
  refine hc.quiet he (fun hk => hd ▸ hk) (hs ▸ hc.languages) (Nat.le_of_eq hg.symm)
    (fun m slot hm => .inl (hs ▸ hm))
    (fun j hj => .inl (hp.mem_iff.mpr (List.mem_cons_of_mem i (hr ▸ hj)))) ?_
  have hperm := (hp.filterMap (·.connection)).append_left h.slots.live
  have hsub : (rest.filterMap (·.connection)).Sublist ((i :: rest).filterMap (·.connection)) :=
    (List.sublist_cons_self i rest).filterMap _
  rw [generations_eq, hs, hr]
  exact (hsub.append_left _).nodup (hperm.nodup_iff.mp (generations_eq h ▸ hc.distinct))

lemma mem_generations (hc : h.Coherent) {g : Nat} (hg : g ∈ h.generations) :
    g < h.nextGeneration := by
  rw [generations_eq, List.mem_append] at hg
  rcases hg with hg | hg
  · obtain ⟨l, i, hs, hi⟩ := (Slots.mem_live hc.languages).mp hg
    exact hc.issued (by simp [hc.linked (instance?_eq_some.mpr hs) hi])
  · obtain ⟨i, hi, hig⟩ := List.mem_filterMap.mp hg
    obtain ⟨n, hn, hl⟩ := (hc.leaves i hi).linked
    obtain rfl : n = g := Option.some.inj (hn.symm.trans hig)
    exact hc.issued (by simp [hl])

lemma launched (hc : h.Coherent) (hi : h.instance? l = some i) (hst : i.state = .stopped)
    (hd : h.shuttingDown = false) (hlang : ∀ g, k.connections.language? g =
      if h.nextGeneration = g then some l else h.connections.language? g)
    (hlab : k.connections.Labelled)
    (hs : k.slots = h.slots.set l (.active (i.greeting h.nextGeneration)))
    (hr : k.retiring = h.retiring) (hg : k.nextGeneration = h.nextGeneration + 1)
    (hkd : k.shuttingDown = h.shuttingDown) : k.Coherent := by
  have hkeep (g : Nat) (m : LanguageId) (hm : h.connections.language? g = some m) :
      k.connections.language? g = some m := by
    have hlt := hc.issued (by simp [hm] : (h.connections.language? g).isSome = true)
    rw [hlang, if_neg (Nat.ne_of_gt hlt), hm]
  have hfits : k.Fits l (.active (i.greeting h.nextGeneration)) :=
    { foreign := by simp
      sound := by rintro _ ⟨⟩; exact (hc.sound hi).greeting hst _
      commanded := by rintro _ ⟨⟩; exact (hc.instance_fits hi).commanded i rfl
      linked := by rintro _ g ⟨⟩ ⟨⟩; rw [hlang, if_pos rfl]
      halted := by simp [hkd, hd] }
  refine hc.next hkeep (fun hk => hkd ▸ hk) (hs ▸ Slots.languages_set_nodup hc.languages _ _)
    (fun m slot hm => ?_) (fun j hj => .inl (hr ▸ hj)) ?_ (fun g hk => ?_) hlab
  · rw [hs, Slots.get?_set] at hm
    split at hm
    · next hl =>
      obtain rfl := Option.some.inj hm
      exact .inr (hl ▸ hfits)
    · exact .inl hm
  · have hlive := Slots.live_set h.slots l (.active (i.greeting h.nextGeneration))
    have hsub : (h.slots.erase l).live.Sublist h.slots.live := List.filter_sublist.filterMap _
    have hold : ((h.slots.erase l).live ++ h.retiring.filterMap (·.connection)).Sublist
        h.generations := generations_eq h ▸ hsub.append_right _
    rw [generations_eq, hs, hr, (hlive.append_right _).nodup_iff]
    refine List.nodup_cons.mpr ⟨fun hm => ?_, hold.nodup hc.distinct⟩
    exact Nat.lt_irrefl _ (hc.mem_generations (hold.mem hm))
  · rw [hg] at hk
    rw [hlang, if_neg (by omega)]
    exact hc.fresh g (by omega)

end Coherent

lemma configure_makes {s : Settings} (hc : (configure s l).2 = .ok slot) :
    ∃ c, s.server l.name = .ok c ∧ c.Makes l slot := by
  cases hs : s.server l.name with
  | error e => simp [configure, hs] at hc
  | ok c =>
    refine ⟨c, rfl, ?_⟩
    have hown (hd : ∀ target, ¬c.Defers l target) (notes : List LogRecord)
        (ho : (if c.commandLine?.isNone = true then
          (notes, (.ok .unused : Except HostError Slot))
          else ([], .ok (.active { language := l, settings := c }))).2 = .ok slot) :
        c.Makes l slot := by
      split at ho
      · next hnone =>
        obtain rfl := Except.ok.inj ho
        exact .idle hd (Option.isNone_iff_eq_none.mp hnone)
      · next hsome =>
        obtain rfl := Except.ok.inj ho
        exact .own hd fun hnone => hsome (Option.isNone_iff_eq_none.mpr hnone)
    simp only [configure, hs] at hc
    cases ha : c.alias? with
    | none =>
      simp only [ha] at hc
      exact hown (fun target ht => by simp [ServerSettings.Defers, ha] at ht) _ hc
    | some name =>
      cases hp : LanguageId.parse? name with
      | none => simp [ha, hp] at hc
      | some target =>
        have hdefers (t : LanguageId) : c.Defers l t ↔ target = t ∧ t ≠ l := by
          simp [ServerSettings.Defers, ha, hp]
        by_cases ht : target = l
        · simp only [ha, hp, ht, if_true] at hc
          refine hown (fun t hd => ?_) _ hc
          obtain ⟨rfl, hne⟩ := (hdefers t).mp hd
          exact hne ht
        · simp only [ha, hp, if_neg ht] at hc
          obtain rfl := Except.ok.inj hc
          exact .deferred target ((hdefers target).mpr ⟨rfl, ht⟩)

lemma configure_ok {s : Settings} {notes : List LogRecord}
    (hc : configure s l = (notes, .ok slot)) :
    slot ≠ .servedBy l ∧ ∀ i, slot = .active i →
      i.settings.commandLine?.isSome = true ∧ i = { language := l, settings := i.settings } := by
  obtain ⟨c, -, hmakes⟩ := configure_makes (congrArg Prod.snd hc)
  cases hmakes with
  | deferred target hd => exact ⟨by simpa using hd.2, by simp⟩
  | idle => simp
  | own hd hcommand =>
    refine ⟨by simp, ?_⟩
    rintro _ ⟨⟩
    exact ⟨Option.isSome_iff_ne_none.mpr hcommand, rfl⟩

lemma launching_keeps (h : Host) (request : LaunchRequest) (notes : List LogRecord) :
    h.connections.Keeps (h.launching request notes) := by
  have hr : h.connections.Keeps (h.connections.record (.launched h.nextGeneration request)) :=
    ⟨fun _ => rfl, id⟩
  exact hr.trans (Connections.logs_evolves notes _).keeps

lemma connect_language? (hc : h.Coherent) (hi : h.instance? l = some i) (request : LaunchRequest)
    (notes : List LogRecord) (plan : Nat → Verdict) (g : Nat) :
    (h.connecting i request notes plan).language? g =
      if h.nextGeneration = g then some l else h.connections.language? g := by
  have hlaunch := launching_keeps h request notes
  have hnone : (h.launching request notes).language? h.nextGeneration = none :=
    (hlaunch.language _).trans (hc.fresh _ (Nat.le_refl _))
  obtain ⟨_, he, -⟩ := i.connect_evolves h.root h.environment h.nextGeneration plan
    (h.environment.overture h.nextGeneration request) _ hnone
  rw [connecting, he.language, Connections.add_language? _ hnone, hlaunch.language,
    ← (hc.sound hi).language]
  rfl

lemma connect_labelled (hc : h.Coherent) (i : Instance) (request : LaunchRequest)
    (notes : List LogRecord) (plan : Nat → Verdict) :
    (h.connecting i request notes plan).Labelled := by
  have hlaunch := launching_keeps h request notes
  have hnone : (h.launching request notes).language? h.nextGeneration = none :=
    (hlaunch.language _).trans (hc.fresh _ (Nat.le_refl _))
  obtain ⟨_, he, -⟩ := i.connect_evolves h.root h.environment h.nextGeneration plan
    (h.environment.overture h.nextGeneration request) _ hnone
  refine he.labelled fun x hx => ?_
  have hold := hlaunch.labelled hc.labelled x hx
  rw [Connections.add_language? _ hnone]
  split
  · next hg => exact absurd (hnone.symm.trans ((congrArg _ hg).trans hold)) (by simp)
  · exact hold

lemma Step.keeps {deed : Deed} (hs : Step h deed k) (hd : ∀ l, deed ≠ .launch l) :
    h.connections.Keeps k.connections := by
  cases hs with
  | logged r => exact (Connections.log_evolves _ r).keeps
  | told | taken | progressed | announced | requested | elapsed | surrounded | touched | unlisted
    | excused | idled | retired | forgotten | sealed | replaced | shuffled => exact .refl _
  | popped e rest hq => exact ⟨fun _ => rfl, fun hl x hx => hl x (hq ▸ List.mem_cons_of_mem e hx)⟩
  | received g signals => exact (Connections.receive_evolves _ g signals).keeps
  | ended g => exact (Connections.endOutput_evolves _ g).keeps
  | planned g plan => exact (Connections.setPlan_evolves _ g plan).keeps
  | collected name => exact (Connections.collect_evolves _ name).keeps
  | configured l slot notes => exact (Connections.logs_evolves notes h.connections).keeps
  | replied l i g id r =>
    obtain ⟨_, he, -⟩ := Connections.reply_evolves h.connections g id r
    exact he.keeps
  | searched l i g query =>
    obtain ⟨_, he, -⟩ := Connections.call_evolves h.connections g "workspace/symbol"
      (.object [("query", .str query)]) .caller
    exact he.keeps
  | asked l i g kind d uri p =>
    obtain ⟨_, he, -⟩ := Connections.call_evolves h.connections g kind.method
      (kind.documentParams uri p) .caller
    exact he.keeps
  | opened l i d uri =>
    obtain ⟨_, he, -⟩ := Connections.tell_evolves h.connections i.connection "textDocument/didOpen"
      (Sync.openParams uri (d.language.getD i.language) (h.versions.next d.path).2 d.text)
    exact he.keeps
  | changed l i d change uri =>
    obtain ⟨_, he, -⟩ := Connections.tell_evolves h.connections i.connection "textDocument/didChange"
      (Sync.changeParams uri (h.versions.next d.path).2
        (Sync.contentOf ⟨i, h.versions, h.connections⟩ d change))
    exact he.keeps
  | saved l i d uri =>
    obtain ⟨_, he, -⟩ := Connections.tell_evolves h.connections i.connection "textDocument/didSave"
      (Sync.saveParams uri d.text)
    exact he.keeps
  | closed l i d uri =>
    obtain ⟨_, he, -⟩ := Connections.tell_evolves h.connections i.connection "textDocument/didClose"
      (.object [Sync.identifier uri])
    exact he.keeps
  | launched l | unlaunched l | failed l | unattached l => exact absurd rfl (hd l)
  | welcomed l i g response =>
    obtain ⟨_, he, -⟩ := i.initializeSucceeded_evolves response h.connections
    exact he.keeps
  | lost l i | abandoned l i | muted l i | evicted l i | expelled i =>
    exact (i.finish_evolves .forceExit h.connections).keeps
  | stopping l i g | reminded l i g =>
    obtain ⟨_, he, -⟩ := Connections.call_evolves h.connections g "shutdown" .null .shutdown
    exact he.keeps
  | acknowledged l i | released i =>
    obtain ⟨_, he, -⟩ := i.notify_evolves "exit" .null h.connections
    exact he.keeps
  | dropped l i how | departed i rest how => exact (i.finish_evolves how h.connections).keeps

lemma Step.coherent {deed : Deed} (hs : Step h deed k) (hc : h.Coherent) : k.Coherent := by
  have hk := hs.keeps
  cases hs with
  | told | taken | progressed | announced | requested | elapsed | surrounded =>
    exact hc.same rfl rfl rfl rfl rfl
  | logged | popped | received | ended | planned | collected | replied | searched | asked
    | acknowledged | released => exact hc.traffic (hk (by simp))
  | configured l slot notes hn hconf =>
    obtain ⟨hforeign, hnew⟩ := configure_ok hconf
    refine hc.vacated (l := l) (hk (by simp)) rfl ?_ ?_ rfl (Nat.le_refl _) rfl
    · exact
        { foreign := hforeign
          sound i hi := (hnew i hi).2 ▸ .unstarted l i.settings (Nat.zero_le _)
          commanded i hi := (hnew i hi).1
          linked i g hi hg := by rw [(hnew i hi).2] at hg; cases hg
          halted _ i hi := .inl ((hnew i hi).2 ▸ rfl) }
    · cases slot with
      | active i => rw [Slot.connection?, Slot.instance?, (hnew i rfl).2]; rfl
      | _ => rfl
  | touched l i hi | changed l i d change uri hi | saved l i d uri hi =>
    exact hc.amended (hk (by simp)) hi rfl (hc.instance_fits hi) rfl rfl rfl rfl
  | opened l i d uri hi hr =>
    exact hc.amended (hk (by simp)) hi rfl ((hc.instance_fits hi).amend
      ((hc.sound hi).addOpen hr d.id uri) rfl rfl (.inl rfl)) rfl rfl rfl rfl
  | closed l i d uri hi | unlisted l i d hi =>
    exact hc.amended (hk (by simp)) hi rfl ((hc.instance_fits hi).amend
      ((hc.sound hi).removeOpen d.id) rfl rfl (.inl rfl)) rfl rfl rfl rfl
  | launched l i request notes plan hi hst hd hr hl =>
    exact hc.launched hi hst hd (connect_language? hc hi request notes plan)
      (connect_labelled hc i request notes plan) rfl rfl rfl rfl
  | unlaunched l =>
    exact hc.vacated (l := l) (Connections.log_evolves _ _).keeps rfl (.vacant (by simp) (by simp))
      rfl rfl (Nat.le_succ _) rfl
  | failed l i request notes =>
    exact hc.vacated (l := l)
      ((launching_keeps h request notes).trans (Connections.log_evolves _ _).keeps) rfl
      (.vacant (by simp) (by simp)) rfl rfl (Nat.le_succ _) rfl
  | unattached l i request notes =>
    exact hc.vacated (l := l) ((launching_keeps h request notes).trans
      ((Connections.record_evolves _ rfl rfl).trans (Connections.log_evolves _ _)).keeps) rfl
      (.vacant (by simp) (by simp)) rfl rfl (Nat.le_succ _) rfl
  | welcomed l i g response hi hst =>
    exact hc.amended (hk (by simp)) hi rfl ((hc.instance_fits hi).amend
      ((hc.sound hi).welcomed hst response) rfl rfl (.inr (.inr hst))) rfl rfl rfl rfl
  | lost l i reason hi hst hm =>
    refine hc.vacated (l := l) (hk (by simp)) rfl ?_ rfl rfl (Nat.le_refl _) rfl
    exact
      { foreign := by simp
        sound := by rintro _ ⟨⟩; exact .unstarted l i.settings hm
        commanded := by rintro _ ⟨⟩; exact (hc.instance_fits hi).commanded i rfl
        linked := by rintro _ g ⟨⟩ ⟨⟩
        halted := by rintro _ _ ⟨⟩; exact .inl rfl }
  | abandoned l =>
    exact hc.vacated (l := l) (hk (by simp)) rfl (.vacant (by simp) (by simp)) rfl rfl (Nat.le_refl _)
      rfl
  | stopping l i g hi hg =>
    exact hc.amended (hk (by simp)) hi rfl ((hc.instance_fits hi).amend
      ((hc.sound hi).leaving hg h.now) rfl rfl (.inr (.inl rfl))) rfl rfl rfl rfl
  | reminded l i g hi hg =>
    -- The server first stays where it is, with a new deadline, and is then moved.
    let c := (h.connections.call g "shutdown" .null .shutdown).1
    have hin : ({ h with connections := c }.setInstance l (i.leaving h.now)).Coherent :=
      hc.amended (hk (by simp)) hi rfl ((hc.instance_fits hi).amend
        ((hc.sound hi).leaving hg h.now) rfl rfl (.inr (.inl rfl))) rfl rfl rfl rfl
    refine hin.moved (l := l) (i := i.leaving h.now) ?_ rfl rfl ?_ rfl rfl rfl
    · rw [instance?_setInstance, if_pos rfl]
    · simp only [setInstance, setSlot, Slots.erase_set]
  | dropped | excused | idled | muted | evicted | forgotten =>
    exact hc.erased (hk (by simp)) rfl rfl rfl rfl
  | retired l i hi hst => exact hc.moved hi hst rfl rfl rfl rfl rfl
  | sealed hst =>
    exact
      { hc with
        fits := fun l slot hl =>
          { hc.fits l slot hl with halted := fun _ i hi => hst l i (instance?_eq_some.mpr (hi ▸ hl)) }
        leaves := fun i hi => (hc.leaves i hi).mono fun _ _ hm => hm }
  | replaced => exact hc.kept (.refl _) rfl (.refl _) rfl (by simp)
  | shuffled retiring hp => exact hc.kept (.refl _) rfl hp rfl id
  | departed i rest how hp => exact hc.departed (hk (by simp)) hp rfl rfl rfl rfl
  | expelled i g rest hp => exact hc.departed (hk (by simp)) hp rfl rfl rfl rfl

lemma Walk.coherent {P : Deed → Prop} (hw : Walk P h k) (hc : h.Coherent) : k.Coherent :=
  hw.keeps hc fun _ hs hc => hs.coherent hc

lemma fresh_coherent (settings : Settings) (root : Option FilePath) (environment : Environment) :
    (fresh settings root environment).Coherent where
  languages := List.nodup_nil
  fits l slot hl := by simp [fresh, Slots.get?] at hl
  leaves i hi := by simp [fresh] at hi
  distinct := List.nodup_nil
  fresh _ _ := rfl
  labelled x hx := by simp [fresh] at hx

lemma perform_coherent (hc : h.Coherent) (m : Move) : (h.perform m).Coherent := by
  obtain ⟨k, hw, hcalm⟩ := perform_walk hc.languages m
  exact hcalm.coherent (hw.coherent hc)

lemma run_coherent (hc : h.Coherent) (ms : List Move) : (h.run ms).Coherent := by
  induction ms generalizing h with
  | nil => exact hc
  | cons m rest ih => exact ih (perform_coherent hc m)

lemma turns_coherent (hc : h.Coherent) {ms : List Move} {t : Turn} (ht : t ∈ h.turns ms) :
    t.before.Coherent := by
  obtain ⟨pre, post, hsplit⟩ := List.append_of_mem ht
  obtain ⟨ns, -, hb, -⟩ := turns_mem_split hsplit
  exact hb ▸ run_coherent hc ns

section Keeping

variable {I : Host → Prop} {P : Deed → Prop}

lemma Walk.preserves (hw : Walk P h k) (hc : h.Coherent) (hi : I h)
    (hs : ∀ {a b : Host} {d : Deed}, P d → Step a d b → a.Coherent → I a → I b) : I k := by
  refine (hw.keeps (I := fun k => k.Coherent ∧ I k) ⟨hc, hi⟩ ?_).2
  intro a b d hd hstep ⟨ha, hia⟩
  exact ⟨hstep.coherent ha, hs hd hstep ha hia⟩

lemma perform_keeps (hc : h.Coherent) (hi : I h) (m : Move) (hstirs : ∀ d, h.Stirs m d → P d)
    (hcalm : ∀ subject d, Deed.Calm subject d → P d)
    (hs : ∀ {a b : Host} {d : Deed}, P d → Step a d b → a.Coherent → I a → I b) :
    I (h.perform m) := by
  obtain ⟨k, hw, hend⟩ := perform_walk hc.languages m
  exact (hend.mono (hcalm m.subject)).preserves (hw.coherent hc)
    ((hw.mono hstirs).preserves hc hi hs) hs

lemma run_keeps (hc : h.Coherent) (hi : I h) (ms : List Move)
    (hstirs : ∀ t ∈ h.turns ms, ∀ d, t.before.Stirs t.move d → P d)
    (hcalm : ∀ subject d, Deed.Calm subject d → P d)
    (hs : ∀ {a b : Host} {d : Deed}, P d → Step a d b → a.Coherent → I a → I b) : I (h.run ms) := by
  induction ms generalizing h with
  | nil => exact hi
  | cons m rest ih =>
    have hm := perform_keeps hc hi m (hstirs ⟨h, m⟩ List.mem_cons_self) hcalm hs
    exact ih (perform_coherent hc m) hm fun t ht => hstirs t (List.mem_cons_of_mem _ ht)

end Keeping

/-- What the editor can rely on between two operations. -/
structure Registered (h : Host) : Prop where
  languages : (h.slots.map Prod.fst).Nodup
  sound : ∀ l i, (l, .active i) ∈ h.slots → i.Sound l
  leaving : ∀ i ∈ h.retiring, i.state = .shuttingDown ∧ i.connection.isSome = true
  distinct : h.generations.Nodup
  issued : ∀ g ∈ h.generations, g < h.nextGeneration
  foreign : ∀ l, (l, .servedBy l) ∉ h.slots

lemma Coherent.registered (hc : h.Coherent) : h.Registered where
  languages := hc.languages
  sound l i hi := (hc.fits l _ (Slots.get?_of_mem hc.languages hi)).sound i rfl
  leaving i hi := by
    obtain ⟨g, hg, -⟩ := (hc.leaves i hi).linked
    exact ⟨(hc.leaves i hi).leaving, by simp [hg]⟩
  distinct := hc.distinct
  issued _ := hc.mem_generations
  foreign l hl := (hc.fits l _ (Slots.get?_of_mem hc.languages hl)).foreign rfl

/-- The servers of a session are in order between the acts of the editor, whatever the servers and
the surroundings do in between. -/
theorem acts_registered (settings : Settings) (root : Option FilePath) (environment : Environment)
    (as : List EditorAct) : (as.foldl act (fresh settings root environment)).Registered := by
  have hfold (h : Host) (hc : h.Coherent) : (as.foldl act h).Coherent := by
    induction as generalizing h with
    | nil => exact hc
    | cons a rest ih =>
      obtain ⟨ms, hms⟩ := act_run h a
      exact ih _ (hms ▸ run_coherent hc ms)
  exact (hfold _ (fresh_coherent settings root environment)).registered

end Host

end LanguageHost
