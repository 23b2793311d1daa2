import LanguageHost.Proofs.Session.Registry

namespace LanguageHost

def Slot.Follows (slot made : Slot) : Prop :=
  match slot with
  | .active i => ∃ j, made = .active j ∧ i.settings = j.settings
  | .dead .. => ∃ j, made = .active j
  | _ => made = slot

namespace Host

variable {h k : Host} {l m n : LanguageId} {i j : Instance} {slot : Slot} {d : Document}
  {deed : Deed}

def Planned (s : Settings) (l : LanguageId) (slot : Slot) : Prop :=
  ∃ made, (configure s l).2 = .ok made ∧ slot.Follows made

def Arranged (h : Host) : Prop := ∀ l slot, h.slots.get? l = some slot → Planned h.settings l slot

/-- Documents in the language `n` go to the server of the language `l`. -/
def Routes (s : Settings) (n l : LanguageId) : Prop :=
  n = l ∨ (configure s n).2 = .ok (.servedBy l)

lemma configure_follows {s : Settings} (hm : (configure s l).2 = .ok slot) : slot.Follows slot := by
  obtain ⟨c, -, hmakes⟩ := configure_makes hm
  cases hmakes <;> simp [Slot.Follows]

lemma configure_server {s : Settings} (hc : (configure s l).2 = .ok (.active i)) :
    s.server l.name = .ok i.settings := by
  obtain ⟨c, hs, hmade⟩ := configure_makes hc
  cases hmade
  exact hs

section Steps

lemma Arranged.active (hc : h.Arranged) (hi : h.instance? l = some i)
    (hj : j.settings = i.settings) : Planned h.settings l (.active j) := by
  obtain ⟨made, hm, i', rfl, hset⟩ := hc l _ (instance?_eq_some.mp hi)
  exact ⟨_, hm, i', rfl, hj.trans hset⟩

lemma Arranged.server (hc : h.Arranged) (hi : h.instance? l = some i) :
    h.settings.server l.name = .ok i.settings := by
  obtain ⟨made, hm, j, rfl, hset⟩ := hc l _ (instance?_eq_some.mp hi)
  exact hset ▸ configure_server hm

lemma Arranged.dead (hc : h.Arranged) (hi : h.instance? l = some i) (restarts : Nat)
    (reason : String) : Planned h.settings l (.dead restarts reason) := by
  obtain ⟨made, hm, i', rfl, -⟩ := hc l _ (instance?_eq_some.mp hi)
  exact ⟨_, hm, i', rfl⟩

lemma Arranged.kept (hc : h.Arranged) (hs : k.slots = h.slots)
    (hset : k.settings = h.settings) : k.Arranged :=
  fun l slot hl => hset ▸ hc l slot (hs ▸ hl)

lemma Arranged.filled (hc : h.Arranged) (hs : k.slots = h.slots.set l slot)
    (hset : k.settings = h.settings) (hp : Planned h.settings l slot) : k.Arranged := by
  intro m new hm
  rw [hs, Slots.get?_set] at hm
  rw [hset]
  split at hm
  · next hl =>
    obtain rfl := Option.some.inj hm
    exact hl ▸ hp
  · exact hc m new hm

lemma Arranged.erased (hc : h.Arranged) (hs : k.slots = h.slots.erase l)
    (hset : k.settings = h.settings) : k.Arranged :=
  fun m slot hm => hset ▸ hc m slot (Coherent.unfilled hs m slot hm)

lemma Step.arranged (hs : Step h deed k) (hc : h.Arranged) : k.Arranged := by
  cases hs with
  | logged | told | taken | progressed | announced | requested | elapsed | surrounded | popped
    | received | ended | planned | collected | replied | searched | asked | acknowledged | sealed
    | shuffled | released | departed | expelled => exact hc.kept rfl rfl
  | configured l slot notes hn hconf =>
    have hmade : (configure h.settings l).2 = .ok slot := by rw [hconf]
    exact hc.filled (show _ = h.slots.set l slot from rfl) rfl ⟨slot, hmade, configure_follows hmade⟩
  | touched l i hi | opened l i d uri hi | changed l i d change uri hi | saved l i d uri hi
    | closed l i d uri hi | unlisted l i d hi | launched l i request notes plan hi
    | welcomed l i g response hi | lost l i reason hi | stopping l i g hi =>
    exact hc.filled rfl rfl (hc.active hi rfl)
  | unlaunched l i e hi | failed l i request notes e hi | unattached l i request notes plan e hi
    | abandoned l i reason last hi =>
    exact hc.filled rfl rfl (hc.dead hi _ _)
  | dropped l | excused l | idled l | muted l | retired l | reminded l | evicted l | forgotten l =>
    exact hc.erased (l := l) rfl rfl
  | replaced settings hs => exact fun l slot hl => by simp [hs, Slots.get?] at hl

lemma Step.settings (hs : Step h deed k) : k.settings = h.settings ∨ k.slots = [] := by
  cases hs with
  | replaced settings hs => exact .inr hs
  | _ => exact .inl rfl

lemma Step.settings_stay (hs : Step h deed k) (hd : deed ≠ .renew) : k.settings = h.settings := by
  cases hs with
  | replaced => exact absurd rfl hd
  | _ => rfl

lemma Step.calm_stays {subject : Option Document} (hs : Step h deed k)
    (hd : Deed.Calm subject deed) : k.settings = h.settings ∧ k.environment = h.environment := by
  cases hs with
  | replaced | surrounded => exact hd.elim
  | _ => exact ⟨rfl, rfl⟩

lemma Step.root (hs : Step h deed k) : k.root = h.root := by
  cases hs <;> rfl

lemma Walk.arranged {P : Deed → Prop} (hw : Walk P h k) (hc : h.Arranged) : k.Arranged :=
  hw.keeps hc fun _ hs ha => hs.arranged ha

lemma fresh_arranged (settings : Settings) (root : Option FilePath) (environment : Environment) :
    (fresh settings root environment).Arranged :=
  fun l slot hl => by simp [fresh, Slots.get?] at hl

lemma perform_arranged (hc : h.Coherent) (ha : h.Arranged) (m : Move) : (h.perform m).Arranged := by
  obtain ⟨k, hw, hcalm⟩ := perform_walk hc.languages m
  exact hcalm.arranged (hw.arranged ha)

lemma run_arranged (hc : h.Coherent) (ha : h.Arranged) (ms : List Move) : (h.run ms).Arranged := by
  induction ms generalizing h with
  | nil => exact ha
  | cons m rest ih => exact ih (perform_coherent hc m) (perform_arranged hc ha m)

end Steps

section Routing

lemma Arranged.routes (hc : h.Arranged) (hs : n = l ∨ h.slots.get? n = some (.servedBy l)) :
    Routes h.settings n l := by
  refine hs.imp id fun hs => ?_
  obtain ⟨made, hm, hf⟩ := hc n _ hs
  rwa [show made = .servedBy l from hf] at hm

lemma Serves.routes (hs : h.Serves l d) (hc : h.Arranged) :
    ∃ n, d.language = some n ∧ Routes h.settings n l :=
  hs.imp fun _ ⟨hn, hs⟩ => ⟨hn, hc.routes hs⟩

lemma Arranged.own (hc : h.Arranged) (hi : h.instance? l = some i) (hr : Routes h.settings l m) :
    l = m := by
  refine hr.resolve_right fun hr => ?_
  obtain ⟨made, hm, j, rfl, -⟩ := hc l _ (instance?_eq_some.mp hi)
  simp [hm] at hr

lemma Arranged.route_unique (hc : h.Arranged) (hl : h.instance? l = some i)
    (hm : h.instance? m = some j) (hnl : Routes h.settings n l) (hnm : Routes h.settings n m) :
    l = m := by
  rcases hnl with rfl | hnl
  · exact hc.own hl hnm
  · rcases hnm with rfl | hnm
    · exact (hc.own hm (.inr hnl)).symm
    · simpa [hnl] using hnm

lemma slot_eq (hs : h.slots.get? l = some slot) : h.slot l = (h, .ok slot) := by
  simp only [Host.slot, hs]

lemma slot_follows (hc : h.Arranged) {made : Slot} (hm : (configure h.settings n).2 = .ok made) :
    ∃ k slot, h.slot n = (k, .ok slot) ∧ slot.Follows made := by
  cases hn : h.slots.get? n with
  | some slot =>
    obtain ⟨made', hm', hf⟩ := hc n slot hn
    obtain rfl : made' = made := Except.ok.inj (hm'.symm.trans hm)
    exact ⟨h, slot, slot_eq hn, hf⟩
  | none =>
    rcases hconf : configure h.settings n with ⟨notes, made'⟩
    obtain rfl : made' = .ok made := by simpa [hconf] using hm
    exact ⟨_, made, by simp only [Host.slot, hn, hconf]; rfl, configure_follows hm⟩

lemma slot_routed (hc : h.Arranged) (hr : (configure h.settings n).2 = .ok (.servedBy l)) :
    ∃ k, h.slot n = (k, .ok (.servedBy l)) := by
  obtain ⟨k, slot, hk, hf⟩ := slot_follows hc hr
  have hslot : slot = .servedBy l := by
    cases slot <;> simp_all [Slot.Follows]
  exact ⟨k, hslot ▸ hk⟩

lemma resolve_routed (hc : h.Arranged) (hi : h.instance? l = some i)
    (hr : Routes h.settings n l) : ∃ k, h.resolve n = (k, .ok l) ∧ k.instance? l = some i := by
  have hl := instance?_eq_some.mp hi
  rcases hr with rfl | hr
  · exact ⟨h, by simp only [resolve, slot_eq hl], hi⟩
  obtain ⟨k, hk⟩ := slot_routed hc hr
  have hkl : k.slots.get? l = some (.active i) := by
    have := (slot_consults h n).kept l _ hl
    rwa [hk] at this
  exact ⟨k, by simp only [resolve, hk, slot_eq hkl], instance?_eq_some.mpr hkl⟩

end Routing

end Host

end LanguageHost
