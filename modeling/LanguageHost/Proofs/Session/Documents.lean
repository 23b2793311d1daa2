import LanguageHost.Proofs.Session.Walks

namespace LanguageHost.Host

variable {P : Deed → Prop} {h k : Host} {l : LanguageId} {i : Instance} {d : Document}

section Documents

lemma attachAndSync_walk {α : Type} {f : Sync → Sync.Result α} (hq : P .quiet)
    (hl : ∀ l, P (.launch l))
    (hf : ∀ k l i, k.instance? l = some i → k.Admits l d →
      Walk P k (k.synced l (f (k.syncing i)).1)) (h : Host) :
    Walk P h (h.attachAndSync d f).1 := by
  have hw := attach_walk hq hl h d
  rcases ha : h.attach d with ⟨k, e | _ | l⟩ <;> rw [ha] at hw
  · simpa only [attachAndSync, ha] using hw
  · simpa only [attachAndSync, ha] using hw
  · simp only [attachAndSync, ha]
    exact hw.trans (syncOnly_walk fun i hi => hf k l i hi (attach_admits ha))

lemma didOpen_gentle (h : Host) (d : Document) : Walk (Deed.Gentle d) h (h.didOpen d).1 :=
  attachAndSync_walk trivial (fun _ => trivial) (fun _ _ _ hi ha =>
    didOpen_walk (P := Deed.Gentle d) trivial rfl hi ha) h

lemma didChange_calm (h : Host) (d : Document) (change : TextChange) :
    Walk (Deed.Calm (some d)) h (h.didChange d change).1 :=
  attachAndSync_walk trivial (fun _ => trivial) (fun _ _ _ hi ha =>
    didChange_walk (P := Deed.Calm (some d)) trivial rfl hi ha rfl) h

lemma noteSaved_gentle (h : Host) (d : Document) : Walk (Deed.Gentle d) h (h.noteSaved d) := by
  simp only [noteSaved]
  split
  · exact (log_walk trivial h _ _ _).trans (.step (.requested true) trivial)
  · exact .refl h

lemma noteSaved_kept (h : Host) (d : Document) :
    (h.noteSaved d).slots = h.slots ∧ (h.noteSaved d).settings = h.settings := by
  simp only [noteSaved]
  split <;> exact ⟨rfl, rfl⟩

lemma noteSaved_evolves (h : Host) (d : Document) :
    h.connections.Evolves (h.noteSaved d).connections [] := by
  simp only [noteSaved]
  split
  · exact Connections.log_evolves _ _
  · exact .refl _

lemma didSave_gentle (h : Host) (d : Document) : Walk (Deed.Gentle d) h (h.didSave d).1 :=
  (noteSaved_gentle h d).trans
    (attachAndSync_walk trivial (fun _ => trivial) (fun _ _ _ hi ha =>
      didSave_walk (P := Deed.Gentle d) trivial rfl hi ha) _)

lemma closeOn_gentle (h : Host) (l : LanguageId) (d : Document) :
    Walk (Deed.Gentle d) h (h.closeOn l d).1 := by
  have hw := resolve_walk (P := Deed.Gentle d) trivial h l
  rcases hr : h.resolve l with ⟨k, e | serving⟩ <;> rw [hr] at hw
  · simpa only [closeOn, hr] using hw
  · simp only [closeOn, hr]
    exact hw.trans (syncOnly_walk fun i hi => didClose_walk trivial rfl hi)

lemma didClose_gentle (h : Host) (d : Document) : Walk (Deed.Gentle d) h (h.didClose d).1 := by
  cases hd : d.language with
  | none =>
    simp only [didClose, hd]
    exact .refl h
  | some l => simpa only [didClose, hd] using closeOn_gentle h l d

lemma documentReloaded_gentle (h : Host) (d : Document) :
    Walk (Deed.Gentle d) h (h.documentReloaded d).1 := by
  have hw := didClose_gentle h d
  rcases hc : h.didClose d with ⟨k, e | u⟩ <;> rw [hc] at hw
  · simpa only [documentReloaded, hc] using hw
  · simpa only [documentReloaded, hc] using hw.trans (didOpen_gentle k d)

lemma documentLanguageChanged_gentle (h : Host) (d : Document) (previous : LanguageId) :
    Walk (Deed.Gentle d) h (h.documentLanguageChanged d previous).1 := by
  have hw := closeOn_gentle h previous d
  rcases hc : h.closeOn previous d with ⟨k, e | u⟩ <;> rw [hc] at hw
  · simpa only [documentLanguageChanged, hc] using hw
  · simpa only [documentLanguageChanged, hc] using hw.trans (didOpen_gentle k d)

lemma catchUpOne_gentle (h : Host) (l : LanguageId) (d : Document) :
    Walk (Deed.Gentle d) h (h.catchUpOne l d) := by
  cases hd : d.language with
  | none =>
    simp only [catchUpOne, hd]
    exact .refl h
  | some n =>
    have hw := resolve_walk (P := Deed.Gentle d) trivial h n
    rcases hr : h.resolve n with ⟨k, e | serving⟩ <;> rw [hr] at hw
    · simpa only [catchUpOne, hd, hr] using hw
    obtain ⟨hs, i, hi⟩ := resolve_serves hr
    by_cases hc : serving = l ∧ k.inScope l d = true
    · obtain ⟨rfl, hin⟩ := hc
      have hm := hw.trans (syncOnly_walk (f := (·.didOpen d)) fun i hi =>
        didOpen_walk trivial rfl hi ⟨⟨n, hd, hs⟩, hin⟩)
      rcases ho : k.withSync serving (·.didOpen d) with ⟨m, e | b⟩
      · simp only [syncOnly, ho] at hm
        simp only [catchUpOne, hd, hr, hin, and_self, if_true, ho]
        exact hm.trans (log_walk trivial m _ _ _)
      · simp only [syncOnly, ho] at hm
        simpa only [catchUpOne, hd, hr, hin, and_self, if_true, ho] using hm
    · simpa only [catchUpOne, hd, hr, hc, if_false] using hw

end Documents

section Requests

lemma gate_walk (hq : P .quiet) (h : Host) (l : LanguageId) (f : Feature) :
    Walk P h (h.gate l f).1 := by
  have hw := resolve_walk hq h l
  rcases hr : h.resolve l with ⟨k, e | serving⟩ <;> rw [hr] at hw
  · simpa only [gate, hr] using hw
  simp only [gate, hr]
  split
  · exact hw
  · split
    · exact hw
    · split <;> exact hw

lemma gate_ok {f : Feature} {serving : LanguageId} (hg : h.gate l f = (k, .ok serving)) :
    (l = serving ∨ k.slots.get? l = some (.servedBy serving)) ∧
      ∃ i, k.instance? serving = some i ∧ i.state = .ready ∧ i.capabilities.isEnabled f = true := by
  rcases hr : h.resolve l with ⟨m, e | s⟩
  · simp [gate, hr] at hg
  obtain ⟨hs, i, hi⟩ := resolve_serves hr
  by_cases hst : i.state = .ready
  · by_cases he : (i.capabilities.sourceOf f).isEnabled = true
    · simp only [gate, hr, hi, hst, ne_eq, not_true_eq_false, if_false, he, if_true, Prod.mk.injEq,
        Except.ok.injEq] at hg
      obtain ⟨rfl, rfl⟩ := hg
      exact ⟨hs, i, hi, hst, he⟩
    · simp [gate, hr, hi, hst, he] at hg
  · simp [gate, hr, hi, hst] at hg

lemma issue_walk {kind : RequestKind} {params : Json}
    (hs : ∀ i g, h.instance? l = some i → i.connection = some g →
      Walk P h { h with connections := (h.connections.call g kind.method params .caller).1 }) :
    Walk P h (h.issue l kind params).1 := by
  cases hi : h.instance? l with
  | none =>
    simp only [issue, hi, Option.bind_none]
    exact .refl h
  | some i =>
    cases hg : i.connection with
    | none =>
      simp only [issue, hi, Option.bind_some, hg]
      exact .refl h
    | some g =>
      simp only [issue, hi, Option.bind_some, hg]
      exact hs i g hi hg

lemma didOpen_ok {s t : Sync} {b : Bool} (hr : s.server.state = .ready)
    (ho : s.didOpen d = (t, .ok b)) :
    (t.server.openUri? d.id).isSome = true ∧ t.server.state = .ready ∧
      t.server.settings = s.server.settings ∧ t.server.capabilities = s.server.capabilities := by
  cases hu : s.server.openUri? d.id with
  | some uri =>
    simp only [Sync.didOpen, Sync.isReady, hr, hu, decide_true, Bool.not_true, Option.isSome_some,
      Bool.or_true, if_true, Prod.mk.injEq] at ho
    obtain ⟨rfl, -⟩ := ho
    exact ⟨by simp [hu], hr, rfl, rfl⟩
  | none =>
    rcases hd : d.uriOrError with e | uri
    · simp [Sync.didOpen, Sync.isReady, hr, hu, hd] at ho
    have ht : t = (s.openAs d uri).1 := by
      simp only [Sync.didOpen, Sync.isReady, hr, hu, hd, decide_true, Bool.not_true,
        Option.isSome_none, Bool.or_false, Bool.false_eq_true, if_false, Prod.mk.injEq] at ho
      exact ho.1.symm
    subst ht
    simp only [Sync.openAs, notify_fst]
    refine ⟨?_, hr, rfl, rfl⟩
    simp [Sync.log, Instance.openUri?, Instance.addOpen, List.find?_append]

lemma request_gentle (h : Host) (kind : RequestKind) (d : Document) (p : Position) :
    Walk (Deed.Gentle d) h (h.request kind d p).1 := by
  cases hd : d.language with
  | none =>
    simp only [request, hd]
    exact .refl h
  | some n =>
    have hw := gate_walk (P := Deed.Gentle d) trivial h n kind.feature
    rcases hg : h.gate n kind.feature with ⟨k, e | l⟩ <;> rw [hg] at hw
    · simpa only [request, hd, hg] using hw
    obtain ⟨hs, i, hi, hr, he⟩ := gate_ok hg
    rcases hu : d.uriOrError with e | uri
    · simpa only [request, hd, hg, hu] using hw
    by_cases hin : k.inScope l d = true
    · have ha : k.Admits l d := ⟨⟨n, hd, hs⟩, hin⟩
      have ho := hw.trans (syncOnly_walk (f := (·.didOpen d)) fun i hi =>
        didOpen_walk trivial rfl hi ha)
      have hm := syncOnly_eq (f := (·.didOpen d)) hi
      rcases hsync : (k.syncing i).didOpen d with ⟨s, e | b⟩ <;> simp only [hsync, Except.map] at hm <;>
        rw [hm] at ho
      · simpa only [request, hd, hg, hu, hin, if_true, hm] using ho
      simp only [request, hd, hg, hu, hin, if_true, hm]
      obtain ⟨hopen, hready, hset, hcap⟩ := didOpen_ok (s := k.syncing i) hr hsync
      have hmi : (k.synced l s).instance? l = some s.server := by
        simp [synced, instance?_setInstance]
      have hma : (k.synced l s).Admits l d := admits_setInstance ha hi hset
      refine ho.trans (issue_walk fun j g hj hjg => ?_)
      obtain rfl : s.server = j := Option.some.inj (hmi.symm.trans hj)
      exact .step (.asked l s.server g kind d uri p hj hready hjg
        (by rw [hcap]; exact he) hma hopen hu) rfl
    · simpa only [request, hd, hg, hu, hin, Bool.false_eq_true, if_false] using hw

lemma workspaceSymbols_walk (hq : P .quiet) (h : Host) (l : LanguageId) (query : String) :
    Walk P h (h.workspaceSymbols l query).1 := by
  have hw := gate_walk hq h l .workspaceSymbols
  rcases hg : h.gate l .workspaceSymbols with ⟨k, e | serving⟩ <;> rw [hg] at hw
  · simpa only [workspaceSymbols, hg] using hw
  obtain ⟨-, i, hi, hr, he⟩ := gate_ok hg
  simp only [workspaceSymbols, hg]
  refine hw.trans (issue_walk fun j g hj hjg => ?_)
  obtain rfl : i = j := Option.some.inj (hi.symm.trans hj)
  exact .step (.searched serving i g query hi hr hjg he) hq

lemma readiness_walk (hq : P .quiet) (h : Host) (l : LanguageId) : Walk P h (h.readiness l).1 := by
  have hw := resolve_walk hq h l
  rcases hr : h.resolve l with ⟨k, e | serving⟩ <;> rw [hr] at hw
  · simpa only [readiness, hr] using hw
  · simp only [readiness, hr]
    split <;> exact hw

end Requests

end LanguageHost.Host
