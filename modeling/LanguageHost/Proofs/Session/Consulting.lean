import Mathlib.Tactic.Lemma
import LanguageHost.Proofs.Session.Traffic
import LanguageHost.Session.Request

namespace LanguageHost.Host

variable {h k m : Host} {l : LanguageId}

/-- Nothing is new in a session but what the settings make of languages that were asked for for the first
time, and notes about it. -/
structure Consults (h k : Host) : Prop where
  frame : { k with slots := h.slots, connections := { k.connections with trace := h.connections.trace } }
    = h
  notes : ∃ notes : List LogRecord,
    k.connections.trace = h.connections.trace ++ notes.map (.logged .caller)
  kept : ∀ l slot, h.slots.get? l = some slot → k.slots.get? l = some slot
  made : ∀ l slot, k.slots.get? l = some slot →
    h.slots.get? l = some slot ∨ h.slots.get? l = none ∧ (configure h.settings l).2 = .ok slot

namespace Consults

lemma refl (h : Host) : h.Consults h := ⟨rfl, ⟨[], by simp⟩, fun _ _ => id, fun _ _ => .inl⟩

lemma settings (hk : h.Consults k) : k.settings = h.settings :=
  (congrArg Host.settings hk.frame :)

lemma trans (hk : h.Consults k) (hm : k.Consults m) : h.Consults m := by
  obtain ⟨notes, hnotes⟩ := hk.notes
  obtain ⟨more, hmore⟩ := hm.notes
  refine ⟨?_, ⟨notes ++ more, by rw [hmore, hnotes]; simp⟩,
    fun l slot hl => hm.kept l slot (hk.kept l slot hl), fun l slot hl => ?_⟩
  · exact (congrArg (fun x : Host => { x with
      slots := h.slots, connections := { x.connections with trace := h.connections.trace } })
      hm.frame).trans hk.frame
  · rcases hm.made l slot hl with hl | ⟨hn, hc⟩
    · exact hk.made l slot hl
    · refine .inr ⟨?_, hk.settings ▸ hc⟩
      cases hold : h.slots.get? l with
      | none => rfl
      | some old => simp [hk.kept l old hold] at hn

lemma quiet (hk : h.Consults k) : k.connections.submissions = h.connections.submissions ∧
    k.connections.launches = h.connections.launches := by
  obtain ⟨notes, hnotes⟩ := hk.notes
  simp [Connections.submissions, Connections.launches, hnotes, List.filterMap_map,
    Function.comp_def, Effect.submission?, Effect.launch?]

end Consults

lemma slot_consults (h : Host) (l : LanguageId) : h.Consults (h.slot l).1 := by
  cases hl : h.slots.get? l with
  | some slot =>
    simp only [Host.slot, hl]
    exact .refl h
  | none =>
    rcases hc : configure h.settings l with ⟨notes, made⟩
    cases made with
    | error e =>
      simp only [Host.slot, hl, hc, Connections.logs_eq]
      exact ⟨rfl, ⟨notes, rfl⟩, fun _ _ => id, fun _ _ => .inl⟩
    | ok slot =>
      simp only [Host.slot, hl, hc, Connections.logs_eq]
      refine ⟨rfl, ⟨notes, rfl⟩, fun m old hm => ?_, fun m new hm => ?_⟩
      · have hne : l ≠ m := by
          rintro rfl
          simp [hl] at hm
        simpa [setSlot, Slots.get?_set, hne] using hm
      · simp only [setSlot, Slots.get?_set] at hm
        split at hm
        · next hlm => exact .inr ⟨hlm ▸ hl, by rw [← hlm, hc, Option.some.inj hm]⟩
        · exact .inl hm

lemma resolve_consults (h : Host) (l : LanguageId) : h.Consults (h.resolve l).1 := by
  have hl := slot_consults h l
  rcases hs : h.slot l with ⟨k, e | slot⟩ <;> rw [hs] at hl
  · simpa only [resolve, hs] using hl
  cases slot with
  | unused | dead | active => simpa only [resolve, hs] using hl
  | servedBy target =>
    have ht := hl.trans (slot_consults k target)
    rcases hk : k.slot target with ⟨m, e | slot⟩ <;> rw [hk] at ht
    · simpa only [resolve, hs, hk] using ht
    · cases slot <;> simpa only [resolve, hs, hk] using ht

lemma gate_consults (h : Host) (l : LanguageId) (f : Feature) : h.Consults (h.gate l f).1 := by
  have hw := resolve_consults h l
  rcases hr : h.resolve l with ⟨k, e | serving⟩ <;> rw [hr] at hw
  · simpa only [gate, hr] using hw
  simp only [gate, hr]
  split
  · exact hw
  · split
    · exact hw
    · split <;> exact hw

end LanguageHost.Host
