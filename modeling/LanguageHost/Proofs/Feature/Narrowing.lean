import LanguageHost.Feature.Capability
import LanguageHost.Proofs.Json.Deletion

namespace LanguageHost

def Json.letters : Json → List Char
  | str s => s.toList
  | _ => []

lemma letters_join (items : List Json) :
    (String.join (items.filterMap Json.asString?)).toList = items.flatMap Json.letters := by
  rw [String.toList_join]
  induction items with
  | nil => rfl
  | cons j items ih =>
    cases j with
    | str s => exact congrArg (s.toList ++ ·) ih
    | _ => exact ih

namespace Feature

variable {f g : Feature} {s : ServerSettings} {b : Bool}

def switch (b : Bool) (s : ServerSettings) : Feature → ServerSettings
  | autocomplete => { s with autocomplete := { s.autocomplete with enable := b } }
  | signatureHelp => { s with signatureEnable := b }
  | hover => { s with hover := { s.hover with enable := b } }
  | goto => { s with gotoEnable := b }
  | documentSymbols => { s with documentSymbolsEnable := b }
  | workspaceSymbols => s
  | highlighting => { s with highlighting := { s.highlighting with enable := b } }
  | semanticTokens => { s with semanticTokens := { s.semanticTokens with enable := b } }
  | diagnostics => { s with diagnostics := { s.diagnostics with enable := b } }

lemma switch_configured (hf : f ≠ workspaceSymbols) : f.configured (f.switch b s) = b := by
  cases f with
  | workspaceSymbols => exact absurd rfl hf
  | _ => rfl

lemma switch_configured_other (hg : g ≠ f) : g.configured (f.switch b s) = g.configured s := by
  cases f <;> cases g <;> first | rfl | exact absurd rfl hg

lemma switch_sync : (f.switch b s).sync = s.sync := by
  cases f <;> rfl

end Feature

namespace CapabilitySet

variable {r r' w : Json} {s : ServerSettings} {f : Feature} {key : String} {p : List String}

def announced (r : Json) : Json := (r.get? "capabilities").getD .null

lemma at?_announced (r : Json) (key : String) (p : List String) :
    (announced r).at? (key :: p) = r.at? ("capabilities" :: key :: p) := by
  rw [Json.at?_cons (j := r), announced]
  cases r.get? "capabilities" <;> rfl

def announces (r : Json) : Feature → Bool :=
  offers (announced r) (triggers (announced r) ["completionProvider", "triggerCharacters"])
    (triggers (announced r) ["signatureHelpProvider", "triggerCharacters"])

lemma sourceOf_negotiate (r : Json) (s : ServerSettings) (f : Feature) :
    (negotiate r s).sourceOf f =
      if !f.configured s then .disabled else if announces r f then .advertised else .missing := by
  cases f <;> rfl

lemma isEnabled_negotiate_iff :
    (negotiate r s).isEnabled f = true ↔ f.configured s = true ∧ announces r f = true := by
  rw [isEnabled, sourceOf_negotiate]
  cases f.configured s <;> cases announces r f <;> simp [FeatureSource.isEnabled]

lemma announced_deletes (h : r.Deletes r') (hw : (announced r').at? (key :: p) = some w) :
    ∃ v, (announced r).at? (key :: p) = some v ∧ (v = w ∨ v.Deletes w) := by
  rw [at?_announced] at hw ⊢
  exact h.at? hw

lemma provides_deletes (h : r.Deletes r') (hk : provides (announced r') key = true) :
    provides (announced r) key = true := by
  rw [provides] at hk ⊢
  rw [← Json.at?_single] at hk ⊢
  split at hk
  · next hw =>
    obtain ⟨v, hv, rfl | hd⟩ := announced_deletes h hw
    · rw [hv]
    · exact hd.not_bool.elim
  · next hw =>
    obtain ⟨v, hv, rfl | hd⟩ := announced_deletes h hw
    · rw [hv]
    · obtain ⟨ms, rfl⟩ := hd.of_obj
      rw [hv]
  · cases hk

lemma triggers_deletes (h : r.Deletes r')
    (hk : (triggers (announced r') (key :: p)).isEmpty = false) :
    triggers (announced r) (key :: p) = triggers (announced r') (key :: p) := by
  rw [triggers] at hk
  simp only [triggers]
  split at hk
  · next items hw =>
    obtain ⟨v, hv, rfl | hd⟩ := announced_deletes h hw
    · simp only [hv]
    · obtain ⟨js, rfl, hjs⟩ := hd.of_arr
      simp only [hv, hjs]
  · cases hk

lemma announces_deletes (h : r.Deletes r') (hf : announces r' f = true) : announces r f = true := by
  cases f with
  | autocomplete | signatureHelp =>
    simp only [announces, offers, Bool.not_eq_true'] at hf ⊢
    rwa [triggers_deletes h hf]
  | semanticTokens =>
    simp only [announces, offers] at hf ⊢
    split at hf
    · next hw =>
      obtain ⟨v, hv, rfl | hd⟩ := announced_deletes h hw
      · rw [hv]
      · exact hd.not_bool.elim
    · cases hf
  | diagnostics => rfl
  | _ => exact provides_deletes h hf

def announcedSync (r : Json) : Option Json :=
  (r.at? ["capabilities", "textDocumentSync", "change"]).or
    (r.at? ["capabilities", "textDocumentSync"])

lemma syncKind_announced :
    syncKind (announced r) = some incrementalKind ↔ announcedSync r = some (.int 2) := by
  rw [syncKind, at?_announced, ← Json.at?_single, at?_announced, ← announcedSync,
    Option.bind_eq_some_iff]
  constructor
  · rintro ⟨v, hv, hi⟩
    cases v with
    | int i =>
      rw [Json.intIn?, Option.ite_none_right_eq_some] at hi
      rw [hv, Option.some.inj hi.2, incrementalKind]
    | _ => cases hi
  · intro h
    exact ⟨_, h, rfl⟩

lemma announcedSync_deletes (h : r.Deletes r') (hk : announcedSync r' = some (.int 2)) :
    announcedSync r = some (.int 2) := by
  rw [announcedSync, Option.or_eq_some_iff] at hk ⊢
  rcases hk with hk | ⟨-, hk⟩
  · obtain ⟨v, hv, rfl | hd⟩ := h.at? hk
    · exact .inl hv
    · exact hd.not_int.elim
  · obtain ⟨v, hv, rfl | hd⟩ := h.at? hk
    -- A number has no member for the changes.
    · refine .inr ⟨?_, hv⟩
      rw [show ["capabilities", "textDocumentSync", "change"] =
        ["capabilities", "textDocumentSync"] ++ ["change"] from rfl, Json.at?_append, hv]
      rfl
    · exact hd.not_int.elim

lemma incrementalSync_negotiate :
    (negotiate r s).incrementalSync = true ↔ s.sync = .auto ∧ announcedSync r = some (.int 2) := by
  rw [← syncKind_announced, and_comm]
  exact decide_eq_true_iff

def Joins (t : String) (array : Option Json) : Prop :=
  t ≠ "" ∧ ∃ items, array = some (.arr items) ∧ t.toList = items.flatMap Json.letters

lemma triggers_join (h : (triggers (announced r) (key :: p)).isEmpty = false) :
    Joins (triggers (announced r) (key :: p)) (r.at? ("capabilities" :: key :: p)) := by
  refine ⟨fun he => by simp [he] at h, ?_⟩
  rw [triggers, at?_announced] at h ⊢
  split at h
  · next items hw => exact ⟨items, hw, letters_join items⟩
  · cases h

structure AgreeBut (f : Feature) (a b : CapabilitySet) : Prop where
  sync : b.incrementalSync = a.incrementalSync
  completion : b.completionTriggers = a.completionTriggers
  signature : b.signatureTriggers = a.signatureTriggers
  mask : b.tokenMask = a.tokenMask
  features : ∀ g, g ≠ f → b.sourceOf g = a.sourceOf g

lemma negotiate_switch (r : Json) (s : ServerSettings) (f : Feature) (b : Bool) :
    (negotiate r s).AgreeBut f (negotiate r (f.switch b s)) where
  sync := by simp only [negotiate, Feature.switch_sync]
  completion := rfl
  signature := rfl
  mask := rfl
  features g hg := by
    rw [sourceOf_negotiate, sourceOf_negotiate, Feature.switch_configured_other hg]

/-- A feature that is enabled is enabled by the settings, and where the settings enable it the answer alone
decides. The flag of a feature changes nothing else. Taking a member out of the answer turns nothing on,
neither a feature nor the sending of changes. Completions and signatures come with the strings of the
array that is announced for them. -/
theorem negotiation_narrows (r : Json) (s : ServerSettings) :
    (∀ f, (negotiate r s).isEnabled f = true → f.configured s = true) ∧
    (∀ f b, (negotiate r s).AgreeBut f (negotiate r (f.switch b s)) ∧
      (f ≠ .workspaceSymbols → f.configured (f.switch b s) = b)) ∧
    (∀ f s', f.configured s = true → f.configured s' = true →
      (negotiate r s).isEnabled f = (negotiate r s').isEnabled f) ∧
    (∀ r', r.Deletes r' →
      (∀ f, (negotiate r' s).isEnabled f = true → (negotiate r s).isEnabled f = true) ∧
      ((negotiate r' s).incrementalSync = true → (negotiate r s).incrementalSync = true)) ∧
    ((negotiate r s).isEnabled .autocomplete = true → Joins (negotiate r s).completionTriggers
      (r.at? ["capabilities", "completionProvider", "triggerCharacters"])) ∧
    ((negotiate r s).isEnabled .signatureHelp = true → Joins (negotiate r s).signatureTriggers
      (r.at? ["capabilities", "signatureHelpProvider", "triggerCharacters"])) ∧
    ((negotiate r s).incrementalSync = true ↔ s.sync = .auto ∧ announcedSync r = some (.int 2)) := by
  refine ⟨fun f hf => (isEnabled_negotiate_iff.mp hf).1,
    fun f b => ⟨negotiate_switch r s f b, Feature.switch_configured⟩, fun f s' hs hs' => ?_,
    fun r' h => ⟨fun f hf => ?_, fun hi => ?_⟩, fun hf => ?_, fun hf => ?_,
    incrementalSync_negotiate⟩
  · rw [Bool.eq_iff_iff, isEnabled_negotiate_iff, isEnabled_negotiate_iff, hs, hs']
  · obtain ⟨hs, ha⟩ := isEnabled_negotiate_iff.mp hf
    exact isEnabled_negotiate_iff.mpr ⟨hs, announces_deletes h ha⟩
  · obtain ⟨hs, hi⟩ := incrementalSync_negotiate.mp hi
    exact incrementalSync_negotiate.mpr ⟨hs, announcedSync_deletes h hi⟩
  · exact triggers_join (by simpa [announces, offers] using (isEnabled_negotiate_iff.mp hf).2)
  · exact triggers_join (by simpa [announces, offers] using (isEnabled_negotiate_iff.mp hf).2)

end CapabilitySet

namespace Sample

def announcement (sync : List (String × Json)) : Json :=
  .obj [("capabilities", .obj [
    ("completionProvider", .obj [("triggerCharacters", .arr [.str ".", .int 3, .str "::"])]),
    ("hoverProvider", .bool true),
    ("textDocumentSync", .obj sync)])]

lemma announcement_deletes :
    (announcement [("change", .int 2), ("save", .bool true)]).Deletes
      (announcement [("change", .int 2)]) :=
  .member [] [] "capabilities"
    (.member [_, _] [] "textDocumentSync" (.here "save" [("change", .int 2), ("save", .bool true)]))

end Sample

theorem CapabilitySet.announcement_narrows :
    (negotiate (Sample.announcement [("change", .int 2)]) {}).isEnabled .hover = true ∧
      (negotiate (Sample.announcement [("change", .int 2), ("save", .bool true)]) {}).isEnabled
        .hover = true ∧
      (negotiate (Sample.announcement [("change", .int 2), ("save", .bool true)])
        {}).incrementalSync = true ∧
      (negotiate (Sample.announcement [("change", .int 2)])
        (Feature.hover.switch false {})).isEnabled .hover = false ∧
      (negotiate (Sample.announcement [("change", .int 2)]) {}).completionTriggers.toList =
        ['.', ':', ':'] := by
  obtain ⟨-, hswitch, -, -, htriggers, -, -⟩ :=
    negotiation_narrows (Sample.announcement [("change", .int 2)]) {}
  obtain ⟨hnarrow, -⟩ :=
    negotiation_narrows (Sample.announcement [("change", .int 2)]) (Feature.hover.switch false {})
  obtain ⟨-, -, -, hdeletes, -, -, -⟩ :=
    negotiation_narrows (Sample.announcement [("change", .int 2), ("save", .bool true)]) {}
  obtain ⟨hfeatures, hsync⟩ := hdeletes _ Sample.announcement_deletes
  have hhover : (negotiate (Sample.announcement [("change", .int 2)]) {}).isEnabled .hover = true :=
    by decide
  refine ⟨hhover, hfeatures .hover hhover, hsync (by decide), ?_, ?_⟩
  · have hoff := (hswitch .hover false).2 (by decide)
    exact Bool.eq_false_iff.mpr fun he => Bool.false_ne_true (hoff.symm.trans (hnarrow .hover he))
  · obtain ⟨-, items, hitems, hjoin⟩ := htriggers (by decide)
    obtain rfl := Json.arr.inj (Option.some.inj hitems)
    exact hjoin

end LanguageHost
