import LanguageHost.Proofs.Settings.Fields
import LanguageHost.Proofs.Settings.Stacking
import LanguageHost.Proofs.Toml.Ordered

namespace LanguageHost

namespace Layer

variable {source : FilePath} {root : SettingsTable} {l : Layer} {text : String} {j : Json}

lemma readTable_yields (h : j.Ordered) : Yields (fun t => (Json.obj t).Ordered) (readTable j) := by
  cases j with
  | obj ms => exact .ok h
  | _ => exact .error

lemma languages_yields (h : j.Ordered) :
    Yields (fun l => Members.Sorted l ∧ ∀ t ∈ l, (Json.obj t.2).Ordered)
      (Decode.map readTable j) := by
  cases j with
  | obj ms =>
    rintro l hl
    obtain ⟨hkeys, hvalues⟩ :=
      Decode.readMembers_yields (fun e he => readTable_yields (h.values e he)) l hl
    refine ⟨?_, hvalues⟩
    have hsorted : (ms.map Prod.fst).Pairwise (· < ·) := List.pairwise_map.mpr h.sorted
    exact List.pairwise_map.mp (hkeys ▸ hsorted)
  | _ => exact .error

lemma readSections_yields (h : (Json.obj root).Ordered) :
    Yields Sections.Ordered (readSections root) := by
  refine Decode.setMembers_yields (fun f hf e he s hs => ?_) ⟨.empty, .empty, .nil, by simp⟩
  have hvalue : e.2.Ordered := h.values e he
  simp only [sectionFields, List.mem_cons, List.not_mem_nil, or_false] at hf
  rcases hf with rfl | rfl | rfl
  · exact Decode.field_yields (readTable_yields hvalue) fun t ht => { hs with logging := ht }
  · exact Decode.field_yields (readTable_yields hvalue) fun t ht => { hs with all := ht }
  · exact Decode.field_yields (languages_yields hvalue) fun l hl =>
      { hs with spellings := hl.1, language := hl.2 }

structure ReadFrom (root : SettingsTable) (l : Layer) : Prop where
  ordered : (Json.obj root).Ordered
  read : (ofTable l.source root).2 = .ok l

lemma ofTable_sections (h : (ofTable source root).2 = .ok l) :
    ∃ s, readSections root = .ok s ∧ l = ofSections source s := by
  rw [ofTable] at h
  split at h
  · next s hs => exact ⟨s, hs, (Except.ok.inj h).symm⟩
  · cases h

lemma ofTable_yields (h : (Json.obj root).Ordered) :
    Yields (ReadFrom root) (ofTable source root).2 := by
  intro l hl
  refine ⟨h, ?_⟩
  obtain ⟨s, -, rfl⟩ := ofTable_sections hl
  exact hl

lemma ReadFrom.sections (h : ReadFrom root l) : ∃ s, readSections root = .ok s ∧ Made s l := by
  obtain ⟨s, hs, hl⟩ := ofTable_sections h.read
  exact ⟨s, hs, readSections_yields h.ordered s hs, hl⟩

end Layer

namespace SettingsFile

variable {t : FileTree} {path : FilePath}

lemma read_yields (fuel : Nat) (chain : List FilePath) (names : List String) (entry : FileEntry) :
    Yields (fun ms => (Json.obj ms).Ordered) (read t fuel chain names entry) := by
  induction fuel generalizing chain names entry with
  | zero => exact .error
  | succ fuel ih =>
    rw [read]
    split
    · exact .error
    · refine Yields.any.bind fun text _ => ?_
      split
      · exact .error
      · refine Yields.bind (Yields.mapError Toml.parse_ordered) fun root hroot => ?_
        refine Yields.any.bind fun base _ => ?_
        split
        · exact .ok hroot
        · simp only
          split
          · exact .error
          · refine (ih _ _ _).bind fun table htable => .ok ?_
            have hmerged : (SettingsTable.overlay (some (.obj table)) (.obj root)).Ordered :=
              SettingsTable.overlay_ordered hroot fun v hv => Option.some.inj hv ▸ htable
            exact hmerged
          · exact .error

lemma load_yields : Yields (fun r => ∀ ms ∈ r, (Json.obj ms).Ordered) (load t path) := by
  rw [load]
  split
  · exact .error
  · split
    · exact .ok (by simp)
    · exact .error
    · exact (read_yields _ _ _ _).map fun ms hms => by simpa using hms
    · exact .error

end SettingsFile

namespace SettingsSource

variable {t : FileTree}

def table? (t : FileTree) : SettingsSource → Option SettingsTable
  | .inline _ text => (Toml.parse .layer text).toOption
  | .file path => (SettingsFile.load t path).toOption.join

lemma read_yields (source : SettingsSource) :
    Yields (Option.Rel Layer.ReadFrom (source.table? t)) (source.read t).2 := by
  cases source with
  | inline label text =>
    rw [read, Layer.parse, table?]
    cases hroot : Toml.parse .layer text with
    | error e => exact .error
    | ok root => exact (Layer.ofTable_yields (Toml.parse_ordered root hroot)).map fun l hl => .some hl
  | file path =>
    rw [read, table?]
    cases hroot : SettingsFile.load t path with
    | error cause => exact .error
    | ok root =>
      cases root with
      | none => exact .ok .none
      | some root =>
        exact (Layer.ofTable_yields (SettingsFile.load_yields _ hroot root rfl)).map
          fun l hl => .some hl

end SettingsSource

lemma SettingsError.collect?_eq_none_iff {errors : List SettingsError} :
    collect? errors = none ↔ errors = [] := by
  match errors with
  | [] => simp [collect?]
  | [_] => simp [collect?]
  | _ :: _ :: _ => simp [collect?]

namespace Settings

variable {s : Settings} {layers : List Layer} {t : FileTree} {sources : List SettingsSource}

lemma ofLayers_layers (h : ofLayers layers = .ok s) : s.layers = layers := by
  rw [ofLayers] at h
  split at h
  · exact (Except.ok.inj h) ▸ rfl
  · cases h

theorem load_read (h : (load t sources).2 = .ok s) :
    List.Forall₂ Layer.ReadFrom (sources.filterMap (SettingsSource.table? t)) s.layers := by
  rw [load] at h
  simp only at h
  split at h
  · cases h
  · next herrors =>
    rw [ofLayers_layers h, List.filterMap_map]
    -- No source has failed, and so each is compared with what has been read of it.
    refine List.rel_filterMap (R := fun a b => a = b ∧ a ∈ sources) ?_
      (List.forall₂_same.mpr fun source hs => ⟨rfl, hs⟩)
    rintro source _ ⟨rfl, hs⟩
    cases hread : (source.read t).2 with
    | ok layer => simpa [hread, Except.toOption] using source.read_yields layer hread
    | error e =>
      have hnone := List.filterMap_eq_nil_iff.mp (SettingsError.collect?_eq_none_iff.mp herrors) _
        (List.mem_map_of_mem hs)
      rw [hread] at hnone
      cases hnone

lemma load_inline {label : FilePath} {text : String} {root : SettingsTable} {l : Layer}
    (hroot : Toml.parse .layer text = .ok root) (hl : (Layer.ofTable label root).2 = .ok l) :
    (load t [.inline label text]).2 = ofLayers [l] := by
  simp only [load, SettingsSource.read, Layer.parse, hroot, hl, List.map_cons, List.map_nil,
    Except.map, List.filterMap_cons, List.filterMap_nil, Except.toOption, Option.join_some,
    SettingsError.collect?]

theorem load_made (h : (load t sources).2 = .ok s) : ∃ ss, List.Forall₂ Layer.Made ss s.layers := by
  have hread := load_read h
  generalize sources.filterMap _ = roots at hread
  generalize s.layers = layers at hread
  induction hread with
  | nil => exact ⟨[], .nil⟩
  | cons hl _ ih =>
    obtain ⟨sections, -, hmade⟩ := hl.sections
    obtain ⟨ss, hss⟩ := ih
    exact ⟨sections :: ss, .cons hmade hss⟩

end Settings

end LanguageHost
