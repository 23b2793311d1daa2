import LanguageHost.Proofs.Settings.Loaded

namespace LanguageHost

namespace SettingsFile

variable {t : FileTree} {path : FilePath} {root : SettingsTable}

lemma load_some (h : load t path = .ok (some root)) : t.lookup path ≠ .error .notFound := by
  intro hlookup
  rw [load, hlookup] at h
  split_ifs at h
  cases h

lemma load_none (h : load t path = .ok none) : t.lookup path = .error .notFound := by
  rw [load] at h
  split_ifs at h
  split at h
  · assumption
  · cases h
  · next names bytes _ =>
    cases hread : read t (t.entries.length + 1) [] names (.file bytes) <;>
      simp [hread, Except.map] at h
  · cases h

end SettingsFile

namespace SettingsSource

variable {t : FileTree} {source : SettingsSource} {path : FilePath} {l : Layer} {e : SettingsError}

def place : SettingsSource → FilePath
  | file path => path
  | inline label _ => label

/-- Whether there is anything at the place of a source. A text is always there. -/
def isPresent (t : FileTree) : SettingsSource → Bool
  | inline .. => true
  | file path =>
    match t.lookup path with
    | .error .notFound => false
    | _ => true

def layer? (t : FileTree) (source : SettingsSource) : Option Layer := (source.read t).2.toOption.join

def error? (t : FileTree) (source : SettingsSource) : Option SettingsError :=
  match (source.read t).2 with
  | .error e => some e
  | .ok _ => none

def fails (t : FileTree) (source : SettingsSource) : Bool := (source.error? t).isSome

def loads (t : FileTree) (source : SettingsSource) : Bool := source.isPresent t && !source.fails t

inductive ComesTo (t : FileTree) (source : SettingsSource) :
    Except SettingsError (Option Layer) → Prop
  | loaded {l : Layer} (present : source.isPresent t = true) (place : l.source = source.place) :
      ComesTo t source (.ok (some l))
  | missing (absent : source.isPresent t = false) : ComesTo t source (.ok none)
  | failed {e : SettingsError} (place : e.path? = some source.place) : ComesTo t source (.error e)

lemma isPresent_file : (file path).isPresent t = true ↔ t.lookup path ≠ .error .notFound := by
  rw [isPresent]
  split <;> simp_all

lemma ofTable_comesTo {root : SettingsTable} (h : source.isPresent t = true) :
    ComesTo t source ((Layer.ofTable source.place root).2.map some) := by
  rw [Layer.ofTable]
  split
  · exact .loaded h rfl
  · exact .failed rfl

lemma read_comesTo (source : SettingsSource) : ComesTo t source (source.read t).2 := by
  cases source with
  | inline label text =>
    rw [read, Layer.parse]
    cases Toml.parse .layer text with
    | error reason => exact .failed rfl
    | ok root => exact ofTable_comesTo rfl
  | file path =>
    rw [read]
    cases hload : SettingsFile.load t path with
    | error cause => exact .failed rfl
    | ok root =>
      cases root with
      | none =>
        have hlookup := SettingsFile.load_none hload
        exact .missing (Bool.eq_false_iff.mpr fun h => isPresent_file.mp h hlookup)
      | some root => exact ofTable_comesTo (isPresent_file.mpr (SettingsFile.load_some hload))

lemma error?_eq_some : source.error? t = some e ↔ (source.read t).2 = .error e := by
  rw [error?]
  cases (source.read t).2 <;> simp

lemma layer?_eq_some : source.layer? t = some l ↔ (source.read t).2 = .ok (some l) := by
  rw [layer?]
  rcases (source.read t).2 with _ | _ | l <;> simp [Except.toOption]

lemma loads_eq : loads t = fun source => (source.layer? t).isSome := by
  funext source
  have h := source.read_comesTo (t := t)
  rw [layer?, loads, fails, error?]
  generalize (source.read t).2 = r at h
  cases h with
  | loaded hpresent => rw [hpresent]; rfl
  | missing habsent => rw [habsent]; rfl
  | failed => exact Bool.and_false _

lemma error?_path (h : source.error? t = some e) : e.path? = some source.place := by
  have hread := source.read_comesTo (t := t)
  rw [error?_eq_some.mp h] at hread
  cases hread with
  | failed hplace => exact hplace

lemma layer?_source (h : source.layer? t = some l) : l.source = source.place := by
  have hread := source.read_comesTo (t := t)
  rw [layer?_eq_some.mp h] at hread
  cases hread with
  | loaded _ hplace => exact hplace

end SettingsSource

lemma forall₂_filterMap {α β : Type} {f : α → Option β} (as : List α) :
    List.Forall₂ (fun a b => f a = some b) (as.filter fun a => (f a).isSome) (as.filterMap f) := by
  induction as with
  | nil => exact .nil
  | cons a as ih =>
    cases ha : f a with
    | none => rwa [List.filterMap_cons_none ha, List.filter_cons_of_neg (by simp [ha])]
    | some b =>
      rw [List.filterMap_cons_some ha, List.filter_cons_of_pos (by simp [ha])]
      exact .cons ha ih

lemma map_eq_of_forall₂ {α β γ : Type} {f : α → γ} {g : β → γ} {as : List α} {bs : List β}
    (h : List.Forall₂ (fun a b => f a = g b) as bs) : as.map f = bs.map g := by
  rw [← List.forall₂_eq_eq_eq]
  exact List.forall₂_map_left_iff.mpr (List.forall₂_map_right_iff.mpr h)

namespace Settings

open SettingsSource

variable {t : FileTree} {sources : List SettingsSource} {layers : List Layer} {s : Settings}

def loggingTable (layers : List Layer) : SettingsTable :=
  SettingsTable.mergeAll (layers.map Layer.logging)

lemma ofLayers_fails : (∃ e, ofLayers layers = .error e) ↔
    ∃ e, Decode.logging .ignored (.obj (loggingTable layers)) = .error e := by
  rw [ofLayers, loggingTable]
  split <;> simp_all

lemma loaded_layers :
    List.Forall₂ (fun source l => (source.read t).2 = .ok (some l) ∧ l.source = source.place)
      (sources.filter (loads t)) (sources.filterMap (layer? t)) := by
  rw [loads_eq]
  exact (forall₂_filterMap sources).imp fun _ _ h => ⟨layer?_eq_some.mp h, layer?_source h⟩

lemma failed_errors :
    List.Forall₂ (fun source e => (source.read t).2 = .error e ∧ e.path? = some source.place)
      (sources.filter (fails t)) (sources.filterMap (error? t)) :=
  (forall₂_filterMap sources).imp fun _ _ h => ⟨error?_eq_some.mp h, error?_path h⟩

lemma load_eq : (load t sources).2 =
    match SettingsError.collect? (sources.filterMap (error? t)) with
    | some e => .error e
    | none => ofLayers (sources.filterMap (layer? t)) := by
  rw [load]
  simp only [List.filterMap_map]
  rfl

lemma collect?_errors : SettingsError.collect? (sources.filterMap (error? t)) = none ↔
    ∀ source ∈ sources, source.error? t = none := by
  rw [SettingsError.collect?_eq_none_iff, List.filterMap_eq_nil_iff]

lemma load_fails : (∃ e, (load t sources).2 = .error e) ↔
    (∃ source ∈ sources, ∃ e, (source.read t).2 = .error e) ∨
      ∃ e, Decode.logging .ignored (.obj (loggingTable (sources.filterMap (layer? t)))) = .error e := by
  rw [load_eq, ← ofLayers_fails]
  simp only [← error?_eq_some]
  cases herrors : SettingsError.collect? (sources.filterMap (error? t)) with
  | none =>
    refine (or_iff_right ?_).symm
    rintro ⟨source, hsource, e, he⟩
    exact Option.some_ne_none e (he.symm.trans (collect?_errors.mp herrors source hsource))
  | some e =>
    refine iff_of_true ⟨e, rfl⟩ (.inl ?_)
    by_contra! hnone
    refine Option.some_ne_none e (herrors.symm.trans (collect?_errors.mpr fun source hsource => ?_))
    exact Option.eq_none_iff_forall_ne_some.mpr (hnone source hsource)

lemma load_whole (h : (load t sources).2 = .ok s) :
    sources.filter (isPresent t) = sources.filter (loads t) ∧
      ofLayers (sources.filterMap (layer? t)) = .ok s := by
  rw [load_eq] at h
  split at h
  · cases h
  · next hnone =>
    refine ⟨List.filter_congr fun source hsource => ?_, h⟩
    rw [loads, fails, collect?_errors.mp hnone source hsource, Option.isSome_none, Bool.not_false,
      Bool.and_true]

/-- All sources are read. Loading fails exactly if a source has failed or the table for logging of the layers
that could be read is no such table; one failure is reported as it is, and several together, each with its
source and in the order of the sources. Otherwise the settings are made of the sources that are there, in
their order. -/
theorem sources_accounted (t : FileTree) (sources : List SettingsSource) :
    ∃ layers errors,
      List.Forall₂ (fun source l => (source.read t).2 = .ok (some l) ∧ l.source = source.place)
        (sources.filter (loads t)) layers ∧
      List.Forall₂ (fun source e => (source.read t).2 = .error e ∧ e.path? = some source.place)
        (sources.filter (fails t)) errors ∧
      (load t sources).1 = sources.flatMap (fun source => (source.read t).1) ∧
      ((∃ e, (load t sources).2 = .error e) ↔
        (∃ source ∈ sources, ∃ e, (source.read t).2 = .error e) ∨
          ∃ e, Decode.logging .ignored (.obj (loggingTable layers)) = .error e) ∧
      (errors = [] → (load t sources).2 = ofLayers layers) ∧
      (∀ e, errors = [e] → (load t sources).2 = .error e) ∧
      (2 ≤ errors.length → (load t sources).2 = .error (.aggregate errors)) ∧
      ∀ s, (load t sources).2 = .ok s →
        s.sources = (sources.filter (isPresent t)).map place ∧ ofLayers layers = .ok s := by
  refine ⟨_, _, loaded_layers, failed_errors, List.flatMap_map .., load_fails,
    fun h => by rw [load_eq, h]; rfl, fun e h => by rw [load_eq, h]; rfl, fun h => ?_, fun s h => ?_⟩
  · rw [load_eq]
    match herrs : sources.filterMap (error? t), h with
    | _ :: _ :: _, _ => rfl
  · obtain ⟨hpresent, hs⟩ := load_whole h
    have hplaces : (sources.filter (loads t)).map place =
        (sources.filterMap (layer? t)).map Layer.source :=
      map_eq_of_forall₂ (loaded_layers.imp fun _ _ hread => hread.2.symm)
    rw [Settings.sources, ofLayers_layers hs, hpresent, hplaces]
    exact ⟨rfl, hs⟩

end Settings

namespace Sample

def shelf : FileTree :=
  ⟨[(["etc"], .directory), (["etc", "lsp.toml"], .file (Utf8.encode "goto = 1\n".toList))], []⟩

def mixed : List SettingsSource :=
  [.file ⟨"/etc"⟩, .file ⟨"/etc/lsp.toml"⟩, .file ⟨"/lsp.toml"⟩, .inline ⟨"text"⟩ "all = 3\n"]

def sound : List SettingsSource :=
  [.file ⟨"/etc/lsp.toml"⟩, .file ⟨"/lsp.toml"⟩, .inline ⟨"text"⟩ "[all]\n"]

end Sample

theorem Settings.mixture_accounted :
    (∃ errors, (load Sample.shelf Sample.mixed).2 = .error (.aggregate errors) ∧
      errors.map SettingsError.path? = [some ⟨"/etc"⟩, some ⟨"text"⟩]) ∧
    ∃ s, (load Sample.shelf Sample.sound).2 = .ok s ∧ s.sources = [⟨"/etc/lsp.toml"⟩, ⟨"text"⟩] := by
  obtain ⟨-, errors, -, herrors, -, -, -, -, hseveral, -⟩ :=
    sources_accounted Sample.shelf Sample.mixed
  obtain ⟨_, _, -, -, -, -, -, -, -, hsound⟩ := sources_accounted Sample.shelf Sample.sound
  constructor
  · have hplaces : errors.map SettingsError.path? = [some ⟨"/etc"⟩, some ⟨"text"⟩] := by
      rw [← map_eq_of_forall₂ (herrors.imp fun _ _ h => h.2.symm)]
      decide +kernel
    have hlength : errors.length = 2 := by simpa using congrArg List.length hplaces
    exact ⟨errors, hseveral hlength.ge, hplaces⟩
  · have hread : (load Sample.shelf Sample.sound).2.isOk = true := by decide +kernel
    cases hs : (load Sample.shelf Sample.sound).2 with
    | error e => rw [hs] at hread; cases hread
    | ok s =>
      refine ⟨s, rfl, ?_⟩
      rw [(hsound s hs).1]
      decide +kernel

end LanguageHost
