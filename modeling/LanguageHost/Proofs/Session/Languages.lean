import LanguageHost.Proofs.Session.Registry
import LanguageHost.Proofs.Settings.Spellings
import LanguageHost.Proofs.Text.LowerCase

namespace LanguageHost

open Text (isBlank)

variable {cs : List Char} {s t : String} {l m : LanguageId}

def Padded (cs : List Char) (s : String) : Prop :=
  ∃ before after, (∀ c ∈ before, isBlank c = true) ∧ (∀ c ∈ after, isBlank c = true) ∧
    s.toList = before ++ cs ++ after

def SpelledAlike (s t : String) : Prop :=
  ∃ cs ds, Padded cs s ∧ Padded ds t ∧ Text.lower cs = Text.lower ds

lemma padded_trim (s : String) : Padded (Text.trim s.toList) s := by
  obtain ⟨before, after, hbefore, hafter, heq, -⟩ := Text.trim_split s.toList
  exact ⟨before, after, hbefore, hafter, heq⟩

lemma Padded.normaliseLanguage_eq (h : Padded cs s) :
    normaliseLanguage s = String.ofList (Text.trim (Text.lower cs)) := by
  obtain ⟨before, after, hbefore, hafter, heq⟩ := h
  rw [normaliseLanguage, heq, Text.trim_surrounded before cs after hbefore hafter, Text.trim_lower]

lemma normaliseLanguage_eq_iff :
    normaliseLanguage s = normaliseLanguage t ↔ SpelledAlike s t := by
  constructor
  · intro h
    refine ⟨_, _, padded_trim s, padded_trim t, ?_⟩
    exact String.ofList_injective h
  · rintro ⟨cs, ds, hs, ht, hlower⟩
    rw [hs.normaliseLanguage_eq, ht.normaliseLanguage_eq, hlower]

lemma normaliseLanguage_idem (s : String) :
    normaliseLanguage (normaliseLanguage s) = normaliseLanguage s := by
  simp only [normaliseLanguage, String.toList_ofList]
  rw [Text.trim_lower, Text.trim_trim, Text.lower_lower]

namespace LanguageId

lemma parse?_eq_some_iff : parse? s = some l ↔ l.name = normaliseLanguage s := by
  refine ⟨name_of_parse?, fun hname => ?_⟩
  cases hparse : parse? s with
  | some m => rw [ext_name ((name_of_parse? hparse).trans hname.symm)]
  | none =>
    rcases (parse?_eq_none_iff s).mp hparse with hempty | hblank
    · exact absurd (hname.trans hempty) l.nonempty
    · rw [← hname, l.noBlank] at hblank
      cases hblank

lemma exists_parse?_iff : (∃ l, parse? s = some l) ↔
    normaliseLanguage s ≠ "" ∧ ∀ c ∈ (normaliseLanguage s).toList, isBlank c = false := by
  rw [← Option.ne_none_iff_exists', ne_eq, parse?_eq_none_iff, not_or]
  simp

lemma normaliseLanguage_name (h : parse? s = some l) : normaliseLanguage l.name = l.name := by
  rw [name_of_parse? h, normaliseLanguage_idem]

end LanguageId

namespace Layer

variable {root : SettingsTable} {layer : Layer}

/-- The tables of a source that its layer applies to a language are those under a key that spells the
name, in the order of the keys. -/
def AppliesSpelled (name : String) (root : SettingsTable) (layer : Layer) : Prop :=
  ∃ keyed, Members.Sorted keyed ∧ layer.tablesFor name = layer.all :: keyed.map Prod.snd ∧
    ∀ key t, (key, t) ∈ keyed ↔ spelled root key = some t ∧ normaliseLanguage key = name

lemma ReadFrom.appliesSpelled (h : ReadFrom root layer) (name : String) :
    AppliesSpelled name root layer := by
  obtain ⟨s, hs, hmade⟩ := h.sections
  refine ⟨s.language.filter fun t => normaliseLanguage t.1 = name,
    hmade.ordered.spellings.filter _, ?_, fun key t => ?_⟩
  · rw [tablesFor, hmade.layer]
    exact congrArg _ (find?_group s.language)
  · rw [List.mem_filter, hmade.ordered.spellings.mem_iff, find?_language h.ordered hs,
      decide_eq_true_iff]

end Layer

lemma Settings.server_normaliseLanguage (settings : Settings) (s : String) :
    settings.server (normaliseLanguage s) = settings.server s := by
  rw [server, normaliseLanguage_idem, server]

lemma ServerSettings.alias?_parse? {c : ServerSettings} :
    c.alias?.bind LanguageId.parse? = some l ↔
      ∃ name, c.useLanguage = some name ∧ normaliseLanguage name = l.name := by
  rw [alias?]
  cases c.useLanguage with
  | none => simp
  | some name =>
    by_cases hempty : normaliseLanguage name = ""
    · simp [hempty, Option.filter, l.nonempty.symm]
    · have hparse := LanguageId.parse?_eq_some_iff (s := normaliseLanguage name) (l := l)
      rw [normaliseLanguage_idem, eq_comm (a := l.name)] at hparse
      simp [hempty, hparse, Option.filter]

lemma Host.configure_servedBy_iff {settings : Settings} {c : ServerSettings}
    (hc : settings.server m.name = .ok c) :
    (configure settings m).2 = .ok (.servedBy l) ↔ c.Defers m l := by
  constructor
  · intro h
    obtain ⟨c', hc', hmakes⟩ := configure_makes h
    obtain rfl := Except.ok.inj (hc.symm.trans hc')
    cases hmakes with
    | deferred _ hd => exact hd
  · rintro ⟨hnamed, hne⟩
    obtain ⟨name, halias, hparse⟩ := Option.bind_eq_some_iff.mp hnamed
    simp [configure, hc, halias, hparse, hne]

/-- All spellings of a name are names of one language: where it is asked for, in the keys of tables, and
where another language is told to use its server. -/
theorem LanguageId.spellings_agree (s : String) :
    normaliseLanguage (normaliseLanguage s) = normaliseLanguage s ∧
    (∀ t, normaliseLanguage t = normaliseLanguage s ↔ SpelledAlike t s) ∧
    ((∃ l, parse? s = some l) ↔
      normaliseLanguage s ≠ "" ∧ ∀ c ∈ (normaliseLanguage s).toList, isBlank c = false) ∧
    (∀ settings : Settings, settings.server s = settings.server (normaliseLanguage s)) ∧
    ∀ l, parse? s = some l →
      l.name = normaliseLanguage s ∧ parse? l.name = some l ∧
      (∀ (settings : Settings) (roots : List SettingsTable),
        List.Forall₂ Layer.ReadFrom roots settings.layers →
          List.Forall₂ (Layer.AppliesSpelled l.name) roots settings.layers ∧
          settings.server l.name = (Decode.server .ignored (.obj (SettingsTable.mergeAll
            (settings.layers.flatMap (Layer.tablesFor l.name))))).mapError
              (.merge ("language." ++ l.name))) ∧
      ∀ (settings : Settings) (m : LanguageId) (c : ServerSettings),
        settings.server m.name = .ok c →
          ((Host.configure settings m).2 = .ok (.servedBy l) ↔
            l ≠ m ∧ ∃ name, c.useLanguage = some name ∧ normaliseLanguage name = l.name) := by
  refine ⟨normaliseLanguage_idem s, fun t => normaliseLanguage_eq_iff, exists_parse?_iff,
    fun settings => (settings.server_normaliseLanguage s).symm, fun l hl => ?_⟩
  have hname := normaliseLanguage_name hl
  refine ⟨name_of_parse? hl, parse?_eq_some_iff.mpr hname.symm, fun settings roots hread => ?_,
    fun settings m c hc => ?_⟩
  · refine ⟨hread.imp fun _ _ h => h.appliesSpelled l.name, ?_⟩
    rw [Settings.server_merged, Settings.merged, hname, Settings.tablesFor]
  · rw [Host.configure_servedBy_iff hc, ServerSettings.Defers, ServerSettings.alias?_parse?, and_comm]

namespace Sample

def capitals : String :=
  "[language.PYTHON]\ncommand = \"pylsp\"\n\n[language.py]\nuse = \" Python\"\n"

def capitalsRoot : SettingsTable :=
  [("language", .obj
    [("PYTHON", .obj [("command", .str "pylsp")]), ("py", .obj [("use", .str " Python")])])]

def capitalsSettings : Settings where
  layers := [.ofSections ⟨"text"⟩
    { language := [("PYTHON", [("command", .str "pylsp")]), ("py", [("use", .str " Python")])] }]
  logging := {}

def python : LanguageId := ⟨"python", by decide, by decide⟩

def py : LanguageId := ⟨"py", by decide, by decide⟩

lemma parse_capitals : Toml.parse .layer capitals = .ok capitalsRoot := by decide +kernel

lemma load_capitals :
    (Settings.load ⟨[], []⟩ [.inline ⟨"text"⟩ capitals]).2 = .ok capitalsSettings := by
  rw [Settings.load_inline parse_capitals rfl]
  rfl

lemma read_capitals : List.Forall₂ Layer.ReadFrom [capitalsRoot] capitalsSettings.layers := by
  have hread := Settings.load_read load_capitals
  rwa [List.filterMap_cons_some (by rw [SettingsSource.table?, parse_capitals]; rfl),
    List.filterMap_nil] at hread

end Sample

theorem LanguageId.capitals_agree :
    (Settings.load ⟨[], []⟩ [.inline ⟨"text"⟩ Sample.capitals]).2 =
      .ok Sample.capitalsSettings ∧
    parse? " pyTHON" = some Sample.python ∧
    List.Forall₂ (Layer.AppliesSpelled "python") [Sample.capitalsRoot]
      Sample.capitalsSettings.layers ∧
    Sample.capitalsSettings.server " pyTHON" = .ok { command := some "pylsp" } ∧
    (Host.configure Sample.capitalsSettings Sample.py).2 = .ok (.servedBy Sample.python) := by
  obtain ⟨-, -, -, hlookup, hnamed⟩ := spellings_agree " pyTHON"
  have hparse : parse? " pyTHON" = some Sample.python := parse?_eq_some_iff.mpr (by decide +kernel)
  obtain ⟨hname, -, htables, halias⟩ := hnamed _ hparse
  refine ⟨Sample.load_capitals, hparse, (htables _ _ Sample.read_capitals).1, ?_, ?_⟩
  · rw [hlookup, ← hname]
    rfl
  · exact (halias _ Sample.py { useLanguage := some " Python" } rfl).mpr
      ⟨by decide, _, rfl, by decide +kernel⟩

end LanguageHost
