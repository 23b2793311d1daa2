import LanguageHost.LogRecord
import LanguageHost.Settings.Error
import LanguageHost.Toml.Document

namespace LanguageHost

abbrev SettingsTable := List (String × Json)

namespace SettingsTable

mutual

def overlay (old : Option Json) : Json → Json
  | .obj ms =>
    match old with
    | some (.obj os) => .obj (merge os ms)
    | _ => .obj ms
  | j => j

def merge (old : SettingsTable) : SettingsTable → SettingsTable
  | [] => old
  | (key, j) :: rest => merge (Members.insert key (overlay (Members.find? key old) j) old) rest

end

def mergeAll (ts : List SettingsTable) : SettingsTable := ts.foldl merge []

end SettingsTable

structure Layer where
  source : FilePath
  logging : SettingsTable
  all : SettingsTable
  languages : List (String × List SettingsTable)

namespace Layer

structure Sections where
  logging : SettingsTable := []
  all : SettingsTable := []
  language : List (String × SettingsTable) := []

def readTable : Json → Decode.Result SettingsTable
  | .obj ms => .ok ms
  | j => Decode.mismatch j "a map"

def sectionFields : List (Decode.Field Sections) := [
  Decode.field "logging" readTable fun a s => { s with logging := a },
  Decode.field "all" readTable fun a s => { s with all := a },
  Decode.field "language" (Decode.map readTable) fun a s => { s with language := a }]

def readSections (root : SettingsTable) : Decode.Result Sections :=
  Decode.setMembers sectionFields root {}

def ignoredKey (source : FilePath) (key : String) : LogRecord :=
  ⟨.warn, "tessera_config", "ignoring language-only key in [all] section",
    [("source", source.text), ("key", key)]⟩

def group (tables : List (String × SettingsTable)) : List (String × List SettingsTable) :=
  tables.foldl (fun groups t =>
    let name := normaliseLanguage t.1
    Members.insert name ((Members.find? name groups).getD [] ++ [t.2]) groups) []

/-- The table for all languages without the settings of a single one. -/
def withoutLanguageOnly (table : SettingsTable) : SettingsTable :=
  languageOnlyKeys.foldl (fun t key => Members.erase key t) table

def ofSections (source : FilePath) (s : Sections) : Layer :=
  ⟨source, s.logging, withoutLanguageOnly s.all, group s.language⟩

def warnings (source : FilePath) (s : Sections) : List LogRecord :=
  (languageOnlyKeys.filter fun key => (Members.find? key s.all).isSome).map (ignoredKey source)

def ofTable (source : FilePath) (root : SettingsTable) :
    List LogRecord × Except SettingsError Layer :=
  match readSections root with
  | .ok s => (warnings source s, .ok (ofSections source s))
  | .error e => ([], .error (.parse source (.shape e)))

def parse (source : FilePath) (text : String) : List LogRecord × Except SettingsError Layer :=
  match Toml.parse .layer text with
  | .ok root => ofTable source root
  | .error e => ([], .error (.parse source (.notToml e)))

def tablesFor (language : String) (l : Layer) : List SettingsTable :=
  l.all :: (Members.find? language l.languages).getD []

end Layer

end LanguageHost
