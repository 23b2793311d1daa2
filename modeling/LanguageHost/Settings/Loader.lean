import LanguageHost.Settings.Layer

/-!
Loading settings: the sources in the order of their precedence, the files that extend each other,
and the merged view over all layers.
-/

namespace LanguageHost

namespace Locations

def directoryName : String := "tessera"

def fileName : String := "lsp.toml"

def project (root : FilePath) : FilePath :=
  (root.join ⟨"." ++ directoryName⟩).join ⟨fileName⟩

def settingsDirectory (home : FilePath) (chosen : Option FilePath) : FilePath :=
  match chosen.filter FilePath.isAbsolute with
  | some dir => dir
  | none => home.join ⟨".config"⟩

def global (home : FilePath) (chosen : Option FilePath) : FilePath :=
  ((settingsDirectory home chosen).join ⟨directoryName⟩).join ⟨fileName⟩

end Locations

inductive SettingsSource where
  | file (path : FilePath)
  | inline (label : FilePath) (text : String)

namespace SettingsFile

def extension? (name : String) : Option String :=
  match name.toList.reverse.span (· != '.') with
  | (_, []) => none
  | (_, [_]) => none
  | (ext, _) => some (String.ofList ext.reverse)

def foreignExtensions : List String := ["json", "json5", "yaml", "yml"]

def isForeign (names : List String) : Bool :=
  match names.getLast?.bind extension? with
  | some ext => foreignExtensions.contains (Text.asciiLower ext)
  | none => false

def extended (file : FilePath) (root : SettingsTable) : Except LoadCause (Option FilePath) :=
  match Members.find? "extends" root with
  | none => .ok none
  | some (.str s) => if s.isEmpty then .error (.unreadable file .invalidData) else .ok (some ⟨s⟩)
  | some _ => .error (.unreadable file .invalidData)

def directoryOf (names : List String) : FilePath := FileTree.pathOf names.dropLast

/-- The table of a regular file, laid over the one of the file that it extends. `chain` holds the
files that led here; at most `fuel` files are followed. -/
def read (t : FileTree) :
    Nat → List FilePath → List String → FileEntry → Except LoadCause SettingsTable
  | 0, chain, _, _ => .error (.cycle chain)
  | fuel + 1, chain, names, entry => do
    let file := FileTree.pathOf names
    if chain.contains file then .error (.cycle (chain ++ [file]))
    else
      let text ← (FileTree.content? entry).mapError (.unreadable file)
      if isForeign names then .error (.unreadable file .other)
      else
        let root ← (Toml.parse .file text).mapError (.malformed file)
        match ← extended file root with
        | none => .ok root
        | some base =>
          let target := (directoryOf names).join base
          match t.lookup target with
          | .error fault => .error (.unreadable target fault)
          | .ok (baseNames, .file bytes) =>
            let table ← read t fuel (chain ++ [file]) baseNames (.file bytes)
            .ok (SettingsTable.merge table root)
          | .ok (baseNames, _) =>
            .error (.unreadable (FileTree.pathOf baseNames) .invalidInput)

/-- The table of a settings file; nothing where there is no file. A path that does not end in a name
is not looked up. -/
def load (t : FileTree) (path : FilePath) : Except LoadCause (Option SettingsTable) :=
  if path.fileName?.isNone then .error (.unreadable path .other)
  else match t.lookup path with
    | .error .notFound => .ok none
    | .error fault => .error (.unreadable path fault)
    | .ok (names, .file bytes) =>
      (read t (t.entries.length + 1) [] names (.file bytes)).map some
    | .ok (_, _) => .error (.unreadable path .invalidInput)

end SettingsFile

namespace SettingsSource

def note (message : String) : LogRecord := ⟨.debug, "tessera_config::loader", message, []⟩

/-- The layer of a source; nothing for a missing file. -/
def read (t : FileTree) : SettingsSource → List LogRecord × Except SettingsError (Option Layer)
  | .inline label text =>
    let (log, layer) := Layer.parse label text
    (log, layer.map some)
  | .file path =>
    match SettingsFile.load t path with
    | .error cause => ([], .error (.load path cause))
    | .ok none => ([note "configuration file not present"], .ok none)
    | .ok (some root) =>
      let (log, layer) := Layer.ofTable path root
      (note "loaded configuration file" :: log, layer.map some)

end SettingsSource

structure Settings where
  layers : List Layer
  logging : LoggingSettings

namespace Settings

def ofLayers (layers : List Layer) : Except SettingsError Settings :=
  match Decode.logging .ignored (.obj (SettingsTable.mergeAll (layers.map Layer.logging))) with
  | .ok logging => .ok ⟨layers, logging⟩
  | .error e => .error (.merge "logging" e)

def empty : Settings := ⟨[], {}⟩

/-- Reads every source before it fails, so that one bad source does not hide another. -/
def load (t : FileTree) (sources : List SettingsSource) :
    List LogRecord × Except SettingsError Settings :=
  let reads := sources.map (SettingsSource.read t)
  let layers := reads.filterMap fun r => r.2.toOption.join
  let errors := reads.filterMap fun r =>
    match r.2 with
    | .error e => some e
    | .ok _ => none
  (reads.flatMap Prod.fst,
    match SettingsError.collect? errors with
    | some e => .error e
    | none => ofLayers layers)

def sources (s : Settings) : List FilePath := s.layers.map Layer.source

def languages (s : Settings) : List String :=
  (Members.ofList (s.layers.flatMap fun l => l.languages.map fun e => (e.1, ()))).map Prod.fst

def tablesFor (s : Settings) (language : String) : List SettingsTable :=
  s.layers.flatMap (Layer.tablesFor language)

def server (s : Settings) (language : String) : Except SettingsError ServerSettings :=
  let name := normaliseLanguage language
  match Decode.server .ignored (.obj (SettingsTable.mergeAll (s.tablesFor name))) with
  | .ok server => .ok server
  | .error e => .error (.merge ("language." ++ name) e)

end Settings

end LanguageHost
