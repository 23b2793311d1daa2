import LanguageHost.Json.Basic
import LanguageHost.Path.Basic
import LanguageHost.Text.Basic

namespace LanguageHost

def normaliseLanguage (name : String) : String :=
  String.ofList (Text.lower (Text.trim name.toList))

inductive LogFormat where
  | json
  | compact
  deriving DecidableEq

namespace LogFormat

def label : LogFormat → String
  | json => "json"
  | compact => "compact"

def all : List LogFormat := [json, compact]

def parse? (s : String) : Option LogFormat := all.find? fun f => Text.equalIgnoringAsciiCase f.label s

end LogFormat

inductive SyncPreference where
  | auto
  | full
  deriving DecidableEq

namespace SyncPreference

def label : SyncPreference → String
  | auto => "auto"
  | full => "full"

def all : List SyncPreference := [auto, full]

def parse? (s : String) : Option SyncPreference :=
  all.find? fun p => Text.equalIgnoringAsciiCase p.label s

end SyncPreference

def unknownChoice : String := "Matching variant not found"

structure LoggingSettings where
  filter : String := "info"
  format : LogFormat := .compact
  deriving DecidableEq

structure AutocompleteSettings where
  enable : Bool := true
  triggerSequences : List String := []
  windowMaxEntries : Nat := 20
  windowMaxDisplayed : Nat := 20
  windowMaxWidth : Nat := 200
  useLabel : Bool := true
  applyAdditionalEdits : Bool := false
  deriving DecidableEq

structure DiagnosticsSettings where
  enable : Bool := true
  errorStyle : String := "#ff3030;;squiggle"
  warningStyle : String := "#c0c000;;squiggle"
  infoStyle : String := "#00c0c0;;dots"
  hintStyle : String := "#00c000;;dots"
  deriving DecidableEq

structure HoverSettings where
  enable : Bool := true
  popupMaxLines : Nat := 20
  popupMaxParagraphs : Nat := 1000
  deriving DecidableEq

structure SemanticTokensSettings where
  enable : Bool := false
  typeStyle : String := "#0000d0"
  deriving DecidableEq

structure HighlightingSettings where
  enable : Bool := true
  style : String := "#a0a0ff;;roundbox"
  deriving DecidableEq

structure ServerSettings where
  command : Option String := none
  env : List (String × String) := []
  useLanguage : Option String := none
  showServerStderr : Bool := false
  rpcTrace : Bool := false
  initializationOptionsFile : Option FilePath := none
  useOutsideProjectDir : Bool := false
  useWithoutProject : Bool := true
  sync : SyncPreference := .auto
  autocomplete : AutocompleteSettings := {}
  diagnostics : DiagnosticsSettings := {}
  hover : HoverSettings := {}
  signatureEnable : Bool := true
  gotoEnable : Bool := true
  documentSymbolsEnable : Bool := true
  semanticTokens : SemanticTokensSettings := {}
  highlighting : HighlightingSettings := {}
  formattingOptionsFile : Option FilePath := none
  deriving DecidableEq

namespace ServerSettings

def commandLine? (s : ServerSettings) : Option String :=
  (s.command.map Text.trimString).filter (!·.isEmpty)

def alias? (s : ServerSettings) : Option String :=
  (s.useLanguage.map normaliseLanguage).filter (!·.isEmpty)

end ServerSettings

def languageOnlyKeys : List String :=
  ["command", "env", "use", "initialization_options_file", "rpc_trace"]

end LanguageHost
