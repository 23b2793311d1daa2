import LanguageHost.Decimal.Shortest
import LanguageHost.Settings.Types
import LanguageHost.Text.Quoted

/-!
Reading settings from a dynamic value. A table may be given by its members or as the array of its
fields in their order; the first problem met is reported with the keys that lead to it.
-/

namespace LanguageHost

inductive Problem where
  | invalidType (found expected : String)
  | invalidValue (found expected : String)
  | unknownVariant (name : String) (choices : List String)
  | surplus (count : Nat) (expected : String)
  deriving DecidableEq

namespace Problem

def kind : Problem → String
  | invalidType .. => "InvalidType"
  | invalidValue .. => "InvalidValue"
  | unknownVariant .. => "UnknownVariant"
  | surplus .. => "InvalidLength"

def ticked (s : String) : String := "`" ++ s ++ "`"

def message : Problem → String
  | invalidType found expected => "invalid type: found " ++ found ++ ", expected " ++ expected
  | invalidValue found expected => "invalid value " ++ found ++ ", expected " ++ expected
  | unknownVariant name choices =>
    "unknown variant: found " ++ ticked name ++ ", expected "
      ++ ticked (String.intercalate " or " (choices.map ticked))
  | surplus count expected => "invalid length " ++ toString count ++ ", expected " ++ expected

end Problem

structure DecodeError where
  path : List String
  problem : Problem
  deriving DecidableEq

namespace Decode

abbrev Result := Except DecodeError

def floatLayout : Double.Layout :=
  { lowest := none, highest := none, integerPoint := false, exponentSign := [] }

def floatText (d : Double) : String :=
  if d.isNaN then "NaN"
  else if !d.isFinite then if d.negative then "-inf" else "inf"
  else String.ofList (d.render floatLayout)

def found : Json → String
  | .null => "unit"
  | .bool true => "bool true"
  | .bool false => "bool false"
  | .int i => "signed int " ++ Problem.ticked (toString i)
  | .float d => "float " ++ Problem.ticked (floatText d)
  | .str s => "string " ++ Text.quoted s
  | .arr _ => "sequence"
  | .obj _ => "map"

def fail {α : Type} (p : Problem) : Result α := .error ⟨[], p⟩

def mismatch {α : Type} (j : Json) (expected : String) : Result α :=
  fail (.invalidType (found j) expected)

def under {α : Type} (key : String) (r : Result α) : Result α :=
  r.mapError fun e => { e with path := key :: e.path }

def bool : Json → Result Bool
  | .bool b => .ok b
  | j => mismatch j "a boolean"

def text (expected : String) : Json → Result String
  | .str s => .ok s
  | j => mismatch j expected

def string : Json → Result String := text "a string"

def path (j : Json) : Result FilePath := (text "a UTF-8 path string" j).map FilePath.mk

def word32 : Json → Result Nat
  | .int i =>
    if 0 ≤ i ∧ i ≤ 0xffffffff then .ok i.toNat
    else fail (.invalidValue (found (.int i)) "u32")
  | j => mismatch j "u32"

def optional {α : Type} (read : Json → Result α) : Json → Result (Option α)
  | .null => .ok none
  | j => (read j).map some

def readItems {α : Type} (read : Json → Result α) : Nat → List Json → Result (List α)
  | _, [] => .ok []
  | index, j :: rest => do
    let a ← under (toString index) (read j)
    .ok (a :: (← readItems read (index + 1) rest))

def list {α : Type} (read : Json → Result α) : Json → Result (List α)
  | .arr items => readItems read 0 items
  | j => mismatch j "a sequence"

def readMembers {α : Type} (read : Json → Result α) :
    List (String × Json) → Result (List (String × α))
  | [] => .ok []
  | (key, j) :: rest => do
    let a ← under key (read j)
    .ok ((key, a) :: (← readMembers read rest))

def map {α : Type} (read : Json → Result α) : Json → Result (List (String × α))
  | .obj ms => readMembers read ms
  | j => mismatch j "a map"

/-- What becomes of items and members that have no meaning. -/
inductive Surplus where
  | ignored
  | refused
  deriving DecidableEq

def choose {α : Type} (label : α → String) (choices : List α) (name : String) : Result α :=
  match choices.find? fun a => label a = name with
  | some a => .ok a
  | none => fail (.unknownVariant name (choices.map label))

/-- One of several names. It may stand as the first member of a table, with nothing as its value;
the other members of the table are passed over, or must not be there. -/
def choice {α : Type} (surplus : Surplus) (typeName : String) (label : α → String)
    (choices : List α) : Json → Result α
  | .str name => choose label choices name
  | .obj ((name, j) :: others) =>
    if surplus = .refused ∧ !others.isEmpty then fail (.surplus (others.length + 1) "enum")
    else under name do
      let a ← choose label choices name
      match j with
      | .null => .ok a
      | j => mismatch j "unit"
  | .obj [] => mismatch (.obj []) "enum"
  | j => mismatch j ("enum " ++ typeName)

structure Field (σ : Type) where
  name : String
  set : Json → σ → Result σ

def field {σ α : Type} (name : String) (read : Json → Result α) (put : α → σ → σ) : Field σ :=
  ⟨name, fun j s => (read j).map (put · s)⟩

def setMembers {σ : Type} (fields : List (Field σ)) : List (String × Json) → σ → Result σ
  | [], s => .ok s
  | (key, j) :: rest, s =>
    match fields.find? fun f => f.name = key with
    | some f => do setMembers fields rest (← under key (f.set j s))
    | none => setMembers fields rest s

def setItems {σ : Type} : Nat → List (Field σ) → List Json → σ → Result σ
  | index, f :: fields, j :: rest, s => do
    setItems (index + 1) fields rest (← under (toString index) (f.set j s))
  | _, _, _, s => .ok s

def table {σ : Type} (surplus : Surplus) (typeName : String) (fields : List (Field σ)) (start : σ) :
    Json → Result σ
  | .obj ms => setMembers fields ms start
  | .arr items =>
    if surplus = .refused ∧ fields.length < items.length then
      fail (.surplus items.length ("struct " ++ typeName))
    else setItems 0 fields items start
  | j => mismatch j ("struct " ++ typeName)

def logging (surplus : Surplus) : Json → Result LoggingSettings :=
  table surplus "LoggingConfig" [
    field "filter" string fun a s => { s with filter := a },
    field "format" (choice surplus "LogFormat" LogFormat.label LogFormat.all)
      fun a s => { s with format := a }] {}

def autocomplete (surplus : Surplus) : Json → Result AutocompleteSettings :=
  table surplus "AutocompleteConfig" [
    field "enable" bool fun a s => { s with enable := a },
    field "trigger_sequences" (list string) fun a s => { s with triggerSequences := a },
    field "window_max_entries" word32 fun a s => { s with windowMaxEntries := a },
    field "window_max_displayed" word32 fun a s => { s with windowMaxDisplayed := a },
    field "window_max_width" word32 fun a s => { s with windowMaxWidth := a },
    field "use_label" bool fun a s => { s with useLabel := a },
    field "apply_additional_edits" bool fun a s => { s with applyAdditionalEdits := a }] {}

def diagnostics (surplus : Surplus) : Json → Result DiagnosticsSettings :=
  table surplus "DiagnosticsConfig" [
    field "enable" bool fun a s => { s with enable := a },
    field "error_style" string fun a s => { s with errorStyle := a },
    field "warning_style" string fun a s => { s with warningStyle := a },
    field "info_style" string fun a s => { s with infoStyle := a },
    field "hint_style" string fun a s => { s with hintStyle := a }] {}

def hover (surplus : Surplus) : Json → Result HoverSettings :=
  table surplus "HoverConfig" [
    field "enable" bool fun a s => { s with enable := a },
    field "popup_max_lines" word32 fun a s => { s with popupMaxLines := a },
    field "popup_max_paragraphs" word32 fun a s => { s with popupMaxParagraphs := a }] {}

def semanticTokens (surplus : Surplus) : Json → Result SemanticTokensSettings :=
  table surplus "SemanticTokensConfig" [
    field "enable" bool fun a s => { s with enable := a },
    field "type_style" string fun a s => { s with typeStyle := a }] {}

def highlighting (surplus : Surplus) : Json → Result HighlightingSettings :=
  table surplus "HighlightingConfig" [
    field "enable" bool fun a s => { s with enable := a },
    field "style" string fun a s => { s with style := a }] {}

def serverFields (surplus : Surplus) : List (Field ServerSettings) := [
  field "command" (optional string) fun a s => { s with command := a },
  field "env" (map string) fun a s => { s with env := a },
  field "use" (optional string) fun a s => { s with useLanguage := a },
  field "show_server_stderr" bool fun a s => { s with showServerStderr := a },
  field "rpc_trace" bool fun a s => { s with rpcTrace := a },
  field "initialization_options_file" (optional path)
    fun a s => { s with initializationOptionsFile := a },
  field "use_outside_project_dir" bool fun a s => { s with useOutsideProjectDir := a },
  field "use_without_project" bool fun a s => { s with useWithoutProject := a },
  field "sync" (choice surplus "SyncPreference" SyncPreference.label SyncPreference.all)
    fun a s => { s with sync := a },
  field "autocomplete" (autocomplete surplus) fun a s => { s with autocomplete := a },
  field "diagnostics" (diagnostics surplus) fun a s => { s with diagnostics := a },
  field "hover" (hover surplus) fun a s => { s with hover := a },
  field "signature_enable" bool fun a s => { s with signatureEnable := a },
  field "goto_enable" bool fun a s => { s with gotoEnable := a },
  field "document_symbols_enable" bool fun a s => { s with documentSymbolsEnable := a },
  field "semantic_tokens" (semanticTokens surplus) fun a s => { s with semanticTokens := a },
  field "highlighting" (highlighting surplus) fun a s => { s with highlighting := a },
  field "formatting_options_file" (optional path)
    fun a s => { s with formattingOptionsFile := a }]

def server (surplus : Surplus) : Json → Result ServerSettings :=
  table surplus "ServerConfig" (serverFields surplus) {}

end Decode

namespace ServerSettings

def ofJson? (j : Json) : Option ServerSettings := (Decode.server .refused j).toOption

end ServerSettings

namespace LoggingSettings

def ofJson? (j : Json) : Option LoggingSettings := (Decode.logging .refused j).toOption

end LoggingSettings

end LanguageHost
