import LanguageHost.Settings.Types

/-!
Features, and which of them a server and the settings together leave enabled. What a server offers
can only take away from what the settings allow.
-/

namespace LanguageHost

inductive Feature where
  | autocomplete
  | signatureHelp
  | hover
  | goto
  | documentSymbols
  | workspaceSymbols
  | highlighting
  | semanticTokens
  | diagnostics
  deriving DecidableEq

namespace Feature

def all : List Feature :=
  [autocomplete, signatureHelp, hover, goto, documentSymbols, workspaceSymbols, highlighting,
    semanticTokens, diagnostics]

def label : Feature → String
  | autocomplete => "autocomplete"
  | signatureHelp => "signature help"
  | hover => "hover"
  | goto => "goto"
  | documentSymbols => "document symbols"
  | workspaceSymbols => "workspace symbols"
  | highlighting => "highlighting"
  | semanticTokens => "semantic tokens"
  | diagnostics => "diagnostics"

def configured (s : ServerSettings) : Feature → Bool
  | autocomplete => s.autocomplete.enable
  | signatureHelp => s.signatureEnable
  | hover => s.hover.enable
  | goto => s.gotoEnable
  | documentSymbols => s.documentSymbolsEnable
  | workspaceSymbols => true
  | highlighting => s.highlighting.enable
  | semanticTokens => s.semanticTokens.enable
  | diagnostics => s.diagnostics.enable

end Feature

inductive FeatureSource where
  | advertised
  | disabled
  | missing
  deriving DecidableEq

namespace FeatureSource

def label : FeatureSource → String
  | advertised => "advertised by server"
  | disabled => "disabled by configuration"
  | missing => "missing from server"

def isEnabled : FeatureSource → Bool
  | advertised => true
  | _ => false

end FeatureSource

def structuralTokenTypes : List String :=
  ["namespace", "type", "class", "enum", "interface", "struct", "decorator"]

structure CapabilitySet where
  incrementalSync : Bool := false
  completionTriggers : String := ""
  signatureTriggers : String := ""
  tokenMask : UInt64 := 0
  features : List (Feature × FeatureSource) := []
  deriving DecidableEq

namespace CapabilitySet

def provides (capabilities : Json) (key : String) : Bool :=
  match capabilities.get? key with
  | some (.bool true) => true
  | some (.obj _) => true
  | _ => false

def triggers (capabilities : Json) (keys : List String) : String :=
  match capabilities.at? keys with
  | some (.arr items) => String.join (items.filterMap Json.asString?)
  | _ => ""

def isStructural : Json → Bool
  | .str s => structuralTokenTypes.contains s
  | _ => false

def maskFrom : Nat → List Json → UInt64 → UInt64
  | _, [], mask => mask
  | bit, j :: rest, mask =>
    if 64 ≤ bit then mask
    else maskFrom (bit + 1) rest
      (if isStructural j then mask ||| ((1 : UInt64) <<< UInt64.ofNat bit) else mask)

def structuralMask (types : List Json) : UInt64 := maskFrom 0 types 0

def syncKind (capabilities : Json) : Option Int :=
  ((capabilities.at? ["textDocumentSync", "change"]).or
    (capabilities.get? "textDocumentSync")).bind
      (·.intIn? (-0x8000000000000000) 0x7fffffffffffffff)

def incrementalKind : Int := 2

def offers (capabilities : Json) (completion signature : String) : Feature → Bool
  | .autocomplete => !completion.isEmpty
  | .signatureHelp => !signature.isEmpty
  | .hover => provides capabilities "hoverProvider"
  | .goto => provides capabilities "definitionProvider"
  | .documentSymbols => provides capabilities "documentSymbolProvider"
  | .workspaceSymbols => provides capabilities "workspaceSymbolProvider"
  | .highlighting => provides capabilities "documentHighlightProvider"
  | .semanticTokens =>
    match capabilities.at? ["semanticTokensProvider", "full", "delta"] with
    | some (.bool true) => true
    | _ => false
  | .diagnostics => true

def source (s : ServerSettings) (capabilities : Json) (completion signature : String)
    (f : Feature) : FeatureSource :=
  if !f.configured s then .disabled
  else if offers capabilities completion signature f then .advertised
  else .missing

def negotiate (result : Json) (s : ServerSettings) : CapabilitySet :=
  let capabilities := (result.get? "capabilities").getD .null
  let completion := triggers capabilities ["completionProvider", "triggerCharacters"]
  let signature := triggers capabilities ["signatureHelpProvider", "triggerCharacters"]
  { incrementalSync := syncKind capabilities = some incrementalKind ∧ s.sync = .auto
    completionTriggers := completion
    signatureTriggers := signature
    tokenMask :=
      match capabilities.at? ["semanticTokensProvider", "legend", "tokenTypes"] with
      | some (.arr types) => structuralMask types
      | _ => 0
    features := Feature.all.map fun f => (f, source s capabilities completion signature f) }

def sourceOf (c : CapabilitySet) (f : Feature) : FeatureSource :=
  ((c.features.find? (·.1 = f)).map Prod.snd).getD .missing

def isEnabled (c : CapabilitySet) (f : Feature) : Bool := (c.sourceOf f).isEnabled

end CapabilitySet

end LanguageHost
