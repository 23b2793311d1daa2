import LanguageHost.Settings.Types

namespace LanguageHost

def Json.ofNat (n : Nat) : Json := .int n

namespace LoggingSettings

def toJson (s : LoggingSettings) : Json :=
  .object [("filter", .str s.filter), ("format", .str s.format.label)]

end LoggingSettings

namespace ServerSettings

def autocompleteJson (s : AutocompleteSettings) : Json := .object [
  ("enable", .bool s.enable),
  ("trigger_sequences", .strings s.triggerSequences),
  ("window_max_entries", .ofNat s.windowMaxEntries),
  ("window_max_displayed", .ofNat s.windowMaxDisplayed),
  ("window_max_width", .ofNat s.windowMaxWidth),
  ("use_label", .bool s.useLabel),
  ("apply_additional_edits", .bool s.applyAdditionalEdits)]

def diagnosticsJson (s : DiagnosticsSettings) : Json := .object [
  ("enable", .bool s.enable),
  ("error_style", .str s.errorStyle),
  ("warning_style", .str s.warningStyle),
  ("info_style", .str s.infoStyle),
  ("hint_style", .str s.hintStyle)]

def hoverJson (s : HoverSettings) : Json := .object [
  ("enable", .bool s.enable),
  ("popup_max_lines", .ofNat s.popupMaxLines),
  ("popup_max_paragraphs", .ofNat s.popupMaxParagraphs)]

def semanticTokensJson (s : SemanticTokensSettings) : Json := .object [
  ("enable", .bool s.enable),
  ("type_style", .str s.typeStyle)]

def highlightingJson (s : HighlightingSettings) : Json := .object [
  ("enable", .bool s.enable),
  ("style", .str s.style)]

def pathJson (p : Option FilePath) : Json := .ofOption (fun p => .str p.text) p

def toJson (s : ServerSettings) : Json := .object [
  ("command", .ofOption .str s.command),
  ("env", .obj (s.env.map fun e => (e.1, .str e.2))),
  ("use", .ofOption .str s.useLanguage),
  ("show_server_stderr", .bool s.showServerStderr),
  ("rpc_trace", .bool s.rpcTrace),
  ("initialization_options_file", pathJson s.initializationOptionsFile),
  ("use_outside_project_dir", .bool s.useOutsideProjectDir),
  ("use_without_project", .bool s.useWithoutProject),
  ("sync", .str s.sync.label),
  ("autocomplete", autocompleteJson s.autocomplete),
  ("diagnostics", diagnosticsJson s.diagnostics),
  ("hover", hoverJson s.hover),
  ("signature_enable", .bool s.signatureEnable),
  ("goto_enable", .bool s.gotoEnable),
  ("document_symbols_enable", .bool s.documentSymbolsEnable),
  ("semantic_tokens", semanticTokensJson s.semanticTokens),
  ("highlighting", highlightingJson s.highlighting),
  ("formatting_options_file", pathJson s.formattingOptionsFile)]

end ServerSettings

end LanguageHost
