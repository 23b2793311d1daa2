import LanguageHost.Proofs.Settings.Codec

namespace LanguageHost

open Setting (Form Complete)

def autocompleteSettings : List (Setting AutocompleteSettings) := [
  ⟨_, "enable", .bool, (·.enable), fun a s => { s with enable := a }⟩,
  ⟨_, "trigger_sequences", .list .string, (·.triggerSequences),
    fun a s => { s with triggerSequences := a }⟩,
  ⟨_, "window_max_entries", .word32, (·.windowMaxEntries), fun a s => { s with windowMaxEntries := a }⟩,
  ⟨_, "window_max_displayed", .word32, (·.windowMaxDisplayed),
    fun a s => { s with windowMaxDisplayed := a }⟩,
  ⟨_, "window_max_width", .word32, (·.windowMaxWidth), fun a s => { s with windowMaxWidth := a }⟩,
  ⟨_, "use_label", .bool, (·.useLabel), fun a s => { s with useLabel := a }⟩,
  ⟨_, "apply_additional_edits", .bool, (·.applyAdditionalEdits),
    fun a s => { s with applyAdditionalEdits := a }⟩]

def diagnosticsSettings : List (Setting DiagnosticsSettings) := [
  ⟨_, "enable", .bool, (·.enable), fun a s => { s with enable := a }⟩,
  ⟨_, "error_style", .string, (·.errorStyle), fun a s => { s with errorStyle := a }⟩,
  ⟨_, "warning_style", .string, (·.warningStyle), fun a s => { s with warningStyle := a }⟩,
  ⟨_, "info_style", .string, (·.infoStyle), fun a s => { s with infoStyle := a }⟩,
  ⟨_, "hint_style", .string, (·.hintStyle), fun a s => { s with hintStyle := a }⟩]

def hoverSettings : List (Setting HoverSettings) := [
  ⟨_, "enable", .bool, (·.enable), fun a s => { s with enable := a }⟩,
  ⟨_, "popup_max_lines", .word32, (·.popupMaxLines), fun a s => { s with popupMaxLines := a }⟩,
  ⟨_, "popup_max_paragraphs", .word32, (·.popupMaxParagraphs),
    fun a s => { s with popupMaxParagraphs := a }⟩]

def semanticTokensSettings : List (Setting SemanticTokensSettings) := [
  ⟨_, "enable", .bool, (·.enable), fun a s => { s with enable := a }⟩,
  ⟨_, "type_style", .string, (·.typeStyle), fun a s => { s with typeStyle := a }⟩]

def highlightingSettings : List (Setting HighlightingSettings) := [
  ⟨_, "enable", .bool, (·.enable), fun a s => { s with enable := a }⟩,
  ⟨_, "style", .string, (·.style), fun a s => { s with style := a }⟩]

lemma autocompleteSettings_complete : Complete autocompleteSettings where
  keys := by decide
  own := by simp [autocompleteSettings]
  apart := by simp [autocompleteSettings, Setting.Apart]
  whole s start := by cases s; cases start; rfl

lemma diagnosticsSettings_complete : Complete diagnosticsSettings where
  keys := by decide
  own := by simp [diagnosticsSettings]
  apart := by simp [diagnosticsSettings, Setting.Apart]
  whole s start := by cases s; cases start; rfl

lemma hoverSettings_complete : Complete hoverSettings where
  keys := by decide
  own := by simp [hoverSettings]
  apart := by simp [hoverSettings, Setting.Apart]
  whole s start := by cases s; cases start; rfl

lemma semanticTokensSettings_complete : Complete semanticTokensSettings where
  keys := by decide
  own := by simp [semanticTokensSettings]
  apart := by simp [semanticTokensSettings, Setting.Apart]
  whole s start := by cases s; cases start; rfl

lemma highlightingSettings_complete : Complete highlightingSettings where
  keys := by decide
  own := by simp [highlightingSettings]
  apart := by simp [highlightingSettings, Setting.Apart]
  whole s start := by cases s; cases start; rfl

def AutocompleteSettings.Fits (s : AutocompleteSettings) : Prop :=
  s.windowMaxEntries ≤ 0xffffffff ∧ s.windowMaxDisplayed ≤ 0xffffffff ∧ s.windowMaxWidth ≤ 0xffffffff

def HoverSettings.Fits (s : HoverSettings) : Prop :=
  s.popupMaxLines ≤ 0xffffffff ∧ s.popupMaxParagraphs ≤ 0xffffffff

def ServerSettings.Fits (s : ServerSettings) : Prop := s.autocomplete.Fits ∧ s.hover.Fits

namespace Codec

def autocomplete (surplus : Decode.Surplus) (form : Form) : Codec AutocompleteSettings :=
  .table surplus "AutocompleteConfig" form autocompleteSettings {} autocompleteSettings_complete
    (by simp [autocompleteSettings, Setting.Legal])

def diagnostics (surplus : Decode.Surplus) (form : Form) : Codec DiagnosticsSettings :=
  .table surplus "DiagnosticsConfig" form diagnosticsSettings {} diagnosticsSettings_complete
    (by simp [diagnosticsSettings, Setting.Legal])

def hover (surplus : Decode.Surplus) (form : Form) : Codec HoverSettings :=
  .table surplus "HoverConfig" form hoverSettings {} hoverSettings_complete
    (by simp [hoverSettings, Setting.Legal])

def semanticTokens (surplus : Decode.Surplus) (form : Form) : Codec SemanticTokensSettings :=
  .table surplus "SemanticTokensConfig" form semanticTokensSettings {} semanticTokensSettings_complete
    (by simp [semanticTokensSettings, Setting.Legal])

def highlighting (surplus : Decode.Surplus) (form : Form) : Codec HighlightingSettings :=
  .table surplus "HighlightingConfig" form highlightingSettings {} highlightingSettings_complete
    (by simp [highlightingSettings, Setting.Legal])

def sync (surplus : Decode.Surplus) : Codec SyncPreference :=
  .choice surplus "SyncPreference" SyncPreference.label SyncPreference.all fun p => by cases p <;> rfl

variable {surplus : Decode.Surplus} {form : Form}

@[simp] lemma legal_autocomplete {s : AutocompleteSettings} :
    (autocomplete surplus form).Legal s ↔ s.Fits := by
  simp [autocomplete, autocompleteSettings, Setting.Legal, AutocompleteSettings.Fits]

@[simp] lemma legal_diagnostics {s : DiagnosticsSettings} : (diagnostics surplus form).Legal s := by
  simp [diagnostics, diagnosticsSettings, Setting.Legal]

@[simp] lemma legal_hover {s : HoverSettings} : (hover surplus form).Legal s ↔ s.Fits := by
  simp [hover, hoverSettings, Setting.Legal, HoverSettings.Fits]

@[simp] lemma legal_semanticTokens {s : SemanticTokensSettings} :
    (semanticTokens surplus form).Legal s := by
  simp [semanticTokens, semanticTokensSettings, Setting.Legal]

@[simp] lemma legal_highlighting {s : HighlightingSettings} : (highlighting surplus form).Legal s := by
  simp [highlighting, highlightingSettings, Setting.Legal]

@[simp] lemma legal_sync {p : SyncPreference} : (sync surplus).Legal p := trivial

end Codec

def serverSettings (surplus : Decode.Surplus) (form : String → Form) : List (Setting ServerSettings) := [
  ⟨_, "command", .optional .string nofun, (·.command), fun a s => { s with command := a }⟩,
  ⟨_, "env", .map .string, (·.env), fun a s => { s with env := a }⟩,
  ⟨_, "use", .optional .string nofun, (·.useLanguage), fun a s => { s with useLanguage := a }⟩,
  ⟨_, "show_server_stderr", .bool, (·.showServerStderr), fun a s => { s with showServerStderr := a }⟩,
  ⟨_, "rpc_trace", .bool, (·.rpcTrace), fun a s => { s with rpcTrace := a }⟩,
  ⟨_, "initialization_options_file", .optional .path nofun, (·.initializationOptionsFile),
    fun a s => { s with initializationOptionsFile := a }⟩,
  ⟨_, "use_outside_project_dir", .bool, (·.useOutsideProjectDir),
    fun a s => { s with useOutsideProjectDir := a }⟩,
  ⟨_, "use_without_project", .bool, (·.useWithoutProject), fun a s => { s with useWithoutProject := a }⟩,
  ⟨_, "sync", .sync surplus, (·.sync), fun a s => { s with sync := a }⟩,
  ⟨_, "autocomplete", .autocomplete surplus (form "autocomplete"), (·.autocomplete),
    fun a s => { s with autocomplete := a }⟩,
  ⟨_, "diagnostics", .diagnostics surplus (form "diagnostics"), (·.diagnostics),
    fun a s => { s with diagnostics := a }⟩,
  ⟨_, "hover", .hover surplus (form "hover"), (·.hover), fun a s => { s with hover := a }⟩,
  ⟨_, "signature_enable", .bool, (·.signatureEnable), fun a s => { s with signatureEnable := a }⟩,
  ⟨_, "goto_enable", .bool, (·.gotoEnable), fun a s => { s with gotoEnable := a }⟩,
  ⟨_, "document_symbols_enable", .bool, (·.documentSymbolsEnable),
    fun a s => { s with documentSymbolsEnable := a }⟩,
  ⟨_, "semantic_tokens", .semanticTokens surplus (form "semantic_tokens"), (·.semanticTokens),
    fun a s => { s with semanticTokens := a }⟩,
  ⟨_, "highlighting", .highlighting surplus (form "highlighting"), (·.highlighting),
    fun a s => { s with highlighting := a }⟩,
  ⟨_, "formatting_options_file", .optional .path nofun, (·.formattingOptionsFile),
    fun a s => { s with formattingOptionsFile := a }⟩]

lemma serverSettings_complete (surplus : Decode.Surplus) (form : String → Form) :
    Complete (serverSettings surplus form) where
  keys := by simp [serverSettings]
  own := by simp [serverSettings]
  apart := by
    simp only [serverSettings, Setting.Apart, List.pairwise_cons, List.Pairwise.nil,
      List.forall_mem_cons, List.not_mem_nil, IsEmpty.forall_iff, implies_true, and_self]
  whole s start := by cases s; cases start; rfl

def Codec.server (surplus : Decode.Surplus) (outer : Form) (inner : String → Form) :
    Codec ServerSettings :=
  .table surplus "ServerConfig" outer (serverSettings surplus inner) {}
    (serverSettings_complete surplus inner)
    (by simp [serverSettings, Setting.Legal, AutocompleteSettings.Fits, HoverSettings.Fits])

namespace ServerSettings

variable {s : ServerSettings} {surplus : Decode.Surplus} {outer : Form} {inner : String → Form}

lemma legal_iff : (Codec.server surplus outer inner).Legal s ↔ s.Fits := by
  simp [Codec.server, serverSettings, Setting.Legal, Fits]

def inForm (s : ServerSettings) (outer : Form) (inner : String → Form) : Json :=
  (Codec.server .refused outer inner).write s

lemma toJson_eq : s.toJson = s.inForm .members fun _ => .members := rfl

lemma ofJson?_eq_some {j : Json} :
    ofJson? j = some s ↔ (Codec.server .refused outer inner).read j = .ok s := by
  have hread : (Codec.server .refused outer inner).read = Decode.server .refused := rfl
  rw [ofJson?, hread]
  cases Decode.server .refused j <;> simp [Except.toOption]

lemma ofJson?_inForm (h : s.Fits) : ofJson? (s.inForm outer inner) = some s :=
  ofJson?_eq_some.mpr ((Codec.server .refused outer inner).read_write s (legal_iff.mpr h))

lemma fits_of_ofJson? {j : Json} (h : ofJson? j = some s) : s.Fits :=
  legal_iff.mp ((Codec.server .refused .members fun _ => .members).legal j s (ofJson?_eq_some.mp h))

/-- Settings are read back from the JSON that is written of them, and likewise from the array of their values
in the order of the settings, with their tables in either form. Whatever else they are read from, what is
written of them is read as the same settings. -/
theorem settings_reread (s : ServerSettings) :
    (s.Fits → ofJson? s.toJson = some s ∧
      ∀ outer inner, ofJson? (s.inForm outer inner) = some s) ∧
    ∀ j, ofJson? j = some s → s.Fits ∧ ofJson? s.toJson = some s := by
  have hjson (h : s.Fits) : ofJson? s.toJson = some s := by
    rw [toJson_eq]
    exact ofJson?_inForm h
  exact ⟨fun h => ⟨hjson h, fun outer inner => ofJson?_inForm h⟩,
    fun j hj => ⟨fits_of_ofJson? hj, hjson (fits_of_ofJson? hj)⟩⟩

end ServerSettings

namespace Sample

def sparse : Json := .obj [
  ("autocomplete", .arr [.bool false, .arr [.str "::"], .int 0xffffffff]),
  ("colour", .int 1),
  ("sync", .obj [("full", .null)]),
  ("use", .str "c")]

def sparseSettings : ServerSettings where
  useLanguage := "c"
  sync := .full
  autocomplete := { enable := false, triggerSequences := ["::"], windowMaxEntries := 0xffffffff }

end Sample

theorem ServerSettings.sparse_reread :
    ofJson? Sample.sparse = some Sample.sparseSettings ∧
      ofJson? Sample.sparseSettings.toJson = some Sample.sparseSettings ∧
      ofJson? (Sample.sparseSettings.inForm .items fun _ => .items) = some Sample.sparseSettings := by
  have hsparse : ofJson? Sample.sparse = some Sample.sparseSettings := by decide +kernel
  obtain ⟨hforms, hread⟩ := settings_reread Sample.sparseSettings
  obtain ⟨hfits, hagain⟩ := hread _ hsparse
  exact ⟨hsparse, hagain, (hforms hfits).2 .items fun _ => .items⟩

end LanguageHost
