import LanguageHost.Editor.Document
import LanguageHost.Feature.Capability
import LanguageHost.Rpc.Outcome
import LanguageHost.Session.Launch
import LanguageHost.Settings.Error

namespace LanguageHost

inductive Operation where
  | initialise
  | goto
  | hover
  | completion
  | signatureHelp
  | documentSymbols
  | workspaceSymbols
  | highlight
  | semanticTokens
  | didOpen
  | didChange
  | didSave
  | didClose
  deriving DecidableEq

def Operation.label : Operation → String
  | initialise => "initialisation"
  | goto => "goto"
  | hover => "hover"
  | completion => "completion"
  | signatureHelp => "signature help"
  | documentSymbols => "document symbols"
  | workspaceSymbols => "workspace symbols"
  | highlight => "document highlight"
  | semanticTokens => "semantic tokens"
  | didOpen => "didOpen"
  | didChange => "didChange"
  | didSave => "didSave"
  | didClose => "didClose"

inductive HostError where
  | unknownLanguage
  | notConfigured (language : LanguageId)
  | outsideProject (language : LanguageId)
  | serverUnavailable (language : LanguageId)
  | serverNotReady (language : LanguageId) (state : Lifecycle)
  | featureUnavailable (language : LanguageId) (feature : Feature) (reason : FeatureSource)
  | rpc (language : LanguageId) (operation : Operation) (source : RpcError)
  | launch (language : LanguageId) (source : LaunchError)
  | timeout (language : LanguageId) (operation : Operation)
  | settings (language : LanguageId) (source : SettingsError)
  | invalidUri (text : String)

namespace HostError

def quote (l : LanguageId) : String := "'" ++ l.name ++ "'"

def message : HostError → String
  | unknownLanguage => "document has no language"
  | notConfigured l => "no language server is configured for " ++ quote l
  | outsideProject l => "document is outside the project scope of the " ++ quote l ++ " server"
  | serverUnavailable l => "language server for " ++ quote l ++ " is unavailable"
  | serverNotReady l state =>
    "language server for " ++ quote l ++ " is not ready (" ++ state.label ++ ")"
  | featureUnavailable l feature reason =>
    feature.label ++ " for " ++ quote l ++ " is unavailable: " ++ reason.label
  | rpc l operation source =>
    "language server for " ++ quote l ++ " failed during " ++ operation.label ++ ": "
      ++ source.message
  | launch l source => "failed to launch language server for " ++ quote l ++ ": " ++ source.message
  | timeout l operation => "timed out waiting for " ++ quote l ++ " during " ++ operation.label
  | settings l source => "configuration for " ++ quote l ++ " is invalid: " ++ source.message
  | invalidUri text => "cannot build a document URI from '" ++ text ++ "'"

end HostError

def Document.uriOrError (d : Document) : Except HostError Uri := d.uri.mapError .invalidUri

end LanguageHost
