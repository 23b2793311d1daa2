import LanguageHost.Editor.Document
import LanguageHost.Feature.Capability

namespace LanguageHost.Handshake

def clientName : String := "tessera"

def clientVersion : String := "0.1.0"

def flag (name : String) (value : Bool) : String × Json := (name, .bool value)

def plaintext : Json := .strings ["plaintext"]

def synchronization : Json := .object [
  flag "dynamicRegistration" false,
  flag "didSave" true,
  flag "willSave" false,
  flag "willSaveWaitUntil" false]

def noLinks : Json := .object [flag "linkSupport" false]

def semanticTokens : Json := .object [
  ("requests", .object [("full", .object [flag "delta" true])]),
  ("tokenTypes", .strings structuralTokenTypes),
  ("tokenModifiers", .arr []),
  ("formats", .strings ["relative"])]

def textDocument : Json := .object [
  ("synchronization", synchronization),
  ("completion", .object [
    ("completionItem", .object [flag "snippetSupport" false, ("documentationFormat", plaintext)])]),
  ("hover", .object [("contentFormat", plaintext)]),
  ("signatureHelp", .object [
    ("signatureInformation", .object [("documentationFormat", plaintext)])]),
  ("definition", noLinks),
  ("declaration", noLinks),
  ("typeDefinition", noLinks),
  ("implementation", noLinks),
  ("references", .obj []),
  ("documentHighlight", .obj []),
  ("documentSymbol", .object [flag "hierarchicalDocumentSymbolSupport" true]),
  ("publishDiagnostics", .object [flag "relatedInformation" false]),
  ("semanticTokens", semanticTokens)]

def capabilities : Json := .object [
  ("window", .object [flag "workDoneProgress" true]),
  ("workspace", .object [
    flag "applyEdit" true,
    flag "configuration" true,
    flag "workspaceFolders" true,
    ("symbol", .object [flag "dynamicRegistration" false])]),
  ("textDocument", textDocument)]

def folders (root : FilePath) (uri : Uri) : Json :=
  .arr [.object [("uri", .str uri.text), ("name", .str (root.fileName?.getD root.text))]]

def params (processId : Nat) (root : Option FilePath) (options : Json) : Json :=
  let uri := root.bind fun r => (Uri.ofPath r).toOption
  .object [
    ("processId", .int processId),
    ("clientInfo", .object [("name", .str clientName), ("version", .str clientVersion)]),
    ("locale", .str "en"),
    ("rootPath", .ofOption (fun r => .str r.text) root),
    ("rootUri", .ofOption (fun u => .str u.text) uri),
    ("workspaceFolders",
      match root, uri with
      | some r, some u => folders r u
      | _, _ => .null),
    ("capabilities", capabilities),
    ("trace", .str "off"),
    ("initializationOptions", options)]

end LanguageHost.Handshake
