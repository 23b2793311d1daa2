import LanguageHost.Feature.Location

namespace LanguageHost.Shapes

open Json (Shape Presence)
open Json.Shape (word32 int32)

def uri : Shape := .textThat fun s => (Uri.parse? s).isSome

def need (key : String) (s : Shape) : String × Presence × Shape := (key, .required, s)

def may (key : String) (s : Shape) : String × Presence × Shape := (key, .optional, s)

def position : Shape := .record [need "line" word32, need "character" word32]

def range : Shape := .record [need "start" position, need "end" position]

def location : Shape := .record [need "uri" uri, need "range" range]

def markup : Shape :=
  .record [need "kind" (.oneOf ["plaintext", "markdown"]), need "value" .text]

def documentation : Shape := .either [.text, markup]

def markedString : Shape :=
  .either [.text, .record [need "language" .text, need "value" .text]]

def hover : Shape := .record [
  need "contents" (.either [markedString, .list markedString, markup]),
  may "range" range]

def textEdit : Shape := .record [need "range" range, need "newText" .text]

def command : Shape :=
  .record [need "title" .text, need "command" .text, may "arguments" (.list .any)]

def completionItem : Shape := .record [
  need "label" .text,
  may "labelDetails" (.record [may "detail" .text, may "description" .text]),
  may "kind" int32,
  may "detail" .text,
  may "documentation" documentation,
  may "deprecated" .bool,
  may "preselect" .bool,
  may "sortText" .text,
  may "filterText" .text,
  may "insertText" .text,
  may "insertTextFormat" int32,
  may "insertTextMode" int32,
  may "textEdit" (.either [textEdit,
    .record [need "newText" .text, need "insert" range, need "replace" range]]),
  may "additionalTextEdits" (.list textEdit),
  may "command" command,
  may "commitCharacters" (.list .text),
  may "data" .any,
  may "tags" (.list int32)]

def completion : Shape := .either [
  .list completionItem,
  .record [need "isIncomplete" .bool, need "items" (.list completionItem)]]

def parameter : Shape := .record [
  need "label" (.either [.text, .tuple [word32, word32]]),
  may "documentation" documentation]

def signature : Shape := .record [
  need "label" .text,
  may "documentation" documentation,
  may "parameters" (.list parameter),
  may "activeParameter" word32]

def signatureHelp : Shape := .record [
  need "signatures" (.list signature),
  may "activeSignature" word32,
  may "activeParameter" word32]

def highlights : Shape := .list (.record [need "range" range, may "kind" int32])

def symbolInformation : Shape := .record [
  need "name" .text,
  need "kind" int32,
  may "tags" (.list int32),
  may "deprecated" .bool,
  need "location" location,
  may "containerName" .text]

def documentSymbolFields (child : Shape) : List (String × Presence × Shape) := [
  need "name" .text,
  may "detail" .text,
  need "kind" int32,
  may "tags" (.list int32),
  may "deprecated" .bool,
  need "range" range,
  need "selectionRange" range,
  may "children" (.list child)]

def documentSymbol : Shape := .record (documentSymbolFields .again)

def readDocumentSymbols? (j : Json) : Option Json :=
  ((Shape.list symbolInformation).read? j).or
    (match j with
      | .arr items => (items.mapM documentSymbol.read?).map .arr
      | _ => none)

def workspaceSymbol : Shape := .record [
  need "name" .text,
  need "kind" int32,
  may "tags" (.list int32),
  may "containerName" .text,
  need "location" (.either [location, .record [need "uri" uri]]),
  may "data" .any]

def workspaceSymbols : Shape := .either [.list symbolInformation, .list workspaceSymbol]

def tokenData : Shape := .chunks 5 word32

def semanticTokens : Shape := .either [
  .record [may "resultId" .text, need "data" tokenData],
  .record [need "data" tokenData]]

def diagnostic : Shape := .record [
  need "range" range,
  may "severity" int32,
  may "code" (.either [int32, .text]),
  may "codeDescription" (.record [need "href" uri]),
  may "source" .text,
  need "message" .text,
  may "relatedInformation" (.list (.record [need "location" location, need "message" .text])),
  may "tags" (.list int32),
  may "data" .any]

def publishDiagnostics : Shape := .record [
  need "uri" uri,
  need "diagnostics" (.list diagnostic),
  may "version" int32]

def message : Shape := .record [need "type" int32, need "message" .text]

def token : Shape := .either [int32, .text]

def progress : Shape := .record [
  need "token" token,
  need "value" (.tagged "kind" [
    ("begin", [need "title" .text, may "cancellable" .bool, may "message" .text,
      may "percentage" word32]),
    ("report", [may "cancellable" .bool, may "message" .text, may "percentage" word32]),
    ("end", [may "message" .text])])]

def createProgress : Shape := .record [need "token" token]

def documentEdit : Shape := .record [
  need "textDocument" (.record [need "uri" uri, ("version", .nullable, int32)]),
  need "edits" (.list textEdit)]

def overwriteOptions : Shape := .record [may "overwrite" .bool, may "ignoreIfExists" .bool]

def fileOperation : Shape := .tagged "kind" [
  ("create", [need "uri" uri, may "options" overwriteOptions, may "annotationId" .text]),
  ("rename", [need "oldUri" uri, need "newUri" uri, may "options" overwriteOptions,
    may "annotationId" .text]),
  ("delete", [need "uri" uri, may "options" (.record [may "recursive" .bool,
    may "ignoreIfNotExists" .bool, may "annotationId" .text])])]

def workspaceEdit : Shape := .record [
  may "changes" (.map (fun s => (Uri.parse? s).isSome) (.list textEdit)),
  may "documentChanges" (.either [.list documentEdit, .list (.either [fileOperation, documentEdit])]),
  may "changeAnnotations" (.map (fun _ => true) (.record [
    need "label" .text, may "needsConfirmation" .bool, may "description" .text]))]

def applyEdit : Shape := .record [may "label" .text, need "edit" workspaceEdit]

end LanguageHost.Shapes
