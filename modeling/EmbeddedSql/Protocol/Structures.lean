import EmbeddedSql.Protocol.Shape

/-!
# Protocol.Structures — records that many messages share

Places and stretches in documents, documents themselves, edits, commands and diagnostics, as the
language server protocol lays them out.
-/

namespace EmbeddedSql
namespace Protocol

abbrev Fields := List (String × Shape)

/-! ## Shorthands -/

def maybeText : Shape := .optional .text

def maybeTruth : Shape := .optional .truth

def maybeTexts : Shape := .optional (.list .text)

/-- A number out of a list that the protocol keeps. -/
def code : Shape := .signed

def maybeCode : Shape := .optional code

def maybeCodes : Shape := .optional (.list code)

def maybeAny : Shape := .optional .any

def numberOrText : Shape := .either "NumberOrString" [.signed, .text]

/-! ## Documents and places -/

def position : Shape :=
  .record "Position" [("line", .unsigned), ("character", .unsigned)]

def range : Shape :=
  .record "Range" [("start", position), ("end", position)]

/-- A stretch of a document, wherever it is. -/
def location : Shape :=
  .record "Location" [("uri", .address), ("range", range)]

def textDocument : Shape :=
  .record "TextDocumentIdentifier" [("uri", .address)]

def versionedDocument : Shape :=
  .record "VersionedTextDocumentIdentifier" [("uri", .address), ("version", .signed)]

def documentItem : Shape :=
  .record "TextDocumentItem"
    [("uri", .address), ("languageId", .text), ("version", .signed), ("text", .text)]

/-- A document and a place in it. -/
def placeFields : Fields :=
  [("textDocument", textDocument), ("position", position)]

/-- The name under which progress is told. -/
def progressFields : Fields :=
  [("workDoneToken", .optional numberOrText)]

/-- The name under which parts of a result are told. -/
def partialFields : Fields :=
  [("partialResultToken", .optional numberOrText)]

/-! ## Edits -/

def textEdit : Shape :=
  .record "TextEdit" [("range", range), ("newText", .text)]

/-- An edit with a comment. -/
def annotatedEdit : Shape :=
  .joined "AnnotatedTextEdit" [("annotationId", .text)] [[("range", range), ("newText", .text)]]

def documentEdit : Shape :=
  .record "TextDocumentEdit"
    [("textDocument", .record "OptionalVersionedTextDocumentIdentifier"
        [("uri", .address), ("version", .optional .signed)]),
      ("edits", .list (.either "OneOf" [textEdit, annotatedEdit]))]

/-- What happens to files that are there already, or are not. -/
def replacement (name : String) : Shape :=
  .optional (.record name [("overwrite", maybeTruth), ("ignoreIfExists", maybeTruth)])

/-- Creating, renaming or deleting a file. -/
def fileOperation : Shape :=
  .either "ResourceOp"
    [.record "CreateFile"
        [("kind", .word ["create"]), ("uri", .address),
          ("options", replacement "CreateFileOptions"), ("annotationId", maybeText)],
      .record "RenameFile"
        [("kind", .word ["rename"]), ("oldUri", .address), ("newUri", .address),
          ("options", replacement "RenameFileOptions"), ("annotationId", maybeText)],
      .record "DeleteFile"
        [("kind", .word ["delete"]), ("uri", .address),
          ("options", .optional (.record "DeleteFileOptions"
            [("recursive", maybeTruth), ("ignoreIfNotExists", maybeTruth),
              ("annotationId", maybeText)]))]]

def workspaceEdit : Shape :=
  .record "WorkspaceEdit"
    [("changes", .defaulted (.optional (.table "map" true (.list textEdit)))),
      ("documentChanges", .optional (.either "DocumentChanges"
        [.list documentEdit,
          .list (.either "DocumentChangeOperation" [fileOperation, documentEdit])])),
      ("changeAnnotations", .optional (.table "a map" false (.record "ChangeAnnotation"
        [("label", .text), ("needsConfirmation", maybeTruth), ("description", maybeText)])))]

/-! ## Commands, texts and diagnostics -/

def command : Shape :=
  .record "Command"
    [("title", .text), ("command", .text), ("arguments", .optional (.list .any))]

def markupKind : Shape := .word ["plaintext", "markdown"]

/-- A formatted text. -/
def markup : Shape :=
  .record "MarkupContent" [("kind", markupKind), ("value", .text)]

/-- A text, formatted or not. -/
def documentation : Shape := .either "Documentation" [.text, markup]

def diagnostic : Shape :=
  .record "Diagnostic"
    [("range", range), ("severity", maybeCode), ("code", .optional numberOrText),
      ("codeDescription", .optional (.record "CodeDescription" [("href", .address)])),
      ("source", maybeText), ("message", .text),
      ("relatedInformation", .optional (.list (.record "DiagnosticRelatedInformation"
        [("location", location), ("message", .text)]))),
      ("tags", maybeCodes), ("data", maybeAny)]

end Protocol
end EmbeddedSql
