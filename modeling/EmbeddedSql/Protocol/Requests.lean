import EmbeddedSql.Protocol.Capabilities

/-!
# Protocol.Requests — what editors ask for

Every request of the protocol has parameters of a shape.  The server answers few of them, but it
looks at the parameters of all.

* `Protocol.tokensOf` — what semantic tokens are asked for;
* `Protocol.completionItem`, `Protocol.codeAction`, … — things that editors send back to be filled
  in;
* `Protocol.unanswered` — the requests that the server does not answer, with their parameters.

Most parameters have a document, or a place in it, and names for progress and parts of the result
beside fields of their own.
-/

namespace EmbeddedSql
namespace Protocol

/-! ## Parameters with fields of their own -/

/-- Fields of its own, with names for progress and parts of the result. -/
def inParts (name : String) (fields : Fields) : Shape :=
  .joined name fields [progressFields, partialFields]

/-- A document, with names for progress and parts of the result. -/
def ofDocument (name : String) (fields : Fields) : Shape :=
  inParts name (("textDocument", textDocument) :: fields)

/-- A place, with a name for progress. -/
def atPlace (name : String) (fields : Fields) : Shape :=
  .joined name fields [placeFields, progressFields]

/-- A place, with names for progress and parts of the result. -/
def atPlaceInParts (name : String) (fields : Fields) : Shape :=
  .joined name fields [placeFields, progressFields, partialFields]

/-- The document whose semantic tokens are asked for. -/
def tokensOf : Shape := ofDocument "SemanticTokensParams" []

/-! ## Symbols -/

/-- A symbol in a hierarchy of calls or types. -/
def hierarchyItem (name : String) (tags : Shape) : Shape :=
  .record name
    [("name", .text), ("kind", code), ("tags", tags), ("detail", maybeText), ("uri", .address),
      ("range", range), ("selectionRange", range), ("data", maybeAny)]

def callItem : Shape := hierarchyItem "CallHierarchyItem" maybeCodes

def typeItem : Shape := hierarchyItem "TypeHierarchyItem" maybeCode

def workspaceSymbol : Shape :=
  .record "WorkspaceSymbol"
    [("name", .text), ("kind", code), ("tags", maybeCodes), ("containerName", maybeText),
      ("location", .either "OneOf" [location, .record "WorkspaceLocation" [("uri", .address)]]),
      ("data", maybeAny)]

/-! ## Links, lenses and hints -/

def documentLink : Shape :=
  .record "DocumentLink"
    [("range", range), ("target", .optional .address), ("tooltip", maybeText), ("data", maybeAny)]

def codeLens : Shape :=
  .record "CodeLens" [("range", range), ("command", .optional command), ("data", maybeAny)]

/-- A text, formatted or not, that a hint shows. -/
def tooltip (name : String) : Shape := .optional (.either name [.text, markup])

/-- A remark shown between characters. -/
def inlayHint : Shape :=
  .record "InlayHint"
    [("position", position),
      ("label", .either "InlayHintLabel"
        [.text, .list (.record "InlayHintLabelPart"
          [("value", .text), ("tooltip", tooltip "InlayHintLabelPartTooltip"),
            ("location", .optional location), ("command", .optional command)])]),
      ("kind", maybeCode), ("textEdits", .optional (.list textEdit)),
      ("tooltip", tooltip "InlayHintTooltip"),
      ("paddingLeft", maybeTruth), ("paddingRight", maybeTruth), ("data", maybeAny)]

/-! ## Completions and signatures -/

def completionItem : Shape :=
  .record "CompletionItem"
    [("label", .text),
      ("labelDetails", .optional (.record "CompletionItemLabelDetails"
        [("detail", maybeText), ("description", maybeText)])),
      ("kind", maybeCode), ("detail", maybeText), ("documentation", .optional documentation),
      ("deprecated", maybeTruth), ("preselect", maybeTruth), ("sortText", maybeText),
      ("filterText", maybeText), ("insertText", maybeText), ("insertTextFormat", maybeCode),
      ("insertTextMode", maybeCode),
      ("textEdit", .optional (.either "CompletionTextEdit"
        [textEdit, .record "InsertReplaceEdit"
          [("newText", .text), ("insert", range), ("replace", range)]])),
      ("additionalTextEdits", .optional (.list textEdit)), ("command", .optional command),
      ("commitCharacters", maybeTexts), ("data", maybeAny), ("tags", maybeCodes)]

def completionContext : Shape :=
  .record "CompletionContext" [("triggerKind", code), ("triggerCharacter", maybeText)]

/-- A parameter of a signature, by its text or by where it stands. -/
def signatureParameter : Shape :=
  .record "ParameterInformation"
    [("label", .either "ParameterLabel" [.text, .pair .unsigned]),
      ("documentation", .optional documentation)]

def signatureHelp : Shape :=
  .record "SignatureHelp"
    [("signatures", .list (.record "SignatureInformation"
        [("label", .text), ("documentation", .optional documentation),
          ("parameters", .optional (.list signatureParameter)),
          ("activeParameter", .optional .unsigned)])),
      ("activeSignature", .optional .unsigned), ("activeParameter", .optional .unsigned)]

def signatureContext : Shape :=
  .record "SignatureHelpContext"
    [("triggerKind", code), ("triggerCharacter", maybeText), ("isRetrigger", .truth),
      ("activeSignatureHelp", .optional signatureHelp)]

/-! ## Code actions -/

def codeAction : Shape :=
  .record "CodeAction"
    [("title", .text), ("kind", maybeText), ("diagnostics", .optional (.list diagnostic)),
      ("edit", .optional workspaceEdit), ("command", .optional command),
      ("isPreferred", maybeTruth),
      ("disabled", .optional (.record "CodeActionDisabled" [("reason", .text)])),
      ("data", maybeAny)]

def codeActionContext : Shape :=
  .record "CodeActionContext"
    [("diagnostics", .list diagnostic), ("only", maybeTexts), ("triggerKind", maybeCode)]

/-! ## Formatting -/

/-- How a document is to be formatted; editors may add what they like. -/
def formattingOptions : Shape :=
  .extended "FormattingOptions"
    [("tabSize", .unsigned), ("insertSpaces", .truth), ("trimTrailingWhitespace", maybeTruth),
      ("insertFinalNewline", maybeTruth), ("trimFinalNewlines", maybeTruth)]
    (.either "FormattingProperty" [.truth, .signed, .text])

/-! ## All requests -/

/-- Files that something is about to happen to. -/
def files (name item : String) (fields : List String) : Shape :=
  .record name [("files", .list (.record item (fields.map fun field => (field, .text))))]

def placeRequests : List (String × Shape) :=
  [("textDocument/definition", atPlaceInParts "GotoDefinitionParams" []),
    ("textDocument/declaration", atPlaceInParts "GotoDefinitionParams" []),
    ("textDocument/typeDefinition", atPlaceInParts "GotoDefinitionParams" []),
    ("textDocument/implementation", atPlaceInParts "GotoDefinitionParams" []),
    ("textDocument/references", atPlaceInParts "ReferenceParams"
      [("context", .record "ReferenceContext" [("includeDeclaration", .truth)])]),
    ("textDocument/documentHighlight", atPlaceInParts "DocumentHighlightParams" []),
    ("textDocument/moniker", atPlaceInParts "MonikerParams" []),
    ("textDocument/completion", atPlaceInParts "CompletionParams"
      [("context", .optional completionContext)]),
    ("textDocument/hover", atPlace "HoverParams" []),
    ("textDocument/signatureHelp", atPlace "SignatureHelpParams"
      [("context", .optional signatureContext)]),
    ("textDocument/prepareCallHierarchy", atPlace "CallHierarchyPrepareParams" []),
    ("textDocument/prepareTypeHierarchy", atPlace "TypeHierarchyPrepareParams" []),
    ("textDocument/linkedEditingRange", atPlace "LinkedEditingRangeParams" []),
    ("textDocument/rename", atPlace "RenameParams" [("newName", .text)]),
    ("textDocument/prepareRename", .record "TextDocumentPositionParams" placeFields),
    ("textDocument/onTypeFormatting", .joined "DocumentOnTypeFormattingParams"
      [("ch", .text), ("options", formattingOptions)] [placeFields])]

def documentRequests : List (String × Shape) :=
  [("textDocument/willSaveWaitUntil", .record "WillSaveTextDocumentParams"
      [("textDocument", textDocument), ("reason", code)]),
    ("textDocument/documentLink", ofDocument "DocumentLinkParams" []),
    ("textDocument/codeLens", ofDocument "CodeLensParams" []),
    ("textDocument/foldingRange", ofDocument "FoldingRangeParams" []),
    ("textDocument/documentSymbol", ofDocument "DocumentSymbolParams" []),
    ("textDocument/documentColor", ofDocument "DocumentColorParams" []),
    ("textDocument/selectionRange", ofDocument "SelectionRangeParams"
      [("positions", .list position)]),
    ("textDocument/semanticTokens/full/delta", ofDocument "SemanticTokensDeltaParams"
      [("previousResultId", .text)]),
    ("textDocument/semanticTokens/range", ofDocument "SemanticTokensRangeParams"
      [("range", range)]),
    ("textDocument/diagnostic", ofDocument "DocumentDiagnosticParams"
      [("identifier", maybeText), ("previousResultId", maybeText)]),
    ("textDocument/codeAction", ofDocument "CodeActionParams"
      [("range", range), ("context", codeActionContext)]),
    ("textDocument/colorPresentation", ofDocument "ColorPresentationParams"
      [("color", .record "Color"
          [("red", .decimal), ("green", .decimal), ("blue", .decimal), ("alpha", .decimal)]),
        ("range", range)]),
    ("textDocument/inlineValue", .joined "InlineValueParams"
      [("textDocument", textDocument), ("range", range),
        ("context", .record "InlineValueContext"
          [("frameId", .signed), ("stoppedLocation", range)])]
      [progressFields]),
    ("textDocument/inlayHint", .joined "InlayHintParams"
      [("textDocument", textDocument), ("range", range)] [progressFields]),
    ("textDocument/formatting", .joined "DocumentFormattingParams"
      [("textDocument", textDocument), ("options", formattingOptions)] [progressFields]),
    ("textDocument/rangeFormatting", .joined "DocumentRangeFormattingParams"
      [("textDocument", textDocument), ("range", range), ("options", formattingOptions)]
      [progressFields])]

def itemRequests : List (String × Shape) :=
  [("callHierarchy/incomingCalls", inParts "CallHierarchyIncomingCallsParams"
      [("item", callItem)]),
    ("callHierarchy/outgoingCalls", inParts "CallHierarchyOutgoingCallsParams"
      [("item", callItem)]),
    ("typeHierarchy/supertypes", inParts "TypeHierarchySupertypesParams" [("item", typeItem)]),
    ("typeHierarchy/subtypes", inParts "TypeHierarchySubtypesParams" [("item", typeItem)]),
    ("documentLink/resolve", documentLink),
    ("codeLens/resolve", codeLens),
    ("inlayHint/resolve", inlayHint),
    ("completionItem/resolve", completionItem),
    ("codeAction/resolve", codeAction),
    ("workspaceSymbol/resolve", workspaceSymbol)]

def workspaceRequests : List (String × Shape) :=
  [("workspace/diagnostic", inParts "WorkspaceDiagnosticParams"
      [("identifier", maybeText),
        ("previousResultIds", .list (.record "PreviousResultId"
          [("uri", .address), ("value", .text)]))]),
    ("workspace/symbol", .joined "WorkspaceSymbolParams" [("query", .text)]
      [partialFields, progressFields]),
    ("workspace/executeCommand", .joined "ExecuteCommandParams"
      [("command", .text), ("arguments", .defaulted (.list .any))] [progressFields]),
    ("workspace/willCreateFiles", files "CreateFilesParams" "FileCreate" ["uri"]),
    ("workspace/willRenameFiles", files "RenameFilesParams" "FileRename" ["oldUri", "newUri"]),
    ("workspace/willDeleteFiles", files "DeleteFilesParams" "FileDelete" ["uri"])]

def unanswered : List (String × Shape) :=
  placeRequests ++ documentRequests ++ itemRequests ++ workspaceRequests

end Protocol
end EmbeddedSql
