import EmbeddedSql.Protocol.Structures

/-!
# Protocol.Capabilities — what an editor says of itself

An editor introduces itself with what it can do.  None of it changes what the server does, but an
introduction that does not have its shape is refused.

* `Protocol.workspaceCapabilities`, `Protocol.documentCapabilities`, … — the parts;
* `Protocol.clientCapabilities` — all of them;
* `Protocol.introduction` — an introduction.
-/

namespace EmbeddedSql
namespace Protocol

/-- A record of truth values that may be absent. -/
def flags (name : String) (fields : List String) : Shape :=
  .optional (.record name (fields.map fun field => (field, maybeTruth)))

/-- Whether a feature can be turned on later. -/
def dynamic : Shape := flags "DynamicRegistrationClientCapabilities" ["dynamicRegistration"]

/-- Whether the editor can be asked to renew a feature. -/
def refresh (name : String) : Shape := flags name ["refreshSupport"]

/-- The properties that can be filled in later. -/
def properties (name : String) : Shape :=
  .optional (.record name [("properties", .list .text)])

/-- The numbers of a list that are known. -/
def knownCodes (name : String) : Shape :=
  .optional (.record name [("valueSet", maybeCodes)])

/-- The tags that are known; editors may also say yes or no. -/
def knownTags : Shape :=
  .defaulted (.orFlag (.record "TagSupport" [("valueSet", .list code)]))

/-- The kinds of formatted text that are known. -/
def knownMarkup : Shape := .optional (.list markupKind)

/-! ## Workspaces -/

def workspaceCapabilities : Shape :=
  .record "WorkspaceClientCapabilities"
    [("applyEdit", maybeTruth),
      ("workspaceEdit", .optional (.record "WorkspaceEditClientCapabilities"
        [("documentChanges", maybeTruth),
          ("resourceOperations", .optional (.list (.word ["create", "rename", "delete"]))),
          ("failureHandling",
            .optional (.word ["abort", "transactional", "textOnlyTransactional", "undo"])),
          ("normalizesLineEndings", maybeTruth),
          ("changeAnnotationSupport",
            flags "ChangeAnnotationWorkspaceEditClientCapabilities" ["groupsOnLabel"])])),
      ("didChangeConfiguration", dynamic),
      ("didChangeWatchedFiles", flags "DidChangeWatchedFilesClientCapabilities"
        ["dynamicRegistration", "relativePatternSupport"]),
      ("symbol", .optional (.record "WorkspaceSymbolClientCapabilities"
        [("dynamicRegistration", maybeTruth), ("symbolKind", knownCodes "SymbolKindCapability"),
          ("tagSupport", knownTags),
          ("resolveSupport", properties "WorkspaceSymbolResolveSupportCapability")])),
      ("executeCommand", dynamic),
      ("workspaceFolders", maybeTruth),
      ("configuration", maybeTruth),
      ("semanticTokens", refresh "SemanticTokensWorkspaceClientCapabilities"),
      ("codeLens", refresh "CodeLensWorkspaceClientCapabilities"),
      ("fileOperations", flags "WorkspaceFileOperationsClientCapabilities"
        ["dynamicRegistration", "didCreate", "willCreate", "didRename", "willRename", "didDelete",
          "willDelete"]),
      ("inlineValue", refresh "InlineValueWorkspaceClientCapabilities"),
      ("inlayHint", refresh "InlayHintWorkspaceClientCapabilities"),
      ("diagnostic", refresh "DiagnosticWorkspaceClientCapabilities")]

/-! ## Documents -/

def completionCapabilities : Shape :=
  .record "CompletionClientCapabilities"
    [("dynamicRegistration", maybeTruth),
      ("completionItem", .optional (.record "CompletionItemCapability"
        [("snippetSupport", maybeTruth), ("commitCharactersSupport", maybeTruth),
          ("documentationFormat", knownMarkup), ("deprecatedSupport", maybeTruth),
          ("preselectSupport", maybeTruth), ("tagSupport", knownTags),
          ("insertReplaceSupport", maybeTruth),
          ("resolveSupport", properties "CompletionItemCapabilityResolveSupport"),
          ("insertTextModeSupport",
            .optional (.record "InsertTextModeSupport" [("valueSet", .list code)])),
          ("labelDetailsSupport", maybeTruth)])),
      ("completionItemKind", knownCodes "CompletionItemKindCapability"),
      ("contextSupport", maybeTruth),
      ("insertTextMode", maybeCode),
      ("completionList",
        .optional (.record "CompletionListCapability" [("itemDefaults", maybeTexts)]))]

def signatureCapabilities : Shape :=
  .record "SignatureHelpClientCapabilities"
    [("dynamicRegistration", maybeTruth),
      ("signatureInformation", .optional (.record "SignatureInformationSettings"
        [("documentationFormat", knownMarkup),
          ("parameterInformation", flags "ParameterInformationSettings" ["labelOffsetSupport"]),
          ("activeParameterSupport", maybeTruth)])),
      ("contextSupport", maybeTruth)]

def codeActionCapabilities : Shape :=
  .record "CodeActionClientCapabilities"
    [("dynamicRegistration", maybeTruth),
      ("codeActionLiteralSupport", .optional (.record "CodeActionLiteralSupport"
        [("codeActionKind",
          .record "CodeActionKindLiteralSupport" [("valueSet", .list .text)])])),
      ("isPreferredSupport", maybeTruth), ("disabledSupport", maybeTruth),
      ("dataSupport", maybeTruth),
      ("resolveSupport", properties "CodeActionCapabilityResolveSupport"),
      ("honorsChangeAnnotations", maybeTruth)]

def semanticTokensCapabilities : Shape :=
  .record "SemanticTokensClientCapabilities"
    [("dynamicRegistration", maybeTruth),
      ("requests", .record "SemanticTokensClientCapabilitiesRequests"
        [("range", maybeTruth),
          ("full", .optional (.either "SemanticTokensFullOptions"
            [.truth, .record "Delta" [("delta", maybeTruth)]]))]),
      ("tokenTypes", .list .text), ("tokenModifiers", .list .text), ("formats", .list .text),
      ("overlappingTokenSupport", maybeTruth), ("multilineTokenSupport", maybeTruth),
      ("serverCancelSupport", maybeTruth), ("augmentsSyntaxTokens", maybeTruth)]

def foldingCapabilities : Shape :=
  .record "FoldingRangeClientCapabilities"
    [("dynamicRegistration", maybeTruth), ("rangeLimit", .optional .unsigned),
      ("lineFoldingOnly", maybeTruth),
      ("foldingRangeKind", .optional (.record "FoldingRangeKindCapability"
        [("valueSet", .optional (.list (.word ["comment", "imports", "region"])))])),
      ("foldingRange", flags "FoldingRangeCapability" ["collapsedText"])]

/-- Whether the editor can follow links to definitions. -/
def links : Shape := flags "GotoCapability" ["dynamicRegistration", "linkSupport"]

def documentCapabilities : Shape :=
  .record "TextDocumentClientCapabilities"
    [("synchronization", flags "TextDocumentSyncClientCapabilities"
        ["dynamicRegistration", "willSave", "willSaveWaitUntil", "didSave"]),
      ("completion", .optional completionCapabilities),
      ("hover", .optional (.record "HoverClientCapabilities"
        [("dynamicRegistration", maybeTruth), ("contentFormat", knownMarkup)])),
      ("signatureHelp", .optional signatureCapabilities),
      ("references", dynamic), ("documentHighlight", dynamic),
      ("documentSymbol", .optional (.record "DocumentSymbolClientCapabilities"
        [("dynamicRegistration", maybeTruth), ("symbolKind", knownCodes "SymbolKindCapability"),
          ("hierarchicalDocumentSymbolSupport", maybeTruth), ("tagSupport", knownTags)])),
      ("formatting", dynamic), ("rangeFormatting", dynamic), ("onTypeFormatting", dynamic),
      ("declaration", links), ("definition", links), ("typeDefinition", links),
      ("implementation", links),
      ("codeAction", .optional codeActionCapabilities),
      ("codeLens", dynamic),
      ("documentLink", flags "DocumentLinkClientCapabilities"
        ["dynamicRegistration", "tooltipSupport"]),
      ("colorProvider", dynamic),
      ("rename", .optional (.record "RenameClientCapabilities"
        [("dynamicRegistration", maybeTruth), ("prepareSupport", maybeTruth),
          ("prepareSupportDefaultBehavior", maybeCode), ("honorsChangeAnnotations", maybeTruth)])),
      ("publishDiagnostics", .optional (.record "PublishDiagnosticsClientCapabilities"
        [("relatedInformation", maybeTruth), ("tagSupport", knownTags),
          ("versionSupport", maybeTruth), ("codeDescriptionSupport", maybeTruth),
          ("dataSupport", maybeTruth)])),
      ("foldingRange", .optional foldingCapabilities),
      ("selectionRange", flags "SelectionRangeClientCapabilities" ["dynamicRegistration"]),
      ("linkedEditingRange", dynamic), ("callHierarchy", dynamic),
      ("semanticTokens", .optional semanticTokensCapabilities),
      ("moniker", dynamic), ("typeHierarchy", dynamic), ("inlineValue", dynamic),
      ("inlayHint", .optional (.record "InlayHintClientCapabilities"
        [("dynamicRegistration", maybeTruth),
          ("resolveSupport", properties "InlayHintResolveClientCapabilities")])),
      ("diagnostic", flags "DiagnosticClientCapabilities"
        ["dynamicRegistration", "relatedDocumentSupport"])]

/-! ## Windows and all else -/

def notebookCapabilities : Shape :=
  .record "NotebookDocumentClientCapabilities"
    [("synchronization", .record "NotebookDocumentSyncClientCapabilities"
      [("dynamicRegistration", maybeTruth), ("executionSummaryReport", maybeTruth)])]

def windowCapabilities : Shape :=
  .record "WindowClientCapabilities"
    [("workDoneProgress", maybeTruth),
      ("showMessage", .optional (.record "ShowMessageRequestClientCapabilities"
        [("messageActionItem",
          flags "MessageActionItemCapabilities" ["additionalPropertiesSupport"])])),
      ("showDocument",
        .optional (.record "ShowDocumentClientCapabilities" [("support", .truth)]))]

def generalCapabilities : Shape :=
  .record "GeneralClientCapabilities"
    [("regularExpressions", .optional (.record "RegularExpressionsClientCapabilities"
        [("engine", .text), ("version", maybeText)])),
      ("markdown", .optional (.record "MarkdownClientCapabilities"
        [("parser", .text), ("version", maybeText), ("allowedTags", maybeTexts)])),
      ("staleRequestSupport", .optional (.record "StaleRequestSupportClientCapabilities"
        [("cancel", .truth), ("retryOnContentModified", .list .text)])),
      ("positionEncodings", maybeTexts)]

def clientCapabilities : Shape :=
  .record "ClientCapabilities"
    [("workspace", .optional workspaceCapabilities),
      ("textDocument", .optional documentCapabilities),
      ("notebookDocument", .optional notebookCapabilities),
      ("window", .optional windowCapabilities),
      ("general", .optional generalCapabilities),
      ("experimental", maybeAny)]

def introduction : Shape :=
  .record "InitializeParams"
    [("processId", .optional .unsigned), ("rootPath", maybeText),
      ("rootUri", .defaulted (.optional .address)),
      ("initializationOptions", maybeAny),
      ("capabilities", clientCapabilities),
      ("trace", .defaulted (.optional (.word ["off", "messages", "verbose"]))),
      ("workspaceFolders", .optional (.list (.record "WorkspaceFolder"
        [("uri", .address), ("name", .text)]))),
      ("clientInfo", .optional (.record "ClientInfo" [("name", .text), ("version", maybeText)])),
      ("locale", maybeText)]

end Protocol
end EmbeddedSql
