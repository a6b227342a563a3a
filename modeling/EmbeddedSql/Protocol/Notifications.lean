import EmbeddedSql.Protocol.Capabilities

/-!
# Protocol.Notifications — what editors tell of documents and settings

* `Protocol.opening`, `Protocol.change`, `Protocol.closing` — what is told of documents;
* `Protocol.configuration` — what is told of settings;
* `Protocol.readiness` — what is told once all is set up.
-/

namespace EmbeddedSql
namespace Protocol

/-- Nothing of interest. -/
def readiness : Shape :=
  .record "InitializedParams" []

def opening : Shape :=
  .record "DidOpenTextDocumentParams" [("textDocument", documentItem)]

/-- A version of a document, and the texts that led to it. -/
def change : Shape :=
  .record "DidChangeTextDocumentParams"
    [("textDocument", versionedDocument),
      ("contentChanges", .list (.record "TextDocumentContentChangeEvent"
        [("range", .optional range), ("rangeLength", .optional .unsigned), ("text", .text)]))]

def closing : Shape :=
  .record "DidCloseTextDocumentParams" [("textDocument", textDocument)]

/-- Settings, which can be anything. -/
def configuration : Shape :=
  .record "DidChangeConfigurationParams" [("settings", .any)]

end Protocol
end EmbeddedSql
