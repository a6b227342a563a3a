import EmbeddedSql.Json.Basic
import EmbeddedSql.Server.Basic

/-!
# Server.Wire — what the server sends, as JSON

* `Server.Wire.range` — a stretch in UTF-16 units;
* `Server.Wire.decorations` — the decorations of a document;
* `Server.Wire.capabilities` — what the server can do;
* `Server.Wire.tokens` — semantic tokens.
-/

namespace EmbeddedSql
namespace Server
namespace Wire

def position (p : Editor.Position) : Json :=
  .obj [("line", .nat p.line), ("character", .nat p.character)]

def range (r : Editor.Range) : Json :=
  .obj [("start", position r.start), ("end", position r.stop)]

def style (s : Style) : Json :=
  .obj [("color", .str s.color), ("bold", .bool s.bold)]

def categoryDecorations (d : Editor.CategoryDecorations) : Json :=
  .obj [("category", .str d.category.name), ("style", style d.style),
    ("ranges", .arr (d.ranges.map range))]

def version : Option Int → Json
  | some v => .num (.int v)
  | none => .null

def decorations (d : Editor.Decorations) : Json :=
  .obj [("uri", .str d.uri.text), ("version", version d.version),
    ("decorations", .arr (d.sets.map categoryDecorations))]

/-- The names of token types and modifiers. -/
def legend : Json :=
  .obj [("tokenTypes", .arr (Editor.legend.map .str)), ("tokenModifiers", .arr [])]

def capabilities : Json :=
  .obj [
    ("capabilities", .obj [
      ("semanticTokensProvider", .obj [("full", .bool true), ("legend", legend)]),
      ("textDocumentSync", .nat 1)]),
    ("serverInfo", .obj [("name", .str "sqlmark-lsp"), ("version", .str "0.1.0")])]

/-- Semantic tokens as one list of numbers. -/
def tokens (data : List Editor.SemanticToken) : Json :=
  .obj [("data", .arr (data.flatMap fun t => t.numbers.map .nat))]

def answer : Answer → Json
  | .nothing => .null
  | .capabilities => capabilities
  | .tokens none => .null
  | .tokens (some data) => tokens data

def notification (n : Notice) : Json :=
  .obj [("jsonrpc", .str "2.0"), ("method", .str Editor.Decorations.method),
    ("params", decorations n.decorations)]

end Wire
end Server
end EmbeddedSql
