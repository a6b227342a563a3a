import EmbeddedSql.Config.Basic
import EmbeddedSql.Highlights
import EmbeddedSql.Json.Printer
import EmbeddedSql.Yaml.Printer

/-!
# Report — results as text

Tokens and styles are reported in one of three formats: a line for each, a JSON array, or a YAML
list.

* `Report.Format` — the formats;
* `Report.oneLine` — a token's text without line breaks;
* `Report.highlights` — the tokens of a document;
* `Report.styles` — the style of every class.
-/

namespace EmbeddedSql
namespace Report

inductive Format where
  | text
  | json
  | yaml
deriving DecidableEq, Repr

namespace Format

def names : List String :=
  ["text", "json", "yaml"]

def ofName? : String → Option Format
  | "text" => some text
  | "json" => some json
  | "yaml" => some yaml
  | _ => none

def unknownMessage (name : String) : String :=
  "unknown format '" ++ name ++ "' (available: " ++ ", ".intercalate names ++ ")"

end Format

/-- A list of records in a format that shows their structure. -/
def structured (format : Format) (records : List Json) : String :=
  match format with
  | .yaml => Yaml.render (.arr records)
  | _ => Json.pretty (.arr records) ++ "\n"

/-! ## Tokens -/

def oneLine : List Char → List Char
  | [] => []
  | '\r' :: cs => '\\' :: 'r' :: oneLine cs
  | '\n' :: cs => '\\' :: 'n' :: oneLine cs
  | c :: cs => c :: oneLine cs

def tokenLine (d : Document) (t : Token) : String :=
  t.category.name ++ " " ++ t.range.display ++ " " ++
    String.ofList (oneLine (d.textOf t.range)) ++ "\n"

def positionRecord (p : Position) : Json :=
  .obj [("line", .nat p.line), ("column", .nat p.column)]

def tokenRecord (d : Document) (t : Token) : Json :=
  .obj [("category", .str t.category.name), ("start", positionRecord t.range.start),
    ("end", positionRecord t.range.stop), ("text", .chars (d.textOf t.range))]

def highlights (d : Document) (h : Highlights) (format : Format) : String :=
  match format with
  | .text => "".intercalate (h.tokens.map (tokenLine d))
  -- Records show the text as it is; only a line has to stay one line.
  | _ => structured format (h.tokens.map (tokenRecord d))

/-! ## Styles -/

/-- The line of a style: class, color and whether it is bold. -/
def styleLine (c : Category) (s : Style) : String :=
  c.name ++ " " ++ s.color ++ (if s.bold then " bold" else "") ++ "\n"

def styleRecord (c : Category) (s : Style) : Json :=
  .obj [("category", .str c.name), ("color", .str s.color), ("bold", .bool s.bold)]

/-- The style of every class, in emit order. -/
def styles (sheet : StyleSheet) (format : Format) : String :=
  match format with
  | .text => "".intercalate (sheet.entries.map fun (c, s) => styleLine c s)
  | _ => structured format (sheet.entries.map fun (c, s) => styleRecord c s)

end Report
end EmbeddedSql
