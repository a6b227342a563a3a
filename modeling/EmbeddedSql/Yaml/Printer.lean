import EmbeddedSql.Json.Printer
import EmbeddedSql.Yaml.Scalar

/-!
# Yaml.Printer — values in the block style of the YAML format

The same values as in JSON are written as indented blocks.

* `Yaml.node` — a value behind the mark of a list item;
* `Yaml.underKey` — a value behind a key;
* `Yaml.render` — a whole document.
-/

namespace EmbeddedSql
namespace Yaml

def pad (indent : Nat) : String :=
  String.ofList (List.replicate indent ' ')

/-- A value without parts, or with none, and the line break behind it. -/
def leaf : Json → String
  | .null => "null\n"
  | .bool b => if b then "true\n" else "false\n"
  | .num n => n.text ++ "\n"
  | .str s => String.ofList (scalar s.toList)
  | .arr _ => "[]\n"
  | .obj _ => "\x7b\x7d\n"

/-- Lines of a block, of which the first may already be indented. -/
def padded (indent : Nat) (entries : List String) : String :=
  (pad indent).intercalate entries

mutual

/-- A value whose first line is already indented. -/
def node (indent : Nat) : Json → String
  | .arr (v :: vs) => padded indent (items indent (v :: vs))
  | .obj (m :: ms) => padded indent (members indent (m :: ms))
  | v => leaf v

def underKey (indent : Nat) : Json → String
  | .arr (v :: vs) => "\n" ++ pad indent ++ padded indent (items indent (v :: vs))
  | .obj (m :: ms) =>
    -- Members go one level deeper than their key, items of a list do not.
    "\n" ++ pad (indent + 2) ++ padded (indent + 2) (members (indent + 2) (m :: ms))
  | v => " " ++ leaf v

def items (indent : Nat) : List Json → List String
  | [] => []
  | v :: vs => ("- " ++ node (indent + 2) v) :: items indent vs

def members (indent : Nat) : List (String × Json) → List String
  | [] => []
  | (key, v) :: rest =>
    (String.ofList (written key.toList) ++ ":" ++ underKey indent v) :: members indent rest

end

def render (v : Json) : String :=
  node 0 v

end Yaml
end EmbeddedSql
