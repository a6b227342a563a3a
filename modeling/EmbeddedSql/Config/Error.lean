import EmbeddedSql.Config.Path
import EmbeddedSql.Decimal.Shortest
import EmbeddedSql.Text.Quoted

/-!
# Config.Error — why a configuration is refused

* `Config.Error` — the causes;
* `Config.Error.message` — the wording of each;
* `Config.Error.under` — the same error, seen from one level further out.
-/

namespace EmbeddedSql
namespace Config

/-- What stands where something else was expected. -/
inductive Found where
  | scalar (s : Scalar)
  | sequence
  | map
deriving DecidableEq, Repr

namespace Found

def ofValue : Value → Found
  | .scalar _ s => scalar s
  | .array _ _ => sequence
  | .table _ _ => map

def leafText : Found → String
  | scalar .null => "unit value"
  | scalar (.bool b) => "boolean `" ++ (if b then "true" else "false") ++ "`"
  | scalar (.int i) => "64-bit integer `" ++ toString i ++ "`"
  | scalar (.float f) => "floating point `" ++ f.display ++ "`"
  | scalar (.str s) => "string " ++ Text.quoted s
  | sequence => "sequence"
  | map => "map"

/-- What was found where a record or a list was expected. -/
def shapeText : Found → String
  -- Only numbers are worded otherwise than in place of a leaf.
  | scalar (.int i) => "integer `" ++ toString i ++ "`"
  | scalar (.float f) => "floating point `" ++ f.displayWithPoint ++ "`"
  | found => found.leafText

end Found

inductive Leaf where
  | text
  | truth
  | number
  | unsigned
deriving DecidableEq, Repr

namespace Leaf

/-- What a message says was expected. -/
def wording : Leaf → String
  | text => "a string"
  | truth => "a boolean"
  | number => "an integer"
  | unsigned => "an unsigned 64 bit or less integer"

end Leaf

/-- A group of settings: the name it has in messages, and its settings in order. -/
structure Record where
  name : String
  fields : List String
deriving DecidableEq, Repr

namespace Record

def colors : Record :=
  ⟨"ColorsConfig",
    ["keywords", "parameters", "strings", "numbers", "functions", "booleans", "identifiers"]⟩

def keywords : Record :=
  ⟨"KeywordsConfig", ["bold"]⟩

def highlight : Record :=
  ⟨"HighlightConfig", ["debounce_ms", "languages"]⟩

def whole : Record :=
  ⟨"SqlmarkConfig", ["colors", "keywords", "highlight"]⟩

def sizeText (r : Record) : String :=
  Nat.repr r.fields.length ++ (if r.fields.length = 1 then " element" else " elements")

end Record

inductive Error where
  /-- A leaf of the wrong kind: where it is, and the file it came from. -/
  | wrongLeaf (found : Found) (expected : Leaf) (key : List Step) (origin : Option String)
  | notRecord (found : Found) (record : Record)
  /-- Something else where a list has to be. -/
  | notList (found : Found)
  /-- A record written as a list that is too short. -/
  | tooShort (length : Nat) (record : Record)
  /-- A setting that nothing sets. -/
  | missing (field : String)
  /-- An override whose key is no path. -/
  | badPath (cause : PathError)
  | badFile
  /-- A file that stands for something else than a table. -/
  | notTable (found : Found) (file : String)
  | fileNotFound (path : String)
  | fileNotText
deriving DecidableEq, Repr

namespace Error

/-- The text of a key behind other text: members are divided by a dot. -/
def keyRest : List Step → String
  | [] => ""
  | .member name :: rest => "." ++ name ++ keyRest rest
  | .item i :: rest => "[" ++ toString i ++ "]" ++ keyRest rest

def keyText : List Step → String
  | .member name :: rest => name ++ keyRest rest
  | steps => keyRest steps

def message : Error → String
  | wrongLeaf found expected key origin =>
    "invalid type: " ++ found.leafText ++ ", expected " ++ expected.wording ++
      (if key.isEmpty then "" else " for key `" ++ keyText key ++ "`") ++
      (match origin with
        | some file => " in " ++ file
        | none => "")
  | notRecord found record =>
    "invalid type: " ++ found.shapeText ++ ", expected struct " ++ record.name
  | notList found => "invalid type: " ++ found.shapeText ++ ", expected a sequence"
  | tooShort n record =>
    "invalid length " ++ Nat.repr n ++ ", expected struct " ++ record.name ++ " with " ++
      record.sizeText
  | missing field => "missing field `" ++ field ++ "`"
  | badPath cause => cause.message
  | badFile => "TOML parse error"
  | notTable found file =>
    -- The file is named once by the error and once by the value it is about.
    "invalid type: " ++ found.leafText ++ ", expected a map in " ++ file ++ " in " ++ file
  | fileNotFound path => "configuration file \"" ++ path ++ "\" not found"
  | fileNotText => "stream did not contain valid UTF-8"

/-- An error inside a part of a value, as an error of the value. -/
def under (step : Step) : Error → Error
  | wrongLeaf found expected key origin => wrongLeaf found expected (step :: key) origin
  | e => e

end Error
end Config
end EmbeddedSql
