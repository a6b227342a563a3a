import EmbeddedSql.Json.Printer
import EmbeddedSql.Text.Quoted
import EmbeddedSql.Uri.Basic

/-!
# Protocol.Mismatch — why a value does not have its shape

* `Protocol.Mismatch` — the causes;
* `Protocol.kindText` — what a value is, in the words of a message;
* `Protocol.Mismatch.message` — the wording of each cause.
-/

namespace EmbeddedSql
namespace Protocol

inductive Mismatch where
  /-- Something of another kind. -/
  | wrongKind (found : Json) (expected : String)
  /-- An integer that does not fit. -/
  | outOfRange (found : Int) (expected : String)
  /-- An object with none or several members where one names a word. -/
  | notOneWord
  | unknownWord (word : String) (known : List String)
  | missing (field : String)
  /-- A record written as an array that is too short. -/
  | tooShort (length : Nat) (record : String) (size : Nat)
  /-- A record written as an array that is too long. -/
  | tooLong (length : Nat)
  /-- The same, where members of several records stand side by side. -/
  | tooLongFor (length size : Nat)
  /-- None of several shapes. -/
  | noneOf (name : String)
  | badUri (text : String) (cause : Uri.Error)

def kindText : Json → String
  | .null => "null"
  | .bool b => "boolean `" ++ (if b then "true" else "false") ++ "`"
  | .num (.int i) => "integer `" ++ Json.Number.intText i ++ "`"
  | .num (.float f) => "floating point `" ++ Json.Number.text (.float f) ++ "`"
  | .str s => "string " ++ Text.quoted s
  | .arr _ => "sequence"
  | .obj _ => "map"

def elementsText (n : Nat) : String :=
  Nat.repr n ++ (if n = 1 then " element" else " elements")

def ticked (word : String) : String :=
  "`" ++ word ++ "`"

/-- The words to choose from. -/
def choiceText : List String → String
  | [a] => ticked a
  | [a, b] => ticked a ++ " or " ++ ticked b
  -- Three words or more; no list of words is empty.
  | words => "one of " ++ ", ".intercalate (words.map ticked)

namespace Mismatch

def message : Mismatch → String
  | wrongKind found expected => "invalid type: " ++ kindText found ++ ", expected " ++ expected
  | outOfRange i expected =>
    "invalid value: integer `" ++ Json.Number.intText i ++ "`, expected " ++ expected
  | notOneWord => "invalid value: map, expected map with a single key"
  | unknownWord word known =>
    "unknown variant " ++ ticked word ++ ", expected " ++ choiceText known
  | missing field => "missing field " ++ ticked field
  | tooShort length record size =>
    "invalid length " ++ Nat.repr length ++ ", expected struct " ++ record ++ " with " ++
      elementsText size
  | tooLong length => "invalid length " ++ Nat.repr length ++ ", expected fewer elements in array"
  | tooLongFor length size =>
    "invalid length " ++ Nat.repr length ++ ", expected " ++ elementsText size ++ " in sequence"
  | noneOf name => "data did not match any variant of untagged enum " ++ name
  | badUri text cause => cause.message ++ ": " ++ Text.quoted text

end Mismatch
end Protocol
end EmbeddedSql
