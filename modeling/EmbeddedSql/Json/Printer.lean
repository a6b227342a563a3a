import EmbeddedSql.Decimal.Shortest
import EmbeddedSql.Json.Basic

/-!
# Json.Printer — text from values

* `Json.quote` — a string literal;
* `Json.compress` — a value on one line, without blanks;
* `Json.pretty` — a value over several lines, each level indented by two spaces.
-/

namespace EmbeddedSql
namespace Json

/-! ## Strings -/

def escapeChar (c : Char) : List Char :=
  match c with
  | '"' => ['\\', '"']
  | '\\' => ['\\', '\\']
  | '\x08' => ['\\', 'b']
  | '\x0c' => ['\\', 'f']
  | '\n' => ['\\', 'n']
  | '\r' => ['\\', 'r']
  | '\t' => ['\\', 't']
  | c =>
    if c.toNat < 0x20 then
      ['\\', 'u', '0', '0', Nat.digitChar (c.toNat / 16), Nat.digitChar (c.toNat % 16)]
    -- Other characters stand for themselves, also those beyond ASCII.
    else [c]

def quote (s : String) : String :=
  "\"" ++ String.ofList (s.toList.flatMap escapeChar) ++ "\""

/-! ## Numbers -/

def Number.intText (i : Int) : String :=
  if i < 0 then "-" ++ Nat.repr i.natAbs else Nat.repr i.natAbs

/-- The text of an exponent, with its sign. -/
def Number.exponentText (i : Int) : String :=
  if i < 0 then "e-" ++ Nat.repr i.natAbs else "e+" ++ Nat.repr i.natAbs

/-- The text of a decimal.  Up to sixteen places in front of the point and up to four zeros behind
it are written out, all else with an exponent; a point or an exponent is always there. -/
def Number.decimalText (d : Decimal) : String :=
  let ds := Nat.toDigits 10 d.digits
  let point : Int := ds.length + d.exponent
  if (0 ≤ d.exponent ∧ point ≤ 16) ∨ d.digits = 0 then d.positional ++ ".0"
  else if -5 < point ∧ point ≤ 16 then d.positional
  else
    -- One digit in front of the point, the others behind it.
    let places := ds.drop 1
    String.ofList (ds.take 1 ++ (if places.isEmpty then [] else '.' :: places)) ++
      exponentText (point - 1)

/-- The text of a number.  A double has the fewest digits that read back, a tie going to the even
digit. -/
def Number.text : Number → String
  | .int i => intText i
  | .float (.finite negative m e) =>
    (if negative then "-" else "") ++ decimalText (Decimal.shortest .even m e)
  -- JSON has no infinities and nothing that is not a number.
  | .float _ => "null"

/-! ## Values -/

mutual

def compress : Json → String
  | null => "null"
  | bool b => if b then "true" else "false"
  | num n => n.text
  | str s => quote s
  | arr items => "[" ++ ",".intercalate (compressItems items) ++ "]"
  | obj members => "\x7b" ++ ",".intercalate (compressMembers members) ++ "\x7d"

def compressItems : List Json → List String
  | [] => []
  | v :: vs => compress v :: compressItems vs

def compressMembers : List (String × Json) → List String
  | [] => []
  | (name, v) :: rest => (quote name ++ ":" ++ compress v) :: compressMembers rest

end

/-- A line break and the indentation of a level. -/
def newline (level : Nat) : String :=
  "\n" ++ String.ofList (List.replicate (2 * level) ' ')

/-- Entries between two brackets, each on lines of its own one level deeper; the brackets alone if
there are none. -/
def block (left right : String) (level : Nat) (entries : List String) : String :=
  if entries.isEmpty then left ++ right
  else
    let gap := newline (level + 1)
    left ++ gap ++ ("," ++ gap).intercalate entries ++ newline level ++ right

mutual

def prettyAt (level : Nat) : Json → String
  | null => "null"
  | bool b => if b then "true" else "false"
  | num n => n.text
  | str s => quote s
  | arr items => block "[" "]" level (prettyItems (level + 1) items)
  | obj members => block "\x7b" "\x7d" level (prettyMembers (level + 1) members)

def prettyItems (level : Nat) : List Json → List String
  | [] => []
  | v :: vs => prettyAt level v :: prettyItems level vs

def prettyMembers (level : Nat) : List (String × Json) → List String
  | [] => []
  | (name, v) :: rest => (quote name ++ ": " ++ prettyAt level v) :: prettyMembers level rest

end

def pretty (v : Json) : String :=
  prettyAt 0 v

end Json
end EmbeddedSql
