import EmbeddedSql.Decimal.Binary64
import EmbeddedSql.Text.Split

/-!
# Yaml.Scalar — texts as scalars of the YAML format

A text has four forms.  It is written plain if it is read back as that text; between single quotes
if it would be read as something else; between double quotes, with escapes, if some character cannot
be written as it is; and as a block of lines if it has line breaks.

* `Yaml.isAmbiguous` — texts that are read as null, as a truth value or as a number;
* `Yaml.Traits` — what decides about the form of a text;
* `Yaml.scalar` — the written text, with the line break behind it.
-/

namespace EmbeddedSql
namespace Yaml

/-! ## Texts that are read as something else -/

/-- A text without one sign in front. -/
def dropSign : List Char → List Char
  | '+' :: cs => cs
  | '-' :: cs => cs
  | cs => cs

def dropPlus : List Char → List Char
  | '+' :: cs => cs
  | cs => cs

def isRunOf (p : Char → Bool) (cs : List Char) : Bool :=
  !cs.isEmpty && cs.all p

def digitValue (c : Char) : Nat :=
  if c.isDigit then c.toNat - '0'.toNat else c.toLower.toNat - 'a'.toNat + 10

def isDigitOf (base : Nat) (c : Char) : Bool :=
  (c.isDigit || ('a' ≤ c.toLower && c.toLower ≤ 'f')) && digitValue c < base

def digitsValue (base : Nat) (cs : List Char) : Nat :=
  cs.foldl (fun n c => n * base + digitValue c) 0

/-- Digits that begin with a superfluous zero. -/
def isZeroLed (cs : List Char) : Bool :=
  match dropSign cs with
  | '0' :: rest => isRunOf Char.isDigit rest
  | _ => false

/-- An integer in base sixteen, eight or two, up to a bound. -/
def isBased (bound : Nat) (cs : List Char) : Bool :=
  let fits (base : Nat) (ds : List Char) : Bool :=
    isRunOf (isDigitOf base) ds && digitsValue base ds ≤ bound
  match cs with
  | '0' :: 'x' :: ds => fits 16 ds
  | '0' :: 'o' :: ds => fits 8 ds
  | '0' :: 'b' :: ds => fits 2 ds
  | _ => false

/-- A signed or unsigned integer of up to 128 bits in base sixteen, eight or two. -/
def isBasedInteger : List Char → Bool
  | '-' :: cs => isBased (Nat.pow 2 127) cs
  | cs => isBased (Nat.pow 2 128 - 1) (dropPlus cs)

/-- The exponent behind the digits of a number: none, or a mark, a sign and digits. -/
def exponent? : List Char → Option Int
  | [] => some 0
  | c :: cs =>
    if c = 'e' ∨ c = 'E' then
      let ds := dropSign cs
      if isRunOf Char.isDigit ds then
        let n : Int := digitsValue 10 ds
        some (if cs.head? = some '-' then -n else n)
      else none
    else none

/-- A decimal number that is not too large for a double. -/
def isFinite (cs : List Char) : Bool :=
  let whole := cs.takeWhile Char.isDigit
  let rest := cs.dropWhile Char.isDigit
  let (places, rest) :=
    match rest with
    | '.' :: cs => (cs.takeWhile Char.isDigit, cs.dropWhile Char.isDigit)
    | cs => ([], cs)
  if whole.isEmpty && places.isEmpty then false
  else
    match exponent? rest with
    | none => false
    | some e =>
      match Binary64.ofDecimal false (digitsValue 10 (whole ++ places)) (e - places.length) with
      | .finite _ _ _ => true
      | _ => false

/-- Texts that are read as null, as a truth value or as a number, and digits that begin with a
superfluous zero. -/
def isAmbiguous (s : List Char) : Bool :=
  s.isEmpty ||
    ["~", "null", "Null", "NULL", "true", "True", "TRUE", "false", "False", "FALSE", ".nan", ".NaN",
      ".NAN"].any (·.toList == s) ||
    [".inf", ".Inf", ".INF"].any (·.toList == dropSign s) ||
    isZeroLed s || isBasedInteger s || isFinite (dropSign s)

/-! ## What decides about the form -/

/-- Characters that can be written as they are. -/
def isPrintable (c : Char) : Bool :=
  let n := c.toNat
  n == 0x0A || (0x20 ≤ n && n ≤ 0x7E) || (0xA0 ≤ n && n ≤ 0xD7FF) ||
    (0xE000 ≤ n && n ≤ 0xFFFD && n != 0xFEFF) || 0x10000 ≤ n

/-- Line breaks. -/
def isBreak (c : Char) : Bool :=
  c == '\n' || c == '\r' || c.toNat == 0x85 || c.toNat == 0x2028 || c.toNat == 0x2029

/-- Spaces, tabs and line breaks. -/
def isBlank (c : Char) : Bool :=
  c == ' ' || c == '\t' || isBreak c

/-- Whether a text ends or goes on with a blank. -/
def blankNext (cs : List Char) : Bool :=
  (cs.head?.map isBlank).getD true

/-- Whether a text begins in a way that means something else than text. -/
def beginsSpecial : List Char → Bool
  | '-' :: '-' :: '-' :: _ => true
  | '.' :: '.' :: '.' :: _ => true
  | c :: cs =>
    "#,[]\x7b\x7d&*!|>'\"%@`".toList.contains c || ("?:-".toList.contains c && blankNext cs)
  | [] => false

/-- Whether a colon with a blank behind it, or a number sign with a blank in front of it, stands in
a text; `afterBlank` says whether a blank stands in front of the text. -/
def hasMark : (afterBlank : Bool) → List Char → Bool
  | _, [] => false
  | afterBlank, c :: cs =>
    (c == ':' && blankNext cs) || (c == '#' && afterBlank) || hasMark (isBlank c) cs

/-- Whether a character that satisfies `p` stands directly in front of one that satisfies `q`. -/
def hasPair (p q : Char → Bool) : List Char → Bool
  | c :: d :: cs => (p c && q d) || hasPair p q (d :: cs)
  | _ => false

/-- What decides about the form of a text. -/
structure Traits where
  /-- A character that cannot be written as it is, or a space in front of a line break. -/
  special : Bool
  /-- A space behind a line break. -/
  indented : Bool
  /-- A space at the end. -/
  trailing : Bool
  /-- Anything that keeps the text from being written plain. -/
  marked : Bool

def Traits.of (s : List Char) : Traits :=
  let isSpace (c : Char) : Bool := c == ' '
  { special := s.any (!isPrintable ·) || hasPair isSpace isBreak s
    indented := hasPair isBreak isSpace s
    trailing := s.getLast? == some ' '
    marked := beginsSpecial s || hasMark false s || s.any isBreak || s.head? == some ' ' ||
      s.getLast? == some ' ' }

/-! ## The four forms -/

/-- Further lines of a scalar are indented by this much. -/
def margin : List Char :=
  List.replicate 4 ' '

/-- A text between single quotes, from a character on; `afterBreak` says whether a line break stands
in front of it. -/
def singleFrom : (afterBreak : Bool) → List Char → List Char
  | afterBreak, [] => if afterBreak then margin ++ ['\''] else ['\'']
  | afterBreak, c :: cs =>
    if isBreak c then c :: singleFrom true cs
    else
      (if afterBreak then margin else []) ++ (if c = '\'' then ['\'', '\''] else [c]) ++
        singleFrom false cs

def single (s : List Char) : List Char :=
  '\'' :: singleFrom false s

/-- A number as so many hexadecimal digits, in capitals. -/
def hex (width n : Nat) : List Char :=
  let ds := (Nat.toDigits 16 n).map Char.toUpper
  List.replicate (width - ds.length) '0' ++ ds

def escapeChar (c : Char) : List Char :=
  let n := c.toNat
  if isPrintable c && !isBreak c && c != '"' && c != '\\' then [c]
  else if n = 0x00 then ['\\', '0']
  else if n = 0x07 then ['\\', 'a']
  else if n = 0x08 then ['\\', 'b']
  else if n = 0x09 then ['\\', 't']
  else if n = 0x0A then ['\\', 'n']
  else if n = 0x0B then ['\\', 'v']
  else if n = 0x0C then ['\\', 'f']
  else if n = 0x0D then ['\\', 'r']
  else if n = 0x1B then ['\\', 'e']
  else if n = 0x22 then ['\\', '"']
  else if n = 0x5C then ['\\', '\\']
  else if n = 0x85 then ['\\', 'N']
  else if n = 0x2028 then ['\\', 'L']
  else if n = 0x2029 then ['\\', 'P']
  else if n ≤ 0xFF then '\\' :: 'x' :: hex 2 n
  else if n ≤ 0xFFFF then '\\' :: 'u' :: hex 4 n
  else '\\' :: 'U' :: hex 8 n

def double (s : List Char) : List Char :=
  '"' :: s.flatMap escapeChar ++ ['"']

/-- What follows the bar of a block: a depth if the text begins with a blank, then how line breaks
at its end count. -/
def blockHeader (s : List Char) : List Char :=
  let depth := if (s.head?.map fun c => c == ' ' || isBreak c).getD false then ['2'] else []
  let ending :=
    match s.reverse with
    | [] => ['-']
    | [c] => if isBreak c then ['+'] else ['-']
    | c :: d :: _ => if isBreak c then (if isBreak d then ['+'] else []) else ['-']
  depth ++ ending

/-- The lines of a block, from a character on; `afterBreak` says whether a line begins there. -/
def blockFrom : (afterBreak : Bool) → List Char → List Char
  | _, [] => []
  | afterBreak, c :: cs =>
    if isBreak c then c :: blockFrom true cs
    else (if afterBreak then margin else []) ++ c :: blockFrom false cs

def block (s : List Char) : List Char :=
  '|' :: blockHeader s ++ '\n' :: blockFrom true s

def written (s : List Char) : List Char :=
  let t := Traits.of s
  let quoted := if t.special || t.indented then double s else single s
  if s.contains '\n' then
    -- A block cannot show a space at its end.
    if t.special || t.trailing then double s else block s
  else if isAmbiguous s || t.marked || t.special then quoted
  else s

/-- The written text, with the line break behind it unless it ends with one. -/
def scalar (s : List Char) : List Char :=
  let w := written s
  -- A block brings the break of its last line along.
  if (w.getLast?.map isBreak).getD false then w else w ++ ['\n']

end Yaml
end EmbeddedSql
