import EmbeddedSql.Config.Basic
import EmbeddedSql.Config.Error

/-!
# Config.Decode — a configuration from values

Values of neighbouring kinds are taken as well: a number where a text is expected, a text where a
number or a truth value is.  A record may be written as a table or as the list of its settings in
order; settings that are not known are ignored.  Whatever is set is decoded before an absent setting
is complained about.

* `Config.Value.toText`, `Config.Value.toTruth`, `Config.Value.toUnsigned`,
  `Config.Value.toTexts` — leaves;
* `Config.Value.setting?`, `Config.Value.insist` — the settings of a record;
* `Config.ofValue` — the whole configuration.
-/

namespace EmbeddedSql
namespace Config

def unsignedMax : Nat := Nat.pow 2 64 - 1

namespace Value

/-! ## Leaves -/

/-- Refuse a value as a leaf. -/
def refuse {α : Type} (v : Value) (expected : Leaf) : Except Error α :=
  .error (.wrongLeaf (Found.ofValue v) expected [] v.origin)

def toText : Value → Except Error String
  | scalar _ (.str s) => .ok s
  | scalar _ (.bool b) => .ok (if b then "true" else "false")
  | scalar _ (.int i) => .ok (toString i)
  | scalar _ (.float f) => .ok f.display
  | v => v.refuse .text

def truthOfText? (s : String) : Option Bool :=
  if s ∈ ["1", "true", "on", "yes"] then some true
  else if s ∈ ["0", "false", "off", "no"] then some false
  else none

def toTruth : Value → Except Error Bool
  | scalar _ (.bool b) => .ok b
  | scalar _ (.int i) => .ok (i != 0)
  | scalar _ (.float f) => .ok !f.isZero
  | scalar o (.str s) =>
    match truthOfText? (Text.lowerString s) with
    | some b => .ok b
    -- The text was put into lower case to compare it, and that is what the message shows.
    | none => .error (.wrongLeaf (.scalar (.str (Text.lowerString s))) .truth [] o)
  | v => v.refuse .truth

/-- Digits, with at most a plus sign in front, as a number of 64 bits. -/
def unsignedOfDigits? (s : String) : Option Nat :=
  let ds :=
    match s.toList with
    | '+' :: rest => rest
    | cs => cs
  if ds.isEmpty || !ds.all Char.isDigit then none
  else
    let n := Path.digitsValue ds
    if n ≤ unsignedMax then some n else none

def unsignedOfText? (s : String) : Option Nat :=
  let l := Text.lowerString s
  if l ∈ ["true", "on", "yes"] then some 1
  else if l ∈ ["false", "off", "no"] then some 0
  else unsignedOfDigits? s

/-- A value as an unsigned number. -/
def toUnsigned : Value → Except Error Nat
  | scalar o (.int i) =>
    -- A negative integer is refused, a negative float below is cut off at zero.
    if 0 ≤ i then .ok i.toNat else .error (.wrongLeaf (.scalar (.int i)) .unsigned [] o)
  | scalar _ (.float f) => .ok (f.toNatSaturating unsignedMax)
  | scalar _ (.bool b) => .ok (if b then 1 else 0)
  | scalar o (.str s) =>
    match unsignedOfText? s with
    | some n => .ok n
    | none => .error (.wrongLeaf (.scalar (.str s)) .number [] o)
  | v => v.refuse .number

/-- Values as texts; the first has the given index. -/
def textsFrom : (index : Nat) → List Value → Except Error (List String)
  | _, [] => .ok []
  | index, v :: vs => do
    let s ← v.toText.mapError (·.under (.item index))
    let rest ← textsFrom (index + 1) vs
    return s :: rest

def toTexts : Value → Except Error (List String)
  | array _ items => textsFrom 0 items
  | v => .error (.notList (Found.ofValue v))

/-! ## Records -/

/-- The place of a setting in a record, with the step that leads there. -/
def find? (r : Record) (field : String) : Value → Except Error (Option (Step × Value))
  | table _ ms => .ok ((Assoc.get? field ms).map (.member field, ·))
  | array _ items =>
    -- In a list the settings stand in the order of the fields.
    let i := r.fields.idxOf field
    .ok (items[i]?.map (.item i, ·))
  | v => .error (.notRecord (Found.ofValue v) r)

/-- Decode a setting of a record, if it is set; an error names the step that leads to it. -/
def setting? {α : Type} (r : Record) (field : String) (decode : Value → Except Error α)
    (v : Value) : Except Error (Option α) := do
  match ← v.find? r field with
  | none => return none
  | some (step, setting) => return some (← (decode setting).mapError (·.under step))

/-- Insist on a setting.  The complaint about an absent one depends on how the record is written. -/
def insist {α : Type} (r : Record) (field : String) (v : Value) : Option α → Except Error α
  | some a => .ok a
  | none =>
    match v with
    | array _ items => .error (.tooShort items.length r)
    | _ => .error (.missing field)

/-- The color of each class.  A setting of the wrong kind is refused before an absent one. -/
def toColors (v : Value) : Except Error Colors := do
  let keywords ← v.setting? .colors "keywords" toText
  let parameters ← v.setting? .colors "parameters" toText
  let strings ← v.setting? .colors "strings" toText
  let numbers ← v.setting? .colors "numbers" toText
  let functions ← v.setting? .colors "functions" toText
  let booleans ← v.setting? .colors "booleans" toText
  let identifiers ← v.setting? .colors "identifiers" toText
  return {
    -- Only now is an absent setting complained about, the first in the order of the fields.
    keywords := ← v.insist .colors "keywords" keywords
    parameters := ← v.insist .colors "parameters" parameters
    strings := ← v.insist .colors "strings" strings
    numbers := ← v.insist .colors "numbers" numbers
    functions := ← v.insist .colors "functions" functions
    booleans := ← v.insist .colors "booleans" booleans
    identifiers := ← v.insist .colors "identifiers" identifiers }

def toBoldKeywords (v : Value) : Except Error Bool := do
  v.insist .keywords "bold" (← v.setting? .keywords "bold" toTruth)

def toHighlightSettings (v : Value) : Except Error HighlightSettings := do
  let delay ← v.setting? .highlight "debounce_ms" toUnsigned
  let languages ← v.setting? .highlight "languages" toTexts
  return {
    delay := ← v.insist .highlight "debounce_ms" delay
    languages := ← v.insist .highlight "languages" languages }

end Value

def ofValue (v : Value) : Except Error Config := do
  let colors ← v.setting? .whole "colors" Value.toColors
  let boldKeywords ← v.setting? .whole "keywords" Value.toBoldKeywords
  let highlight ← v.setting? .whole "highlight" Value.toHighlightSettings
  return {
    colors := ← v.insist .whole "colors" colors
    boldKeywords := ← v.insist .whole "keywords" boldKeywords
    highlight := ← v.insist .whole "highlight" highlight }

end Config
end EmbeddedSql
