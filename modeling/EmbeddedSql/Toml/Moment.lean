import EmbeddedSql.Toml.Digits

/-!
# Toml.Moment — dates and times of the TOML format

Each reader takes a text and gives what it read, in normal form, and the text behind it.

* `Toml.Rigor` — how strictly hours and distances are checked;
* `Toml.date?`, `Toml.time?`, `Toml.offset?` — the parts;
* `Toml.moment?` — a date, a time of day, or both;
* `Toml.momentOfText?` — the moment that a whole text denotes.
-/

namespace EmbeddedSql
namespace Toml

/-- How strictly hours and distances from universal time are checked. -/
inductive Rigor where
  /-- As in documents: hours end at 23. -/
  | document
  /-- As in texts that are marked as moments: hours end at 24, and a distance may be written in any
  number of minutes up to a day. -/
  | marked
deriving DecidableEq, Repr

namespace Rigor

def lastHour : Rigor → Nat
  | document => 23
  | marked => 24

/-- Whether hours and minutes make a distance from universal time. -/
def allows (rigor : Rigor) (hour minute : Nat) : Bool :=
  match rigor with
  | document => hour ≤ 23 && minute ≤ 59
  | marked => hour * 60 + minute ≤ 24 * 60

end Rigor

/-- A number of two digits between bounds. -/
def twoDigits? (least most : Nat) : List Char → Option (Nat × List Char)
  | a :: b :: cs =>
    if a.isDigit && b.isDigit then
      let n := digitsValue 10 [a, b]
      if least ≤ n && n ≤ most then some (n, cs) else none
    else none
  | _ => none

/-! ## Dates -/

def daysIn (year month : Nat) : Nat :=
  if month = 2 then
    if year % 4 = 0 ∧ (year % 100 ≠ 0 ∨ year % 400 = 0) then 29 else 28
  else if month ∈ [4, 6, 9, 11] then 30
  else 31

def date? : List Char → Option (String × List Char)
  | a :: b :: c :: d :: '-' :: cs =>
    if [a, b, c, d].all Char.isDigit then do
      let year := digitsValue 10 [a, b, c, d]
      let (month, rest) ← twoDigits? 1 12 cs
      match rest with
      | '-' :: cs =>
        let (day, rest) ← twoDigits? 1 (daysIn year month) cs
        some (padded 4 year ++ "-" ++ padded 2 month ++ "-" ++ padded 2 day, rest)
      | _ => none
    else none
  | _ => none

/-! ## Times -/

/-- Fractions of a second, to nine places and without zeros at the end. -/
def secondFraction? : List Char → Option (String × List Char)
  | '.' :: cs =>
    let ds := cs.takeWhile Char.isDigit
    if ds.isEmpty then none
    else
      let shown := ((ds.take 9).reverse.dropWhile (· == '0')).reverse
      let text := if shown.isEmpty then "" else "." ++ String.ofList shown
      some (text, cs.dropWhile Char.isDigit)
  | cs => some ("", cs)

def time? (rigor : Rigor) (cs : List Char) : Option (String × List Char) := do
  let (hour, rest) ← twoDigits? 0 rigor.lastHour cs
  match rest with
  | ':' :: cs =>
    let (minute, rest) ← twoDigits? 0 59 cs
    match rest with
    | ':' :: cs =>
      -- A minute can have a leap second.
      let (second, rest) ← twoDigits? 0 60 cs
      let (places, rest) ← secondFraction? rest
      some (padded 2 hour ++ ":" ++ padded 2 minute ++ ":" ++ padded 2 second ++ places, rest)
    | _ => none
  | _ => none

/-- Hours and minutes of a distance from universal time. -/
def offsetBody? (rigor : Rigor) (sign : String) (cs : List Char) :
    Option (String × List Char) := do
  let (hour, rest) ← twoDigits? 0 99 cs
  match rest with
  | ':' :: cs =>
    let (minute, rest) ← twoDigits? 0 99 cs
    let total := hour * 60 + minute
    if rigor.allows hour minute then
      -- There is no distance -00:00.
      let sign := if total = 0 then "+" else sign
      some (sign ++ padded 2 (total / 60) ++ ":" ++ padded 2 (total % 60), rest)
    else none
  | _ => none

/-- The distance from universal time that a text begins with, if any. -/
def offset? (rigor : Rigor) : List Char → Option (String × List Char)
  | 'Z' :: cs => some ("Z", cs)
  | 'z' :: cs => some ("Z", cs)
  | '+' :: cs => offsetBody? rigor "+" cs
  | '-' :: cs => offsetBody? rigor "-" cs
  | cs => some ("", cs)

/-- The time of day behind a date, if there is one. -/
def timeBehindDate? (rigor : Rigor) : List Char → Option (String × List Char)
  | c :: cs =>
    if c == 'T' || c == 't' || c == ' ' then do
      let (time, rest) ← time? rigor cs
      let (distance, rest) ← offset? rigor rest
      some ("T" ++ time ++ distance, rest)
    else none
  | [] => none

/-! ## Moments -/

def momentBy? (rigor : Rigor) (cs : List Char) : Option (String × List Char) :=
  match date? cs with
  | some (date, rest) =>
    match timeBehindDate? rigor rest with
    | some (time, rest) => some (date ++ time, rest)
    -- What looks like a time but is none is left to the reader of what follows.
    | none => some (date, rest)
  | none => time? rigor cs

def moment? (cs : List Char) : Option (String × List Char) :=
  momentBy? .document cs

/-- The moment that a whole text denotes which is marked as one. -/
def momentOfText? (s : String) : Option String :=
  match momentBy? .marked s.toList with
  | some (text, []) => some text
  | _ => none

end Toml
end EmbeddedSql
