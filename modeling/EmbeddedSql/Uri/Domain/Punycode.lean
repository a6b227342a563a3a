/-!
# Uri.Domain.Punycode — texts in letters, digits and hyphens

A label of a domain name that is not ASCII is written in ASCII: first its ASCII characters, then,
behind a hyphen, where the others go.  These are told in the order of their code points, each as the
distance from the one before, in digits whose weights adapt to the distances seen so far.

* `Uri.Punycode.encode` — a label in ASCII;
* `Uri.Punycode.decode?` — the label that ASCII characters stand for.
-/

namespace EmbeddedSql
namespace Uri
namespace Punycode

/-! ## Digits -/

/-- A digit in base 36: letters, then decimal digits. -/
def digit (n : Nat) : Char :=
  if n < 26 then Char.ofNat ('a'.toNat + n) else Char.ofNat ('0'.toNat + (n - 26))

def digitValue? (c : Char) : Option Nat :=
  if 'a' ≤ c ∧ c ≤ 'z' then some (c.toNat - 'a'.toNat)
  else if 'A' ≤ c ∧ c ≤ 'Z' then some (c.toNat - 'A'.toNat)
  else if '0' ≤ c ∧ c ≤ '9' then some (c.toNat - '0'.toNat + 26)
  else none

/-- The least value of the digit at a place that is not the last one of its number. -/
def threshold (place bias : Nat) : Nat :=
  max 1 (min 26 (36 * (place + 1) - bias))

/-- Divide a distance down to the size of two digits, counting the divisions. -/
def shrink : (fuel : Nat) → (distance count : Nat) → Nat × Nat
  | 0, distance, count => (distance, count)
  | fuel + 1, distance, count =>
    if 455 < distance then shrink fuel (distance / 35) (count + 1) else (distance, count)

/-- The bias after a distance; `count` is the number of characters placed by then. -/
def adapt (distance count : Nat) (first : Bool) : Nat :=
  let distance := if first then distance / 700 else distance / 2
  let (distance, divisions) := shrink 32 (distance + distance / count) 0
  36 * divisions + 36 * distance / (distance + 38)

/-- A number in digits, from the given place on.  The fuel bounds their number. -/
def numberDigits (bias : Nat) : (fuel place n : Nat) → List Char
  | 0, _, _ => []
  | fuel + 1, place, n =>
    let t := threshold place bias
    if n < t then [digit n]
    else
      digit (t + (n - t) % (36 - t)) :: numberDigits bias fuel (place + 1) ((n - t) / (36 - t))

/-! ## Writing -/

/-- What has been written, and what the next distance depends on. -/
structure Progress where
  /-- The digits written, the last one first. -/
  written : List Char
  distance : Nat
  bias : Nat
  /-- How many characters have been placed. -/
  placed : Nat
  first : Bool

namespace Progress

/-- Pass a character while the places of the code point `point` are told. -/
def pass (point : Nat) (p : Progress) (c : Char) : Progress :=
  if c.toNat < point then { p with distance := p.distance + 1 }
  else if c.toNat = point then
    -- The character goes here: its distance is told and counting starts again.
    { written := (numberDigits p.bias 32 0 p.distance).reverse ++ p.written
      distance := 0
      bias := adapt p.distance (p.placed + 1) p.first
      placed := p.placed + 1
      first := false }
  else p

/-- Tell the places of several code points, in increasing order, of which `next` is the least that
can come. -/
def points (t : List Char) (p : Progress) (next : Nat) : List Nat → Progress
  | [] => p
  | point :: rest =>
    let p := { p with distance := p.distance + (point - next) * (p.placed + 1) }
    let p := t.foldl (pass point) p
    points t { p with distance := p.distance + 1 } (point + 1) rest

end Progress

def isBasic (c : Char) : Bool :=
  c.toNat < 0x80

def encode (t : List Char) : List Char :=
  let basic := t.filter isBasic
  let others := ((t.filter (!isBasic ·)).map Char.toNat).mergeSort.eraseDups
  let start : Progress := ⟨[], 0, 72, basic.length, true⟩
  basic ++ (if basic.isEmpty then [] else ['-']) ++ (start.points t 0x80 others).written.reverse

/-! ## Reading -/

/-- A number that digits begin with, from the given place and weight on, and the rest. -/
def readNumber? (bias : Nat) : (place weight : Nat) → List Char → Option (Nat × List Char)
  | _, _, [] => none
  | place, weight, c :: cs =>
    match digitValue? c with
    | none => none
    | some d =>
      let t := threshold place bias
      if d < t then some (d * weight, cs)
      else (readNumber? bias (place + 1) (weight * (36 - t)) cs).map fun (n, rest) =>
        (d * weight + n, rest)

/-- Place the characters that digits tell among those placed so far.  The fuel bounds their number.
-/
def place? : (fuel : Nat) → (done : List Char) → (point index bias : Nat) → (first : Bool) →
    List Char → Option (List Char)
  | _, done, _, _, _, _, [] => some done
  | 0, _, _, _, _, _, _ => none
  | fuel + 1, done, point, index, bias, first, c :: cs =>
    match readNumber? bias 0 1 (c :: cs) with
    | none => none
    | some (distance, rest) =>
      let size := done.length + 1
      let total := index + distance
      let point := point + total / size
      let index := total % size
      if h : point.isValidChar then
        place? fuel (done.insertIdx index (Char.ofNatAux point h)) point (index + 1)
          (adapt distance size first) false rest
      else none

def decode? (t : List Char) : Option (List Char) :=
  -- The last hyphen ends the ASCII characters; earlier ones are among them.
  let basic := if t.contains '-' then (t.reverse.dropWhile (· != '-')).tail.reverse else []
  let digits := if basic.isEmpty then t else (t.reverse.takeWhile (· != '-')).reverse
  if basic.all isBasic then place? (digits.length + 1) basic 0x80 0 72 true digits else none

end Punycode
end Uri
end EmbeddedSql
