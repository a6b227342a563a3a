import EmbeddedSql.Decimal.Binary64

/-!
# Shortest — the fewest digits that read back

* `Decimal` — digits and a power of ten;
* `Tie` — which of two decimals is taken that are equally near;
* `Decimal.shortest` — among the decimals that round to a double, one with the fewest digits, and of
  those the nearest;
* `Decimal.positional` — a decimal written without exponent;
* `Binary64.display` — the positional text of a double's shortest decimal.
-/

namespace EmbeddedSql

structure Decimal where
  digits : Nat
  exponent : Int
deriving DecidableEq, Repr, Inhabited

/-- Which of two decimals is taken that are equally near to a number. -/
inductive Tie where
  | up
  /-- The one whose last digit is even. -/
  | even
deriving DecidableEq, Repr

namespace Tie

/-- Whether the upper one of two neighbours is taken, given the digits of the lower one. -/
def takesUpper (tie : Tie) (below : Nat) : Bool :=
  match tie with
  | up => true
  | even => below % 2 == 1

end Tie

namespace Decimal

/-- The exponent `k` with `10 ^ (k - 1) ≤ num / den < 10 ^ k`, for a positive quotient. -/
def magnitude (num den : Nat) : Int :=
  if den ≤ num then (Nat.toDigits 10 (num / den)).length
  else 1 - ((Nat.toDigits 10 ((den - 1) / num)).length : Int)

/-- The decimal with trailing zeros moved into the exponent.  The fuel bounds their number. -/
def trimZeros : (fuel : Nat) → Decimal → Decimal
  | 0, d => d
  | fuel + 1, d =>
    if d.digits ≠ 0 ∧ d.digits % 10 = 0 then trimZeros fuel ⟨d.digits / 10, d.exponent + 1⟩ else d

/-- An interval of quotients with a common denominator, and a point in it. -/
structure Target where
  low : Nat
  value : Nat
  high : Nat
  den : Nat
  /-- Whether the ends belong to the interval. -/
  closed : Bool
deriving Repr

/-- Whether `c` steps of a grid hit the interval; `unit` is the size of a step and `scale` the
factor that brings the interval to the same denominator. -/
def Target.hits (t : Target) (scale unit c : Nat) : Bool :=
  let x := c * unit
  if t.closed then t.low * scale ≤ x && x ≤ t.high * scale
  else t.low * scale < x && x < t.high * scale

/-- The neighbour of the point on the grid of step `10 ^ e` that lies in the interval: the nearer
one if both do. -/
def Target.onGrid? (tie : Tie) (t : Target) (e : Int) : Option Decimal :=
  let scale := Nat.pow 10 (-e).toNat
  let unit := t.den * Nat.pow 10 e.toNat
  let below := t.value * scale / unit
  let rest := t.value * scale % unit
  match t.hits scale unit below, t.hits scale unit (below + 1) with
  | true, true =>
    let upper := unit < 2 * rest || (unit == 2 * rest && tie.takesUpper below)
    some ⟨if upper then below + 1 else below, e⟩
  | true, false => some ⟨below, e⟩
  | false, true => some ⟨below + 1, e⟩
  | false, false => none

/-- The first hit among the grids of `n`, `n + 1`, … digits. -/
def Target.search (tie : Tie) (t : Target) (k : Int) : (fuel n : Nat) → Decimal
  | 0, _ => ⟨t.value / t.den, 0⟩
  | fuel + 1, n =>
    match t.onGrid? tie (k - n) with
    | some d => d
    | none => t.search tie k fuel (n + 1)

/-- The decimals that round to `mantissa · 2 ^ exponent`. -/
def Target.ofBinary (mantissa : Nat) (exponent : Int) : Target :=
  let quarter := exponent - 2
  let factor := Nat.pow 2 quarter.toNat
  -- Below a power of two the next double is half as far away.
  let gap := if mantissa = Nat.pow 2 52 ∧ -1074 < exponent then 1 else 2
  { low := (4 * mantissa - gap) * factor
    value := 4 * mantissa * factor
    high := (4 * mantissa + 2) * factor
    den := Nat.pow 2 (-quarter).toNat
    -- Ties go to the even mantissa, so only then do the ends round to it.
    closed := mantissa % 2 == 0 }

def shortest (tie : Tie) (mantissa : Nat) (exponent : Int) : Decimal :=
  if mantissa = 0 then ⟨0, 0⟩
  else
    let t := Target.ofBinary mantissa exponent
    -- Seventeen digits always hit the interval.
    trimZeros 20 (t.search tie (magnitude t.value t.den) 17 1)

def positional (d : Decimal) : String :=
  let ds := Nat.toDigits 10 d.digits
  if 0 ≤ d.exponent then String.ofList (ds ++ List.replicate d.exponent.toNat '0')
  else
    let places := (-d.exponent).toNat
    if places < ds.length then
      String.ofList (ds.take (ds.length - places) ++ '.' :: ds.drop (ds.length - places))
    else String.ofList ('0' :: '.' :: List.replicate (places - ds.length) '0' ++ ds)

end Decimal

namespace Binary64

/-- The fewest digits that read back, a tie going up, written without exponent. -/
def display : Binary64 → String
  | nan => "NaN"
  | infinity negative => if negative then "-inf" else "inf"
  | finite negative m e =>
    (if negative then "-" else "") ++ (Decimal.shortest .up m e).positional

/-- As `display`, but a finite number always shows a decimal point. -/
def displayWithPoint (f : Binary64) : String :=
  match f with
  | finite _ _ _ => if f.display.contains '.' then f.display else f.display ++ ".0"
  | _ => f.display

end Binary64
end EmbeddedSql
