/-!
# Binary64 — double-precision numbers by their mantissa and exponent

A double is kept as a sign and `mantissa · 2 ^ exponent`, so that reading, printing and rounding are
exact arithmetic on natural numbers.

* `Binary64` — finite numbers, infinities and the one not-a-number;
* `Binary64.ofRatio` — the double nearest to a quotient, ties to even;
* `Binary64.mul`, `Binary64.div` — rounded products and quotients of finite numbers;
* `Binary64.toNatSaturating` — the nearest natural number below a bound, ties away from zero.

`ofRatio` gives the mantissa 53 bits, or fewer for the smallest numbers, whose exponent is -1074.
-/

namespace EmbeddedSql

inductive Binary64 where
  | nan
  | infinity (negative : Bool)
  /-- `mantissa · 2 ^ exponent`, with its sign. -/
  | finite (negative : Bool) (mantissa : Nat) (exponent : Int)
deriving DecidableEq, Repr, Inhabited

namespace Binary64

/-- The quotient rounded to the nearest integer, a tie to the even one. -/
def roundDiv (num den : Nat) : Nat :=
  let q := num / den
  let r := num % den
  if den < 2 * r ∨ (2 * r = den ∧ q % 2 = 1) then q + 1 else q

/-- `n` times two to the power `e`, as numerator and denominator. -/
def scaled (n : Nat) (e : Int) : Nat × Nat :=
  if 0 ≤ e then (n * Nat.pow 2 e.toNat, 1) else (n, Nat.pow 2 (-e).toNat)

/-- The exponent `e` with `2 ^ e ≤ num / den < 2 ^ (e + 1)`. -/
def floorLog2 (num den : Nat) : Int :=
  let l : Int := (Nat.log2 num : Int) - Nat.log2 den
  -- The logarithms are rounded down one by one, so their difference can be one too large.
  let atLeast := if 0 ≤ l then den * Nat.pow 2 l.toNat ≤ num else den ≤ num * Nat.pow 2 (-l).toNat
  if atLeast then l else l - 1

/-- The double nearest to `num / den`, ties to even. -/
def ofRatio (negative : Bool) (num den : Nat) : Binary64 :=
  if num = 0 then finite negative 0 (-1074)
  else
    let q := max (floorLog2 num den - 52) (-1074)
    let m :=
      if 0 ≤ q then roundDiv num (den * Nat.pow 2 q.toNat)
      else roundDiv (num * Nat.pow 2 (-q).toNat) den
    -- Rounding up can need a bit more.
    let (m, q) := if m = Nat.pow 2 53 then (Nat.pow 2 52, q + 1) else (m, q)
    if 971 < q then infinity negative else finite negative m q

def ofDecimal (negative : Bool) (digits : Nat) (exponent : Int) : Binary64 :=
  if digits = 0 then finite negative 0 (-1074)
  -- Far outside the range of doubles no power of ten is computed.
  else if 400 < exponent then infinity negative
  else if exponent < -400 - (Nat.log2 digits : Int) then finite negative 0 (-1074)
  else if 0 ≤ exponent then ofRatio negative (digits * Nat.pow 10 exponent.toNat) 1
  else ofRatio negative digits (Nat.pow 10 (-exponent).toNat)

def ofInt (i : Int) : Binary64 :=
  ofRatio (i < 0) i.natAbs 1

def neg : Binary64 → Binary64
  | nan => nan
  | infinity s => infinity (!s)
  | finite s m e => finite (!s) m e

/-- The rounded product of two finite numbers; not a number otherwise. -/
def mul : Binary64 → Binary64 → Binary64
  | finite s m e, finite t n f =>
    let (num, den) := scaled (m * n) (e + f)
    ofRatio (s != t) num den
  | _, _ => nan

/-- The rounded quotient of two finite numbers; not a number otherwise or if the divisor is zero. -/
def div : Binary64 → Binary64 → Binary64
  | finite s m e, finite t n f =>
    if n = 0 then nan
    else
      let (num, den) := scaled m (e - f)
      ofRatio (s != t) num (den * n)
  | _, _ => nan

def isZero : Binary64 → Bool
  | finite _ m _ => m == 0
  | _ => false

/-- The nearest natural number, a tie away from zero, cut off at zero and at `bound`. -/
def toNatSaturating (bound : Nat) : Binary64 → Nat
  | nan => 0
  | infinity negative => if negative then 0 else bound
  | finite true _ _ => 0
  | finite false m e =>
    let (num, den) := scaled m e
    min bound ((2 * num + den) / (2 * den))

end Binary64
end EmbeddedSql
