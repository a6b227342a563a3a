import EmbeddedSql.Json.Basic

/-!
# Json.Reader — values from text

* `Json.Number.ofParts?` — the number that sign, digits and exponent denote;
* `Json.Reader.string?` — the text of a string literal;
* `Json.Reader.value?` — one value and the text behind it;
* `Json.parse?` — the value that a whole text denotes.

The members of an object are put in the order of their names; of several with one name the last one
counts.

A number with neither fraction nor exponent is an integer if it fits 64 bits.  Any other number is
read as a double in two steps: as many digits as fit 64 bits are taken as a double, which is then
multiplied or divided by a power of ten.  The two roundings may differ from one rounding of the
exact value in the last place.
-/

namespace EmbeddedSql
namespace Json

/-! ## Numbers -/

namespace Number

def wordBound : Nat := Nat.pow 2 64

/-- Append digits to a number as long as it stays below `wordBound`; the digits that are left. -/
def pushDigits : Nat → List Nat → Nat × List Nat
  | n, [] => (n, [])
  | n, d :: ds => if n * 10 + d < wordBound then pushDigits (n * 10 + d) ds else (n, d :: ds)

/-- A double times ten to a power, in steps of at most 308; nothing if it leaves the range.  The
fuel bounds the number of steps. -/
def scale? : (fuel : Nat) → Binary64 → Int → Option Binary64
  | 0, f, _ => some f
  | fuel + 1, f, e =>
    if e.natAbs ≤ 308 then
      let power := Binary64.ofRatio false (Nat.pow 10 e.natAbs) 1
      if 0 ≤ e then
        match f.mul power with
        | .infinity _ => none
        | g => some g
      else some (f.div power)
    else if f.isZero then some f
    else if 0 ≤ e then none
    -- Too small for one step; each division brings the exponent nearer to zero.
    else scale? fuel (f.div (Binary64.ofRatio false (Nat.pow 10 308) 1)) (e + 308)

/-- A decimal as a double, by scaling the double nearest to its digits. -/
def scaled? (negative : Bool) (digits : Nat) (exponent : Int) : Option Binary64 :=
  (scale? 8 (Binary64.ofRatio false digits 1) exponent).map fun f => if negative then f.neg else f

def ofParts? (negative : Bool) (whole : List Nat) (fraction : Option (List Nat))
    (power : Option Int) : Option Number :=
  let (n, excess) := pushDigits 0 whole
  match fraction, power, excess with
  | none, none, [] =>
    if !negative then some (.int n)
    -- There is no integer -0, and none below -2 ^ 63; these are read as doubles.
    else if n = 0 ∨ Nat.pow 2 63 < n then (scaled? true n 0).map .float
    else some (.int (-n))
  | _, _, _ =>
    let places := fraction.getD []
    let (m, dropped) := pushDigits n places
    let taken : Int := places.length - dropped.length
    (scaled? negative m (excess.length - taken + power.getD 0)).map .float

end Number

namespace Reader

def skipBlank (t : List Char) : List Char :=
  t.dropWhile fun c => c == ' ' || c == '\n' || c == '\t' || c == '\r'

def digitValue (c : Char) : Nat :=
  c.toNat - '0'.toNat

def digits (t : List Char) : List Nat × List Char :=
  ((t.takeWhile Char.isDigit).map digitValue, t.dropWhile Char.isDigit)

/-- The fraction that a text begins with, if any.  A point needs a digit behind it. -/
def fraction? : List Char → Option (Option (List Nat) × List Char)
  | '.' :: cs =>
    match digits cs with
    | ([], _) => none
    | (ds, rest) => some (some ds, rest)
  | cs => some (none, cs)

/-- The digits of a power of ten, with its sign. -/
def signedPower? (negative : Bool) (cs : List Char) : Option (Option Int × List Char) :=
  match digits cs with
  | ([], _) => none
  | (ds, rest) =>
    let n : Nat := ds.foldl (fun n d => n * 10 + d) 0
    some (some (if negative then -(n : Int) else n), rest)

def power? : List Char → Option (Option Int × List Char)
  | 'e' :: '-' :: cs => signedPower? true cs
  | 'e' :: '+' :: cs => signedPower? false cs
  | 'e' :: cs => signedPower? false cs
  | 'E' :: '-' :: cs => signedPower? true cs
  | 'E' :: '+' :: cs => signedPower? false cs
  | 'E' :: cs => signedPower? false cs
  | cs => some (none, cs)

/-- A number without its sign, and the text behind it. -/
def number? (negative : Bool) (cs : List Char) : Option (Json × List Char) :=
  match digits cs with
  | ([], _) => none
  -- A zero in front of other digits is refused.
  | (0 :: _ :: _, _) => none
  | (whole, rest) => do
    let (places, rest) ← fraction? rest
    let (power, rest) ← power? rest
    let n ← Number.ofParts? negative whole places power
    some (num n, rest)

/-! ## Strings -/

def hexValue? (c : Char) : Option Nat :=
  if c.isDigit then some (c.toNat - '0'.toNat)
  else if 'a' ≤ c ∧ c ≤ 'f' then some (c.toNat - 'a'.toNat + 10)
  else if 'A' ≤ c ∧ c ≤ 'F' then some (c.toNat - 'A'.toNat + 10)
  else none

def unit? (a b c d : Char) : Option Nat := do
  let a ← hexValue? a
  let b ← hexValue? b
  let c ← hexValue? c
  let d ← hexValue? d
  some (((a * 16 + b) * 16 + c) * 16 + d)

def escape? : Char → Option Char
  | '"' => some '"'
  | '\\' => some '\\'
  | '/' => some '/'
  | 'b' => some '\x08'
  | 'f' => some '\x0c'
  | 'n' => some '\n'
  | 'r' => some '\r'
  | 't' => some '\t'
  | _ => none

/-- The text of a string up to its closing quote, in reverse behind `done`, and the rest.  `high` is
the first half of a surrogate pair that waits for the second. -/
def string? : (high : Option Nat) → (done : List Char) → List Char → Option (List Char × List Char)
  | _, _, [] => none
  | high, done, '\\' :: 'u' :: a :: b :: c :: d :: cs =>
    match high, unit? a b c d with
    | _, none => none
    | none, some n =>
      if 0xD800 ≤ n ∧ n < 0xDC00 then string? (some n) done cs
      -- A second half without its first.
      else if 0xDC00 ≤ n ∧ n < 0xE000 then none
      else string? none (Char.ofNat n :: done) cs
    | some h, some n =>
      if 0xDC00 ≤ n ∧ n < 0xE000 then
        string? none (Char.ofNat (0x10000 + (h - 0xD800) * 0x400 + (n - 0xDC00)) :: done) cs
      else none
  -- Anything but another `\u` leaves the first half alone.
  | some _, _, _ => none
  | none, done, '"' :: cs => some (done.reverse, cs)
  | none, done, '\\' :: e :: cs =>
    match escape? e with
    | some c => string? none (c :: done) cs
    | none => none
  | none, done, c :: cs => if c.toNat < 0x20 ∨ c = '\\' then none else string? none (c :: done) cs

/-! ## Values -/

/-- The members of an object in the order of their names. -/
def byName (members : List (String × Json)) : List (String × Json) :=
  members.mergeSort fun a b => decide (a.1 ≤ b.1)

mutual

/-- One value and the text behind it.  The fuel bounds the depth of nesting plus the number of items
read. -/
def value? : (fuel : Nat) → List Char → Option (Json × List Char)
  | 0, _ => none
  | fuel + 1, t =>
    match skipBlank t with
    | 'n' :: 'u' :: 'l' :: 'l' :: cs => some (null, cs)
    | 't' :: 'r' :: 'u' :: 'e' :: cs => some (bool true, cs)
    | 'f' :: 'a' :: 'l' :: 's' :: 'e' :: cs => some (bool false, cs)
    | '"' :: cs => (string? none [] cs).map fun (s, rest) => (chars s, rest)
    | '[' :: cs =>
      match skipBlank cs with
      | ']' :: rest => some (arr [], rest)
      | cs => items? fuel [] cs
    | '{' :: cs =>
      match skipBlank cs with
      | '}' :: rest => some (obj [], rest)
      | cs => members? fuel [] cs
    | '-' :: cs => number? true cs
    | cs => number? false cs

def items? : (fuel : Nat) → (done : List Json) → List Char → Option (Json × List Char)
  | 0, _, _ => none
  | fuel + 1, done, t =>
    match value? fuel t with
    | none => none
    | some (v, rest) =>
      match skipBlank rest with
      | ',' :: cs => items? fuel (v :: done) cs
      | ']' :: cs => some (arr (v :: done).reverse, cs)
      | _ => none

def members? : (fuel : Nat) → (done : List (String × Json)) → List Char →
    Option (Json × List Char)
  | 0, _, _ => none
  | fuel + 1, done, t =>
    match skipBlank t with
    | '"' :: cs =>
      match string? none [] cs with
      | none => none
      | some (name, rest) =>
        match skipBlank rest with
        | ':' :: cs =>
          match value? fuel cs with
          | none => none
          | some (v, rest) =>
            -- A name that is there already gets the later value.
            let done := Assoc.set (String.ofList name) v done
            match skipBlank rest with
            | ',' :: cs => members? fuel done cs
            | '}' :: cs => some (obj (byName done), cs)
            | _ => none
        | _ => none
    | _ => none

end

end Reader

def parse? (s : String) : Option Json :=
  let t := s.toList
  match Reader.value? (t.length + 1) t with
  | some (v, rest) => if Reader.skipBlank rest = [] then some v else none
  | none => none

end Json
end EmbeddedSql
