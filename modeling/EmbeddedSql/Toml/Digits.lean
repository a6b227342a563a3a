/-!
# Toml.Digits — digits and the numbers they denote

* `Toml.hexDigit?` — the value of one digit;
* `Toml.digitsValue` — the number that digits denote in a base;
* `Toml.padded` — a number with at least so many digits.
-/

namespace EmbeddedSql
namespace Toml

def hexDigit? (c : Char) : Option Nat :=
  if c.isDigit then some (c.toNat - '0'.toNat)
  else if 'a' ≤ c ∧ c ≤ 'f' then some (c.toNat - 'a'.toNat + 10)
  else if 'A' ≤ c ∧ c ≤ 'F' then some (c.toNat - 'A'.toNat + 10)
  else none

def digitsValue (base : Nat) (ds : List Char) : Nat :=
  ds.foldl (fun n d => n * base + (hexDigit? d).getD 0) 0

/-- A number with at least so many digits. -/
def padded (width n : Nat) : String :=
  let ds := Nat.toDigits 10 n
  String.ofList (List.replicate (width - ds.length) '0' ++ ds)

end Toml
end EmbeddedSql
