import EmbeddedSql.Assoc
import EmbeddedSql.Decimal.Binary64

/-!
# Json — values of the JSON data format

* `Json` — the values; objects keep the order of their members;
* `Json.Number` — integers of 64 bits, signed or unsigned, and doubles for all other numbers;
* `Json.get?` — the member of an object.
-/

namespace EmbeddedSql

/-- A JSON number: an integer that fits 64 bits, or a double. -/
inductive Json.Number where
  | int (i : Int)
  | float (f : Binary64)
deriving DecidableEq, Repr

inductive Json where
  | null
  | bool (b : Bool)
  | num (n : Json.Number)
  | str (s : String)
  | arr (items : List Json)
  | obj (members : List (String × Json))
deriving Repr, Inhabited

namespace Json

def nat (n : Nat) : Json :=
  num (.int n)

def chars (t : List Char) : Json :=
  str (String.ofList t)

def get? (name : String) : Json → Option Json
  | obj members => Assoc.get? name members
  | _ => none

def string? : Json → Option String
  | str s => some s
  | _ => none

/-- The number of an integer value that is not negative. -/
def nat? : Json → Option Nat
  | num (.int i) => if 0 ≤ i then some i.toNat else none
  | _ => none

def int? : Json → Option Int
  | num (.int i) => some i
  | _ => none

def items? : Json → Option (List Json)
  | arr items => some items
  | _ => none

/-- The value itself, unless it is null. -/
def notNull? : Json → Option Json
  | null => none
  | v => some v

end Json
end EmbeddedSql
