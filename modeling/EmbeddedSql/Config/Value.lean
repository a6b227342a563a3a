import EmbeddedSql.Assoc
import EmbeddedSql.Decimal.Binary64
import EmbeddedSql.Text.Lower

/-!
# Config.Value — configuration before it has a type

Every source of configuration is a table of values.  A value remembers the file it was read from, so
that a message can name it.

* `Config.Scalar`, `Config.Value` — the values;
* `Config.Value.assign` — set one member of a table, merging tables member by member;
* `Config.Value.assignAll` — set all members of a table.

Names are stored in lower case.  A table never replaces a value as a whole: its members are set one
by one, in a table that takes the place of whatever was not a table.
-/

namespace EmbeddedSql
namespace Config

/-- A value without parts. -/
inductive Scalar where
  | null
  | bool (b : Bool)
  | int (i : Int)
  | float (f : Binary64)
  | str (s : String)
deriving DecidableEq, Repr, Inhabited

/-- A value and the file it was read from. -/
inductive Value where
  | scalar (origin : Option String) (s : Scalar)
  | array (origin : Option String) (items : List Value)
  | table (origin : Option String) (members : List (String × Value))
deriving Repr, Inhabited

namespace Value

mutual

def decEq : (v w : Value) → Decidable (v = w)
  | scalar o s, scalar o' s' => decidable_of_iff (o = o' ∧ s = s') (by simp)
  | array o vs, array o' ws =>
    have := decEqItems vs ws
    decidable_of_iff (o = o' ∧ vs = ws) (by simp)
  | table o ms, table o' ns =>
    have := decEqMembers ms ns
    decidable_of_iff (o = o' ∧ ms = ns) (by simp)
  | scalar _ _, array _ _ | scalar _ _, table _ _ | array _ _, scalar _ _ | array _ _, table _ _
  | table _ _, scalar _ _ | table _ _, array _ _ => isFalse nofun

def decEqItems : (vs ws : List Value) → Decidable (vs = ws)
  | [], [] => isTrue rfl
  | v :: vs, w :: ws =>
    have := decEq v w
    have := decEqItems vs ws
    decidable_of_iff (v = w ∧ vs = ws) (by simp)
  | [], _ :: _ | _ :: _, [] => isFalse nofun

def decEqMembers : (ms ns : List (String × Value)) → Decidable (ms = ns)
  | [], [] => isTrue rfl
  | (name, v) :: ms, (name', w) :: ns =>
    have := decEq v w
    have := decEqMembers ms ns
    decidable_of_iff (name = name' ∧ v = w ∧ ms = ns) (by simp [and_assoc])
  | [], _ :: _ | _ :: _, [] => isFalse nofun

end

instance : DecidableEq Value :=
  decEq

def origin : Value → Option String
  | scalar o _ => o
  | array o _ => o
  | table o _ => o

def null : Value :=
  scalar none .null

def emptyTable : Value :=
  table none []

/-- The members of a table; any other value has none. -/
def members : Value → List (String × Value)
  | table _ ms => ms
  | _ => []

def get? (name : String) (v : Value) : Option Value :=
  Assoc.get? name v.members

/-- Store a member.  A value that is no table becomes an empty table first. -/
def put (target : Value) (name : String) (v : Value) : Value :=
  match target with
  | table o ms => table o (Assoc.set name v ms)
  | _ => table none [(name, v)]

mutual

/-- Set the member of a table that a name stands for.  The members of a table are set one by one in
the member that is there, any other value is stored. -/
def assign (target : Value) (name : String) : Value → Value
  | table _ ms =>
    let key := Text.lowerString name
    -- A value that is no table becomes one with the first member that is set in it.
    target.put key (assignAll ((target.get? key).getD emptyTable) ms)
  | v => target.put (Text.lowerString name) v

/-- Set several members, one after the other. -/
def assignAll (target : Value) : List (String × Value) → Value
  | [] => target
  | (name, v) :: rest => assignAll (assign target name v) rest

end

end Value
end Config
end EmbeddedSql
