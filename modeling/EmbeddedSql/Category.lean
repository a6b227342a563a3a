/-!
# Category — the classes of SQL tokens

Tokens of different classes may overlap; where they do, the class that comes later in *pass order*
is the one to be seen.  Results are handed out in *emit order*.

* `Category` — the seven classes;
* `Category.passOrder`, `Category.emitOrder` — the two orders;
* `Category.passIndex`, `Category.emitIndex` — the place of a class in each.
-/

namespace EmbeddedSql

inductive Category where
  | identifier
  | keyword
  | function
  | boolean
  | parameter
  | string
  | number
deriving DecidableEq, Repr, Inhabited

namespace Category

/-- The order in which the classes are searched and painted. -/
def passOrder : List Category :=
  [identifier, keyword, function, boolean, parameter, string, number]

/-- The order in which results are handed out. -/
def emitOrder : List Category :=
  [identifier, keyword, parameter, string, number, function, boolean]

def passIndex : Category → Nat
  | identifier => 0
  | keyword => 1
  | function => 2
  | boolean => 3
  | parameter => 4
  | string => 5
  | number => 6

def emitIndex : Category → Nat
  | identifier => 0
  | keyword => 1
  | parameter => 2
  | string => 3
  | number => 4
  | function => 5
  | boolean => 6

theorem passIndex_lt (c : Category) : c.passIndex < 7 := by
  cases c <;> decide

theorem passOrder_getElem_passIndex (c : Category) : passOrder[c.passIndex]? = some c := by
  cases c <;> rfl

theorem passIndex_inj {c c' : Category} (h : c.passIndex = c'.passIndex) : c = c' := by
  have hsome : some c = some c' :=
    calc some c = passOrder[c.passIndex]? := (passOrder_getElem_passIndex c).symm
      _ = passOrder[c'.passIndex]? := by rw [h]
      _ = some c' := passOrder_getElem_passIndex c'
  exact Option.some.inj hsome

theorem passOrder_pairwise : passOrder.Pairwise fun c c' => c.passIndex < c'.passIndex := by
  decide

theorem emitOrder_getElem_emitIndex (c : Category) : emitOrder[c.emitIndex]? = some c := by
  cases c <;> rfl

def name : Category → String
  | identifier => "identifier"
  | keyword => "keyword"
  | function => "function"
  | boolean => "boolean"
  | parameter => "parameter"
  | string => "string"
  | number => "number"

def ofName? (s : String) : Option Category :=
  passOrder.find? (·.name == s)

end Category
end EmbeddedSql
