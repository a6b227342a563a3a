import EmbeddedSql.Toml.Moment
import EmbeddedSql.Toml.Node

/-!
# Toml.Marked — tables that stand for moments

A table whose first member has a reserved name stands for the moment that this member spells; its
other members do not count.

* `Toml.momentName` — the reserved name;
* `Toml.Node.unmark?` — a value in which such tables are replaced by their moments.
-/

namespace EmbeddedSql
namespace Toml

def momentName : String := "$__toml_private_datetime"

/-- The moment that the first member of a marked table spells. -/
def markedMoment? : Node → Option Node
  | .str s => (momentOfText? s).map .moment
  | _ => none

mutual

/-- A value with moments in place of the tables that stand for them, unless one of those spells no
moment. -/
def Node.unmark? : Node → Option Node
  | .list items => (unmarkItems? items).map .list
  | .closed members => unmarkTable? members
  | .table _ members => unmarkTable? members
  | .tables entries => (unmarkEntries? entries).map .list
  | node => some node

/-- A table, or the moment that it stands for. -/
def unmarkTable? : Members → Option Node
  | [] => some (.closed [])
  | (name, value) :: rest =>
    -- Only the first member is asked for its name, and the others are dropped unread.
    if name = momentName then markedMoment? value
    else do
      let value ← value.unmark?
      let rest ← unmarkMembers? rest
      some (.closed ((name, value) :: rest))

def unmarkMembers? : Members → Option Members
  | [] => some []
  | (name, value) :: rest => do
    let value ← value.unmark?
    let rest ← unmarkMembers? rest
    some ((name, value) :: rest)

def unmarkItems? : List Node → Option (List Node)
  | [] => some []
  | item :: rest => do
    let item ← item.unmark?
    let rest ← unmarkItems? rest
    some (item :: rest)

def unmarkEntries? : List Members → Option (List Node)
  | [] => some []
  | entry :: rest => do
    let entry ← unmarkTable? entry
    let rest ← unmarkEntries? rest
    some (entry :: rest)

end

end Toml
end EmbeddedSql
