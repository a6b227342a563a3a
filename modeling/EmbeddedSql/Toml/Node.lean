import EmbeddedSql.Assoc
import EmbeddedSql.Decimal.Binary64

/-!
# Toml — documents of the TOML format, version 1.0

A document is a sequence of statements: settings `a.b = value`, headers `[a.b]` of tables and
headers `[[a.b]]` of arrays of tables.  Each table may be defined once.  What counts as a definition
depends on how the table came about, so tables remember their form while a document is put together.

* `Toml.Node` — values and tables;
* `Toml.Statement` — settings and headers;
* `Toml.within` — go down to a table, creating tables on the way;
* `Toml.Builder` — the document so far and the table that settings go to;
* `Toml.build?` — the table that statements describe, unless they define something twice.
-/

namespace EmbeddedSql
namespace Toml

/-- How a table came about. -/
inductive TableForm where
  /-- By its own header; the document itself is such a table. -/
  | headed
  /-- By the header of a table inside it. -/
  | implied
  /-- By a dotted key. -/
  | dotted
deriving DecidableEq, Repr, Inhabited

inductive Node where
  | str (s : String)
  | int (i : Int)
  | float (f : Binary64)
  | bool (b : Bool)
  /-- A date, a time, or both, in normal form. -/
  | moment (text : String)
  | list (items : List Node)
  /-- A table written in braces, which nothing can be added to. -/
  | closed (members : List (String × Node))
  | table (form : TableForm) (members : List (String × Node))
  /-- An array of tables, each with a header of its own. -/
  | tables (entries : List (List (String × Node)))
deriving Inhabited

abbrev Members := List (String × Node)

/-- A part of a document.  The last name of a dotted key is kept apart from those in front of it. -/
inductive Statement where
  | setting (path : List String) (name : String) (value : Node)
  | header (path : List String) (name : String)
  | arrayHeader (path : List String) (name : String)

/-! ## Going down -/

/-- Go down to the table at a path and change it there; the change may also return something.
Tables that are missing are created.  In an array of tables the way leads into its last entry.  A
dotted key does not lead into a table that has a header. -/
def within {β : Type} (dotted : Bool) (change : TableForm → Members → Option (Members × β)) :
    List String → TableForm → Members → Option (Members × β)
  | [], form, ms => change form ms
  | key :: path, _, ms =>
    let created : TableForm := if dotted then .dotted else .implied
    match Assoc.get? key ms with
    | none =>
      (within dotted change path created []).map fun (inner, b) =>
        (Assoc.set key (.table created inner) ms, b)
    | some (.table form inner) =>
      -- A table with a header is complete for dotted keys.
      if dotted && form == .headed then none
      else
        (within dotted change path form inner).map fun (inner, b) =>
          (Assoc.set key (.table form inner) ms, b)
    | some (.tables entries) =>
      match entries.getLast? with
      | none => none
      | some last =>
        (within dotted change path .headed last).map fun (last, b) =>
          (Assoc.set key (.tables (entries.dropLast ++ [last])) ms, b)
    | some _ => none

/-- Add a setting.  Its name must be new, and a table made by dotted keys takes settings only by
dotted keys. -/
def addSetting (path : List String) (name : String) (value : Node) (ms : Members) :
    Option Members :=
  let add (form : TableForm) (inner : Members) : Option (Members × Unit) :=
    -- A dotted key ends in a table of dotted keys, any other key in the section itself.
    if (form == .dotted) == path.isEmpty || (Assoc.get? name inner).isSome then none
    else some (inner ++ [(name, value)], ())
  (within true add path .headed ms).map (·.1)

/-! ## Building -/

/-- Where the settings that follow a header go. -/
inductive Section where
  /-- In front of the first header: the document itself. -/
  | top
  | single (path : List String) (name : String)
  | entry (path : List String) (name : String)

/-- The document so far, without the section that is being read. -/
structure Builder where
  root : Members
  target : Section
  current : Members

namespace Builder

def empty : Builder :=
  ⟨[], .top, []⟩

/-- The document with the current section in its place. -/
def close (b : Builder) : Option Members :=
  match b.target with
  | .top => some b.current
  | .single path name =>
    let place (_ : TableForm) (ms : Members) : Option (Members × Unit) :=
      some (Assoc.set name (.table .headed b.current) ms, ())
    (within false place path .headed b.root).map (·.1)
  | .entry path name =>
    let place (_ : TableForm) (ms : Members) : Option (Members × Unit) :=
      match Assoc.get? name ms with
      | some (.tables entries) => some (Assoc.set name (.tables (entries ++ [b.current])) ms, ())
      | _ => none
    (within false place path .headed b.root).map (·.1)

/-- Start the section of a table.  The table may so far be known by headers of its subtables only.
-/
def openTable (path : List String) (name : String) (b : Builder) : Option Builder := do
  let take (_ : TableForm) (ms : Members) : Option (Members × Members) :=
    match Assoc.get? name ms with
    | none => some (ms, [])
    -- The table moves into the section, and back into its place when the section is closed.
    | some (.table .implied inner) => some (Assoc.erase name ms, inner)
    | some _ => none
  let (root, current) ← within false take path .headed (← b.close)
  some ⟨root, .single path name, current⟩

/-- Start the section of one more table in an array of tables. -/
def openEntry (path : List String) (name : String) (b : Builder) : Option Builder := do
  let take (_ : TableForm) (ms : Members) : Option (Members × Unit) :=
    match Assoc.get? name ms with
    -- The array is there from now on, so that its place is kept; the entry follows on closing.
    | none => some (Assoc.set name (.tables []) ms, ())
    | some (.tables _) => some (ms, ())
    | some _ => none
  let (root, _) ← within false take path .headed (← b.close)
  some ⟨root, .entry path name, []⟩

def step (b : Builder) : Statement → Option Builder
  | .setting path name value =>
    (addSetting path name value b.current).map fun current => { b with current }
  | .header path name => b.openTable path name
  | .arrayHeader path name => b.openEntry path name

def run (b : Builder) : List Statement → Option Builder
  | [] => some b
  | s :: rest => (b.step s).bind (·.run rest)

end Builder

def build? (statements : List Statement) : Option Members :=
  (Builder.empty.run statements).bind Builder.close

/-- The table that the settings between two braces describe. -/
def buildClosed? (settings : List (List String × String × Node)) : Option Node :=
  let add (ms : Members) (s : List String × String × Node) : Option Members :=
    addSetting s.1 s.2.1 s.2.2 ms
  (settings.foldlM add []).map .closed

end Toml
end EmbeddedSql
