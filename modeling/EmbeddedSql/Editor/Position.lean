import EmbeddedSql.Document

/-!
# Editor.Position — places as editors count them

Editors count UTF-16 code units on a line.  A byte column past the end of a line counts as its end,
one inside a character as the start of that character.

* `Editor.Position`, `Editor.Range` — places and stretches in UTF-16 units;
* `Editor.column`, `Document.editorPosition`, `Document.editorRange` — from bytes to units;
* `Editor.Piece` — a stretch of one line;
* `Document.pieces` — the pieces of a range, one for each line that it covers.
-/

namespace EmbeddedSql
namespace Editor

structure Position where
  line : Nat
  character : Nat
deriving DecidableEq, Repr, Inhabited

structure Range where
  start : Position
  stop : Position
deriving DecidableEq, Repr, Inhabited

/-- A nonempty stretch of one line. -/
structure Piece where
  line : Nat
  start : Nat
  length : Nat
deriving DecidableEq, Repr, Inhabited

def column (line : List Char) (byteColumn : Nat) : Nat :=
  Text.unitLength (Text.takeBytes byteColumn line)

end Editor

namespace Document

def editorPosition (d : Document) (p : EmbeddedSql.Position) : Editor.Position :=
  ⟨p.line, Editor.column (d.line p.line) p.column⟩

def editorRange (d : Document) (r : EmbeddedSql.Range) : Editor.Range :=
  ⟨d.editorPosition r.start, d.editorPosition r.stop⟩

/-- The part of a range on one line, unless it is empty. -/
def piece? (d : Document) (r : EmbeddedSql.Range) (index : Nat) : Option Editor.Piece :=
  let text := d.line index
  -- Lines between the first and the last are covered from end to end.
  let first := if index = r.start.line then r.start.column else 0
  let last := if index = r.stop.line then r.stop.column else Text.byteLength text
  let start := Editor.column text first
  let stop := Editor.column text last
  if start < stop then some ⟨index, start, stop - start⟩ else none

def pieces (d : Document) (r : EmbeddedSql.Range) : List Editor.Piece :=
  (List.range' r.start.line (r.stop.line + 1 - r.start.line)).filterMap (d.piece? r)

end Document
end EmbeddedSql
