import EmbeddedSql.Interpolation
import EmbeddedSql.Literal

/-!
# Segment — the SQL of a literal

All of a verbatim literal is SQL; of an interpolated literal, the runs between its holes.  Each
segment remembers which literal it was cut from.

* `Segment` — a range and the number of its literal;
* `Document.segments` — the segments of a literal, in order.
-/

namespace EmbeddedSql

/-- A stretch of SQL and the number of the literal it was cut from. -/
structure Segment where
  range : Range
  literal : Nat
deriving DecidableEq, Repr, Inhabited

def Document.segments (d : Document) (l : Literal) (index : Nat) : List Segment :=
  match l.kind with
  -- An empty literal has no segment, as an empty run is none.
  | .verbatim => if l.range.isEmpty then [] else [⟨l.range, index⟩]
  | .interpolated =>
    let base := l.range.span.start
    (Interpolation.runs (l.raw d)).map fun run =>
      ⟨d.rangeFor (base + run.start) (base + run.stop), index⟩

end EmbeddedSql
