import EmbeddedSql.Classification
import EmbeddedSql.Segment

/-!
# Highlights — what one pass over a document finds

A pass goes from regions to literals, from literals to segments and from segments to tokens.

* `Token` — a class and a range;
* `Document.tokens` — the tokens of one segment;
* `Buckets` — ranges by class, filed token by token;
* `Highlights` — all that a pass finds;
* `Document.highlights` — the pass;
* `Highlights.ranges` — the ranges of one class.
-/

namespace EmbeddedSql

structure Token where
  category : Category
  range : Range
deriving DecidableEq, Repr, Inhabited

/-- The tokens of the text of a range, in pass order. -/
def Document.tokens (d : Document) (r : Range) : List Token :=
  -- Spans are counted from the start of the range.
  let base := r.span.start
  (classify (d.textOf r)).map fun (category, span) =>
    ⟨category, d.rangeFor (base + span.start) (base + span.stop)⟩

/-- A list of ranges for each class, in pass order of the classes. -/
structure Buckets where
  lists : Vector (List Range) 7
deriving DecidableEq, Repr

namespace Buckets

def empty : Buckets :=
  ⟨Vector.replicate 7 []⟩

instance : Inhabited Buckets :=
  ⟨empty⟩

def ranges (b : Buckets) (c : Category) : List Range :=
  b.lists.get ⟨c.passIndex, c.passIndex_lt⟩

def push (b : Buckets) (t : Token) : Buckets :=
  ⟨b.lists.set t.category.passIndex (b.ranges t.category ++ [t.range]) t.category.passIndex_lt⟩

end Buckets

structure Highlights where
  regions : List Region
  literals : List Literal
  segments : List Segment
  tokens : List Token
deriving DecidableEq, Repr

namespace Highlights

def empty : Highlights :=
  ⟨[], [], [], []⟩

instance : Inhabited Highlights :=
  ⟨empty⟩

def isEmpty (h : Highlights) : Bool :=
  h.tokens.isEmpty

def buckets (h : Highlights) : Buckets :=
  h.tokens.foldl Buckets.push .empty

/-- The ranges of one class, in the order of the tokens. -/
def ranges (h : Highlights) (c : Category) : List Range :=
  h.buckets.ranges c

/-- The ranges of every class, in emit order; classes without ranges are included. -/
def byCategory (h : Highlights) : List (Category × List Range) :=
  Category.emitOrder.map fun c => (c, h.ranges c)

end Highlights

/-- The segments of literals that are numbered from `index` on. -/
def Document.segmentsFrom (d : Document) : (index : Nat) → List Literal → List Segment
  | _, [] => []
  | index, l :: ls => d.segments l index ++ d.segmentsFrom (index + 1) ls

/-- One pass over a document. -/
def Document.highlights (d : Document) : Highlights :=
  let regions := d.regions
  let literals := regions.flatMap d.literals
  let segments := d.segmentsFrom 0 literals
  ⟨regions, literals, segments, segments.flatMap fun s => d.tokens s.range⟩

end EmbeddedSql
