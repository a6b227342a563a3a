import EmbeddedSql.Text.Split
import EmbeddedSql.Text.Units

/-!
# Document — line-addressable text

A document is a text read by lines.  Lines end at `\n` only; one `\r` in front of the break is not
part of the line's text.  Places are named in two ways, by byte offset and by line and byte column,
and a `Range` carries both:

* `Position`, `Span`, `Range` — places and stretches of a document;
* `Document.lines`, `Document.line` — the text of each line;
* `Document.lineStarts` — the index of line starts;
* `Document.indexSum` — sums of offsets, lines and columns, in machine words;
* `Document.positionAt`, `Document.offsetAt` — from offset to position and back, both clamping;
* `Document.rangeFor`, `Document.rangeBetween` — a range from either way of naming it;
* `Document.slice` — the text of a span.
-/

namespace EmbeddedSql

/-! ## Places -/

/-- A zero-based line and a byte column on it. -/
structure Position where
  line : Nat
  column : Nat
deriving DecidableEq, Repr, Inhabited

namespace Position

/-- Positions are ordered by line, then by column. -/
instance : LE Position :=
  ⟨fun p q => p.line < q.line ∨ (p.line = q.line ∧ p.column ≤ q.column)⟩

def display (p : Position) : String :=
  Nat.repr p.line ++ ":" ++ Nat.repr p.column

end Position

/-- The bytes from `start` up to, but not including, `stop`. -/
structure Span where
  start : Nat
  stop : Nat
deriving DecidableEq, Repr, Inhabited

namespace Span

def isEmpty (s : Span) : Bool :=
  s.stop ≤ s.start

/-- A span moved towards the end by `n` bytes. -/
def shift (n : Nat) (s : Span) : Span :=
  ⟨n + s.start, n + s.stop⟩

def contains (s : Span) (offset : Nat) : Bool :=
  s.start ≤ offset && offset < s.stop

end Span

structure Range where
  span : Span
  start : Position
  stop : Position
deriving DecidableEq, Repr, Inhabited

namespace Range

def isEmpty (r : Range) : Bool :=
  r.span.isEmpty

def display (r : Range) : String :=
  r.start.display ++ ".." ++ r.stop.display

end Range

/-! ## Lines -/

/-- A line without one `\r` at its end. -/
def stripReturn : List Char → List Char
  | [] => []
  | [c] => if c = '\r' then [] else [c]
  | c :: d :: cs => c :: stripReturn (d :: cs)

/-- A text read by lines. -/
structure Document where
  text : List Char
deriving DecidableEq, Repr, Inhabited

namespace Document

def ofString (s : String) : Document :=
  ⟨s.toList⟩

def length (d : Document) : Nat :=
  Text.byteLength d.text

/-- The text of every line, without its line break. -/
def lines (d : Document) : List (List Char) :=
  (Text.split (· == '\n') d.text).map stripReturn

def lineCount (d : Document) : Nat :=
  d.lines.length

/-- The text of one line; past the end it is empty. -/
def line (d : Document) (index : Nat) : List Char :=
  d.lines.getD index []

/-! ## Offsets and positions -/

/-- Offsets just after each `\n` of a text that starts at `offset`. -/
def breaksFrom (offset : Nat) : List Char → List Nat
  | [] => []
  | c :: cs =>
    if c = '\n' then (offset + 1) :: breaksFrom (offset + 1) cs
    else breaksFrom (offset + c.utf8Size) cs

/-- The offset at which each line starts. -/
def lineStarts (d : Document) : List Nat :=
  0 :: breaksFrom 0 d.text

/-- Walk along the line starts while the next line starts at or before `offset`. -/
def seek (offset line start : Nat) : List Nat → Position
  | [] => ⟨line, offset - start⟩
  | next :: rest =>
    if next ≤ offset then seek offset (line + 1) next rest else ⟨line, offset - start⟩

/-- The position of a byte offset; an offset past the end counts as the end. -/
def positionAt (d : Document) (offset : Nat) : Position :=
  seek (min offset d.length) 0 0 (breaksFrom 0 d.text)

/-- The offset at which the text of a line ends, its `\r` included and its `\n` excluded. -/
def lineEnd (d : Document) (index : Nat) : Nat :=
  match d.lineStarts[index + 1]? with
  -- The line break in front of the next line is one byte wide.
  | some next => next - 1
  | none => d.length

/-- The first number that is too large for an offset, a line or a column.  These are words of 64
bits, which count the bytes and lines of any text in memory; a text that is longer than any memory
is given the words that count its own. -/
def indexLimit (d : Document) : Nat :=
  max UInt64.size (d.length + 2)

/-- The sum of two words.  It is not checked, so from the limit on it starts again at 0. -/
def indexSum (d : Document) (m n : Nat) : Nat :=
  (m + n) % d.indexLimit

/-- The byte offset of a position; a column past the line's end counts as its end, a line past the
last as the end of the text. -/
def offsetAt (d : Document) (p : Position) : Nat :=
  match d.lineStarts[p.line]? with
  -- The sum is taken before the column is compared, so a column near the limit wraps around.
  | some start => min (d.indexSum start p.column) (d.lineEnd p.line)
  | none => d.length

/-! ## Ranges -/

def rangeFor (d : Document) (start stop : Nat) : Range :=
  ⟨⟨start, stop⟩, d.positionAt start, d.positionAt stop⟩

/-- The range between two positions, with the offsets of its bounds. -/
def rangeBetween (d : Document) (start stop : Position) : Range :=
  ⟨⟨d.offsetAt start, d.offsetAt stop⟩, start, stop⟩

/-- The text of a span cut down to the document; empty if a bound falls inside a character. -/
def slice (d : Document) (s : Span) : List Char :=
  let stop := min s.stop d.length
  (Text.slice? (min s.start stop) stop d.text).getD []

def textOf (d : Document) (r : Range) : List Char :=
  d.slice r.span

end Document
end EmbeddedSql
