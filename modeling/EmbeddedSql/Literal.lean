import EmbeddedSql.Region

/-!
# Literal — verbatim strings inside a region

A literal opens with `@"`, `$@"` or `@$"` and ends at the next quote that is not doubled.  It may
run over several lines, but not beyond the region.  Only the first opening on a line counts, and
after a literal the search goes on below the line on which it ended.  A literal that never ends
hides the rest of its region.

* `Onset.find?` — the first opening on a line;
* `Literal.closingColumn?` — the first quote of a line that is not doubled;
* `Document.closingQuote?` — the same over several lines;
* `Literal.scan` — one pass over the content lines, carrying the open literal;
* `Document.literals` — the literals of a region, in order;
* `Literal.undouble` — the value that a literal's source text denotes.
-/

namespace EmbeddedSql

/-- The two forms of a literal. -/
inductive LiteralKind where
  /-- `@"…"` -/
  | verbatim
  /-- `$@"…"` or `@$"…"` -/
  | interpolated
deriving DecidableEq, Repr, Inhabited

namespace LiteralKind

def name : LiteralKind → String
  | verbatim => "verbatim"
  | interpolated => "interpolated"

end LiteralKind

/-! ## Onsets -/

/-- The opening of a literal: the column of its quote and its form. -/
structure Onset where
  quoteColumn : Nat
  kind : LiteralKind
deriving DecidableEq, Repr

namespace Onset

/-- The first opening in a text whose first character has the given column. -/
def findFrom : (column : Nat) → List Char → Option Onset
  | _, [] => none
  | column, '@' :: '$' :: '"' :: _ => some ⟨column + 2, .interpolated⟩
  | column, '@' :: '"' :: _ => some ⟨column + 1, .verbatim⟩
  | column, '$' :: '@' :: '"' :: _ => some ⟨column + 2, .interpolated⟩
  -- The next character may begin an opening of its own, as in `@@` and a quote.
  | column, c :: cs => findFrom (column + c.utf8Size) cs

def find? (line : List Char) : Option Onset :=
  findFrom 0 line

end Onset

/-! ## Closing quotes -/

/-- The content of a literal, without its quotes. -/
structure Literal where
  range : Range
  kind : LiteralKind
deriving DecidableEq, Repr, Inhabited

namespace Literal

/-- The column of the first quote that is not doubled, in a text whose first character has the
given column. -/
def closingFrom : (column : Nat) → List Char → Option Nat
  | _, [] => none
  -- Both quotes of a pair are passed over, so a third one is looked at anew.
  | column, '"' :: '"' :: cs => closingFrom (column + 2) cs
  | column, c :: cs => if c = '"' then some column else closingFrom (column + c.utf8Size) cs

/-- The column of the first quote of a line, at column `start` or later, that is not doubled.
Characters that begin in front of `start` are skipped. -/
def closingColumn? (start : Nat) (line : List Char) : Option Nat :=
  go 0 line
where
  /-- Skip to the start column, then look for the quote. -/
  go (column : Nat) : List Char → Option Nat
    | [] => none
    | c :: cs =>
      if column < start then go (column + c.utf8Size) cs else closingFrom column (c :: cs)

/-- The first quote that is not doubled on the given lines, of which the first has number `line`
and is read from column `start` on. -/
def closingPosition? : (line start : Nat) → List (List Char) → Option Position
  | _, _, [] => none
  | line, start, l :: ls =>
    match closingColumn? start l with
    | some column => some ⟨line, column⟩
    | none => closingPosition? (line + 1) 0 ls

end Literal

/-- The first quote that is not doubled, from a position to the end of a line. -/
def Document.closingQuote? (d : Document) (start : Position) (lastLine : Nat) : Option Position :=
  Literal.closingPosition? start.line start.column
    ((d.lines.drop start.line).take (lastLine + 1 - start.line))

/-! ## Extraction -/

/-- Where a literal stands: its form, and the positions after its opening quote and of its closing
quote. -/
structure LiteralPlace where
  kind : LiteralKind
  start : Position
  stop : Position
deriving DecidableEq, Repr

namespace Literal

/-- The literals of the lines that are still to come.  `opened` is the literal that waits for its
closing quote, `index` the number of the next line. -/
def scan : (opened : Option (LiteralKind × Position)) → (index : Nat) → List (List Char) →
    List LiteralPlace
  | _, _, [] => []
  | none, index, line :: rest =>
    match Onset.find? line with
    | none => scan none (index + 1) rest
    | some onset =>
      let start : Position := ⟨index, onset.quoteColumn + 1⟩
      match closingColumn? start.column line with
      | some column => ⟨onset.kind, start, ⟨index, column⟩⟩ :: scan none (index + 1) rest
      | none => scan (some (onset.kind, start)) (index + 1) rest
  | some (kind, start), index, line :: rest =>
    match closingColumn? 0 line with
    | some column => ⟨kind, start, ⟨index, column⟩⟩ :: scan none (index + 1) rest
    | none => scan (some (kind, start)) (index + 1) rest

/-- The literal at a place of a document. -/
def ofPlace (d : Document) (p : LiteralPlace) : Literal :=
  ⟨d.rangeBetween p.start p.stop, p.kind⟩

/-- Every doubled quote as one. -/
def undouble : List Char → List Char
  | '"' :: '"' :: cs => '"' :: undouble cs
  | c :: cs => c :: undouble cs
  | [] => []

def raw (d : Document) (l : Literal) : List Char :=
  d.textOf l.range

def value (d : Document) (l : Literal) : List Char :=
  undouble (l.raw d)

end Literal

def Document.literals (d : Document) (r : Region) : List Literal :=
  (Literal.scan none (d.firstLine r) (d.contentLines r)).map (Literal.ofPlace d)

end EmbeddedSql
