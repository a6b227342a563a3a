import EmbeddedSql.Document
import EmbeddedSql.Marker

/-!
# Region — the lines between two markers

A region starts at a begin marker and ends at the nearest end marker below it.  Regions do not
nest: a begin marker inside an open region is plain content.  A begin marker that no end marker
follows opens nothing.

* `Region` — the two marker lines;
* `Region.scan` — one pass over the lines, carrying the open begin marker;
* `Document.regions` — the regions of a document, in order;
* `Document.contentLines` — the lines of a region, markers excluded.
-/

namespace EmbeddedSql

/-- A pair of marker lines. -/
structure Region where
  beginLine : Nat
  endLine : Nat
deriving DecidableEq, Repr, Inhabited

namespace Region

/-- The regions of the lines that are still to come.  `opened` is the begin marker that waits for
its end, `index` the number of the next line. -/
def scan : (opened : Option Nat) → (index : Nat) → List (List Char) → List Region
  | _, _, [] => []
  | none, index, line :: rest =>
    if Marker.ofLine? line = some .opening then scan (some index) (index + 1) rest
    else scan none (index + 1) rest
  | some b, index, line :: rest =>
    -- A second begin marker is content here.
    if Marker.ofLine? line = some .closing then ⟨b, index⟩ :: scan none (index + 1) rest
    else scan (some b) (index + 1) rest

/-- Whether a line lies strictly between the two markers. -/
def hasContentLine (r : Region) (line : Nat) : Prop :=
  r.beginLine < line ∧ line < r.endLine

end Region

def Document.regions (d : Document) : List Region :=
  Region.scan none 0 d.lines

/-- The line below the begin marker of a region, line 0 if the marker is on the last line there can
be. -/
def Document.firstLine (d : Document) (r : Region) : Nat :=
  d.indexSum r.beginLine 1

def Document.contentCount (d : Document) (r : Region) : Nat :=
  r.endLine - d.firstLine r

/-- The text of the content lines of a region, from below its begin marker up to its end marker. -/
def Document.contentLines (d : Document) (r : Region) : List (List Char) :=
  (d.lines.drop (d.firstLine r)).take (d.contentCount r)

end EmbeddedSql
