import EmbeddedSql.Proofs.Document.Lines

/-!
# Ranges — both halves of a range name the same stretch

A range names a stretch of a document by bytes and by positions.  Some ranges are made from the one,
some from the other.  This file says when the choice does not matter:

* `Document.positionAt_offsetAt`, `Document.offsetAt_positionAt` — the two conversions undo each
  other on the places that exist;
* `Document.positionAt_lt` — later offsets have later positions;
* `Document.Between` — a position between two characters of its line;
* `Document.Holds d r text` — the range stands where `text` stands in the document;
* `Document.Holds.part` — parts of a text that is held are held;
* `Range.Exact` — everything on which the two halves of a range agree;
* `Document.Holds.exact` — a range that holds a text is exact.
-/

namespace EmbeddedSql

open Text

/-- The strict order of positions. -/
instance : LT Position :=
  ⟨fun p q => p.line < q.line ∨ (p.line = q.line ∧ p.column < q.column)⟩

namespace Document

variable {d : Document} {r : Range} {text : List Char}

/-! ## Places that exist -/

/-- On the row that holds an offset, the position is counted from the start of the row. -/
theorem positionAt_eq {i offset : Nat} (hi : i < d.lineCount) (hlow : d.lineStart i ≤ offset)
    (hhigh : offset ≤ d.lineStart i + byteLength (d.row i)) :
    d.positionAt offset = ⟨i, offset - d.lineStart i⟩ := by
  have hlen : d.lineStart i + byteLength (d.row i) ≤ d.length := lineEnd_le_length hi
  rcases positionAt_spec d offset with ⟨j, hpos, hj, hjlow, hjhigh⟩
  have hmin : min offset d.length = offset := Nat.min_eq_left (Nat.le_trans hhigh hlen)
  rw [hmin] at hpos hjlow hjhigh
  -- Two rows with a break between them do not share an offset.
  rcases Nat.lt_trichotomy i j with hlt | heq | hgt
  · have hstart := lineStart_lt hlt (Nat.le_of_lt hj)
    omega
  · rw [hpos, heq]
  · have hstart := lineStart_lt hgt (Nat.le_of_lt hi)
    omega

theorem positionAt_offsetAt {p : Position} (hline : p.line < d.lineCount)
    (hcolumn : p.column ≤ byteLength (d.row p.line)) : d.positionAt (d.offsetAt p) = p := by
  have hoffset := offsetAt_eq hline hcolumn
  have hpos : d.positionAt (d.offsetAt p) = ⟨p.line, d.offsetAt p - d.lineStart p.line⟩ :=
    positionAt_eq hline (by omega) (by omega)
  rw [hpos, hoffset, Nat.add_sub_cancel_left]

theorem offsetAt_positionAt {offset : Nat} (h : offset ≤ d.length) :
    d.offsetAt (d.positionAt offset) = offset := by
  rcases positionAt_spec d offset with ⟨i, hpos, hi, hlow, hhigh⟩
  rw [Nat.min_eq_left h] at hpos hlow hhigh
  have hcolumn : offset - d.lineStart i ≤ byteLength (d.row i) := by omega
  rw [hpos, offsetAt_eq hi hcolumn]
  exact Nat.add_sub_cancel' hlow

/-- Inside the text, later offsets have later positions. -/
theorem positionAt_lt {m n : Nat} (h : m < n) (hn : n ≤ d.length) :
    d.positionAt m < d.positionAt n := by
  rcases positionAt_mono (Nat.le_of_lt h) with hline | ⟨hline, hcolumn⟩
  · exact .inl hline
  · refine .inr ⟨hline, Nat.lt_of_le_of_ne hcolumn ?_⟩
    intro heq
    -- Both offsets would have one position, but it leads back to each of them.
    have hsame : d.positionAt m = d.positionAt n :=
      (Position.mk.injEq _ _ _ _).mpr ⟨hline, heq⟩
    have hoffsets : m = n :=
      calc m = d.offsetAt (d.positionAt m) := (offsetAt_positionAt (by omega)).symm
        _ = d.offsetAt (d.positionAt n) := by rw [hsame]
        _ = n := offsetAt_positionAt hn
    omega

/-- A range between the positions of two offsets is the range of the offsets. -/
theorem rangeBetween_positionAt {start stop : Nat} (hstart : start ≤ d.length)
    (hstop : stop ≤ d.length) :
    d.rangeBetween (d.positionAt start) (d.positionAt stop) = d.rangeFor start stop := by
  simp only [rangeBetween, rangeFor, offsetAt_positionAt hstart, offsetAt_positionAt hstop]

/-- A position between two characters of a line that the document has. -/
def Between (d : Document) (p : Position) : Prop :=
  p.line < d.lineCount ∧ IsBoundary (d.line p.line) p.column

theorem Between.column_le {p : Position} (h : d.Between p) :
    p.column ≤ byteLength (d.row p.line) := by
  rcases h with ⟨-, a, b, hab, hcolumn⟩
  have hlen := byteLength_line_le d p.line
  rw [hab, byteLength_append] at hlen
  omega

theorem Between.positionAt_offsetAt {p : Position} (h : d.Between p) :
    d.positionAt (d.offsetAt p) = p :=
  Document.positionAt_offsetAt h.1 h.column_le

theorem Between.isBoundary_offsetAt {p : Position} (h : d.Between p) :
    IsBoundary d.text (d.offsetAt p) := by
  have hcolumn := h.column_le
  rcases h with ⟨hline, hbetween⟩
  rcases text_eq_append_row hline with ⟨a, b, htext, ha⟩
  rcases row_eq_append d p.line with ⟨r, hrow⟩
  have hoffset : d.offsetAt p = byteLength a + p.column := by
    rw [offsetAt_eq hline hcolumn, ha]
  -- A boundary of the line is one of its row, and the row stands in the text.
  have hinRow : IsBoundary (d.row p.line) p.column := hrow ▸ hbetween.append r
  have hinText : IsBoundary (a ++ d.row p.line ++ b) (byteLength a + p.column) :=
    (hinRow.prepend a).append b
  rw [htext, hoffset]
  exact hinText

/-! ## Ranges that hold a text -/

/-- The range stands where `text` stands in the document. -/
def Holds (d : Document) (r : Range) (text : List Char) : Prop :=
  ∃ a b, d.text = a ++ (text ++ b) ∧
    r = d.rangeFor (byteLength a) (byteLength a + byteLength text)

theorem Holds.span_eq (h : d.Holds r text) :
    r.span.stop = r.span.start + byteLength text ∧ r.span.stop ≤ d.length := by
  rcases h with ⟨a, b, htext, rfl⟩
  refine ⟨rfl, ?_⟩
  show byteLength a + byteLength text ≤ byteLength d.text
  rw [htext, byteLength_append, byteLength_append]
  omega

theorem Holds.slice?_eq (h : d.Holds r text) :
    slice? r.span.start r.span.stop d.text = some text := by
  rcases h with ⟨a, b, htext, rfl⟩
  rw [htext]
  exact slice?_append a text b

theorem Holds.textOf_eq (h : d.Holds r text) : d.textOf r = text := by
  have hspan := h.span_eq
  have hstop : min r.span.stop d.length = r.span.stop := Nat.min_eq_left hspan.2
  have hstart : min r.span.start r.span.stop = r.span.start := Nat.min_eq_left (by omega)
  simp only [textOf, slice, hstop, hstart, h.slice?_eq, Option.getD_some]

/-- A part of a text that is held is held where it stands in that text. -/
theorem Holds.part {x y z : List Char} (h : d.Holds r (x ++ (y ++ z))) :
    d.Holds (d.rangeFor (r.span.start + byteLength x)
      (r.span.start + (byteLength x + byteLength y))) y := by
  rcases h with ⟨a, b, htext, rfl⟩
  refine ⟨a ++ x, z ++ b, by simp [htext], ?_⟩
  simp only [rangeFor, byteLength_append, Nat.add_assoc]

/-- Between two positions that exist there is a text. -/
theorem holds_rangeBetween {p q : Position} (hp : d.Between p) (hq : d.Between q) (hle : p ≤ q) :
    ∃ text, d.Holds (d.rangeBetween p q) text := by
  have horder := offsetAt_mono hle hq.column_le
  rcases hp.isBoundary_offsetAt.between hq.isBoundary_offsetAt horder with
    ⟨a, b, c, htext, ha, hb⟩
  refine ⟨b, a, c, htext, ?_⟩
  rw [hb, ha]
  simp only [rangeBetween, rangeFor, hp.positionAt_offsetAt, hq.positionAt_offsetAt]

end Document

/-! ## Exact ranges -/

/-- The span of a range lies in the text and holds whole characters, its positions are those of its
bounds and lead back to them, and reading the range gives the text that stands there. -/
structure Range.Exact (d : Document) (r : Range) : Prop where
  span_ordered : r.span.start ≤ r.span.stop
  span_bounded : r.span.stop ≤ d.length
  startsBetween : IsBoundary d.text r.span.start
  stopsBetween : IsBoundary d.text r.span.stop
  cut : slice? r.span.start r.span.stop d.text = some (d.textOf r)
  text : ∃ a b, d.text = a ++ (d.textOf r ++ b) ∧ byteLength a = r.span.start ∧
    byteLength a + byteLength (d.textOf r) = r.span.stop
  start_eq : r.start = d.positionAt r.span.start
  stop_eq : r.stop = d.positionAt r.span.stop
  offsetAt_start : d.offsetAt r.start = r.span.start
  offsetAt_stop : d.offsetAt r.stop = r.span.stop
  ordered : r.start ≤ r.stop

theorem Document.Holds.exact {d : Document} {r : Range} {text : List Char} (h : d.Holds r text) :
    r.Exact d := by
  have hcut : slice? r.span.start r.span.stop d.text = some (d.textOf r) := by
    rw [h.textOf_eq, h.slice?_eq]
  have hspan := h.span_eq
  have hread := h.textOf_eq
  rcases h with ⟨a, b, htext, hr⟩
  have hstart : r.span.start = byteLength a := by rw [hr]; rfl
  have hstartPosition : r.start = d.positionAt r.span.start := by rw [hr]; rfl
  have hstopPosition : r.stop = d.positionAt r.span.stop := by rw [hr]; rfl
  refine
    { span_ordered := by omega
      span_bounded := hspan.2
      startsBetween := ⟨a, text ++ b, htext, hstart.symm⟩
      stopsBetween := ⟨a ++ text, b, by simp [htext], ?_⟩
      cut := hcut
      text := ⟨a, b, by rw [hread, htext], hstart.symm, by rw [hread]; omega⟩
      start_eq := hstartPosition
      stop_eq := hstopPosition
      offsetAt_start := ?_
      offsetAt_stop := ?_
      ordered := ?_ }
  · rw [byteLength_append]
    omega
  · rw [hstartPosition]
    exact Document.offsetAt_positionAt (by omega)
  · rw [hstopPosition]
    exact Document.offsetAt_positionAt hspan.2
  · rw [hstartPosition, hstopPosition]
    exact Document.positionAt_mono (by omega)

end EmbeddedSql
