import EmbeddedSql.Editor.Position
import EmbeddedSql.Proofs.Document.Lines

/-!
# Pieces — which UTF-16 units a range covers

A range is cut into pieces line by line, and the byte columns of its bounds are turned into unit
columns, also when they lie past the end of the line or inside a character.  What comes out can be
said without lines and columns: a unit is covered exactly when the span holds the last byte of the
unit's character, and then by one piece.

* `Editor.Piece.covers`, `Editor.Piece.Precedes` — what pieces cover, and their order;
* `Document.length_filter_covers_pieces` — how many pieces of a range cover a unit;
* `Document.mem_pieces` — pieces are nonempty and stay on their lines;
* `Document.pieces_pairwise_line`, `Document.pieces_precedes` — the order of pieces.
-/

namespace EmbeddedSql
namespace Editor

/-- Whether a piece covers a unit of a line. -/
def Piece.covers (p : Piece) (line unit : Nat) : Bool :=
  p.line == line && decide (p.start ≤ unit) && decide (unit < p.start + p.length)

/-- One piece ends before another begins: on an earlier line, or on the same line. -/
def Piece.Precedes (p q : Piece) : Prop :=
  p.line < q.line ∨ (p.line = q.line ∧ p.start + p.length ≤ q.start)

theorem Piece.covers_iff {p : Piece} {line unit : Nat} :
    p.covers line unit = true ↔
      p.line = line ∧ p.start ≤ unit ∧ unit < p.start + p.length := by
  simp [Piece.covers, and_assoc]

theorem column_mono {m n : Nat} (h : m ≤ n) (line : List Char) : column line m ≤ column line n :=
  Text.unitLength_takeBytes_mono h line

theorem column_le (line : List Char) (n : Nat) : column line n ≤ Text.unitLength line :=
  Text.unitLength_takeBytes_le n line

end Editor

namespace Document

open Editor Text

variable {d : Document} {r : Range} {i u : Nat}

/-! ## One line -/

/-- The byte column at which a range starts on a line. -/
def firstColumn (r : Range) (index : Nat) : Nat :=
  if index = r.start.line then r.start.column else 0

/-- The byte column at which a range stops on a line. -/
def lastColumn (d : Document) (r : Range) (index : Nat) : Nat :=
  if index = r.stop.line then r.stop.column else byteLength (d.line index)

theorem piece?_eq (d : Document) (r : Range) (i : Nat) :
    d.piece? r i =
      if column (d.line i) (firstColumn r i) < column (d.line i) (lastColumn d r i) then
        some ⟨i, column (d.line i) (firstColumn r i),
          column (d.line i) (lastColumn d r i) - column (d.line i) (firstColumn r i)⟩
      else none := rfl

theorem piece?_bounds {p : Piece} (h : d.piece? r i = some p) :
    p.line = i ∧ 0 < p.length ∧ p.start = column (d.line i) (firstColumn r i) ∧
      p.start + p.length = column (d.line i) (lastColumn d r i) := by
  rw [piece?_eq] at h
  split at h
  · rename_i hlt
    cases h
    refine ⟨rfl, ?_, rfl, ?_⟩ <;> simp only [] <;> omega
  · cases h

/-- On one line, a unit is covered when the last byte of its character lies between the columns. -/
theorem length_filter_covers_piece? {pre post : List Char} {c : Char}
    (hline : d.line i = pre ++ c :: post) (hlow : unitLength pre ≤ u)
    (hhigh : u < unitLength pre + unitWidth c) :
    ((d.piece? r i).toList.filter (·.covers i u)).length =
      if firstColumn r i < byteLength pre + c.utf8Size ∧
        byteLength pre + c.utf8Size ≤ lastColumn d r i then 1 else 0 := by
  have hfirst : column (d.line i) (firstColumn r i) ≤ u ↔
      firstColumn r i < byteLength pre + c.utf8Size := by
    rw [hline]
    exact unitLength_takeBytes_le_iff hlow hhigh
  have hlast : column (d.line i) (lastColumn d r i) ≤ u ↔
      lastColumn d r i < byteLength pre + c.utf8Size := by
    rw [hline]
    exact unitLength_takeBytes_le_iff hlow hhigh
  cases hp : d.piece? r i with
  | none =>
      -- No piece means that the columns meet, and then no unit lies between them.
      have hempty :
          ¬ column (d.line i) (firstColumn r i) < column (d.line i) (lastColumn d r i) := by
        intro hlt
        simp [piece?_eq, hlt] at hp
      rw [if_neg (by omega)]
      rfl
  | some p =>
      rcases piece?_bounds hp with ⟨hl, -, hstart, hstop⟩
      have hcovers : p.covers i u = true ↔ firstColumn r i < byteLength pre + c.utf8Size ∧
          byteLength pre + c.utf8Size ≤ lastColumn d r i := by
        rw [Piece.covers_iff]
        omega
      by_cases h : p.covers i u = true
      · rw [if_pos (hcovers.1 h)]
        simp [h]
      · rw [if_neg (fun hc => h (hcovers.2 hc))]
        simp [h]

/-! ## All lines -/

/-- Of the pieces of different lines only that of the unit's own line can cover it. -/
theorem filter_covers_filterMap_piece? (lines : List Nat) (hnodup : lines.Nodup) :
    (lines.filterMap (d.piece? r)).filter (·.covers i u) =
      if i ∈ lines then (d.piece? r i).toList.filter (·.covers i u) else [] := by
  induction lines with
  | nil => rfl
  | cons j rest ih =>
      have hrest := List.nodup_cons.1 hnodup
      have hsplit : (j :: rest).filterMap (d.piece? r) =
          (d.piece? r j).toList ++ rest.filterMap (d.piece? r) := by
        cases h : d.piece? r j <;> simp [h]
      rw [hsplit, List.filter_append, ih hrest.2]
      by_cases hj : i = j
      · subst hj
        simp [hrest.1]
      · have hother : (d.piece? r j).toList.filter (·.covers i u) = [] := by
          rw [List.filter_eq_nil_iff]
          intro p hp hcov
          rcases piece?_bounds (Option.mem_toList.1 hp) with ⟨hl, -⟩
          exact hj ((Piece.covers_iff.1 hcov).1.symm.trans hl)
        simp [hother, hj]

theorem mem_pieces_iff {p : Piece} :
    p ∈ d.pieces r ↔ r.start.line ≤ p.line ∧ p.line ≤ r.stop.line ∧ d.piece? r p.line = some p := by
  simp only [pieces, List.mem_filterMap, List.mem_range'_1]
  constructor
  · rintro ⟨j, hj, hp⟩
    have hl := (piece?_bounds hp).1
    subst hl
    exact ⟨by omega, by omega, hp⟩
  · rintro ⟨hlow, hhigh, hp⟩
    exact ⟨p.line, by omega, hp⟩

/-- The first `k` bytes of a line end inside a span, by columns and by offsets.  Where a bound of
the span lies on another line, the order of lines decides about it. -/
theorem columns_hold_iff {a b k : Nat} (hi : i < d.lineCount) (hpos : 0 < k)
    (hfits : k ≤ byteLength (d.line i)) :
    ((d.positionAt a).line ≤ i ∧ i ≤ (d.positionAt b).line ∧
      firstColumn (d.rangeFor a b) i < k ∧ k ≤ lastColumn d (d.rangeFor a b) i) ↔
      a < d.lineStart i + k ∧ d.lineStart i + k ≤ b := by
  rcases positionAt_spec d a with ⟨first, ha, hfirst, halow, hahigh⟩
  rcases positionAt_spec d b with ⟨last, hb, hlast, hblow, hbhigh⟩
  have hrow := byteLength_line_le d i
  have hlen := lineEnd_le_length hi
  have hstart : (first < i → d.lineStart first + byteLength (d.row first) + 1 ≤ d.lineStart i) ∧
      (i < first → d.lineStart i + byteLength (d.row i) + 1 ≤ d.lineStart first) :=
    ⟨fun h => lineStart_lt h (Nat.le_of_lt hi), fun h => lineStart_lt h (Nat.le_of_lt hfirst)⟩
  have hstop : (last < i → d.lineStart last + byteLength (d.row last) + 1 ≤ d.lineStart i) ∧
      (i < last → d.lineStart i + byteLength (d.row i) + 1 ≤ d.lineStart last) :=
    ⟨fun h => lineStart_lt h (Nat.le_of_lt hi), fun h => lineStart_lt h (Nat.le_of_lt hlast)⟩
  simp only [firstColumn, lastColumn, rangeFor, ha, hb]
  -- Each bound is on this line or on another one; only on this line its column counts.
  by_cases hif : i = first <;> by_cases hil : i = last
  · subst hif hil
    simp only [if_true]
    omega
  · subst hif
    simp only [if_true, hil, if_false]
    omega
  · subst hil
    simp only [if_true, hif, if_false]
    omega
  · simp only [hif, hil, if_false]
    omega

/-- The pieces of a span cover a unit of a character if the span holds the last byte of the
character, and then exactly one piece does. -/
theorem length_filter_covers_pieces {a b : Nat} {pre post : List Char} {c : Char}
    (hline : d.line i = pre ++ c :: post) (hlow : unitLength pre ≤ u)
    (hhigh : u < unitLength pre + unitWidth c) :
    ((d.pieces (d.rangeFor a b)).filter (·.covers i u)).length =
      if (⟨a, b⟩ : Span).contains (d.offsetAt ⟨i, byteLength pre⟩ + c.utf8Size - 1) then 1
      else 0 := by
  rcases offsetAt_line hline with ⟨hi, hoffset⟩
  have hpos : 0 < c.utf8Size := c.utf8Size_pos
  have hfits : byteLength pre + c.utf8Size ≤ byteLength (d.line i) := by
    rw [hline, byteLength_append, byteLength_cons]
    omega
  have hcontains :
      (⟨a, b⟩ : Span).contains (d.offsetAt ⟨i, byteLength pre⟩ + c.utf8Size - 1) = true ↔
        ((d.positionAt a).line ≤ i ∧ i ≤ (d.positionAt b).line) ∧
          firstColumn (d.rangeFor a b) i < byteLength pre + c.utf8Size ∧
          byteLength pre + c.utf8Size ≤ lastColumn d (d.rangeFor a b) i := by
    rw [and_assoc, columns_hold_iff hi (by omega) hfits]
    simp only [Span.contains, hoffset, Bool.and_eq_true, decide_eq_true_eq]
    omega
  have hmem : i ∈ List.range' (d.positionAt a).line
      ((d.positionAt b).line + 1 - (d.positionAt a).line) ↔
        (d.positionAt a).line ≤ i ∧ i ≤ (d.positionAt b).line := by
    rw [List.mem_range'_1]
    omega
  simp only [pieces, rangeFor]
  rw [filter_covers_filterMap_piece? _ List.nodup_range']
  by_cases hlines : (d.positionAt a).line ≤ i ∧ i ≤ (d.positionAt b).line
  · rw [if_pos (hmem.2 hlines), length_filter_covers_piece? hline hlow hhigh]
    simp only [hcontains, hlines, true_and, and_true, rangeFor]
  · rw [if_neg (fun h => hlines (hmem.1 h)), if_neg (fun h => hlines (hcontains.1 h).1)]
    rfl

/-! ## Bounds and order -/

theorem mem_pieces {a b : Nat} {p : Piece} (h : p ∈ d.pieces (d.rangeFor a b)) :
    0 < p.length ∧ p.line < d.lineCount ∧ p.start + p.length ≤ unitLength (d.line p.line) := by
  rcases mem_pieces_iff.1 h with ⟨-, hline, hp⟩
  rcases piece?_bounds hp with ⟨-, hpos, -, hstop⟩
  refine ⟨hpos, Nat.lt_of_le_of_lt hline (positionAt_line_lt d b), ?_⟩
  rw [hstop]
  exact column_le _ _

theorem pieces_pairwise_line (d : Document) (r : Range) :
    (d.pieces r).Pairwise fun p q => p.line < q.line := by
  rw [pieces, List.pairwise_filterMap]
  have hlines : (List.range' r.start.line (r.stop.line + 1 - r.start.line)).Pairwise (· < ·) :=
    List.pairwise_lt_range'
  refine hlines.imp ?_
  intro j k hjk p hp q hq
  rw [(piece?_bounds hp).1, (piece?_bounds hq).1]
  exact hjk

/-- The pieces of a span end before those of a later span begin. -/
theorem pieces_precedes {a b a' b' : Nat} {p q : Piece} (hspans : b ≤ a')
    (hp : p ∈ d.pieces (d.rangeFor a b)) (hq : q ∈ d.pieces (d.rangeFor a' b')) :
    p.Precedes q := by
  rcases mem_pieces_iff.1 hp with ⟨-, hpline, hp⟩
  rcases mem_pieces_iff.1 hq with ⟨hqline, -, hq⟩
  rcases piece?_bounds hp with ⟨-, -, -, hpstop⟩
  rcases piece?_bounds hq with ⟨-, -, hqstart, -⟩
  simp only [rangeFor] at hpline hqline
  have hmono : d.positionAt b ≤ d.positionAt a' := positionAt_mono hspans
  rcases hmono with hlt | ⟨heq, hcol⟩
  · exact .inl (by omega)
  · by_cases hsame : p.line = q.line
    · -- Both pieces are on the line on which one span ends and the other begins.
      have hlast : p.line = (d.positionAt b).line := by omega
      have hfirst : q.line = (d.positionAt a').line := by omega
      refine .inr ⟨hsame, ?_⟩
      rw [hpstop, hqstart, hsame]
      apply column_mono
      simp only [lastColumn, firstColumn, rangeFor, ← hsame, ← hlast, if_true]
      rw [if_pos (hsame.trans hfirst)]
      exact hcol
    · exact .inl (by omega)

end Document
end EmbeddedSql
