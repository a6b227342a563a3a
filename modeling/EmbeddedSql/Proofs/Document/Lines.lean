import EmbeddedSql.Document
import EmbeddedSql.Proofs.Text.Cuts

/-!
# Lines — where the lines of a document stand

The index of line starts, the lines and the two ways of naming a place are computed independently
of each other.  This file ties them together through the rows of a document, which are its lines
with the `\r` that `Document.lines` strips:

* `Document.rows`, `Document.row`, `Document.lineStart` — the rows and where they start;
* `Document.lineStarts_getElem?`, `Document.lineEnd_eq` — the index holds exactly these starts;
* `Document.text_eq_append_row` — a row stands in the text at its start;
* `Document.positionAt_spec` — the position of an offset is on the row that holds it;
* `Document.positionAt_mono`, `Document.offsetAt_mono` — both conversions keep the order.
-/

namespace EmbeddedSql

/-! ## Rows of a text -/

namespace Text

/-- Bytes of pieces, each with a line break behind it. -/
def spread : List (List Char) → Nat
  | [] => 0
  | piece :: rest => byteLength piece + 1 + spread rest

@[simp] theorem spread_nil : spread [] = 0 := rfl

@[simp] theorem spread_cons (piece : List Char) (rest : List (List Char)) :
    spread (piece :: rest) = byteLength piece + 1 + spread rest := rfl

theorem spread_take_succ {pieces : List (List Char)} {i : Nat} (h : i < pieces.length) :
    spread (pieces.take (i + 1)) = spread (pieces.take i) + byteLength (pieces.getD i []) + 1 := by
  induction pieces generalizing i with
  | nil => simp at h
  | cons piece rest ih =>
      cases i with
      | zero => simp
      | succ i =>
          have hi : i < rest.length := by simpa using h
          have hstep := ih hi
          simp only [List.take_succ_cons, spread_cons, hstep, List.getD_cons_succ]
          omega

theorem spread_split (t : List Char) : spread (split (· == '\n') t) = byteLength t + 1 := by
  induction t with
  | nil => rfl
  | cons c cs ih =>
      rcases List.exists_cons_of_ne_nil (split_ne_nil (· == '\n') cs) with ⟨piece, rest, h⟩
      by_cases hc : c = '\n'
      · subst hc
        have hone : '\n'.utf8Size = 1 := rfl
        simp only [split, beq_self_eq_true, if_true, spread_cons, ih, byteLength_nil,
          byteLength_cons, hone]
        omega
      · rw [h] at ih
        simp only [split, beq_iff_eq, hc, if_false, h, spread_cons, byteLength_cons] at ih ⊢
        omega

/-- A piece of a text stands behind the bytes of the pieces in front of it. -/
theorem eq_append_of_split_getElem? {t piece : List Char} {i : Nat}
    (h : (split (· == '\n') t)[i]? = some piece) :
    ∃ a b, t = a ++ piece ++ b ∧ byteLength a = spread ((split (· == '\n') t).take i) := by
  induction t generalizing i piece with
  | nil =>
      cases i with
      | zero => exact ⟨[], [], by simp_all [split], rfl⟩
      | succ i => simp [split] at h
  | cons c cs ih =>
      rcases List.exists_cons_of_ne_nil (split_ne_nil (· == '\n') cs) with ⟨first, rest, hs⟩
      by_cases hc : c = '\n'
      · -- A break in front adds an empty piece in front.
        have hsplit : split (· == '\n') (c :: cs) = [] :: split (· == '\n') cs := by
          simp [split, hc]
        rw [hsplit] at h ⊢
        cases i with
        | zero => exact ⟨[], c :: cs, by simp_all, rfl⟩
        | succ i =>
            rcases ih (by simpa using h) with ⟨a, b, hcs, ha⟩
            have hone : c.utf8Size = 1 := by rw [hc]; rfl
            refine ⟨c :: a, b, by simp [hcs], ?_⟩
            simp only [byteLength_cons, ha, hone, List.take_succ_cons, spread_cons, byteLength_nil]
      · -- Any other character makes the first piece longer, and moves all later ones.
        have hsplit : split (· == '\n') (c :: cs) = (c :: first) :: rest := by
          simp [split, hc, hs]
        rw [hsplit] at h ⊢
        rw [hs] at ih
        cases i with
        | zero =>
            rcases ih (i := 0) rfl with ⟨a, b, hcs, ha⟩
            have hnil : a = [] := byteLength_eq_zero_iff.1 (by simpa using ha)
            have hpiece : piece = c :: first := by simpa using h.symm
            exact ⟨[], b, by simp [hcs, hnil, hpiece], rfl⟩
        | succ i =>
            rcases ih (i := i + 1) (by simpa using h) with ⟨a, b, hcs, ha⟩
            refine ⟨c :: a, b, by simp [hcs], ?_⟩
            simp only [List.take_succ_cons, spread_cons] at ha ⊢
            simp only [byteLength_cons, ha]
            omega

end Text

/-- A line differs from its row at most by one `\r` at the end. -/
theorem stripReturn_eq_or (r : List Char) : stripReturn r = r ∨ r = stripReturn r ++ ['\r'] := by
  fun_induction stripReturn r with
  | case1 => exact .inl rfl
  | case2 => exact .inr rfl
  | case3 => exact .inl rfl
  | case4 c d cs ih =>
      rcases ih with h | h
      · exact .inl (congrArg (c :: ·) h)
      · exact .inr (congrArg (c :: ·) h)

namespace Document

open Text

/-! ## Rows of a document -/

/-- The lines of a document with the `\r` in front of their breaks. -/
def rows (d : Document) : List (List Char) :=
  split (· == '\n') d.text

/-- One row; past the end it is empty. -/
def row (d : Document) (index : Nat) : List Char :=
  d.rows.getD index []

/-- The offset at which a line starts. -/
def lineStart (d : Document) (index : Nat) : Nat :=
  spread (d.rows.take index)

variable {d : Document} {i j : Nat}

theorem lineCount_eq (d : Document) : d.lineCount = d.rows.length := by
  simp [lineCount, lines, rows]

theorem rows_getElem?_iff {r : List Char} :
    d.rows[i]? = some r ↔ i < d.lineCount ∧ d.row i = r := by
  rw [lineCount_eq, row, List.getD_eq_getElem?_getD]
  constructor
  · intro h
    exact ⟨(List.getElem?_eq_some_iff.1 h).1, by rw [h, Option.getD_some]⟩
  · rintro ⟨hi, hrow⟩
    rw [List.getElem?_eq_getElem hi] at hrow ⊢
    exact congrArg some hrow

theorem line_eq (d : Document) (i : Nat) : d.line i = stripReturn (d.row i) := by
  have hempty : stripReturn [] = [] := rfl
  simp only [line, lines, row, rows, List.getD_eq_getElem?_getD, List.getElem?_map]
  cases (split (· == '\n') d.text)[i]? with
  | none => simp [hempty]
  | some r => simp

theorem line_of_lineCount_le (h : d.lineCount ≤ i) : d.line i = [] := by
  simp only [line, List.getD_eq_getElem?_getD]
  rw [List.getElem?_eq_none h]
  rfl

theorem row_eq_append (d : Document) (i : Nat) : ∃ r, d.row i = d.line i ++ r := by
  rcases stripReturn_eq_or (d.row i) with h | h
  · exact ⟨[], by rw [line_eq, h, List.append_nil]⟩
  · exact ⟨['\r'], by rw [line_eq, ← h]⟩

theorem byteLength_line_le (d : Document) (i : Nat) :
    byteLength (d.line i) ≤ byteLength (d.row i) := by
  rcases row_eq_append d i with ⟨r, h⟩
  rw [h, byteLength_append]
  omega

/-! ## Line starts -/

theorem lineStart_succ (h : i < d.lineCount) :
    d.lineStart (i + 1) = d.lineStart i + byteLength (d.row i) + 1 := by
  rw [lineCount_eq] at h
  exact spread_take_succ h

theorem lineStart_lineCount (d : Document) : d.lineStart d.lineCount = d.length + 1 := by
  rw [lineStart, lineCount_eq, List.take_length]
  exact spread_split d.text

/-- A later line starts behind the break of an earlier one. -/
theorem lineStart_lt (hij : i < j) (hj : j ≤ d.lineCount) :
    d.lineStart i + byteLength (d.row i) + 1 ≤ d.lineStart j := by
  induction j with
  | zero => omega
  | succ j ih =>
      have hlast : j < d.lineCount := by omega
      rw [lineStart_succ hlast]
      by_cases hi : i = j
      · subst hi
        exact Nat.le_refl _
      · have hprev := ih (by omega) (by omega)
        omega

theorem lineEnd_le_length (h : i < d.lineCount) :
    d.lineStart i + byteLength (d.row i) ≤ d.length := by
  have hend := lineStart_lineCount d
  have hlast := lineStart_lt h (Nat.le_refl _)
  omega

theorem le_lineStart (h : i ≤ d.lineCount) : i ≤ d.lineStart i := by
  induction i with
  | zero => exact Nat.zero_le _
  | succ i ih =>
      have hprev := ih (by omega)
      rw [lineStart_succ (by omega)]
      omega

theorem lineCount_le_length (d : Document) : d.lineCount ≤ d.length + 1 := by
  rw [← lineStart_lineCount]
  exact le_lineStart (Nat.le_refl _)

theorem le_length_of_lt (h : i < d.lineCount) : i ≤ d.length := by
  have hcount : d.lineCount ≤ d.lineStart d.lineCount := le_lineStart (Nat.le_refl _)
  rw [lineStart_lineCount] at hcount
  omega

theorem unitLength_line_le (h : i < d.lineCount) : unitLength (d.line i) ≤ d.length := by
  calc
    unitLength (d.line i)
        ≤ byteLength (d.line i) := unitLength_le_byteLength _
    _ ≤ byteLength (d.row i) := byteLength_line_le d i
    _ ≤ d.lineStart i + byteLength (d.row i) := Nat.le_add_left _ _
    _ ≤ d.length := lineEnd_le_length h

theorem text_eq_append_row (h : i < d.lineCount) :
    ∃ a b, d.text = a ++ d.row i ++ b ∧ byteLength a = d.lineStart i :=
  eq_append_of_split_getElem? (rows_getElem?_iff.2 ⟨h, rfl⟩)

/-! ## The index -/

/-- The starts that the index holds, for a text that starts at `offset`. -/
theorem cons_breaksFrom_getElem? (offset : Nat) (t : List Char) (i : Nat) :
    (offset :: breaksFrom offset t)[i]? =
      if i < (split (· == '\n') t).length then
        some (offset + spread ((split (· == '\n') t).take i))
      else none := by
  induction t generalizing offset i with
  | nil => cases i <;> simp [breaksFrom, split]
  | cons c cs ih =>
      rcases List.exists_cons_of_ne_nil (split_ne_nil (· == '\n') cs) with ⟨first, rest, hs⟩
      cases i with
      | zero =>
          have hpos := List.length_pos_iff.2 (split_ne_nil (· == '\n') (c :: cs))
          simp [hpos]
      | succ i =>
          by_cases hc : c = '\n'
          · simp only [breaksFrom, split, hc, if_true, beq_self_eq_true, List.getElem?_cons_succ,
              ih (offset + 1) i, List.length_cons, Nat.add_lt_add_iff_right, List.take_succ_cons,
              spread_cons, byteLength_nil]
            simp only [Nat.add_assoc, Nat.zero_add]
          · have hstep := ih (offset + c.utf8Size) (i + 1)
            simp only [hs, List.getElem?_cons_succ, List.length_cons, Nat.add_lt_add_iff_right,
              List.take_succ_cons, spread_cons] at hstep
            simp only [breaksFrom, split, hc, if_false, beq_iff_eq, hs, List.getElem?_cons_succ,
              hstep, List.length_cons, Nat.add_lt_add_iff_right, List.take_succ_cons, spread_cons,
              byteLength_cons, Nat.add_assoc]

theorem lineStarts_getElem? (d : Document) (i : Nat) :
    d.lineStarts[i]? = if i < d.lineCount then some (d.lineStart i) else none := by
  rw [lineCount_eq, lineStart, rows, lineStarts, cons_breaksFrom_getElem?]
  simp only [Nat.zero_add]

theorem lineEnd_eq (h : i < d.lineCount) :
    d.lineEnd i = d.lineStart i + byteLength (d.row i) := by
  have hsucc := lineStart_succ h
  simp only [lineEnd, lineStarts_getElem?]
  by_cases hnext : i + 1 < d.lineCount
  · simp only [hnext, if_true]
    omega
  · -- The last line has no break; its end is that of the text.
    have hlast : d.lineCount = i + 1 := by omega
    have hlen := lineStart_lineCount d
    rw [hlast] at hlen
    simp only [hnext, if_false]
    omega

theorem lt_indexLimit {n : Nat} (h : n ≤ d.length + 1) : n < d.indexLimit :=
  Nat.lt_of_lt_of_le (Nat.lt_succ_of_le h) (Nat.le_max_right _ _)

theorem indexSum_eq {m n : Nat} (h : m + n < d.indexLimit) : d.indexSum m n = m + n :=
  Nat.mod_eq_of_lt h

theorem offsetAt_eq_min {p : Position} (h : p.line < d.lineCount) :
    d.offsetAt p = min (d.indexSum (d.lineStart p.line) p.column) (d.lineEnd p.line) := by
  simp only [offsetAt, lineStarts_getElem?, h, if_true]

/-- The sum of a line start and a column on the line is an offset of the text. -/
theorem offsetAt_eq {p : Position} (h : p.line < d.lineCount)
    (hcolumn : p.column ≤ byteLength (d.row p.line)) :
    d.offsetAt p = d.lineStart p.line + p.column := by
  have hend := lineEnd_le_length h
  rw [offsetAt_eq_min h, lineEnd_eq h, indexSum_eq (lt_indexLimit (by omega))]
  exact Nat.min_eq_left (by omega)

theorem offsetAt_of_lineCount_le {p : Position} (h : d.lineCount ≤ p.line) :
    d.offsetAt p = d.length := by
  simp [offsetAt, lineStarts_getElem?, Nat.not_lt.2 h]

/-- The offset of a character of a line. -/
theorem offsetAt_line {pre post : List Char} {c : Char} (h : d.line i = pre ++ c :: post) :
    i < d.lineCount ∧ d.offsetAt ⟨i, byteLength pre⟩ = d.lineStart i + byteLength pre := by
  have hi : i < d.lineCount := by
    apply Nat.lt_of_not_le
    intro hle
    rw [line_of_lineCount_le hle] at h
    simp at h
  have hlen := byteLength_line_le d i
  rw [h, byteLength_append] at hlen
  exact ⟨hi, offsetAt_eq hi (Nat.le_trans (Nat.le_add_right _ _) hlen)⟩

/-- A character of a line stands in the text at its offset. -/
theorem text_eq_append_line {pre post : List Char} {c : Char} (h : d.line i = pre ++ c :: post) :
    ∃ a b, d.text = a ++ c :: b ∧ byteLength a = d.offsetAt ⟨i, byteLength pre⟩ := by
  rcases offsetAt_line h with ⟨hi, hoffset⟩
  rcases text_eq_append_row hi with ⟨a, b, htext, ha⟩
  rcases d.row_eq_append i with ⟨r, hrow⟩
  refine ⟨a ++ pre, post ++ r ++ b, ?_, ?_⟩
  · rw [htext, hrow, h]
    simp
  · rw [byteLength_append, ha, hoffset]

theorem offsetAt_le_lineEnd {p : Position} (h : p.line < d.lineCount) :
    d.offsetAt p ≤ d.lineEnd p.line := by
  rw [offsetAt_eq_min h]
  exact Nat.min_le_right _ _

theorem offsetAt_le_length (d : Document) (p : Position) : d.offsetAt p ≤ d.length := by
  by_cases h : p.line < d.lineCount
  · refine Nat.le_trans (offsetAt_le_lineEnd h) ?_
    rw [lineEnd_eq h]
    exact lineEnd_le_length h
  · exact Nat.le_of_eq (offsetAt_of_lineCount_le (Nat.not_lt.1 h))

/-- The order is kept up to a position whose column does not leave its line. -/
theorem offsetAt_mono {p q : Position} (h : p ≤ q) (hq : q.column ≤ byteLength (d.row q.line)) :
    d.offsetAt p ≤ d.offsetAt q := by
  by_cases hline : q.line < d.lineCount
  · rw [offsetAt_eq hline hq]
    rcases h with hlt | ⟨heq, hcolumn⟩
    · -- Offsets are cut down to their line, so an earlier line ends before a later one starts.
      have hp : p.line < d.lineCount := Nat.lt_trans hlt hline
      have hstart := lineStart_lt hlt (Nat.le_of_lt hline)
      have hend := offsetAt_le_lineEnd hp
      rw [lineEnd_eq hp] at hend
      omega
    · rw [offsetAt_eq (heq ▸ hline) (by rw [heq]; omega), heq]
      omega
  · rw [offsetAt_of_lineCount_le (Nat.not_lt.1 hline)]
    exact offsetAt_le_length d p

/-! ## Positions of offsets -/

/-- The walk along the line starts stops at the last one that is not behind the offset. -/
theorem seek_spec {offset line start : Nat} {rest : List Nat} (h : start ≤ offset) :
    ∃ j x, (start :: rest)[j]? = some x ∧ x ≤ offset ∧
      (∀ y, (start :: rest)[j + 1]? = some y → offset < y) ∧
      seek offset line start rest = ⟨line + j, offset - x⟩ := by
  induction rest generalizing line start with
  | nil =>
      refine ⟨0, start, rfl, h, ?_, rfl⟩
      intro y hy
      simp at hy
  | cons next rest ih =>
      by_cases hnext : next ≤ offset
      · rcases @ih (line + 1) next hnext with ⟨j, x, hx, hle, hlast, hseek⟩
        refine ⟨j + 1, x, by simpa using hx, hle, ?_, ?_⟩
        · intro y hy
          exact hlast y (by simpa using hy)
        · simp only [seek, hnext, if_true, hseek, Nat.add_assoc, Nat.add_comm 1 j]
      · refine ⟨0, start, rfl, h, ?_, by simp [seek, hnext]⟩
        intro y hy
        have hy' : next = y := by simpa using hy
        omega

/-- The position of an offset is on the row that holds the offset, its break included. -/
theorem positionAt_spec (d : Document) (offset : Nat) :
    ∃ i, d.positionAt offset = ⟨i, min offset d.length - d.lineStart i⟩ ∧ i < d.lineCount ∧
      d.lineStart i ≤ min offset d.length ∧
      min offset d.length ≤ d.lineStart i + byteLength (d.row i) := by
  rcases @seek_spec (min offset d.length) 0 0 (breaksFrom 0 d.text) (Nat.zero_le _) with
    ⟨i, x, hx, hle, hlast, hseek⟩
  have hstarts : ∀ k, (0 :: breaksFrom 0 d.text)[k]? =
      if k < d.lineCount then some (d.lineStart k) else none := lineStarts_getElem? d
  rw [hstarts] at hx
  split at hx
  · rename_i hi
    have hx' : d.lineStart i = x := by simpa using hx
    subst hx'
    refine ⟨i, by simpa [positionAt] using hseek, hi, hle, ?_⟩
    have hsucc := lineStart_succ hi
    by_cases hnext : i + 1 < d.lineCount
    · have hlt := hlast (d.lineStart (i + 1)) (by rw [hstarts, if_pos hnext])
      omega
    · -- On the last line only the length of the text bounds the offset.
      have hcount : d.lineCount = i + 1 := by omega
      have hlen := lineStart_lineCount d
      rw [hcount] at hlen
      omega
  · cases hx

theorem positionAt_line_lt (d : Document) (offset : Nat) :
    (d.positionAt offset).line < d.lineCount := by
  rcases positionAt_spec d offset with ⟨i, hpos, hi, -, -⟩
  rw [hpos]
  exact hi

theorem positionAt_mono {m n : Nat} (h : m ≤ n) : d.positionAt m ≤ d.positionAt n := by
  rcases positionAt_spec d m with ⟨i, hm, hi, hmlow, hmhigh⟩
  rcases positionAt_spec d n with ⟨j, hn, hj, hnlow, hnhigh⟩
  rw [hm, hn]
  rcases Nat.lt_trichotomy i j with hlt | heq | hgt
  · exact .inl hlt
  · subst heq
    refine .inr ⟨rfl, ?_⟩
    show min m d.length - d.lineStart i ≤ min n d.length - d.lineStart i
    omega
  · exfalso
    have hstart := lineStart_lt hgt (Nat.le_of_lt hi)
    omega

end Document
end EmbeddedSql
