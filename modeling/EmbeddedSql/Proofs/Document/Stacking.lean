import EmbeddedSql.Proofs.Document.Ranges

/-!
# Stacking — one document inside another

When whole lines are put above or below a document, its own lines stay as they are, and all of its
places move by the bytes and the lines above.  Columns never change:

* `Position.shift`, `Range.shift` — places further down;
* `Document.Inside e d bytes lines` — `e` stands in `d` as whole lines, that far down;
* `Document.Inside.offsetAt_shift`, `Document.Inside.positionAt_add` — both conversions move with
  the places;
* `Document.Inside.holds` — a range that holds a text holds it further down;
* `Document.stack` — one document above another, with a line break between them;
* `Text.lines_induction` — induction over the lines of a text;
* `Document.endPosition`, `Document.positionAt_append` — the position at which a text ends does not
  depend on what follows it.
-/

namespace EmbeddedSql

open Text

/-! ## Moved places -/

def Position.shift (lines : Nat) (p : Position) : Position :=
  ⟨lines + p.line, p.column⟩

theorem Position.shift_shift (m n : Nat) (p : Position) :
    (p.shift m).shift n = p.shift (n + m) := by
  simp [Position.shift, Nat.add_assoc]

def Range.shift (bytes lines : Nat) (r : Range) : Range :=
  ⟨r.span.shift bytes, r.start.shift lines, r.stop.shift lines⟩

@[simp] theorem Range.shift_zero (r : Range) : r.shift 0 0 = r := by
  simp [Range.shift, Span.shift, Position.shift]

namespace Text

theorem spread_append (xs ys : List (List Char)) : spread (xs ++ ys) = spread xs + spread ys := by
  induction xs with
  | nil => simp
  | cons x rest ih => simp [ih, Nat.add_assoc]

/-- A line break separates the pieces in front of it from those behind it. -/
theorem split_append_break (s t : List Char) :
    split (· == '\n') (s ++ '\n' :: t) = split (· == '\n') s ++ split (· == '\n') t :=
  split_append_cons rfl s t

theorem ne_break_of_not_mem {r : List Char} (hr : '\n' ∉ r) : ∀ c ∈ r, (c == '\n') = false := by
  intro c hc
  rw [beq_eq_false_iff_ne]
  rintro rfl
  exact hr hc

/-- Text without a line break makes the first piece longer. -/
theorem split_append_of_not_mem {r t piece : List Char} {rest : List (List Char)}
    (hr : '\n' ∉ r) (h : split (· == '\n') t = piece :: rest) :
    split (· == '\n') (r ++ t) = (r ++ piece) :: rest :=
  split_append_of_forall (ne_break_of_not_mem hr) h

theorem split_of_not_mem {r : List Char} (hr : '\n' ∉ r) : split (· == '\n') r = [r] :=
  split_of_forall (ne_break_of_not_mem hr)

/-- A text is one line, or a line in front of a text. -/
@[elab_as_elim]
theorem lines_induction {motive : List Char → Prop} (line : ∀ r, '\n' ∉ r → motive r)
    (above : ∀ r t, '\n' ∉ r → motive t → motive (r ++ '\n' :: t)) (t : List Char) :
    motive t := by
  by_cases hbreak : '\n' ∈ t
  · rcases List.eq_append_cons_of_mem hbreak with ⟨r, rest, ht, hr⟩
    have hshorter : rest.length < t.length := by
      rw [ht, List.length_append, List.length_cons]
      omega
    rw [ht]
    exact above r rest hr (lines_induction line above rest)
  · exact line t hbreak
termination_by t.length

end Text

namespace Document

variable {d e : Document} {bytes lines : Nat}

/-! ## Documents inside documents -/

/-- The lines of `e` stand in `d`, with `lines` lines of `bytes` bytes above them. -/
structure Inside (e d : Document) (bytes lines : Nat) : Prop where
  text : ∃ a b, d.text = a ++ (e.text ++ b) ∧ byteLength a = bytes
  rows : ∃ above below, d.rows = above ++ (e.rows ++ below) ∧ above.length = lines ∧
    spread above = bytes

namespace Inside

theorem lines_eq (h : e.Inside d bytes lines) :
    ∃ above below, d.lines = above ++ (e.lines ++ below) ∧ above.length = lines := by
  rcases h.rows with ⟨above, below, hrows, hlength, -⟩
  refine ⟨above.map stripReturn, below.map stripReturn, ?_, by simpa using hlength⟩
  have hmap : d.lines = d.rows.map stripReturn := rfl
  rw [hmap, hrows, List.map_append, List.map_append]
  rfl

theorem lineCount_le (h : e.Inside d bytes lines) : lines + e.lineCount ≤ d.lineCount := by
  rcases h.rows with ⟨above, below, hrows, hlength, -⟩
  rw [lineCount_eq, lineCount_eq, hrows, List.length_append, List.length_append]
  omega

theorem row_eq (h : e.Inside d bytes lines) {i : Nat} (hi : i < e.lineCount) :
    d.row (lines + i) = e.row i := by
  rcases h.rows with ⟨above, below, hrows, rfl, -⟩
  rw [lineCount_eq] at hi
  simp only [row, hrows, List.getD_eq_getElem?_getD]
  rw [List.getElem?_append_right (Nat.le_add_right _ _), Nat.add_sub_cancel_left,
    List.getElem?_append_left hi]

theorem lineStart_eq (h : e.Inside d bytes lines) {i : Nat} (hi : i ≤ e.lineCount) :
    d.lineStart (lines + i) = bytes + e.lineStart i := by
  rcases h.rows with ⟨above, below, hrows, rfl, rfl⟩
  rw [lineCount_eq] at hi
  rw [lineStart, lineStart, hrows, List.take_length_add_append, spread_append,
    List.take_append_of_le_length hi]

theorem offsetAt_shift (h : e.Inside d bytes lines) {p : Position} (hp : e.Between p) :
    d.offsetAt (p.shift lines) = bytes + e.offsetAt p := by
  have hline : (p.shift lines).line < d.lineCount := by
    have hcount := h.lineCount_le
    have hinner := hp.1
    show lines + p.line < d.lineCount
    omega
  have hcolumn : (p.shift lines).column ≤ byteLength (d.row (p.shift lines).line) := by
    show p.column ≤ byteLength (d.row (lines + p.line))
    rw [h.row_eq hp.1]
    exact hp.column_le
  rw [offsetAt_eq hline hcolumn, offsetAt_eq hp.1 hp.column_le]
  simp only [Position.shift, h.lineStart_eq (Nat.le_of_lt hp.1), Nat.add_assoc]

theorem positionAt_add (h : e.Inside d bytes lines) {offset : Nat} (ho : offset ≤ e.length) :
    d.positionAt (bytes + offset) = (e.positionAt offset).shift lines := by
  rcases positionAt_spec e offset with ⟨i, hpos, hi, hlow, hhigh⟩
  rw [Nat.min_eq_left ho] at hpos hlow hhigh
  have hcount := h.lineCount_le
  have hstart := h.lineStart_eq (Nat.le_of_lt hi)
  have hrow := h.row_eq hi
  have hmoved : d.positionAt (bytes + offset) =
      ⟨lines + i, bytes + offset - d.lineStart (lines + i)⟩ := by
    apply positionAt_eq
    · omega
    · omega
    · rw [hstart, hrow]
      omega
  rw [hmoved, hpos, hstart, Nat.add_sub_add_left]
  rfl

theorem rangeFor_add (h : e.Inside d bytes lines) {start stop : Nat} (hstart : start ≤ e.length)
    (hstop : stop ≤ e.length) :
    d.rangeFor (bytes + start) (bytes + stop) = (e.rangeFor start stop).shift bytes lines := by
  simp only [rangeFor, h.positionAt_add hstart, h.positionAt_add hstop]
  rfl

theorem rangeBetween_shift (h : e.Inside d bytes lines) {p q : Position}
    (hp : e.Between p) (hq : e.Between q) :
    d.rangeBetween (p.shift lines) (q.shift lines) =
      (e.rangeBetween p q).shift bytes lines := by
  simp only [rangeBetween, h.offsetAt_shift hp, h.offsetAt_shift hq]
  rfl

/-- What a range holds in the inner document, the moved range holds in the outer one. -/
theorem holds (h : e.Inside d bytes lines) {r : Range} {text : List Char}
    (hr : e.Holds r text) : d.Holds (r.shift bytes lines) text := by
  have hspan := hr.span_eq
  rcases hr with ⟨a, b, hinner, rfl⟩
  rcases h.text with ⟨x, y, houter, hx⟩
  have hbounds : byteLength a + byteLength text ≤ e.length := hspan.2
  refine ⟨x ++ a, b ++ y, by simp [houter, hinner], ?_⟩
  rw [byteLength_append, hx, Nat.add_assoc]
  exact (h.rangeFor_add (by omega) hbounds).symm

end Inside

/-! ## One document above another -/

/-- One document above another. -/
def stack (a b : Document) : Document :=
  ⟨a.text ++ '\n' :: b.text⟩

theorem rows_stack (a b : Document) : (a.stack b).rows = a.rows ++ b.rows :=
  split_append_break a.text b.text

theorem lines_stack (a b : Document) : (a.stack b).lines = a.lines ++ b.lines := by
  have hmap : ∀ x : Document, x.lines = x.rows.map stripReturn := fun _ => rfl
  rw [hmap, hmap, hmap, rows_stack, List.map_append]

theorem stack_upper (a b : Document) : a.Inside (a.stack b) 0 0 where
  text := ⟨[], '\n' :: b.text, rfl, rfl⟩
  rows := ⟨[], b.rows, rows_stack a b, rfl, rfl⟩

theorem stack_lower (a b : Document) : b.Inside (a.stack b) (a.length + 1) a.lineCount where
  text := by
    refine ⟨a.text ++ ['\n'], [], by simp [stack], ?_⟩
    rw [byteLength_append]
    rfl
  rows := by
    refine ⟨a.rows, [], by rw [rows_stack, List.append_nil], (lineCount_eq a).symm, ?_⟩
    exact spread_split a.text

theorem lines_of_not_mem {r : List Char} (hr : '\n' ∉ r) :
    (⟨r⟩ : Document).lines = [stripReturn r] := by
  rw [lines, split_of_not_mem hr, List.map_singleton]

theorem lines_append_break {r : List Char} (hr : '\n' ∉ r) (t : List Char) :
    (⟨r ++ '\n' :: t⟩ : Document).lines = stripReturn r :: (⟨t⟩ : Document).lines := by
  have hstack : (⟨r ++ '\n' :: t⟩ : Document) = stack ⟨r⟩ ⟨t⟩ := rfl
  rw [hstack, lines_stack, lines_of_not_mem hr, List.singleton_append]

/-! ## Ends of texts -/

/-- The position behind the last character. -/
def endPosition (d : Document) : Position :=
  d.positionAt d.length

/-- On the first line a position has as many bytes in front of it as the text has. -/
theorem positionAt_append_of_not_mem {r : List Char} (hr : '\n' ∉ r) (t : List Char) :
    (⟨r ++ t⟩ : Document).positionAt (byteLength r) = ⟨0, byteLength r⟩ := by
  rcases List.exists_cons_of_ne_nil (split_ne_nil (· == '\n') t) with ⟨piece, rest, hs⟩
  have hrows : (⟨r ++ t⟩ : Document).rows = (r ++ piece) :: rest := split_append_of_not_mem hr hs
  have hcount : 0 < (⟨r ++ t⟩ : Document).lineCount := by
    rw [lineCount_eq, hrows]
    exact Nat.succ_pos _
  have hrow : (⟨r ++ t⟩ : Document).row 0 = r ++ piece := by
    rw [row, hrows]
    rfl
  have hstart : (⟨r ++ t⟩ : Document).lineStart 0 = 0 := rfl
  have hpos : (⟨r ++ t⟩ : Document).positionAt (byteLength r) =
      ⟨0, byteLength r - (⟨r ++ t⟩ : Document).lineStart 0⟩ := by
    apply positionAt_eq hcount
    · exact Nat.zero_le _
    · rw [hrow, hstart, byteLength_append]
      omega
  rw [hpos, hstart, Nat.sub_zero]

theorem endPosition_of_not_mem {r : List Char} (hr : '\n' ∉ r) :
    (⟨r⟩ : Document).endPosition = ⟨0, byteLength r⟩ := by
  have hpos := positionAt_append_of_not_mem hr []
  rwa [List.append_nil] at hpos

theorem endPosition_stack (a b : Document) :
    (a.stack b).endPosition = b.endPosition.shift a.lineCount := by
  have hlen : (a.stack b).length = a.length + 1 + b.length := by
    rw [length, stack, byteLength_append, byteLength_cons, ← Nat.add_assoc]
    rfl
  rw [endPosition, hlen]
  exact (stack_lower a b).positionAt_add (Nat.le_refl _)

theorem endPosition_append_break {r : List Char} (hr : '\n' ∉ r) (t : List Char) :
    (⟨r ++ '\n' :: t⟩ : Document).endPosition = (⟨t⟩ : Document).endPosition.shift 1 := by
  have hcount : (⟨r⟩ : Document).lineCount = 1 := by
    rw [lineCount, lines_of_not_mem hr]
    rfl
  have hend := endPosition_stack ⟨r⟩ ⟨t⟩
  rwa [hcount] at hend

theorem positionAt_append (s t : List Char) :
    (⟨s ++ t⟩ : Document).positionAt (byteLength s) = (⟨s⟩ : Document).endPosition := by
  induction s using lines_induction with
  | line r hr => rw [positionAt_append_of_not_mem hr, endPosition_of_not_mem hr]
  | above r s hr ih =>
      -- The first line moves both sides down by the same number of lines.
      have hstack : (⟨r ++ '\n' :: s ++ t⟩ : Document) = stack ⟨r⟩ ⟨s ++ t⟩ := by
        simp [stack]
      have hlen : byteLength (r ++ '\n' :: s) = (⟨r⟩ : Document).length + 1 + byteLength s := by
        rw [byteLength_append, byteLength_cons, ← Nat.add_assoc]
        rfl
      have hfits : byteLength s ≤ (⟨s ++ t⟩ : Document).length := by
        rw [length, byteLength_append]
        exact Nat.le_add_right _ _
      rw [hstack, hlen, (stack_lower ⟨r⟩ ⟨s ++ t⟩).positionAt_add hfits, ih]
      exact (endPosition_stack ⟨r⟩ ⟨s⟩).symm

end Document
end EmbeddedSql
