import EmbeddedSql.Proofs.Document.Spans
import EmbeddedSql.Proofs.Document.Stacking
import EmbeddedSql.Proofs.Editor.Pieces
import Mathlib.Algebra.GroupWithZero.Nat
import Mathlib.Data.List.Sort

/-!
# Coverage — pieces lose nothing and repeat nothing

The pieces of a span are cut line by line, with columns of lines that lack what ends them.  What
they cover can be read off the text in one walk that knows of line ends only what stands right
behind a character.  Unit by unit and in the same order, the pieces give what the walk finds in the
span:

* `Text.endsLine`, `Text.withoutEnds` — the characters that end lines, and a text without them;
* `Editor.Glyph`, `Editor.Glyph.walk` — the other characters, each with its place;
* `Document.mem_glyphs` — they are the characters of the lines;
* `Document.UnitIn`, `Document.exists_piece_covers` — which units the pieces cover;
* `Editor.Piece.units`, `Editor.Piece.flatMap_units_eq` — pieces are told by what they cover;
* `Document.units_pieces`, `Document.sum_length_pieces` — the units of the pieces, and their number;
* `Document.pieces32`, `Document.map_widen_pieces32` — numbers of 32 bits are enough;
* `Document.PieceLaws`, `Document.pieces_lose_nothing` — all that holds of the pieces of a span.
-/

namespace EmbeddedSql

open Text

/-! ## Characters of lines -/

namespace Text

/-- Whether a character ends a line instead of belonging to its text: a line break, or a `\r` with a
line break or nothing behind it. -/
def endsLine (c : Char) (behind : List Char) : Bool :=
  c == '\n' || (c == '\r' && behind.head?.all (· == '\n'))

/-- A text without the characters that end lines.  `behind` is what follows the text. -/
def withoutEnds (behind : List Char) : List Char → List Char
  | [] => []
  | c :: cs =>
    if endsLine c (cs ++ behind) then withoutEnds behind cs else c :: withoutEnds behind cs

end Text

namespace Editor

/-- A character that belongs to the text of a line: the line, the first of its units there, and its
byte offset in the whole text. -/
structure Glyph where
  line : Nat
  unit : Nat
  offset : Nat
  char : Char
deriving DecidableEq, Repr

namespace Glyph

/-- The units of a character. -/
def piece (g : Glyph) : Piece :=
  ⟨g.line, g.unit, unitWidth g.char⟩

/-- The characters of a text that do not end lines.  The first character has the given line, unit
and offset. -/
def walk (line unit offset : Nat) : List Char → List Glyph
  | [] => []
  | c :: cs =>
    if c = '\n' then walk (line + 1) 0 (offset + c.utf8Size) cs
    else if endsLine c cs then walk line unit (offset + c.utf8Size) cs
    else ⟨line, unit, offset, c⟩ :: walk line (unit + unitWidth c) (offset + c.utf8Size) cs

/-- All characters of one line. -/
def along (line unit offset : Nat) : List Char → List Glyph
  | [] => []
  | c :: cs => ⟨line, unit, offset, c⟩ :: along line (unit + unitWidth c) (offset + c.utf8Size) cs

variable {g : Glyph} {line unit offset start stop : Nat} {c : Char} {cs row below t : List Char}

/-! ## Walks by lines -/

/-- A row gives the characters of its line, if a line break or the end of the text is behind it. -/
theorem walk_row (hrow : '\n' ∉ row) (hbelow : ∀ c ∈ below.head?, c = '\n') :
    walk line unit offset (row ++ below) =
      along line unit offset (stripReturn row) ++
        walk line (unit + unitLength (stripReturn row)) (offset + byteLength row) below := by
  fun_induction stripReturn row generalizing unit offset with
  | case1 => rfl
  | case2 =>
      have hends : endsLine '\r' below = true := by
        cases below with
        | nil => rfl
        | cons c below => simp [endsLine, hbelow c rfl]
      have hne : '\r' ≠ '\n' := by decide
      rw [List.cons_append, List.nil_append, walk, if_neg hne, if_pos hends]
      rfl
  | case3 c hc =>
      have hbreak : c ≠ '\n' := fun h => hrow (h ▸ List.mem_singleton_self _)
      have hlast : ¬ endsLine c below = true := by
        simp [endsLine, hbreak, hc]
      rw [List.cons_append, List.nil_append, walk, if_neg hbreak, if_neg hlast]
      rfl
  | case4 c d cs ih =>
      -- What stands behind this character is on the same row, so it is no line break.
      rw [List.mem_cons, not_or] at hrow
      have hd : d ≠ '\n' := fun h => hrow.2 (h ▸ List.mem_cons_self)
      have hinside : ¬ endsLine c (d :: cs ++ below) = true := by
        simp [endsLine, Ne.symm hrow.1, hd]
      rw [List.cons_append, walk, if_neg (Ne.symm hrow.1), if_neg hinside, ih hrow.2, along,
        unitLength_cons, byteLength_cons c, Nat.add_assoc unit, Nat.add_assoc offset,
        List.cons_append]

theorem mem_along :
    g ∈ along line unit offset cs ↔ ∃ pre post, cs = pre ++ g.char :: post ∧ g.line = line ∧
      g.unit = unit + unitLength pre ∧ g.offset = offset + byteLength pre := by
  rcases g with ⟨l, u, o, c⟩
  induction cs generalizing unit offset with
  | nil => simp [along]
  | cons d cs ih =>
      rw [along, List.mem_cons, ih]
      constructor
      · rintro (heq | ⟨pre, post, rfl, rfl, hu, ho⟩)
        · cases heq
          exact ⟨[], cs, rfl, rfl, rfl, rfl⟩
        · refine ⟨d :: pre, post, rfl, rfl, ?_, ?_⟩
          · rw [hu, unitLength_cons, Nat.add_assoc]
          · rw [ho, byteLength_cons, Nat.add_assoc]
      · rintro ⟨pre, post, hcs, rfl, hu, ho⟩
        cases pre with
        | nil =>
            cases hcs
            exact .inl (by rw [show u = unit from hu, show o = offset from ho])
        | cons e pre =>
            cases hcs
            refine .inr ⟨pre, post, rfl, rfl, ?_, ?_⟩
            · rw [hu, unitLength_cons, Nat.add_assoc]
            · rw [ho, byteLength_cons, Nat.add_assoc]

/-- A walk over a text gives the characters of each of its rows. -/
theorem mem_walk :
    g ∈ walk line 0 offset t ↔ ∃ i row, (split (· == '\n') t)[i]? = some row ∧
      g ∈ along (line + i) 0 (offset + spread ((split (· == '\n') t).take i))
        (stripReturn row) := by
  induction t using lines_induction generalizing line offset with
  | line r hr =>
      have hwalk := @walk_row line 0 offset r [] hr (by simp)
      rw [List.append_nil, walk, List.append_nil] at hwalk
      rw [hwalk, split_of_not_mem hr]
      constructor
      · intro hg
        exact ⟨0, r, rfl, by simpa using hg⟩
      · -- There is no second row.
        rintro ⟨i, row, hrow, hg⟩
        cases i with
        | zero =>
            cases hrow
            simpa using hg
        | succ i => simp at hrow
  | above r t hr ih =>
      have hwalk := @walk_row line 0 offset r ('\n' :: t) hr (by simp)
      have hone : '\n'.utf8Size = 1 := rfl
      -- Behind the row and its break the walk begins anew, a line and some bytes further down.
      rw [walk, if_pos rfl, hone] at hwalk
      rw [hwalk, split_append_break, split_of_not_mem hr, List.singleton_append, List.mem_append,
        ih]
      constructor
      · rintro (hg | ⟨i, row, hrow, hg⟩)
        · exact ⟨0, r, rfl, by simpa using hg⟩
        · refine ⟨i + 1, row, hrow, ?_⟩
          rw [List.take_succ_cons, spread_cons]
          simpa only [Nat.add_assoc, Nat.add_comm 1] using hg
      · rintro ⟨i, row, hrow, hg⟩
        cases i with
        | zero =>
            cases hrow
            exact .inl (by simpa using hg)
        | succ i =>
            rw [List.take_succ_cons, spread_cons] at hg
            refine .inr ⟨i, row, hrow, ?_⟩
            simpa only [Nat.add_assoc, Nat.add_comm 1] using hg

/-! ## The order of a walk -/

theorem walk_behind (hg : g ∈ walk line unit offset t) :
    (line < g.line ∨ (line = g.line ∧ unit ≤ g.unit)) ∧ offset ≤ g.offset := by
  fun_induction walk line unit offset t with
  | case1 => cases hg
  | case2 line unit offset cs ih =>
      have h := ih hg
      omega
  | case3 line unit offset c cs _ _ ih =>
      have h := ih hg
      omega
  | case4 line unit offset c cs _ _ ih =>
      rcases List.mem_cons.1 hg with rfl | hg
      · exact ⟨.inr ⟨rfl, Nat.le_refl _⟩, Nat.le_refl _⟩
      · have h := ih hg
        omega

theorem walk_pairwise (line unit offset : Nat) (t : List Char) :
    (walk line unit offset t).Pairwise fun g h => g.piece.Precedes h.piece := by
  fun_induction walk line unit offset t with
  | case1 => exact List.Pairwise.nil
  | case2 _ _ _ _ ih => exact ih
  | case3 _ _ _ _ _ _ _ ih => exact ih
  | case4 line unit offset c cs _ _ ih =>
      refine List.Pairwise.cons ?_ ih
      intro g hg
      exact (walk_behind hg).1

/-- A walk goes on behind a part of the text.  What the part gives has its offsets there, and is
the part without the characters that end lines. -/
theorem exists_walk_append (line unit offset : Nat) (s t : List Char) :
    ∃ gs line' unit', walk line unit offset (s ++ t) =
        gs ++ walk line' unit' (offset + byteLength s) t ∧
      (∀ g ∈ gs, offset ≤ g.offset ∧ g.offset < offset + byteLength s) ∧
      gs.map (·.char) = withoutEnds t s := by
  induction s generalizing line unit offset with
  | nil => exact ⟨[], line, unit, rfl, by simp, rfl⟩
  | cons c cs ih =>
      -- All cases go on behind the character, in a line and at a unit of their own.
      have hlater : ∀ line unit, ∃ gs line' unit',
          walk line unit (offset + c.utf8Size) (cs ++ t) =
              gs ++ walk line' unit' (offset + byteLength (c :: cs)) t ∧
            (∀ g ∈ gs, offset ≤ g.offset ∧ g.offset < offset + byteLength (c :: cs)) ∧
            gs.map (·.char) = withoutEnds t cs := by
        intro line unit
        rcases ih line unit (offset + c.utf8Size) with ⟨gs, line', unit', hwalk, hbounds, hchars⟩
        rw [Nat.add_assoc, ← byteLength_cons] at hwalk hbounds
        refine ⟨gs, line', unit', hwalk, ?_, hchars⟩
        intro g hg
        exact ⟨Nat.le_trans (Nat.le_add_right _ _) (hbounds g hg).1, (hbounds g hg).2⟩
      rw [List.cons_append, walk, withoutEnds]
      by_cases hends : endsLine c (cs ++ t) = true
      · rw [if_pos hends, if_pos hends]
        split
        · exact hlater (line + 1) 0
        · exact hlater line unit
      · have hbreak : c ≠ '\n' := by
          rintro rfl
          exact hends rfl
        have hpos : 0 < c.utf8Size := c.utf8Size_pos
        rcases hlater line (unit + unitWidth c) with ⟨gs, line', unit', hwalk, hbounds, hchars⟩
        rw [if_neg hbreak, if_neg hends, if_neg hends]
        refine ⟨⟨line, unit, offset, c⟩ :: gs, line', unit', by rw [hwalk]; rfl, ?_, ?_⟩
        · intro g hg
          rcases List.mem_cons.1 hg with rfl | hg
          · exact ⟨Nat.le_refl _, by simp only [byteLength_cons]; omega⟩
          · exact hbounds g hg
        · rw [List.map_cons, hchars]

end Glyph

/-! ## Units -/

namespace Piece

/-- The units of a piece, each with its line. -/
def units (p : Piece) : List (Nat × Nat) :=
  (List.range' p.start p.length).map (Prod.mk p.line)

variable {p : Piece} {ps qs : List Piece} {i u : Nat}

theorem mem_units : (i, u) ∈ p.units ↔ p.covers i u = true := by
  simp only [units, List.mem_map, List.mem_range'_1, Prod.mk.injEq, covers_iff]
  constructor
  · rintro ⟨_, hu, hline, rfl⟩
    exact ⟨hline, hu⟩
  · rintro ⟨hline, hu⟩
    exact ⟨u, hu, hline, rfl⟩

theorem mem_flatMap_units : (i, u) ∈ ps.flatMap units ↔ ∃ p ∈ ps, p.covers i u = true := by
  simp only [List.mem_flatMap, mem_units]

theorem length_flatMap_units (ps : List Piece) :
    (ps.flatMap units).length = (ps.map (·.length)).sum := by
  simp only [List.length_flatMap, units, List.length_map, List.length_range']

theorem units_pairwise (h : ps.Pairwise Precedes) :
    (ps.flatMap units).Pairwise (Prod.Lex (· < ·) (· < ·)) := by
  rw [List.pairwise_flatMap]
  constructor
  · intro p _
    rw [units, List.pairwise_map]
    have hrange : (List.range' p.start p.length).Pairwise (· < ·) := List.pairwise_lt_range'
    refine hrange.imp ?_
    intro u v hlt
    exact Prod.lex_def.2 (.inr ⟨rfl, hlt⟩)
  · refine h.imp ?_
    rintro p q hpq ⟨i, u⟩ hu ⟨j, v⟩ hv
    rw [mem_units, covers_iff] at hu hv
    rw [Prod.lex_def]
    rcases hpq with hlt | ⟨heq, hle⟩
    · exact .inl (by simp only []; omega)
    · exact .inr (by simp only []; omega)

/-- Pieces in order that cover the same units have the same units in the same order. -/
theorem flatMap_units_eq (hps : ps.Pairwise Precedes) (hqs : qs.Pairwise Precedes)
    (hcovers : ∀ i u, (∃ p ∈ ps, p.covers i u = true) ↔ ∃ q ∈ qs, q.covers i u = true) :
    ps.flatMap units = qs.flatMap units := by
  refine (units_pairwise hps).eq_of_mem_iff (units_pairwise hqs) ?_
  rintro ⟨i, u⟩
  rw [mem_flatMap_units, mem_flatMap_units]
  exact hcovers i u

end Piece

theorem Glyph.length_flatMap_units (gs : List Glyph) :
    (gs.flatMap (·.piece.units)).length = unitLength (gs.map (·.char)) := by
  induction gs with
  | nil => rfl
  | cons g gs ih =>
      rw [List.flatMap_cons, List.length_append, ih, List.map_cons, unitLength_cons, Piece.units,
        List.length_map, List.length_range']
      rfl

end Editor

namespace Document

open Editor

variable {d : Document} {r : Range} {g : Glyph} {i u start stop : Nat}

/-! ## The characters of a document -/

/-- The characters that belong to the text of a line, in order. -/
def glyphs (d : Document) : List Glyph :=
  Glyph.walk 0 0 0 d.text

/-- Those with their offset in a span. -/
def glyphsIn (d : Document) (s : Span) : List Glyph :=
  d.glyphs.filter fun g => s.contains g.offset

/-- The walk over a text finds the characters of its lines, at their places. -/
theorem mem_glyphs : g ∈ d.glyphs ↔ ∃ pre post, d.line g.line = pre ++ g.char :: post ∧
    g.unit = unitLength pre ∧ g.offset = d.offsetAt ⟨g.line, byteLength pre⟩ := by
  rw [glyphs, Glyph.mem_walk]
  constructor
  · rintro ⟨i, row, hrow, hg⟩
    rcases Glyph.mem_along.1 hg with ⟨pre, post, htext, hline, hunit, hoffset⟩
    rw [Nat.zero_add] at hline hunit hoffset
    have hcut : d.line g.line = pre ++ g.char :: post := by
      rw [hline, line_eq, (rows_getElem?_iff.1 hrow).2, htext]
    refine ⟨pre, post, hcut, hunit, ?_⟩
    rw [(offsetAt_line hcut).2, hline]
    exact hoffset
  · rintro ⟨pre, post, hcut, hunit, hoffset⟩
    rcases offsetAt_line hcut with ⟨hi, hat⟩
    refine ⟨g.line, d.row g.line, rows_getElem?_iff.2 ⟨hi, rfl⟩, Glyph.mem_along.2 ?_⟩
    rw [← line_eq, Nat.zero_add, Nat.zero_add]
    exact ⟨pre, post, hcut, rfl, hunit.trans (Nat.zero_add _).symm, hoffset.trans hat⟩

/-- A unit of a line belongs to a character of the line whose offset lies in a span. -/
def UnitIn (d : Document) (s : Span) (index unit : Nat) : Prop :=
  ∃ pre c post, d.line index = pre ++ c :: post ∧ unitLength pre ≤ unit ∧
    unit < unitLength pre + unitWidth c ∧
      s.contains (d.offsetAt ⟨index, byteLength pre⟩) = true

theorem exists_glyph_covers {s : Span} :
    (∃ g ∈ d.glyphsIn s, g.piece.covers i u = true) ↔ d.UnitIn s i u := by
  constructor
  · rintro ⟨g, hg, hcovers⟩
    rcases List.mem_filter.1 hg with ⟨hmem, hin⟩
    rcases mem_glyphs.1 hmem with ⟨pre, post, hline, hunit, hoffset⟩
    rcases Piece.covers_iff.1 hcovers with ⟨rfl, hlow, hhigh⟩
    simp only [Glyph.piece, hunit] at hlow hhigh
    exact ⟨pre, g.char, post, hline, hlow, hhigh, hoffset ▸ hin⟩
  · rintro ⟨pre, c, post, hline, hlow, hhigh, hin⟩
    refine ⟨⟨i, unitLength pre, d.offsetAt ⟨i, byteLength pre⟩, c⟩, ?_, ?_⟩
    · exact List.mem_filter.2 ⟨mem_glyphs.2 ⟨pre, post, hline, rfl, rfl⟩, hin⟩
    · exact Piece.covers_iff.2 ⟨rfl, hlow, hhigh⟩

/-! ## Coverage -/

theorem exists_piece_covers (hstart : IsBoundary d.text start) (hstop : IsBoundary d.text stop) :
    (∃ p ∈ d.pieces (d.rangeFor start stop), p.covers i u = true) ↔
      d.UnitIn ⟨start, stop⟩ i u := by
  -- The last byte of a character decides whether a piece covers it, and for whole characters the
  -- first byte says the same.
  have hcharacter : ∀ {pre post : List Char} {c : Char}, d.line i = pre ++ c :: post →
      unitLength pre ≤ u → u < unitLength pre + unitWidth c →
        ((∃ p ∈ d.pieces (d.rangeFor start stop), p.covers i u = true) ↔
          (⟨start, stop⟩ : Span).contains (d.offsetAt ⟨i, byteLength pre⟩) = true) := by
    intro pre post c hline hlow hhigh
    rcases text_eq_append_line hline with ⟨a, b, htext, ha⟩
    have hcount := length_filter_covers_pieces (a := start) (b := stop) hline hlow hhigh
    have hlast := Span.contains_last (s := ⟨start, stop⟩) (htext ▸ hstart) (htext ▸ hstop)
    rw [← ha, hlast, ha] at hcount
    rw [← List.length_filter_pos_iff, hcount]
    by_cases hin : (⟨start, stop⟩ : Span).contains (d.offsetAt ⟨i, byteLength pre⟩) = true
    · simp [hin]
    · simp [hin]
  constructor
  · rintro ⟨p, hp, hcovers⟩
    rcases mem_pieces hp with ⟨-, -, hunits⟩
    rcases Piece.covers_iff.1 hcovers with ⟨rfl, -, hbelow⟩
    rcases exists_unit (Nat.lt_of_lt_of_le hbelow hunits) with ⟨pre, c, post, hline, hlow, hhigh⟩
    exact ⟨pre, c, post, hline, hlow, hhigh, (hcharacter hline hlow hhigh).1 ⟨p, hp, hcovers⟩⟩
  · rintro ⟨pre, c, post, hline, hlow, hhigh, hin⟩
    exact (hcharacter hline hlow hhigh).2 hin

/-- The units of the pieces are those of the characters, in the order of the text. -/
theorem units_pieces (hstart : IsBoundary d.text start) (hstop : IsBoundary d.text stop) :
    (d.pieces (d.rangeFor start stop)).flatMap Piece.units =
      (d.glyphsIn ⟨start, stop⟩).flatMap (·.piece.units) := by
  have hpieces : (d.pieces (d.rangeFor start stop)).Pairwise Piece.Precedes :=
    (d.pieces_pairwise_line _).imp .inl
  have hglyphs : ((d.glyphsIn ⟨start, stop⟩).map Glyph.piece).Pairwise Piece.Precedes :=
    List.pairwise_map.2 ((Glyph.walk_pairwise 0 0 0 d.text).filter _)
  have hunits := Piece.flatMap_units_eq hpieces hglyphs fun i u => by
    rw [exists_piece_covers hstart hstop, ← exists_glyph_covers]
    simp only [List.mem_map, exists_exists_and_eq_and]
  rw [hunits, List.flatMap_map]

theorem map_char_glyphsIn {s : Span} {a b c : List Char} (htext : d.text = a ++ (b ++ c))
    (hstart : s.start = byteLength a) (hstop : s.stop = byteLength a + byteLength b) :
    (d.glyphsIn s).map (·.char) = withoutEnds c b := by
  rcases Glyph.exists_walk_append 0 0 0 a (b ++ c) with ⟨front, line, unit, hfront, hbefore, -⟩
  rcases Glyph.exists_walk_append line unit (0 + byteLength a) b c with
    ⟨mid, line', unit', hmid, hinside, hchars⟩
  rw [Nat.zero_add] at hfront hbefore hmid hinside
  rw [← hstop] at hmid hinside
  have hnone : front.filter (fun g => s.contains g.offset) = [] := by
    refine List.filter_eq_nil_iff.2 fun g hg => ?_
    have h := hbefore g hg
    rw [Span.contains_iff]
    omega
  have hall : mid.filter (fun g => s.contains g.offset) = mid := by
    refine List.filter_eq_self.2 fun g hg => ?_
    rw [Span.contains_iff, hstart]
    exact hinside g hg
  have hrest : (Glyph.walk line' unit' s.stop c).filter (fun g => s.contains g.offset) = [] := by
    refine List.filter_eq_nil_iff.2 fun g hg => ?_
    have h := (Glyph.walk_behind hg).2
    rw [Span.contains_iff]
    omega
  rw [glyphsIn, glyphs, htext, hfront, hmid, List.filter_append, List.filter_append, hnone, hall,
    hrest, List.nil_append, List.append_nil, hchars]

/-- The lengths of the pieces add up to the units of the text of the span without the characters
that end lines. -/
theorem sum_length_pieces (hle : start ≤ stop) (hstart : IsBoundary d.text start)
    (hstop : IsBoundary d.text stop) :
    ∃ a b, d.text = a ++ (d.textOf (d.rangeFor start stop) ++ b) ∧ byteLength a = start ∧
      ((d.pieces (d.rangeFor start stop)).map (·.length)).sum =
        unitLength (withoutEnds b (d.textOf (d.rangeFor start stop))) := by
  rcases hstart.between hstop hle with ⟨a, t, b, htext, ha, ht⟩
  have hholds : d.Holds (d.rangeFor start stop) t := ⟨a, b, htext, by rw [ha, ← ht, ha]⟩
  rw [hholds.textOf_eq]
  refine ⟨a, b, htext, ha, ?_⟩
  calc
    ((d.pieces (d.rangeFor start stop)).map (·.length)).sum
        = ((d.pieces (d.rangeFor start stop)).flatMap Piece.units).length :=
          (Piece.length_flatMap_units _).symm
    _ = ((d.glyphsIn ⟨start, stop⟩).flatMap (·.piece.units)).length := by
          rw [units_pieces hstart hstop]
    _ = unitLength ((d.glyphsIn ⟨start, stop⟩).map (·.char)) := Glyph.length_flatMap_units _
    _ = unitLength (withoutEnds b t) := by
          rw [map_char_glyphsIn htext ha.symm ht.symm]

/-! ## Numbers of 32 bits -/

/-- The UTF-16 column of a byte column, cut down to 32 bits. -/
def column32 (line : List Char) (byteColumn : Nat) : UInt32 :=
  (column line byteColumn).toUInt32

/-- The part of a range on one line, computed with numbers of 32 bits: line, start and length. -/
def piece32? (d : Document) (r : Range) (index : Nat) : Option (UInt32 × UInt32 × UInt32) :=
  let start := column32 (d.line index) (firstColumn r index)
  let stop := column32 (d.line index) (lastColumn d r index)
  if start < stop then some (index.toUInt32, start, stop - start) else none

/-- The pieces of a range, computed with numbers of 32 bits. -/
def pieces32 (d : Document) (r : Range) : List (UInt32 × UInt32 × UInt32) :=
  (List.range' r.start.line (r.stop.line + 1 - r.start.line)).filterMap (d.piece32? r)

/-- The piece that three numbers of 32 bits stand for. -/
def widen (p : UInt32 × UInt32 × UInt32) : Piece :=
  ⟨p.1.toNat, p.2.1.toNat, p.2.2.toNat⟩

theorem map_widen_piece32? (hlength : d.length < UInt32.size) (hi : i < d.lineCount) :
    (d.piece32? r i).map widen = d.piece? r i := by
  have hline : i < UInt32.size := Nat.lt_of_le_of_lt (le_length_of_lt hi) hlength
  have hcolumn : ∀ n, (column32 (d.line i) n).toNat = column (d.line i) n := by
    intro n
    have hle := Nat.le_trans (column_le (d.line i) n) (unitLength_line_le hi)
    exact UInt32.toNat_ofNat_of_lt' (Nat.lt_of_le_of_lt hle hlength)
  rw [piece32?, piece?_eq]
  simp only [UInt32.lt_iff_toNat_lt, hcolumn]
  split
  · rename_i hlt
    have hle : column32 (d.line i) (firstColumn r i) ≤ column32 (d.line i) (lastColumn d r i) := by
      rw [UInt32.le_iff_toNat_le, hcolumn, hcolumn]
      exact Nat.le_of_lt hlt
    have hindex : i.toUInt32.toNat = i := UInt32.toNat_ofNat_of_lt' hline
    rw [Option.map_some, widen, UInt32.toNat_sub_of_le _ _ hle, hcolumn, hcolumn, hindex]
  · rfl

theorem map_widen_pieces32 (hlength : d.length < UInt32.size) (start stop : Nat) :
    (d.pieces32 (d.rangeFor start stop)).map widen = d.pieces (d.rangeFor start stop) := by
  rw [pieces32, pieces, List.map_filterMap]
  refine List.filterMap_congr fun i hi => ?_
  have hstop := positionAt_line_lt d stop
  rw [List.mem_range'_1] at hi
  exact map_widen_piece32? hlength (by simp only [rangeFor] at hi; omega)

/-! ## All of the pieces -/

/-- What holds of the pieces of a span.  There is one piece at most on a line, none is empty, and
lines ascend.  A unit is covered if it belongs to a character of a line with its offset in the span.
The units of all pieces are, one by one, those of the characters that a walk over the text finds in
the span; these are the characters of the lines.  The lengths add up to the units of the text of the
span without the characters that end lines, and 32 bits are enough for a text whose length they can
hold. -/
structure PieceLaws (d : Document) (start stop : Nat) : Prop where
  ascending : (d.pieces (d.rangeFor start stop)).Pairwise fun p q => p.line < q.line
  nonempty : ∀ p ∈ d.pieces (d.rangeFor start stop), 0 < p.length
  covered : ∀ i u, (∃ p ∈ d.pieces (d.rangeFor start stop), p.covers i u = true) ↔
    d.UnitIn ⟨start, stop⟩ i u
  units : (d.pieces (d.rangeFor start stop)).flatMap Piece.units =
    (d.glyphsIn ⟨start, stop⟩).flatMap (·.piece.units)
  glyphs : ∀ g, g ∈ d.glyphs ↔ ∃ pre post, d.line g.line = pre ++ g.char :: post ∧
    g.unit = unitLength pre ∧ g.offset = d.offsetAt ⟨g.line, byteLength pre⟩
  total : ∃ a b, d.text = a ++ (d.textOf (d.rangeFor start stop) ++ b) ∧ byteLength a = start ∧
    ((d.pieces (d.rangeFor start stop)).map (·.length)).sum =
      unitLength (withoutEnds b (d.textOf (d.rangeFor start stop)))
  narrow : d.length < UInt32.size →
    (d.pieces32 (d.rangeFor start stop)).map widen = d.pieces (d.rangeFor start stop)

/-- The pieces of a span of whole characters neither lose nor repeat any of its text. -/
theorem pieces_lose_nothing (d : Document) {start stop : Nat} (hle : start ≤ stop)
    (hstart : IsBoundary d.text start) (hstop : IsBoundary d.text stop) :
    d.PieceLaws start stop where
  ascending := d.pieces_pairwise_line _
  nonempty := fun _ hp => (mem_pieces hp).1
  covered := fun _ _ => exists_piece_covers hstart hstop
  units := units_pieces hstart hstop
  glyphs := fun _ => mem_glyphs
  total := sum_length_pieces hle hstart hstop
  narrow := fun hlength => map_widen_pieces32 hlength start stop

/-- From between `\r` and `\n` over an empty line to the end of a text that ends in `\r`: the `\r`
inside the last line counts, the one at its end does not. -/
theorem pieces_lose_nothing_astray :
    let d := ofString "é\r\n\n😀\rb\r"
    d.PieceLaws 3 12 ∧ (∃ p ∈ d.pieces (d.rangeFor 3 12), p.covers 2 1 = true) ∧
      (d.pieces (d.rangeFor 3 12)).flatMap Piece.units = [(2, 0), (2, 1), (2, 2), (2, 3)] ∧
      (d.pieces32 (d.rangeFor 3 12)).map widen = d.pieces (d.rangeFor 3 12) := by
  intro d
  have hlaws : d.PieceLaws 3 12 :=
    pieces_lose_nothing d (by decide) ⟨['é', '\r'], ['\n', '\n', '😀', '\r', 'b', '\r'], rfl, rfl⟩
      ⟨d.text, [], by simp, rfl⟩
  refine ⟨hlaws, ?_, ?_, hlaws.narrow (by decide +kernel)⟩
  · exact (hlaws.covered 2 1).2 ⟨[], '😀', ['\r', 'b'], by decide +kernel, by decide, by decide,
      by decide +kernel⟩
  · rw [hlaws.units]
    decide +kernel

end Document
end EmbeddedSql
