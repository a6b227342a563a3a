import EmbeddedSql.Proofs.Document.Stacking
import EmbeddedSql.Proofs.Highlights.Buckets
import Mathlib.Data.List.Basic

/-!
# Composition — passes over documents that stand one above the other

Every stage of a pass looks at the lines of one region or at the text of one range.  So a document
with other lines around it is passed over as if it stood alone, as long as no region is open where
it begins:

* `Region.leftOpen` — the begin marker that is still open when the scan ends;
* `Region.scan_append` — the scan goes on with what is left open;
* `Document.Inside.literals_shift`, `Document.Inside.segments_shift`,
  `Document.Inside.tokens_shift` — each stage finds in a document what it finds there when the
  document is inside another one;
* `Highlights.shift`, `Highlights.append` — moved and joined results;
* `Document.highlights_stack` — the pass over two documents, one above the other.
-/

namespace EmbeddedSql

/-! ## Moved results -/

def Region.shift (lines : Nat) (r : Region) : Region :=
  ⟨lines + r.beginLine, lines + r.endLine⟩

def LiteralPlace.shift (lines : Nat) (p : LiteralPlace) : LiteralPlace :=
  ⟨p.kind, p.start.shift lines, p.stop.shift lines⟩

def Literal.shift (bytes lines : Nat) (l : Literal) : Literal :=
  ⟨l.range.shift bytes lines, l.kind⟩

def Segment.shift (bytes lines literals : Nat) (s : Segment) : Segment :=
  ⟨s.range.shift bytes lines, literals + s.literal⟩

def Token.shift (bytes lines : Nat) (t : Token) : Token :=
  ⟨t.category, t.range.shift bytes lines⟩

namespace Highlights

/-- Results further down, with literals in front of theirs. -/
def shift (bytes lines literals : Nat) (h : Highlights) : Highlights where
  regions := h.regions.map (Region.shift lines)
  literals := h.literals.map (Literal.shift bytes lines)
  segments := h.segments.map (Segment.shift bytes lines literals)
  tokens := h.tokens.map (Token.shift bytes lines)

/-- The results of two passes, one after the other. -/
def append (h h' : Highlights) : Highlights where
  regions := h.regions ++ h'.regions
  literals := h.literals ++ h'.literals
  segments := h.segments ++ h'.segments
  tokens := h.tokens ++ h'.tokens

theorem shift_zero (h : Highlights) : h.shift 0 0 0 = h := by
  have hregion : Region.shift 0 = id := funext fun r => by simp [Region.shift]
  have hliteral : Literal.shift 0 0 = id := funext fun l => by simp [Literal.shift]
  have hsegment : Segment.shift 0 0 0 = id := funext fun s => by simp [Segment.shift]
  have htoken : Token.shift 0 0 = id := funext fun t => by simp [Token.shift]
  simp [shift, hregion, hliteral, hsegment, htoken]

theorem ranges_append (h h' : Highlights) (c : Category) :
    (h.append h').ranges c = h.ranges c ++ h'.ranges c := by
  simp [ranges_eq, append]

theorem ranges_shift (bytes lines literals : Nat) (h : Highlights) (c : Category) :
    (h.shift bytes lines literals).ranges c = (h.ranges c).map (Range.shift bytes lines) := by
  have hclass : ((·.category == c) ∘ Token.shift bytes lines) = (·.category == c) := rfl
  have hrange : (·.range) ∘ Token.shift bytes lines = Range.shift bytes lines ∘ (·.range) := rfl
  simp only [ranges_eq, shift, List.filter_map, List.map_map, hclass, hrange]

end Highlights

/-! ## Regions -/

namespace Region

/-- The begin marker that waits for its end when all lines are read. -/
def leftOpen : (opened : Option Nat) → (index : Nat) → List (List Char) → Option Nat
  | opened, _, [] => opened
  | none, index, line :: rest =>
    if Marker.ofLine? line = some .opening then leftOpen (some index) (index + 1) rest
    else leftOpen none (index + 1) rest
  | some b, index, line :: rest =>
    if Marker.ofLine? line = some .closing then leftOpen none (index + 1) rest
    else leftOpen (some b) (index + 1) rest

theorem scan_append (opened : Option Nat) (index : Nat) (xs ys : List (List Char)) :
    scan opened index (xs ++ ys) =
      scan opened index xs ++ scan (leftOpen opened index xs) (index + xs.length) ys := by
  induction xs generalizing opened index with
  | nil => cases opened <;> simp [scan, leftOpen]
  | cons line rest ih =>
      have hlen : index + (line :: rest).length = index + 1 + rest.length := by
        simp only [List.length_cons]
        omega
      rw [hlen]
      cases opened with
      | none =>
          simp only [List.cons_append, scan, leftOpen]
          split
          · exact ih (some index) (index + 1)
          · exact ih none (index + 1)
      | some b =>
          simp only [List.cons_append, scan, leftOpen]
          split
          · exact congrArg (⟨b, index⟩ :: ·) (ih none (index + 1))
          · exact ih (some b) (index + 1)

theorem scan_shift (lines : Nat) (opened : Option Nat) (index : Nat) (xs : List (List Char)) :
    scan (opened.map (lines + ·)) (lines + index) xs =
      (scan opened index xs).map (Region.shift lines) := by
  induction xs generalizing opened index with
  | nil => cases opened <;> simp [scan]
  | cons line rest ih =>
      cases opened with
      | none =>
          have hopen := ih (some index) (index + 1)
          have hclosed := ih none (index + 1)
          simp only [Option.map_some, Option.map_none, ← Nat.add_assoc] at hopen hclosed
          simp only [scan, Option.map_none]
          split
          · exact hopen
          · exact hclosed
      | some b =>
          have hopen := ih (some b) (index + 1)
          have hclosed := ih none (index + 1)
          simp only [Option.map_some, Option.map_none, ← Nat.add_assoc] at hopen hclosed
          simp only [scan, Option.map_some]
          split
          · rw [hclosed]
            rfl
          · exact hopen

end Region

namespace Document

theorem regions_stack {a b : Document} (h : Region.leftOpen none 0 a.lines = none) :
    (a.stack b).regions = a.regions ++ b.regions.map (Region.shift a.lineCount) := by
  have hlower := Region.scan_shift a.lineCount none 0 b.lines
  rw [Option.map_none, Nat.add_zero] at hlower
  rw [regions, lines_stack, Region.scan_append, h, Nat.zero_add]
  exact congrArg (a.regions ++ ·) hlower

end Document

/-! ## Literals -/

theorem Literal.scan_shift (lines : Nat) (opened : Option (LiteralKind × Position)) (index : Nat)
    (xs : List (List Char)) :
    scan (opened.map fun o => (o.1, o.2.shift lines)) (lines + index) xs =
      (scan opened index xs).map (LiteralPlace.shift lines) := by
  induction xs generalizing opened index with
  | nil => cases opened <;> simp [scan]
  | cons line rest ih =>
      have hclosed := ih none (index + 1)
      simp only [Option.map_none, ← Nat.add_assoc] at hclosed
      cases opened with
      | none =>
          simp only [scan, Option.map_none]
          cases Onset.find? line with
          | none => exact hclosed
          | some onset =>
              have hopen := ih (some (onset.kind, ⟨index, onset.quoteColumn + 1⟩)) (index + 1)
              simp only [Option.map_some, ← Nat.add_assoc] at hopen
              cases hcolumn : closingColumn? (onset.quoteColumn + 1) line with
              | none =>
                  simp only [hcolumn]
                  exact hopen
              | some column =>
                  simp only [hcolumn, hclosed]
                  rfl
      | some o =>
          rcases o with ⟨kind, start⟩
          have hopen := ih (some (kind, start)) (index + 1)
          simp only [Option.map_some, ← Nat.add_assoc] at hopen
          simp only [scan, Option.map_some]
          cases closingColumn? 0 line with
          | none => exact hopen
          | some column =>
              simp only [hclosed]
              rfl

namespace Document
namespace Inside

variable {d e : Document} {bytes lines : Nat}

theorem firstLine_shift (h : e.Inside d bytes lines) {r : Region}
    (hbegin : r.beginLine < e.lineCount) :
    d.firstLine (r.shift lines) = lines + e.firstLine r := by
  have hcount := h.lineCount_le
  have houter : (r.shift lines).beginLine < d.lineCount := by
    simp only [Region.shift]
    omega
  rw [firstLine_eq houter, firstLine_eq hbegin]
  simp only [Region.shift, Nat.add_assoc]

theorem contentLines_shift (h : e.Inside d bytes lines) {r : Region}
    (hne : r.beginLine < r.endLine) (hend : r.endLine ≤ e.lineCount) :
    d.contentLines (r.shift lines) = e.contentLines r := by
  have hfirst := h.firstLine_shift (Nat.lt_of_lt_of_le hne hend)
  rcases h.lines_eq with ⟨above, below, hlines, rfl⟩
  have hcount : d.contentCount (r.shift above.length) = e.contentCount r := by
    rw [contentCount, contentCount, hfirst]
    exact Nat.add_sub_add_left _ _ _
  have hdrop : d.lines.drop (d.firstLine (r.shift above.length)) =
      (e.lines ++ below).drop (e.firstLine r) := by
    rw [hfirst, hlines, List.drop_length_add_append]
  -- Nothing below the inner document is taken.
  have hbelow : e.contentCount r - (e.lines.drop (e.firstLine r)).length = 0 := by
    simp only [contentCount, List.length_drop]
    have hlen : e.lines.length = e.lineCount := rfl
    omega
  have hstart : e.firstLine r ≤ e.lines.length := by
    have hle := e.firstLine_le r
    have hlen : e.lines.length = e.lineCount := rfl
    omega
  rw [contentLines, contentLines, hdrop, hcount, List.drop_append_of_le_length hstart,
    List.take_append, hbelow, List.take_zero, List.append_nil]

theorem literals_shift (h : e.Inside d bytes lines) {r : Region} (hne : r.beginLine < r.endLine)
    (hend : r.endLine ≤ e.lineCount) :
    d.literals (r.shift lines) = (e.literals r).map (Literal.shift bytes lines) := by
  have hscan := Literal.scan_shift lines none (e.firstLine r) (e.contentLines r)
  rw [Option.map_none, ← h.firstLine_shift (Nat.lt_of_lt_of_le hne hend)] at hscan
  have hmoved : d.literals (r.shift lines) =
      ((Literal.scan none (e.firstLine r) (e.contentLines r)).map
        (LiteralPlace.shift lines)).map (Literal.ofPlace d) := by
    rw [← hscan, literals, h.contentLines_shift hne hend]
  rw [hmoved, literals, List.map_map, List.map_map]
  apply List.map_congr_left
  intro p hp
  -- The literal stands on lines of the inner document.
  have hplaced : (Literal.ofPlace e p).Placed e := placed_of_mem_literals (List.mem_map_of_mem hp)
  have hrange : d.rangeBetween (p.start.shift lines) (p.stop.shift lines) =
      (e.rangeBetween p.start p.stop).shift bytes lines :=
    h.rangeBetween_shift hplaced.start hplaced.stop
  simp only [Function.comp_apply, Literal.ofPlace, LiteralPlace.shift, hrange]
  rfl

/-! ## Segments and tokens -/

/-- Parts of a text that is held, cut out by the offsets in it. -/
theorem map_rangeFor_shift (h : e.Inside d bytes lines) {r : Range} {text : List Char}
    (hr : e.Holds r text) {s : Span} (hs : s.start ≤ s.stop ∧ s.stop ≤ Text.byteLength text) :
    d.rangeFor ((r.shift bytes lines).span.start + s.start)
        ((r.shift bytes lines).span.start + s.stop) =
      (e.rangeFor (r.span.start + s.start) (r.span.start + s.stop)).shift bytes lines := by
  have hspan := hr.span_eq
  have hbase : (r.shift bytes lines).span.start = bytes + r.span.start := rfl
  rw [hbase, Nat.add_assoc, Nat.add_assoc]
  exact h.rangeFor_add (by omega) (by omega)

theorem segments_shift (h : e.Inside d bytes lines) {l : Literal} {text : List Char}
    (hl : e.Holds l.range text) (literals index : Nat) :
    d.segments (l.shift bytes lines) (literals + index) =
      (e.segments l index).map (Segment.shift bytes lines literals) := by
  have hraw : (l.shift bytes lines).raw d = l.raw e := by
    have houter : (l.shift bytes lines).raw d = text := (h.holds hl).textOf_eq
    have hinner : l.raw e = text := hl.textOf_eq
    rw [houter, hinner]
  have hempty : (l.range.shift bytes lines).isEmpty = l.range.isEmpty := by
    simp [Range.isEmpty, Range.shift, Span.isEmpty, Span.shift]
  have hkind : (l.shift bytes lines).kind = l.kind := rfl
  have hrange : (l.shift bytes lines).range = l.range.shift bytes lines := rfl
  simp only [segments, hkind, hraw, hrange, hempty]
  cases l.kind with
  | verbatim =>
      simp only []
      split <;> rfl
  | interpolated =>
      simp only [List.map_map]
      apply List.map_congr_left
      intro run hrun
      have hbounds := (Interpolation.runs_ascending (l.raw e)).mem hrun
      have htext : l.raw e = text := hl.textOf_eq
      rw [htext] at hbounds
      have hrun' := h.map_rangeFor_shift hl ⟨Nat.le_of_lt hbounds.2.1, hbounds.2.2⟩
      simp only [Function.comp_apply, hrun']
      rfl

theorem tokens_shift (h : e.Inside d bytes lines) {r : Range} {text : List Char}
    (hr : e.Holds r text) :
    d.tokens (r.shift bytes lines) = (e.tokens r).map (Token.shift bytes lines) := by
  simp only [tokens, (h.holds hr).textOf_eq, hr.textOf_eq, List.map_map]
  apply List.map_congr_left
  rintro ⟨c, s⟩ hs
  have hbounds := classify_mem hs
  simp only [Function.comp_apply, h.map_rangeFor_shift hr ⟨Nat.le_of_lt hbounds.1, hbounds.2⟩]
  rfl

theorem segmentsFrom_shift (h : e.Inside d bytes lines) (literals index : Nat)
    {ls : List Literal} (hls : ∀ l ∈ ls, e.Holds l.range (e.textOf l.range)) :
    d.segmentsFrom (literals + index) (ls.map (Literal.shift bytes lines)) =
      (e.segmentsFrom index ls).map (Segment.shift bytes lines literals) := by
  induction ls generalizing index with
  | nil => rfl
  | cons l rest ih =>
      have hrest := ih (index + 1) fun l' hl' => hls l' (List.mem_cons_of_mem _ hl')
      simp only [List.map_cons, segmentsFrom, List.map_append,
        h.segments_shift (hls l List.mem_cons_self), Nat.add_assoc, hrest]

/-! ## The whole pass -/

theorem literals_highlights (h : e.Inside d bytes lines) :
    (e.regions.map (Region.shift lines)).flatMap d.literals =
      e.highlights.literals.map (Literal.shift bytes lines) := by
  rw [List.flatMap_map, highlights, List.map_flatMap]
  apply List.flatMap_congr
  intro r hr
  have hbounds := e.regions_ascending.mem (List.mem_map_of_mem hr)
  exact h.literals_shift hbounds.2.1 hbounds.2.2

theorem segments_highlights (h : e.Inside d bytes lines) (literals : Nat) :
    d.segmentsFrom literals (e.highlights.literals.map (Literal.shift bytes lines)) =
      e.highlights.segments.map (Segment.shift bytes lines literals) :=
  h.segmentsFrom_shift literals 0 fun _ => holds_literal

theorem tokens_highlights (h : e.Inside d bytes lines) (literals : Nat) :
    (e.highlights.segments.map (Segment.shift bytes lines literals)).flatMap
        (fun s => d.tokens s.range) =
      e.highlights.tokens.map (Token.shift bytes lines) := by
  have htokens : e.highlights.tokens =
      e.highlights.segments.flatMap fun s => e.tokens s.range := rfl
  rw [List.flatMap_map, htokens, List.map_flatMap]
  apply List.flatMap_congr
  intro s hs
  exact h.tokens_shift (holds_segment hs)

end Inside

theorem segmentsFrom_append (d : Document) (index : Nat) (xs ys : List Literal) :
    d.segmentsFrom index (xs ++ ys) =
      d.segmentsFrom index xs ++ d.segmentsFrom (index + xs.length) ys := by
  induction xs generalizing index with
  | nil => rfl
  | cons l rest ih =>
      have hlen : index + (l :: rest).length = index + 1 + rest.length := by
        simp only [List.length_cons]
        omega
      simp only [List.cons_append, segmentsFrom, ih, hlen, List.append_assoc]

/-- A document whose regions are those of two documents inside it is passed over as these are, one
after the other. -/
theorem highlights_of_inside {d e e' : Document} {bytes lines bytes' lines' : Nat}
    (h : e.Inside d bytes lines) (h' : e'.Inside d bytes' lines')
    (hregions : d.regions =
      e.regions.map (Region.shift lines) ++ e'.regions.map (Region.shift lines')) :
    d.highlights = (e.highlights.shift bytes lines 0).append
      (e'.highlights.shift bytes' lines' e.highlights.literals.length) := by
  have hliterals : d.regions.flatMap d.literals =
      e.highlights.literals.map (Literal.shift bytes lines) ++
        e'.highlights.literals.map (Literal.shift bytes' lines') := by
    rw [hregions, List.flatMap_append, h.literals_highlights, h'.literals_highlights]
  -- The literals of the second document are numbered behind those of the first.
  have hsegments : d.segmentsFrom 0 (d.regions.flatMap d.literals) =
      e.highlights.segments.map (Segment.shift bytes lines 0) ++
        e'.highlights.segments.map
          (Segment.shift bytes' lines' e.highlights.literals.length) := by
    rw [hliterals, segmentsFrom_append, h.segments_highlights, List.length_map, Nat.zero_add,
      h'.segments_highlights]
  have htokens : (d.segmentsFrom 0 (d.regions.flatMap d.literals)).flatMap
        (fun s => d.tokens s.range) =
      e.highlights.tokens.map (Token.shift bytes lines) ++
        e'.highlights.tokens.map (Token.shift bytes' lines') := by
    rw [hsegments, List.flatMap_append, h.tokens_highlights, h'.tokens_highlights]
  calc
    d.highlights
        = ⟨d.regions, d.regions.flatMap d.literals,
            d.segmentsFrom 0 (d.regions.flatMap d.literals),
            (d.segmentsFrom 0 (d.regions.flatMap d.literals)).flatMap
              fun s => d.tokens s.range⟩ := rfl
    _ = (e.highlights.shift bytes lines 0).append
          (e'.highlights.shift bytes' lines' e.highlights.literals.length) := by
        rw [htokens, hsegments, hliterals, hregions]
        rfl

/-- Two documents, one above the other, are passed over one after the other if the upper one leaves
no region open: everything that is found in the lower one moves down by the bytes and the lines of
the upper one and their line break, its literals are numbered on, and columns stay. -/
theorem highlights_stack (a b : Document) (h : Region.leftOpen none 0 a.lines = none) :
    (a.stack b).highlights = a.highlights.append
      (b.highlights.shift (a.length + 1) a.lineCount a.highlights.literals.length) ∧
    ∀ c, (a.stack b).highlights.ranges c =
      a.highlights.ranges c ++
        (b.highlights.ranges c).map (Range.shift (a.length + 1) a.lineCount) := by
  have hupper : a.regions.map (Region.shift 0) = a.regions :=
    congrArg Highlights.regions a.highlights.shift_zero
  have hregions : (a.stack b).regions =
      a.regions.map (Region.shift 0) ++ b.regions.map (Region.shift a.lineCount) := by
    rw [hupper]
    exact regions_stack h
  have hpass := highlights_of_inside (stack_upper a b) (stack_lower a b) hregions
  rw [Highlights.shift_zero] at hpass
  refine ⟨hpass, ?_⟩
  intro c
  rw [hpass, Highlights.ranges_append, Highlights.ranges_shift]

/-- A region with a literal that is never closed, above a region with a hole that is never closed
and a begin marker without an end. -/
theorem highlights_stack_malformed :
    let a := ofString "//sql begin\n@\"é\n//sql end"
    let b := ofString "//sql begin\n$@\"select \x7bx\"\n//sql end\n//sql begin"
    Region.leftOpen none 0 a.lines = none ∧ a.highlights.literals = [] ∧
      (a.stack b).highlights.ranges .keyword =
        [⟨⟨42, 48⟩, ⟨4, 3⟩, ⟨4, 9⟩⟩] := by
  intro a b
  have hclosed : Region.leftOpen none 0 a.lines = none := by decide +kernel
  have hpass := (highlights_stack a b hclosed).2 .keyword
  refine ⟨hclosed, by decide +kernel, ?_⟩
  rw [hpass]
  decide +kernel

end Document
end EmbeddedSql
