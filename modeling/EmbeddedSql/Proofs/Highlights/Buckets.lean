import EmbeddedSql.Proofs.Highlights.Exactness
import Mathlib.Data.List.Basic

/-!
# Buckets — the ranges of each class, in document order

A pass lists its tokens segment by segment and, within a segment, class by class.  While it does so
it files the range of each token under its class.  What is filed under one class is in document
order all the same, from the first region to the last:

* `Buckets.ranges_push`, `Buckets.ranges_foldl_push` — what filing one token and many tokens does to
  the bucket of a class;
* `Highlights.ranges_eq` — a bucket holds the ranges of the tokens of its class, in their order;
* `Document.ranges_ascending` — the spans of a bucket ascend over the whole document;
* `Range.Precedes` — one range in front of another, by bytes and by positions;
* `Highlights.InOrder` — the whole law;
* `Document.highlights_inOrder` — it holds of the pass over every document.
-/

namespace EmbeddedSql

open Text EmbeddedSql.Span

/-! ## Filing -/

namespace Buckets

theorem ranges_empty (c : Category) : empty.ranges c = [] := by
  cases c <;> rfl

/-- Filing a token makes the bucket of its class longer and leaves the others as they are. -/
theorem ranges_push (b : Buckets) (t : Token) (c : Category) :
    (b.push t).ranges c = if t.category = c then b.ranges c ++ [t.range] else b.ranges c := by
  by_cases hclass : t.category = c
  · subst hclass
    rw [if_pos rfl]
    exact Vector.getElem_set_self t.category.passIndex_lt
  · have hindex : t.category.passIndex ≠ c.passIndex := fun h => hclass (Category.passIndex_inj h)
    rw [if_neg hclass]
    exact Vector.getElem_set_ne t.category.passIndex_lt c.passIndex_lt hindex

theorem ranges_foldl_push (tokens : List Token) (b : Buckets) (c : Category) :
    (tokens.foldl push b).ranges c =
      b.ranges c ++ (tokens.filter (·.category == c)).map (·.range) := by
  -- On the tokens that are left, with any ranges filed before.
  induction tokens generalizing b with
  | nil => simp
  | cons t rest ih =>
      rw [List.foldl_cons, ih, ranges_push]
      by_cases hclass : t.category = c <;> simp [hclass]

end Buckets

theorem Highlights.ranges_eq (h : Highlights) (c : Category) :
    h.ranges c = (h.tokens.filter (·.category == c)).map (·.range) := by
  rw [ranges, buckets, Buckets.ranges_foldl_push, Buckets.ranges_empty, List.nil_append]

/-! ## Order of two ranges -/

/-- One range stands in front of another, by bytes and by positions: it ends before the other starts
or where it starts, and both its ends come before those of the other. -/
structure Range.Precedes (r r' : Range) : Prop where
  span_apart : r.span.stop ≤ r'.span.start
  apart : r.stop ≤ r'.start
  span_start_lt : r.span.start < r'.span.start
  span_stop_lt : r.span.stop < r'.span.stop
  start_lt : r.start < r'.start
  stop_lt : r.stop < r'.stop

/-- The order of the bytes gives the order of the positions. -/
theorem Range.Exact.precedes {d : Document} {r r' : Range} (hr : r.Exact d) (hr' : r'.Exact d)
    (hne : r.span.start < r.span.stop) (hne' : r'.span.start < r'.span.stop)
    (hapart : r.span.stop ≤ r'.span.start) : r.Precedes r' := by
  have hbounded := hr'.span_bounded
  refine ⟨hapart, ?_, by omega, by omega, ?_, ?_⟩
  · rw [hr.stop_eq, hr'.start_eq]
    exact Document.positionAt_mono hapart
  · rw [hr.start_eq, hr'.start_eq]
    exact Document.positionAt_lt (by omega) (by omega)
  · rw [hr.stop_eq, hr'.stop_eq]
    exact Document.positionAt_lt (by omega) hbounded

/-- A token is listed before another of a later class, and before one of its own class that stands
behind it. -/
def Token.ListedBefore (t t' : Token) : Prop :=
  t.category.passIndex < t'.category.passIndex ∨
    (t.category = t'.category ∧ t.range.Precedes t'.range)

/-- The tokens that lie in a segment. -/
def Highlights.tokensIn (h : Highlights) (s : Segment) : List Token :=
  h.tokens.filter fun t => t.range.span.Within s.range.span

/-- What is filed under a class are the ranges of its tokens, in the order of the tokens, and they
are nonempty and stand one behind the other in the document.  The tokens are listed segment by
segment, and within a segment in pass order. -/
structure Highlights.InOrder (h : Highlights) : Prop where
  ranges_eq : ∀ c, h.ranges c = (h.tokens.filter (·.category == c)).map (·.range)
  nonempty : ∀ c, ∀ r ∈ h.ranges c, r.span.start < r.span.stop ∧ r.start < r.stop
  ordered : ∀ c, (h.ranges c).Pairwise Range.Precedes
  tokens_eq : h.tokens = h.segments.flatMap h.tokensIn
  passOrdered : ∀ s ∈ h.segments, (h.tokensIn s).Pairwise Token.ListedBefore

/-! ## Order within a segment -/

theorem classify_pairwise (text : List Char) :
    (classify text).Pairwise fun x y => x.1.passIndex < y.1.passIndex ∨
      (x.1 = y.1 ∧ x.2.stop ≤ y.2.start) := by
  rw [classify, List.pairwise_flatMap]
  constructor
  · -- One pass goes over the text from its beginning to its end.
    intro c _
    rw [List.pairwise_map]
    exact (Classification.pass_carved text c).ascending.pairwise.imp fun hle => .inr ⟨rfl, hle⟩
  · -- Two passes: all tokens of the earlier one come first.
    refine Category.passOrder_pairwise.imp ?_
    rintro c c' hlt x hx y hy
    rcases List.mem_map.1 hx with ⟨s, -, rfl⟩
    rcases List.mem_map.1 hy with ⟨s', -, rfl⟩
    exact .inl hlt

namespace Document

variable {d : Document}

/-- The tokens of one class in a range are those of its pass over the text of the range. -/
theorem spans_tokens_filter (d : Document) (r : Range) (c : Category) :
    ((d.tokens r).filter (·.category == c)).map (·.range.span) =
      (Classification.pass (d.textOf r) c).map (Span.shift r.span.start) := by
  rw [← classify_filter, tokens, List.filter_map, List.map_map, List.map_map]
  rfl

theorem tokens_ascending (d : Document) {r : Range} (hr : r.span.start ≤ r.span.stop)
    (c : Category) :
    Ascending r.span.start r.span.stop
      (((d.tokens r).filter (·.category == c)).map (·.range.span)) := by
  have htext : byteLength (d.textOf r) ≤ r.span.stop - r.span.start := byteLength_slice_le d r.span
  have hpass := (Classification.pass_carved (d.textOf r) c).ascending.shift r.span.start
  rw [spans_tokens_filter]
  exact hpass.mono_high (by omega)

/-! ## Order across segments -/

theorem segments_highlights_ascending (d : Document) :
    Ascending (d.offsetAt ⟨0, 0⟩) (d.offsetAt ⟨d.lineCount, 0⟩)
      (d.highlights.segments.map (·.range.span)) := by
  refine segmentsFrom_ascending ?_ (flatMap_literals_ascending (Nat.le_refl _) d.regions_ascending)
  intro l hl
  rcases List.mem_flatMap.1 hl with ⟨region, -, hregion⟩
  exact placed_of_mem_literals hregion

theorem ranges_ascending (d : Document) (c : Category) :
    Ascending (d.offsetAt ⟨0, 0⟩) (d.offsetAt ⟨d.lineCount, 0⟩)
      ((d.highlights.ranges c).map (·.span)) := by
  have hflat : (d.highlights.ranges c).map (·.span) = d.highlights.segments.flatMap fun s =>
      ((d.tokens s.range).filter (·.category == c)).map (·.range.span) := by
    rw [Highlights.ranges_eq, List.map_map]
    simp only [highlights, List.filter_flatMap, List.map_flatMap]
    rfl
  have hsegments := d.segments_highlights_ascending
  -- Within a segment one pass ascends, and segments ascend across literals and regions.
  rw [hflat]
  refine hsegments.flatMap ?_
  intro s hs
  have hbounds := hsegments.mem (List.mem_map_of_mem hs)
  exact d.tokens_ascending (Nat.le_of_lt hbounds.2.1) c

/-- A token lies in the segment that it was found in and in no other. -/
theorem tokensIn_eq {s : Segment} (hs : s ∈ d.highlights.segments) :
    d.highlights.tokensIn s = d.tokens s.range := by
  refine d.segments_highlights_ascending.filter_within ?_ hs
  intro s' _ t ht
  exact within_of_mem_tokens ht

/-! ## The whole pass -/

/-- Tokens of a segment are listed in pass order, and those of one class in document order. -/
theorem tokens_pairwise {s : Segment} (hs : s ∈ d.highlights.segments) :
    (d.tokens s.range).Pairwise Token.ListedBefore := by
  have hexact : ∀ t ∈ d.tokens s.range, t.range.Exact d := by
    intro t ht
    exact (holds_token (List.mem_flatMap.2 ⟨s, hs, ht⟩)).exact
  have hspans : (d.tokens s.range).Pairwise fun t t' =>
      t.category.passIndex < t'.category.passIndex ∨
        (t.category = t'.category ∧ t.range.span.stop ≤ t'.range.span.start) := by
    rw [tokens, List.pairwise_map]
    refine (classify_pairwise (d.textOf s.range)).imp ?_
    rintro x y (hlt | ⟨hclass, hle⟩)
    · exact .inl hlt
    · exact .inr ⟨hclass, Nat.add_le_add_left hle _⟩
  refine hspans.imp_of_mem ?_
  rintro t t' ht ht' (hlt | ⟨hclass, hle⟩)
  · exact .inl hlt
  · have hne := (within_of_mem_tokens ht).1
    have hne' := (within_of_mem_tokens ht').1
    exact .inr ⟨hclass, (hexact t ht).precedes (hexact t' ht') hne hne' hle⟩

/-- Over the whole document, across segments, literals and regions, the ranges of a class are filed
in the order in which they stand, by bytes and by positions; tokens are listed segment by segment,
each in pass order. -/
theorem highlights_inOrder (d : Document) : d.highlights.InOrder := by
  have hexact : ∀ c, ∀ r ∈ d.highlights.ranges c, r.Exact d := by
    intro c r hr
    rw [Highlights.ranges_eq] at hr
    rcases List.mem_map.1 hr with ⟨t, ht, rfl⟩
    exact (holds_token (List.mem_filter.1 ht).1).exact
  have hne : ∀ c, ∀ r ∈ d.highlights.ranges c, r.span.start < r.span.stop := by
    intro c r hr
    exact ((d.ranges_ascending c).mem (List.mem_map_of_mem hr)).2.1
  refine ⟨d.highlights.ranges_eq, ?_, ?_, ?_, ?_⟩
  · -- nonempty
    intro c r hr
    have hr' := hexact c r hr
    refine ⟨hne c r hr, ?_⟩
    rw [hr'.start_eq, hr'.stop_eq]
    exact positionAt_lt (hne c r hr) hr'.span_bounded
  · -- ordered: by bytes over all segments, hence by positions
    intro c
    refine (List.pairwise_map.1 (d.ranges_ascending c).pairwise).imp_of_mem ?_
    intro r r' hr hr' hle
    exact (hexact c r hr).precedes (hexact c r' hr') (hne c r hr) (hne c r' hr') hle
  · -- segment by segment
    exact List.flatMap_congr fun s hs => (tokensIn_eq hs).symm
  · intro s hs
    rw [tokensIn_eq hs]
    exact tokens_pairwise hs

/-- Keywords on both sides of a hole and in a literal of another region. -/
theorem highlights_inOrder_two_regions :
    let d := ofString ("//sql begin\n$@\"select é\x7bx\x7dfrom b\"\n//sql end\n" ++
      "//sql begin\n@\"\nselect 'é'\"\n//sql end")
    let found : List Range :=
      [⟨⟨15, 21⟩, ⟨1, 3⟩, ⟨1, 9⟩⟩, ⟨⟨27, 31⟩, ⟨1, 15⟩, ⟨1, 19⟩⟩, ⟨⟨60, 66⟩, ⟨5, 0⟩, ⟨5, 6⟩⟩]
    d.highlights.ranges .keyword = found ∧ found.Pairwise Range.Precedes := by
  intro d found
  have hfound : d.highlights.ranges .keyword = found := by decide +kernel
  refine ⟨hfound, ?_⟩
  rw [← hfound]
  exact (highlights_inOrder d).ordered .keyword

end Document
end EmbeddedSql
