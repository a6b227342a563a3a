import EmbeddedSql.Proofs.Document.Ranges
import EmbeddedSql.Proofs.Highlights.Nesting

/-!
# Exactness — every range of a pass stands on whole characters

Literals are placed by line and column, segments and tokens by byte offsets into a text that was
read before.  A pass cuts all of them between characters, so that reading a range never fails and
each stage works on the text that its range names:

* `Document.holds_of_carved` — what is carved out of a text that is held is held;
* `Document.holds_literal`, `Document.holds_segment`, `Document.holds_token` — the ranges of a pass
  hold the texts that are read there;
* `Document.highlights_exact` — hence both halves of each range agree.
-/

namespace EmbeddedSql

open Text EmbeddedSql.Span

namespace Document

variable {d : Document} {r : Range} {text : List Char}

/-! ## Texts of a pass -/

theorem Holds.read (h : d.Holds r text) : d.Holds r (d.textOf r) := by
  rw [h.textOf_eq]
  exact h

theorem holds_of_carved {spans : List Span} {s : Span} (h : d.Holds r text)
    (hcarved : Carved 0 text spans) (hs : s ∈ spans) :
    ∃ part, d.Holds (d.rangeFor (r.span.start + s.start) (r.span.start + s.stop)) part := by
  rcases hcarved.mem hs with ⟨x, y, z, rfl, -, hstart, hstop⟩
  rw [Nat.zero_add] at hstart
  rw [hstop, hstart]
  exact ⟨y, h.part⟩

theorem holds_of_mem_literals {region : Region} {l : Literal} (h : l ∈ d.literals region) :
    ∃ text, d.Holds l.range text := by
  have hplaced := placed_of_mem_literals h
  rw [hplaced.range_eq]
  exact holds_rangeBetween hplaced.start hplaced.stop hplaced.ordered

theorem holds_of_mem_segments {l : Literal} {s : Segment} {index : Nat}
    (hl : d.Holds l.range text) (hs : s ∈ d.segments l index) : ∃ part, d.Holds s.range part := by
  simp only [segments] at hs
  split at hs
  · -- A verbatim literal is its own segment.
    split at hs
    · cases hs
    · cases List.mem_singleton.1 hs
      exact ⟨text, hl⟩
  · rcases List.mem_map.1 hs with ⟨run, hrun, rfl⟩
    have hraw : l.raw d = text := hl.textOf_eq
    rw [hraw] at hrun
    exact holds_of_carved hl (Interpolation.runs_carved text) hrun

theorem holds_of_mem_tokens {t : Token} (hr : d.Holds r text) (ht : t ∈ d.tokens r) :
    ∃ part, d.Holds t.range part := by
  rcases List.mem_map.1 ht with ⟨⟨c, s⟩, hs, rfl⟩
  rw [hr.textOf_eq] at hs
  rcases List.mem_flatMap.1 hs with ⟨c', -, hmem⟩
  rcases List.mem_map.1 hmem with ⟨s', hs', heq⟩
  cases heq
  exact holds_of_carved hr (Classification.pass_carved text c) hs'

/-! ## The whole pass -/

theorem holds_literal {l : Literal} (h : l ∈ d.highlights.literals) :
    d.Holds l.range (d.textOf l.range) := by
  rcases List.mem_flatMap.1 h with ⟨region, -, hl⟩
  rcases holds_of_mem_literals hl with ⟨text, htext⟩
  exact htext.read

theorem holds_segment {s : Segment} (h : s ∈ d.highlights.segments) :
    d.Holds s.range (d.textOf s.range) := by
  rcases exists_of_mem_segmentsFrom h with ⟨j, l, hj, hs⟩
  have hl := holds_literal (List.mem_of_getElem? hj)
  rcases holds_of_mem_segments hl hs with ⟨text, htext⟩
  exact htext.read

theorem holds_token {t : Token} (h : t ∈ d.highlights.tokens) :
    d.Holds t.range (d.textOf t.range) := by
  rcases List.mem_flatMap.1 h with ⟨s, hs, ht⟩
  rcases holds_of_mem_tokens (holds_segment hs) ht with ⟨text, htext⟩
  exact htext.read

/-- The two halves of every range of a pass agree: its bytes are whole characters of the text, its
positions are those of its bounds and lead back to them in order, and what is read there is the text
that stands there. -/
theorem highlights_exact (d : Document) :
    (∀ l ∈ d.highlights.literals, l.range.Exact d) ∧
    (∀ s ∈ d.highlights.segments, s.range.Exact d) ∧
    (∀ t ∈ d.highlights.tokens, t.range.Exact d) := by
  refine ⟨?_, ?_, ?_⟩
  · intro l hl
    exact (holds_literal hl).exact
  · intro s hs
    exact (holds_segment hs).exact
  · intro t ht
    exact (holds_token ht).exact

/-- A string with a character of two bytes, on the second line of a literal with `\r\n` at the ends
of its lines. -/
theorem highlights_exact_accent :
    let d := ofString "//sql begin\r\n$@\"é\x7bx\x7d\r\n = 'ü'\"\r\n//sql end"
    let r : Range := ⟨⟨26, 30⟩, ⟨2, 3⟩, ⟨2, 7⟩⟩
    ⟨.string, r⟩ ∈ d.highlights.tokens ∧ r.Exact d := by
  intro d r
  have hmem : ⟨.string, r⟩ ∈ d.highlights.tokens := by decide +kernel
  exact ⟨hmem, (highlights_exact d).2.2 _ hmem⟩

end Document
end EmbeddedSql
