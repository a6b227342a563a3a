import EmbeddedSql.Highlights
import EmbeddedSql.Proofs.Classification.Order
import EmbeddedSql.Proofs.Interpolation.Runs
import EmbeddedSql.Proofs.Literal.Places

/-!
# Nesting — tokens in segments, segments in literals, literals in regions

A pass hands places from stage to stage, by line and column in the first stages and by byte in the
later ones.  What it finds is nested and ordered all the same:

* `Document.segments_ascending` — the segments of a literal stand in it, in order;
* `Document.segmentsFrom_ascending` — the segments of all literals stand in order;
* `Highlights.Nested` — the whole law;
* `Document.highlights_nested` — it holds of the pass over every document.
-/

namespace EmbeddedSql

open Text EmbeddedSql.Span

/-- A line's first column stands before everything on it and below it. -/
theorem Position.head_le {line : Nat} {p : Position} (h : line ≤ p.line) :
    (⟨line, 0⟩ : Position) ≤ p := by
  rcases Nat.lt_or_eq_of_le h with hlt | heq
  · exact .inl hlt
  · exact .inr ⟨heq, Nat.zero_le _⟩

namespace Document

variable {d : Document} {l : Literal} {s : Segment} {index : Nat}

theorem byteLength_slice_le (d : Document) (s : Span) :
    byteLength (d.slice s) ≤ s.stop - s.start := by
  simp only [slice]
  cases hcut : slice? (min s.start (min s.stop d.length)) (min s.stop d.length) d.text with
  | none => exact Nat.zero_le _
  | some text =>
      have hlen := byteLength_slice? hcut
      simp only [Option.getD_some, hlen]
      omega

/-! ## Segments of one literal -/

theorem literal_of_mem_segments (h : s ∈ d.segments l index) : s.literal = index := by
  simp only [segments] at h
  split at h
  · split at h
    · cases h
    · cases List.mem_singleton.1 h
      rfl
  · rcases List.mem_map.1 h with ⟨run, -, rfl⟩
    rfl

theorem range_of_mem_segments (hkind : l.kind = .verbatim) (h : s ∈ d.segments l index) :
    s.range = l.range := by
  simp only [segments, hkind] at h
  split at h
  · cases h
  · cases List.mem_singleton.1 h
    rfl

theorem segments_ascending (h : l.Placed d) (index : Nat) :
    Ascending l.range.span.start l.range.span.stop
      ((d.segments l index).map (·.range.span)) := by
  have hle := h.start_le_stop
  simp only [segments]
  split
  · -- A verbatim literal is one segment, unless it is empty.
    split
    · exact hle
    · rename_i hempty
      have hlt : l.range.span.start < l.range.span.stop := by
        simpa [Range.isEmpty, Span.isEmpty] using hempty
      exact ⟨Nat.le_refl _, hlt, Nat.le_refl _⟩
  · -- The runs ascend in the literal's text, which starts where the literal starts.
    have hraw : byteLength (l.raw d) ≤ l.range.span.stop - l.range.span.start :=
      byteLength_slice_le d l.range.span
    have hruns := (Interpolation.runs_ascending (l.raw d)).shift l.range.span.start
    rw [List.map_map]
    exact hruns.mono_high (by omega)

/-! ## Segments of all literals -/

theorem exists_of_mem_segmentsFrom {ls : List Literal} (h : s ∈ d.segmentsFrom index ls) :
    ∃ j l, ls[j]? = some l ∧ s ∈ d.segments l (index + j) := by
  induction ls generalizing index with
  | nil => cases h
  | cons l rest ih =>
      rcases List.mem_append.1 h with hhere | hlater
      · exact ⟨0, l, rfl, hhere⟩
      · rcases ih hlater with ⟨j, l', hj, hs⟩
        refine ⟨j + 1, l', hj, ?_⟩
        rwa [show index + (j + 1) = index + 1 + j by omega]

/-- From lines to bytes: literals on later lines have later bytes. -/
theorem segmentsFrom_ascending {low high : Nat} {ls : List Literal}
    (hplaced : ∀ l ∈ ls, l.Placed d) (h : Ascending low high (ls.map Literal.lineSpan)) :
    Ascending (d.offsetAt ⟨low, 0⟩) (d.offsetAt ⟨high, 0⟩)
      ((d.segmentsFrom index ls).map (·.range.span)) := by
  induction ls generalizing index low with
  | nil => exact offsetAt_mono (Position.head_le h) (Nat.zero_le _)
  | cons l rest ih =>
      rcases h with ⟨hlow, -, hrest⟩
      have hl : l.Placed d := hplaced l List.mem_cons_self
      -- The literal's bytes lie between the head of its first line and the head of the line below.
      have hbefore : d.offsetAt ⟨low, 0⟩ ≤ l.range.span.start := by
        rw [hl.span_eq]
        exact offsetAt_mono (Position.head_le hlow) hl.start.column_le
      have hafter : l.range.span.stop ≤ d.offsetAt ⟨l.range.stop.line + 1, 0⟩ := by
        rw [hl.span_eq]
        exact offsetAt_mono (.inl (Nat.lt_succ_self _)) (Nat.zero_le _)
      have hlater := @ih (index + 1) _ (fun l' hl' => hplaced l' (List.mem_cons_of_mem _ hl')) hrest
      simp only [segmentsFrom, List.map_append]
      exact ((segments_ascending hl index).mono_low hbefore).append (hlater.mono_low hafter)

end Document

/-! ## The whole pass -/

/-- Exactly one region holds the two lines between its markers, and no other region holds either. -/
def Region.OnlyOne (regions : List Region) (first last : Nat) : Prop :=
  ∃ (i : Nat) (r : Region), regions[i]? = some r ∧ r.hasContentLine first ∧
    r.hasContentLine last ∧ ∀ (j : Nat) (r' : Region), regions[j]? = some r' →
      r'.hasContentLine first ∨ r'.hasContentLine last → j = i

/-- Tokens stand in segments, segments in literals and literals in regions; literals and segments
stand in order. -/
structure Highlights.Nested (h : Highlights) : Prop where
  token : ∀ t ∈ h.tokens, t.range.span.start < t.range.span.stop ∧
    ∃ s ∈ h.segments, t.range.span.Within s.range.span
  segment : ∀ s ∈ h.segments, s.range.span.start < s.range.span.stop ∧
    ∃ l, h.literals[s.literal]? = some l ∧ s.range.span.Within l.range.span ∧
      (l.kind = .verbatim → s.range = l.range)
  literal : ∀ l ∈ h.literals,
    Region.OnlyOne h.regions l.range.start.line l.range.stop.line
  literals_ordered : h.literals.Pairwise fun l l' => l.range.stop.line < l'.range.start.line
  segments_ordered : h.segments.Pairwise fun s s' => s.range.span.stop ≤ s'.range.span.start

namespace Document

variable {d : Document}

theorem within_of_mem_tokens {r : Range} {t : Token} (h : t ∈ d.tokens r) :
    t.range.span.start < t.range.span.stop ∧ t.range.span.Within r.span := by
  rcases List.mem_map.1 h with ⟨⟨c, span⟩, hmem, rfl⟩
  rcases classify_mem hmem with ⟨hne, hstop⟩
  have htext : byteLength (d.textOf r) ≤ r.span.stop - r.span.start := byteLength_slice_le d r.span
  refine ⟨Nat.add_lt_add_left hne _, Nat.le_add_right _ _, ?_⟩
  show r.span.start + span.stop ≤ r.span.stop
  omega

theorem onlyOne_of_mem_literals {r : Region} {l : Literal} (hr : r ∈ d.regions)
    (hl : l ∈ d.literals r) :
    Region.OnlyOne d.regions l.range.start.line l.range.stop.line := by
  have hlines : ∀ {r' : Region} {n : Nat}, r'.hasContentLine n → r'.lineSpan.contains n = true := by
    intro r' n hn
    exact contains_iff.2 ⟨Nat.le_of_lt hn.1, hn.2⟩
  have hspan : ∀ {i : Nat} {r' : Region}, d.regions[i]? = some r' →
      (d.regions.map Region.lineSpan)[i]? = some r'.lineSpan := by
    intro i r' hi
    rw [List.getElem?_map, hi, Option.map_some]
  -- Markers and what is between them are one span of lines, and these spans are disjoint.
  rcases List.getElem?_of_mem hr with ⟨i, hi⟩
  have hmarkers := d.regions_ascending.mem (List.mem_of_getElem? (hspan hi))
  simp only [Region.lineSpan] at hmarkers
  have hbegin : d.firstLine r = r.beginLine + 1 := firstLine_eq (by omega)
  have hbounds := (literals_ascending (by omega)).mem (List.mem_map_of_mem hl)
  simp only [Literal.lineSpan] at hbounds
  have hfirst : r.hasContentLine l.range.start.line := ⟨by omega, by omega⟩
  have hlast : r.hasContentLine l.range.stop.line := ⟨by omega, by omega⟩
  refine ⟨i, r, hi, hfirst, hlast, ?_⟩
  intro j r' hj hor
  rcases hor with h | h
  · exact d.regions_ascending.index_eq_of_contains (hspan hj) (hspan hi) (hlines h) (hlines hfirst)
  · exact d.regions_ascending.index_eq_of_contains (hspan hj) (hspan hi) (hlines h) (hlines hlast)

theorem highlights_nested (d : Document) : d.highlights.Nested := by
  have hplaced : ∀ l ∈ d.highlights.literals, l.Placed d := by
    intro l hl
    rcases List.mem_flatMap.1 hl with ⟨r, -, hlr⟩
    exact placed_of_mem_literals hlr
  have hliterals : Ascending 0 d.lineCount (d.highlights.literals.map Literal.lineSpan) :=
    flatMap_literals_ascending (Nat.le_refl _) d.regions_ascending
  have hsegments := @segmentsFrom_ascending d 0 0 d.lineCount _ hplaced hliterals
  refine ⟨?_, ?_, ?_, ?_, ?_⟩
  · -- tokens
    intro t ht
    rcases List.mem_flatMap.1 ht with ⟨s, hs, hts⟩
    rcases within_of_mem_tokens hts with ⟨hne, hwithin⟩
    exact ⟨hne, s, hs, hwithin⟩
  · -- segments
    intro s hs
    rcases exists_of_mem_segmentsFrom hs with ⟨j, l, hj, hsl⟩
    have hl : l ∈ d.highlights.literals := List.mem_of_getElem? hj
    have hbounds := (segments_ascending (hplaced l hl) (0 + j)).mem (List.mem_map_of_mem hsl)
    refine ⟨hbounds.2.1, l, ?_, ⟨hbounds.1, hbounds.2.2⟩, ?_⟩
    · rw [literal_of_mem_segments hsl, Nat.zero_add]
      exact hj
    · intro hkind
      exact range_of_mem_segments hkind hsl
  · -- literals
    intro l hl
    rcases List.mem_flatMap.1 hl with ⟨r, hr, hlr⟩
    exact onlyOne_of_mem_literals hr hlr
  · exact List.pairwise_map.1 hliterals.pairwise
  · exact List.pairwise_map.1 hsegments.pairwise

end Document
end EmbeddedSql
