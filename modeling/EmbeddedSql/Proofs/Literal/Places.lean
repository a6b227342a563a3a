import EmbeddedSql.Proofs.Document.Ranges
import EmbeddedSql.Proofs.Document.Spans
import EmbeddedSql.Proofs.Literal.Quotes

/-!
# Places — where regions and literals stand

Regions and literals are found by one pass over the lines each, which carries what is open.  Both
passes therefore find things line after line, and a literal stays between the markers of its region.
Lines are counted like bytes here, so that `Span.Ascending` says both:

* `Document.regions_ascending` — regions follow each other;
* `Document.literals_ascending` — so do the literals of a region, inside the region;
* `Document.flatMap_literals_ascending` — and the literals of all regions;
* `Literal.scan_places` — the scan for literals places them between characters;
* `Literal.Placed` — a literal starts before it stops, in lines and in bytes.
-/

namespace EmbeddedSql

open Text EmbeddedSql.Span

/-! ## Regions -/

/-- The lines from the begin marker up to the end marker. -/
def Region.lineSpan (r : Region) : Span :=
  ⟨r.beginLine, r.endLine⟩

theorem Region.scan_ascending (opened : Option Nat) (index : Nat) (lines : List (List Char))
    (hopened : ∀ b, opened = some b → b < index) :
    Ascending (opened.getD index) (index + lines.length)
      ((Region.scan opened index lines).map Region.lineSpan) := by
  -- The open marker stands in front of all lines that are still to come.
  induction lines generalizing opened index with
  | nil =>
      cases opened with
      | none => exact Nat.le_refl _
      | some b => exact Nat.le_of_lt (hopened b rfl)
  | cons line rest ih =>
      have hlen : index + (line :: rest).length = index + 1 + rest.length := by
        simp only [List.length_cons]
        omega
      have hclosed := ih none (index + 1) (by simp)
      rw [hlen]
      cases opened with
      | none =>
          simp only [Region.scan]
          split
          · exact ih (some index) (index + 1) (by simp)
          · exact hclosed.mono_low (Nat.le_succ index)
      | some b =>
          have hb : b < index := hopened b rfl
          simp only [Region.scan]
          split
          · exact ⟨Nat.le_refl b, hb, hclosed.mono_low (Nat.le_succ index)⟩
          · refine ih (some b) (index + 1) ?_
            intro b' hb'
            cases hb'
            exact Nat.lt_succ_of_lt hb

theorem Document.regions_ascending (d : Document) :
    Ascending 0 d.lineCount (d.regions.map Region.lineSpan) := by
  have hscan := Region.scan_ascending none 0 d.lines (by simp)
  simpa [Document.regions, Document.lineCount] using hscan

/-! ## Literals of a region -/

/-- The lines of a place, its last line included. -/
def LiteralPlace.lineSpan (p : LiteralPlace) : Span :=
  ⟨p.start.line, p.stop.line + 1⟩

/-- The lines of a literal, its last line included. -/
def Literal.lineSpan (l : Literal) : Span :=
  ⟨l.range.start.line, l.range.stop.line + 1⟩

namespace Literal

theorem scan_ascending (opened : Option (LiteralKind × Position)) (index : Nat)
    (lines : List (List Char)) (hopened : ∀ o, opened = some o → o.2.line < index) :
    Ascending ((opened.map (·.2.line)).getD index) (index + lines.length)
      ((scan opened index lines).map LiteralPlace.lineSpan) := by
  induction lines generalizing opened index with
  | nil =>
      cases opened with
      | none => exact Nat.le_refl _
      | some o => exact Nat.le_of_lt (hopened o rfl)
  | cons line rest ih =>
      have hlen : index + (line :: rest).length = index + 1 + rest.length := by
        simp only [List.length_cons]
        omega
      have hclosed := ih none (index + 1) (by simp)
      rw [hlen]
      cases opened with
      | none =>
          simp only [scan]
          split
          · exact hclosed.mono_low (Nat.le_succ index)
          · split
            · -- Opened and closed on this line.
              exact ⟨Nat.le_refl index, Nat.lt_succ_self index, hclosed⟩
            · -- Opened on this line, to be closed on a later one.
              rename_i onset _ _ _
              refine ih (some (onset.kind, ⟨index, onset.quoteColumn + 1⟩)) (index + 1) ?_
              intro o ho
              cases ho
              exact Nat.lt_succ_self index
      | some o =>
          rcases o with ⟨kind, start⟩
          have hstart : start.line < index := hopened (kind, start) rfl
          simp only [scan]
          split
          · exact ⟨Nat.le_refl start.line, Nat.lt_succ_of_lt hstart, hclosed⟩
          · refine ih (some (kind, start)) (index + 1) ?_
            intro o ho
            cases ho
            exact Nat.lt_succ_of_lt hstart

theorem scan_start_le_stop {opened : Option (LiteralKind × Position)} {index : Nat}
    {lines : List (List Char)} (hopened : ∀ o, opened = some o → o.2.line < index)
    {p : LiteralPlace} (hp : p ∈ scan opened index lines) : p.start ≤ p.stop := by
  induction lines generalizing opened index with
  | nil =>
      cases opened <;> simp [scan] at hp
  | cons line rest ih =>
      cases opened with
      | none =>
          simp only [scan] at hp
          split at hp
          · exact ih (by simp) hp
          · split at hp
            · rename_i column hcolumn
              rcases List.mem_cons.1 hp with rfl | hp
              · exact .inr ⟨rfl, le_of_closingColumn? hcolumn⟩
              · exact ih (by simp) hp
            · refine ih ?_ hp
              intro o ho
              cases ho
              exact Nat.lt_succ_self index
      | some o =>
          rcases o with ⟨kind, start⟩
          have hstart : start.line < index := hopened (kind, start) rfl
          simp only [scan] at hp
          split at hp
          · rcases List.mem_cons.1 hp with rfl | hp
            · exact .inl hstart
            · exact ih (by simp) hp
          · refine ih ?_ hp
            intro o ho
            cases ho
            exact Nat.lt_succ_of_lt hstart

/-- Whatever holds between any two characters of the lines holds at both ends of a literal. -/
theorem scan_places {stands : Position → Prop}
    {opened : Option (LiteralKind × Position)} {index : Nat} {lines : List (List Char)}
    (hopened : ∀ o, opened = some o → stands o.2)
    (hlines : ∀ k line, lines[k]? = some line → ∀ n, IsBoundary line n → stands ⟨index + k, n⟩)
    {p : LiteralPlace} (hp : p ∈ scan opened index lines) : stands p.start ∧ stands p.stop := by
  induction lines generalizing opened index with
  | nil => cases opened <;> simp [scan] at hp
  | cons line rest ih =>
      have hhere : ∀ n, IsBoundary line n → stands ⟨index, n⟩ := hlines 0 line rfl
      have hrest : ∀ k line', rest[k]? = some line' → ∀ n, IsBoundary line' n →
          stands ⟨index + 1 + k, n⟩ := by
        intro k line' hk n hn
        have hstands := hlines (k + 1) line' hk n hn
        rwa [show index + (k + 1) = index + 1 + k by omega] at hstands
      cases opened with
      | none =>
          simp only [scan] at hp
          split at hp
          · exact ih (by simp) hrest hp
          · rename_i onset honset
            have hstart : stands ⟨index, onset.quoteColumn + 1⟩ :=
              hhere _ (Onset.isBoundary_of_find? honset)
            split at hp
            · rename_i column hcolumn
              rcases List.mem_cons.1 hp with rfl | hp
              · exact ⟨hstart, hhere _ (isBoundary_of_closingColumn? hcolumn)⟩
              · exact ih (by simp) hrest hp
            · refine ih ?_ hrest hp
              intro o ho
              cases ho
              exact hstart
      | some o =>
          rcases o with ⟨kind, start⟩
          simp only [scan] at hp
          split at hp
          · rename_i column hcolumn
            rcases List.mem_cons.1 hp with rfl | hp
            · exact ⟨hopened _ rfl, hhere _ (isBoundary_of_closingColumn? hcolumn)⟩
            · exact ih (by simp) hrest hp
          · exact ih hopened hrest hp

/-- A literal starts and stops between characters, it starts before it stops, and its bytes are
those between its positions. -/
structure Placed (d : Document) (l : Literal) : Prop where
  start : d.Between l.range.start
  stop : d.Between l.range.stop
  ordered : l.range.start ≤ l.range.stop
  range_eq : l.range = d.rangeBetween l.range.start l.range.stop

theorem Placed.span_eq {d : Document} {l : Literal} (h : l.Placed d) :
    l.range.span = ⟨d.offsetAt l.range.start, d.offsetAt l.range.stop⟩ := by
  rw [h.range_eq]
  rfl

theorem Placed.start_le_stop {d : Document} {l : Literal} (h : l.Placed d) :
    l.range.span.start ≤ l.range.span.stop := by
  rw [h.span_eq]
  exact Document.offsetAt_mono h.ordered h.stop.column_le

end Literal

/-! ## The literals of a region -/

namespace Document

variable {d : Document}

theorem firstLine_le (d : Document) (r : Region) : d.firstLine r ≤ r.beginLine + 1 :=
  Nat.mod_le _ _

theorem firstLine_eq {r : Region} (h : r.beginLine < d.lineCount) :
    d.firstLine r = r.beginLine + 1 :=
  indexSum_eq (lt_indexLimit (Nat.le_trans h d.lineCount_le_length))

theorem line_of_contentLines {r : Region} {k : Nat} {line : List Char}
    (h : (d.contentLines r)[k]? = some line) :
    d.firstLine r + k < d.lineCount ∧ d.line (d.firstLine r + k) = line := by
  have hget : d.lines[d.firstLine r + k]? = some line := by
    rw [contentLines, List.getElem?_take, List.getElem?_drop] at h
    split at h
    · exact h
    · cases h
  refine ⟨(List.getElem?_eq_some_iff.1 hget).1, ?_⟩
  rw [Document.line, List.getD_eq_getElem?_getD, hget, Option.getD_some]

theorem literals_ascending {r : Region} (h : d.firstLine r ≤ r.endLine) :
    Ascending (d.firstLine r) r.endLine ((d.literals r).map Literal.lineSpan) := by
  have hscan := Literal.scan_ascending none (d.firstLine r) (d.contentLines r) (by simp)
  have hcount : (d.contentLines r).length ≤ d.contentCount r := by
    simp only [contentLines, List.length_take]
    exact Nat.min_le_left _ _
  have hmap : (d.literals r).map Literal.lineSpan =
      (Literal.scan none (d.firstLine r) (d.contentLines r)).map LiteralPlace.lineSpan := by
    simp only [literals, List.map_map]
    rfl
  rw [hmap]
  refine hscan.mono_high ?_
  simp only [contentCount] at hcount
  omega

theorem placed_of_mem_literals {r : Region} {l : Literal} (h : l ∈ d.literals r) : l.Placed d := by
  rcases List.mem_map.1 h with ⟨p, hp, rfl⟩
  have hstands : d.Between p.start ∧ d.Between p.stop := by
    refine Literal.scan_places (by simp) ?_ hp
    intro k line hk n hn
    rcases line_of_contentLines hk with ⟨hcount, hline⟩
    exact ⟨hcount, hline ▸ hn⟩
  exact ⟨hstands.1, hstands.2, Literal.scan_start_le_stop (by simp) hp, rfl⟩

/-- The literals of all regions follow each other as the regions do. -/
theorem flatMap_literals_ascending {low high : Nat} {regions : List Region}
    (hhigh : high ≤ d.lineCount) (h : Ascending low high (regions.map Region.lineSpan)) :
    Ascending low high ((regions.flatMap d.literals).map Literal.lineSpan) := by
  induction regions generalizing low with
  | nil => exact h
  | cons r rest ih =>
      rcases h with ⟨hlow, hne, hrest⟩
      rw [List.flatMap_cons, List.map_append]
      -- The literals of one region lie between its markers, hence before the next region.
      have hfirst : d.firstLine r = r.beginLine + 1 := by
        refine firstLine_eq (Nat.lt_of_lt_of_le hne ?_)
        exact Nat.le_trans hrest.low_le_high hhigh
      refine Ascending.append ?_ (ih hrest)
      refine (literals_ascending (Nat.le_trans (d.firstLine_le r) hne)).mono_low ?_
      rw [hfirst]
      exact Nat.le_trans hlow (Nat.le_succ _)

end Document
end EmbeddedSql
