import EmbeddedSql.Editor.Decorations
import EmbeddedSql.Proofs.Editor.Picture
import EmbeddedSql.Proofs.Highlights.Buckets

/-!
# Agreement — semantic tokens and decorations show the same picture

An editor can ask for semantic tokens or listen to decorations.  Semantic tokens are painted byte by
byte and cut at lines, decorations are whole ranges, class by class, of which only the two ends are
converted.  An editor that paints the sets of decorations in pass order sees the same classes:

* `Editor.Range.covers` — whether a range holds a place, in the order of places;
* `Editor.Decorations.categoryAt?` — the last class in pass order with a range at a place;
* `Document.editorPosition_le_iff` — converting an offset keeps its order to every character;
* `Document.covers_editorRange` — hence a converted range covers the units of its characters;
* `Editor.semanticTokens_agree_decorations` — both outputs give a unit the same class.
-/

namespace EmbeddedSql

open Text

namespace Editor

/-! ## Places of decorations -/

namespace Position

instance : LE Position :=
  ⟨fun p q => p.line < q.line ∨ (p.line = q.line ∧ p.character ≤ q.character)⟩

instance : LT Position :=
  ⟨fun p q => p.line < q.line ∨ (p.line = q.line ∧ p.character < q.character)⟩

instance (p q : Position) : Decidable (p ≤ q) :=
  inferInstanceAs (Decidable (_ ∨ _))

instance (p q : Position) : Decidable (p < q) :=
  inferInstanceAs (Decidable (_ ∨ _))

theorem lt_iff_not_le {p q : Position} : p < q ↔ ¬ q ≤ p := by
  show (p.line < q.line ∨ (p.line = q.line ∧ p.character < q.character)) ↔
    ¬ (q.line < p.line ∨ (q.line = p.line ∧ q.character ≤ p.character))
  omega

end Position

/-- Whether a range holds a place: its start is not behind the place, and its end is. -/
def Range.covers (r : Range) (p : Position) : Bool :=
  decide (r.start ≤ p) && decide (p < r.stop)

/-- Whether the set of a class has a range at a place. -/
def Decorations.shows (decorations : Decorations) (p : Position) (c : Category) : Bool :=
  decorations.sets.any fun set => set.category == c && set.ranges.any (·.covers p)

/-- The last class in pass order whose set has a range at a place. -/
def Decorations.categoryAt? (decorations : Decorations) (p : Position) : Option Category :=
  (Category.passOrder.filter (decorations.shows p)).getLast?

/-- The class that the number of a semantic token stands for. -/
def ShownToken.category? (m : ShownToken) : Option Category :=
  Category.emitOrder[m.tokenType]?

end Editor

/-! ## Converted ranges -/

namespace Document

variable {d : Document} {i u : Nat} {pre post : List Char} {c : Char}

/-- A place between two characters is in front of a unit, in the order of editor positions, exactly
when its offset is not behind the unit's character. -/
theorem editorPosition_le_iff (hline : d.line i = pre ++ c :: post) (hlow : unitLength pre ≤ u)
    (hhigh : u < unitLength pre + unitWidth c) {offset : Nat} (hbetween : IsBoundary d.text offset)
    (hbounded : offset ≤ d.length) :
    d.editorPosition (d.positionAt offset) ≤ ⟨i, u⟩ ↔ offset ≤ d.offsetAt ⟨i, byteLength pre⟩ := by
  rcases offsetAt_line hline with ⟨hi, hoffset⟩
  rcases Document.text_eq_append_line hline with ⟨a, b, htext, ha⟩
  have hcharacter : offset ≤ byteLength a ∨ byteLength a + c.utf8Size ≤ offset :=
    (htext ▸ hbetween).le_or_le
  rcases positionAt_spec d offset with ⟨j, hpos, hj, hjlow, hjhigh⟩
  rw [Nat.min_eq_left hbounded] at hpos hjlow hjhigh
  have hpos' : d.editorPosition (d.positionAt offset) =
      ⟨j, Editor.column (d.line j) (offset - d.lineStart j)⟩ := by
    rw [hpos]
    rfl
  have hlen : byteLength pre + c.utf8Size ≤ byteLength (d.row i) := by
    have hle := byteLength_line_le d i
    rw [hline, byteLength_append, byteLength_cons] at hle
    omega
  have hpositive : 0 < c.utf8Size := c.utf8Size_pos
  have horder : d.editorPosition (d.positionAt offset) ≤ ⟨i, u⟩ ↔
      j < i ∨ (j = i ∧ Editor.column (d.line j) (offset - d.lineStart j) ≤ u) := by
    rw [hpos']
    exact Iff.rfl
  rw [horder, hoffset]
  rcases Nat.lt_trichotomy j i with hlt | heq | hgt
  · -- On an earlier line: the offset is in front of the line's start.
    have hstart := lineStart_lt hlt (Nat.le_of_lt hi)
    omega
  · subst heq
    have hcolumn : Editor.column (d.line j) (offset - d.lineStart j) ≤ u ↔
        offset - d.lineStart j < byteLength pre + c.utf8Size := by
      rw [hline]
      exact unitLength_takeBytes_le_iff hlow hhigh
    omega
  · have hstart := lineStart_lt hgt (Nat.le_of_lt hj)
    omega

/-- A converted range covers a unit exactly when its span holds the unit's character. -/
theorem covers_editorRange (hline : d.line i = pre ++ c :: post) (hlow : unitLength pre ≤ u)
    (hhigh : u < unitLength pre + unitWidth c) {r : Range} (hr : r.Exact d) :
    (d.editorRange r).covers ⟨i, u⟩ = r.span.contains (d.offsetAt ⟨i, byteLength pre⟩) := by
  have hbounded : r.span.start ≤ d.length := Nat.le_trans hr.span_ordered hr.span_bounded
  have hstart : d.editorPosition r.start ≤ ⟨i, u⟩ ↔
      r.span.start ≤ d.offsetAt ⟨i, byteLength pre⟩ := by
    rw [hr.start_eq]
    exact editorPosition_le_iff hline hlow hhigh hr.startsBetween hbounded
  have hstop : (⟨i, u⟩ : Editor.Position) < d.editorPosition r.stop ↔
      d.offsetAt ⟨i, byteLength pre⟩ < r.span.stop := by
    rw [Editor.Position.lt_iff_not_le, hr.stop_eq,
      editorPosition_le_iff hline hlow hhigh hr.stopsBetween hr.span_bounded, Nat.not_le]
  rw [Bool.eq_iff_iff, Span.contains_iff]
  simp only [Editor.Range.covers, Bool.and_eq_true, decide_eq_true_eq]
  exact and_congr hstart hstop

end Document

/-! ## Classes -/

/-- The last class of a selection in pass order is the one with the greatest place in that order. -/
theorem Category.getLast?_filter_passOrder {p : Category → Bool} {c : Category} (hc : p c = true)
    (hlatest : ∀ c', p c' = true → c'.passIndex ≤ c.passIndex) :
    (passOrder.filter p).getLast? = some c := by
  have hordered := passOrder_pairwise
  have hmem : c ∈ passOrder := List.mem_of_getElem? (passOrder_getElem_passIndex c)
  rcases List.append_of_mem hmem with ⟨earlier, later, hsplit⟩
  have hlater : later.filter p = [] := by
    rw [List.filter_eq_nil_iff]
    intro c' hc' hp
    rw [hsplit] at hordered
    have hlt := List.rel_of_pairwise_cons (List.pairwise_append.1 hordered).2.1 hc'
    exact absurd (hlatest c' hp) (Nat.not_le.2 hlt)
  rw [hsplit, List.filter_append, List.filter_cons_of_pos hc, hlater, List.getLast?_concat]

namespace Editor

variable {d : Document} {h : Highlights} {uri : Uri} {version : Option Int} {styles : StyleSheet}
  {p : Position}

/-- The ranges of the decorations are those of the tokens, each in the set of its class. -/
theorem Decorations.shows_build (c : Category) :
    (Decorations.build uri version d h styles).shows p c = true ↔
      ∃ t ∈ h.tokens, t.category = c ∧ (d.editorRange t.range).covers p = true := by
  have hmem : c ∈ Category.emitOrder :=
    List.mem_of_getElem? (Category.emitOrder_getElem_emitIndex c)
  simp only [Decorations.shows, Decorations.build, Highlights.byCategory, Highlights.ranges_eq,
    List.map_map, List.any_map, List.any_eq_true, Function.comp_apply, Bool.and_eq_true, beq_iff_eq,
    List.mem_filter]
  constructor
  · rintro ⟨c', -, rfl, t, ⟨ht, hclass⟩, hcovers⟩
    exact ⟨t, ht, hclass, hcovers⟩
  · rintro ⟨t, ht, hclass, hcovers⟩
    exact ⟨c, hmem, rfl, t, ⟨ht, hclass⟩, hcovers⟩

/-- A place shows no class exactly when no set has a range there. -/
theorem Decorations.categoryAt?_eq_none_iff {decorations : Decorations} :
    decorations.categoryAt? p = none ↔
      ∀ set ∈ decorations.sets, ∀ r ∈ set.ranges, r.covers p = false := by
  rw [Decorations.categoryAt?, List.getLast?_eq_none_iff, List.filter_eq_nil_iff]
  constructor
  · intro hnone set hset r hr
    have hmem : set.category ∈ Category.passOrder :=
      List.mem_of_getElem? (Category.passOrder_getElem_passIndex set.category)
    apply Bool.eq_false_iff.2
    intro hcovers
    have hshows : decorations.shows p set.category = true :=
      List.any_eq_true.2 ⟨set, hset, by simpa using ⟨r, hr, hcovers⟩⟩
    exact hnone set.category hmem hshows
  · intro hfree c _ hshows
    rcases List.any_eq_true.1 hshows with ⟨set, hset, hset'⟩
    rcases List.any_eq_true.1 (Bool.and_eq_true_iff.1 hset').2 with ⟨r, hr, hcovers⟩
    rw [hfree set hset r hr] at hcovers
    cases hcovers

/-! ## Both pictures at one unit -/

section Unit

variable {i u : Nat} {pre post : List Char} {c : Char}

theorem Decorations.shows_highlights (hline : d.line i = pre ++ c :: post)
    (hlow : unitLength pre ≤ u) (hhigh : u < unitLength pre + unitWidth c) (category : Category) :
    (Decorations.build uri version d d.highlights styles).shows ⟨i, u⟩ category = true ↔
      ∃ t ∈ d.highlights.tokens, t.category = category ∧
        t.range.span.contains (d.offsetAt ⟨i, byteLength pre⟩) = true := by
  rw [Decorations.shows_build]
  have hcovers : ∀ t ∈ d.highlights.tokens, (d.editorRange t.range).covers ⟨i, u⟩ =
      t.range.span.contains (d.offsetAt ⟨i, byteLength pre⟩) := by
    intro t ht
    exact Document.covers_editorRange hline hlow hhigh (Document.holds_token ht).exact
  constructor
  · rintro ⟨t, ht, hclass, hcov⟩
    exact ⟨t, ht, hclass, hcovers t ht ▸ hcov⟩
  · rintro ⟨t, ht, hclass, hholds⟩
    exact ⟨t, ht, hclass, (hcovers t ht).trans hholds⟩

theorem inText_of_mem_highlights {t : Token} (ht : t ∈ d.highlights.tokens) : InText d t := by
  have hexact := (Document.holds_token ht).exact
  exact ⟨hexact.span_ordered, hexact.span_bounded, hexact.startsBetween, hexact.stopsBetween⟩

/-- The tokens that are shown at a unit have the class of the decorations there: there is one token
if they have a class, and none otherwise. -/
theorem categories_shownTokens (hu : u < unitLength (d.line i)) :
    ((shownTokens d d.highlights.tokens).filter (·.piece.covers i u)).map ShownToken.category? =
      ((Decorations.build uri version d d.highlights styles).categoryAt? ⟨i, u⟩).toList.map
        some := by
  rcases exists_unit hu with ⟨pre, c, post, hline, hlow, hhigh⟩
  have hshows := fun category => @Decorations.shows_highlights d uri version styles i u pre post c
    hline hlow hhigh category
  rcases shownTokens_covering (fun t ht => inText_of_mem_highlights ht) hline hlow hhigh with
    ⟨m, category, hone, htype, htop⟩ | ⟨hnone, hfree⟩
  · -- One token is shown; its class is the latest among the tokens there, hence among the sets.
    have hclass : m.category? = some category := by
      rw [ShownToken.category?, htype]
      exact Category.emitOrder_getElem_emitIndex category
    have hlast : (Decorations.build uri version d d.highlights styles).categoryAt? ⟨i, u⟩ =
        some category := by
      apply Category.getLast?_filter_passOrder
      · exact (hshows category).2 htop.held
      · intro category' hshown
        rcases (hshows category').1 hshown with ⟨t, ht, rfl, hholds⟩
        exact htop.latest t ht hholds
    rw [hone, hlast, List.map_singleton, hclass]
    rfl
  · have hempty : (Decorations.build uri version d d.highlights styles).categoryAt? ⟨i, u⟩ =
        none := by
      rw [Decorations.categoryAt?, List.getLast?_eq_none_iff, List.filter_eq_nil_iff]
      intro category _ hshown
      rcases (hshows category).1 hshown with ⟨t, ht, -, hholds⟩
      rw [hfree t ht] at hholds
      cases hholds
    rw [hnone, hempty]
    rfl

end Unit

/-! ## Numbers of ranges -/

/-- The numbers that a range is sent as. -/
def Range.numbers (r : Range) : List Nat :=
  [r.start.line, r.start.character, r.stop.line, r.stop.character]

theorem numbers_editorRange_le {r : EmbeddedSql.Range} (hr : r.Exact d) :
    ∀ n ∈ (d.editorRange r).numbers, n ≤ d.length := by
  have hposition : ∀ offset, (d.editorPosition (d.positionAt offset)).line ≤ d.length ∧
      (d.editorPosition (d.positionAt offset)).character ≤ d.length := by
    intro offset
    have hline := d.positionAt_line_lt offset
    refine ⟨Document.le_length_of_lt hline, ?_⟩
    exact Nat.le_trans (column_le _ _) (Document.unitLength_line_le hline)
  have hstart := hposition r.span.start
  have hstop := hposition r.span.stop
  intro n hn
  simp only [Range.numbers, Document.editorRange, hr.start_eq, hr.stop_eq, List.mem_cons,
    List.not_mem_nil, or_false] at hn
  omega

theorem Decorations.numbers_le {set : CategoryDecorations} {r : Range}
    (hset : set ∈ (Decorations.build uri version d d.highlights styles).sets)
    (hr : r ∈ set.ranges) : ∀ n ∈ r.numbers, n ≤ d.length := by
  simp only [Decorations.build, Highlights.byCategory, Highlights.ranges_eq, List.map_map,
    List.mem_map, Function.comp_apply] at hset
  rcases hset with ⟨c, -, rfl⟩
  rcases List.mem_map.1 hr with ⟨token, htoken, rfl⟩
  exact numbers_editorRange_le (Document.holds_token (List.mem_filter.1 htoken).1).exact

/-! ## The two pictures -/

/-- Semantic tokens and decorations of a document give every UTF-16 unit of a line the same class:
at most one semantic token covers the unit, and it has the last class in pass order whose set of
decorations has a range there; none covers it exactly when no range does.  If the length of the text
fits into 32 bits, so does every number of both outputs. -/
theorem semanticTokens_agree_decorations (d : Document) (uri : Uri) (version : Option Int)
    (styles : StyleSheet) :
    let shown := shownTokens d d.highlights.tokens
    let decorations := Decorations.build uri version d d.highlights styles
    (∀ i u, i < d.lineCount → u < unitLength (d.line i) →
      (shown.filter (·.piece.covers i u)).map ShownToken.category? =
        (decorations.categoryAt? ⟨i, u⟩).toList.map some ∧
      ((∀ m ∈ shown, m.piece.covers i u = false) ↔
        ∀ set ∈ decorations.sets, ∀ r ∈ set.ranges, r.covers ⟨i, u⟩ = false)) ∧
    (d.length < UInt32.size →
      (∀ t ∈ d.semanticTokens d.highlights.tokens, ∀ n ∈ t.numbers, n < UInt32.size) ∧
      ∀ set ∈ decorations.sets, ∀ r ∈ set.ranges, ∀ n ∈ r.numbers, n < UInt32.size) := by
  intro shown decorations
  refine ⟨?_, ?_⟩
  · intro i u _ hu
    have hclasses : (shown.filter (·.piece.covers i u)).map ShownToken.category? =
        (decorations.categoryAt? ⟨i, u⟩).toList.map some := categories_shownTokens hu
    refine ⟨hclasses, ?_⟩
    have hnone : shown.filter (·.piece.covers i u) = [] ↔
        decorations.categoryAt? ⟨i, u⟩ = none := by
      rw [← List.map_eq_nil_iff, hclasses, List.map_eq_nil_iff, Option.toList_eq_nil_iff]
    rw [← Decorations.categoryAt?_eq_none_iff, ← hnone, List.filter_eq_nil_iff]
    simp only [Bool.not_eq_true]
  · intro hlen
    have hsize : UInt32.size = 4294967296 := rfl
    constructor
    · intro t ht n hn
      have hle := numbers_le ht n hn
      omega
    · intro set hset r hr n hn
      have hle := Decorations.numbers_le hset hr n hn
      omega

/-- A number in a string, behind a character of two units: the digit shows the number in both
outputs. -/
theorem semanticTokens_agree_decorations_digit :
    let d := Document.ofString "//sql begin\n@\"x='😀 5'\"\n//sql end"
    let decorations := Decorations.build ⟨"file:///a.cs"⟩ (some 1) d d.highlights
      (.ofConfig .default)
    1 < d.lineCount ∧ 8 < unitLength (d.line 1) ∧ d.length < UInt32.size ∧
      decorations.categoryAt? ⟨1, 8⟩ = some .number ∧
      ((shownTokens d d.highlights.tokens).filter (·.piece.covers 1 8)).map ShownToken.category? =
        [some .number] := by
  intro d decorations
  have hlines : 1 < d.lineCount := by decide +kernel
  have hunits : 8 < unitLength (d.line 1) := by decide +kernel
  have hclass : decorations.categoryAt? ⟨1, 8⟩ = some .number := by decide +kernel
  have hagree := (semanticTokens_agree_decorations d ⟨"file:///a.cs"⟩ (some 1)
    (.ofConfig .default)).1 1 8 hlines hunits
  refine ⟨hlines, hunits, by decide +kernel, hclass, ?_⟩
  rw [hagree.1, hclass]
  rfl

end Editor
end EmbeddedSql
