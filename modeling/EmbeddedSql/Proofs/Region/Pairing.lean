import EmbeddedSql.Proofs.Literal.Places
import Mathlib.Data.List.Nodup

/-!
# Pairing — regions pair a begin marker with the nearest end marker

The pass over the lines carries one open begin marker and nothing else.  What it finds can be said
without the pass: a begin marker belongs to the nearest end marker below it, unless it stands inside
a region.  The rule refers to its own outcome, but only to regions that begin on earlier lines, so
there is one list of regions that follows it.

* `Document.markerAt?`, `Document.NearestEnd` — the markers of a document, and the end that belongs
  to a line;
* `Document.Waits` — what the pass knows of the marker that it carries;
* `Region.scan_sound`, `Region.mem_scan` — what is found is a pair, and what is a pair is found;
* `Document.Pairs` — the rule;
* `Document.pairs_iff_eq_regions` — the regions of a document are the only list that follows it.
-/

namespace EmbeddedSql

open EmbeddedSql.Span

namespace Document

variable {d : Document} {b e index : Nat}

/-! ## Markers -/

/-- The marker that a line is, if it is one. -/
def markerAt? (d : Document) (index : Nat) : Option Marker :=
  Marker.ofLine? (d.line index)

/-- The first end marker below a line. -/
structure NearestEnd (d : Document) (b e : Nat) : Prop where
  below : b < e
  closing : d.markerAt? e = some .closing
  nearest : ∀ n, b < n → n < e → d.markerAt? n ≠ some .closing

/-- A begin marker above line `index` to which no end marker belongs up to there. -/
structure Waits (d : Document) (b index : Nat) : Prop where
  above : b < index
  opening : d.markerAt? b = some .opening
  unclosed : ∀ n, b < n → n < index → d.markerAt? n ≠ some .closing

theorem waits_succ (h : d.markerAt? index = some .opening) : d.Waits index (index + 1) where
  above := Nat.lt_succ_self index
  opening := h
  unclosed := fun _ hlow hhigh => absurd hhigh (Nat.not_lt.2 hlow)

theorem Waits.step (h : d.Waits b index) (hline : d.markerAt? index ≠ some .closing) :
    d.Waits b (index + 1) where
  above := Nat.lt_succ_of_lt h.above
  opening := h.opening
  unclosed := by
    intro n hlow hhigh
    rcases Nat.lt_succ_iff_lt_or_eq.1 hhigh with hlt | rfl
    · exact h.unclosed n hlow hlt
    · exact hline

theorem Waits.nearestEnd (h : d.Waits b index) (hline : d.markerAt? index = some .closing) :
    d.NearestEnd b index :=
  ⟨h.above, hline, h.unclosed⟩

/-! ## Lines that are still to come -/

theorem markerAt?_of_drop {line : List Char} {rest : List (List Char)}
    (h : d.lines.drop index = line :: rest) :
    d.markerAt? index = Marker.ofLine? line ∧ d.lines.drop (index + 1) = rest := by
  have hline : d.lines[index]? = some line := by
    rw [← Nat.add_zero index, ← List.getElem?_drop, h]
    rfl
  constructor
  · rw [markerAt?, Document.line, List.getD_eq_getElem?_getD, hline, Option.getD_some]
  · rw [← List.tail_drop, h, List.tail_cons]

theorem markerAt?_eq_none (h : d.lines.drop index = []) (hle : index ≤ b) :
    d.markerAt? b = none := by
  have hcount : d.lineCount ≤ index := List.drop_eq_nil_iff.1 h
  rw [markerAt?, line_of_lineCount_le (Nat.le_trans hcount hle)]
  rfl

end Document

namespace Region

variable {d : Document} {opened : Option Nat} {b e index : Nat} {lines : List (List Char)}

/-! ## What the pass finds -/

theorem scan_sound (hlines : d.lines.drop index = lines)
    (hopened : ∀ b, opened = some b → d.Waits b index) {r : Region}
    (hr : r ∈ scan opened index lines) :
    d.markerAt? r.beginLine = some .opening ∧ d.NearestEnd r.beginLine r.endLine := by
  induction lines generalizing opened index with
  | nil => cases opened <;> cases hr
  | cons line rest ih =>
      rcases Document.markerAt?_of_drop hlines with ⟨hline, hrest⟩
      cases opened with
      | none =>
          simp only [scan, ← hline] at hr
          split at hr
          · rename_i hopening
            refine ih hrest ?_ hr
            intro b hb
            cases hb
            exact Document.waits_succ hopening
          · exact ih hrest (by simp) hr
      | some b =>
          have hwaits : d.Waits b index := hopened b rfl
          simp only [scan, ← hline] at hr
          split at hr
          · rename_i hclosing
            rcases List.mem_cons.1 hr with rfl | hr
            · exact ⟨hwaits.opening, hwaits.nearestEnd hclosing⟩
            · exact ih hrest (by simp) hr
          · rename_i hother
            refine ih hrest ?_ hr
            intro b' hb'
            cases hb'
            exact hwaits.step hother

/-- The marker that is carried is paired with the next end marker. -/
theorem mem_scan_some (hlines : d.lines.drop index = lines) (hle : index ≤ e)
    (hclosing : d.markerAt? e = some .closing)
    (hfree : ∀ n, index ≤ n → n < e → d.markerAt? n ≠ some .closing) :
    ⟨b, e⟩ ∈ scan (some b) index lines := by
  induction lines generalizing index with
  | nil =>
      rw [Document.markerAt?_eq_none hlines hle] at hclosing
      cases hclosing
  | cons line rest ih =>
      rcases Document.markerAt?_of_drop hlines with ⟨hline, hrest⟩
      simp only [scan, ← hline]
      by_cases heq : index = e
      · rw [heq, if_pos hclosing]
        exact List.mem_cons_self
      · have hlt : index < e := Nat.lt_of_le_of_ne hle heq
        rw [if_neg (hfree index (Nat.le_refl _) hlt)]
        exact ih hrest hlt fun n hn => hfree n (Nat.le_of_succ_le hn)

/-- A begin marker that is still to come is paired with the nearest end marker, if no region that is
found has it inside. -/
theorem mem_scan (hlines : d.lines.drop index = lines) (hopened : ∀ o, opened = some o → o < index)
    (hle : index ≤ b) (hopening : d.markerAt? b = some .opening) (hend : d.NearestEnd b e)
    (hfree : ∀ r ∈ scan opened index lines, ¬ r.hasContentLine b) :
    ⟨b, e⟩ ∈ scan opened index lines := by
  induction lines generalizing opened index with
  | nil =>
      rw [Document.markerAt?_eq_none hlines hle] at hopening
      cases hopening
  | cons line rest ih =>
      rcases Document.markerAt?_of_drop hlines with ⟨hline, hrest⟩
      cases opened with
      | none =>
          simp only [scan, ← hline] at hfree ⊢
          by_cases heq : index = b
          · -- The marker is on this line, so from here on it is carried.
            subst heq
            rw [if_pos hopening]
            exact mem_scan_some hrest hend.below hend.closing hend.nearest
          · have hlt : index < b := Nat.lt_of_le_of_ne hle heq
            by_cases hmarker : d.markerAt? index = some .opening
            · rw [if_pos hmarker] at hfree ⊢
              exact ih hrest (by simp) hlt hfree
            · rw [if_neg hmarker] at hfree ⊢
              exact ih hrest (by simp) hlt hfree
      | some o =>
          have ho : o < index := hopened o rfl
          by_cases heq : index = b
          · -- The carried marker stands above, and would be paired with the same end marker.
            subst heq
            have hmem : (⟨o, e⟩ : Region) ∈ scan (some o) index (line :: rest) := by
              refine mem_scan_some hlines (Nat.le_of_lt hend.below) hend.closing ?_
              intro n hlow hhigh
              rcases Nat.lt_or_eq_of_le hlow with hlt | rfl
              · exact hend.nearest n hlt hhigh
              · simp [hopening]
            exact absurd ⟨ho, hend.below⟩ (hfree _ hmem)
          · have hlt : index < b := Nat.lt_of_le_of_ne hle heq
            simp only [scan, ← hline] at hfree ⊢
            by_cases hmarker : d.markerAt? index = some .closing
            · rw [if_pos hmarker] at hfree ⊢
              refine List.mem_cons_of_mem _ (ih hrest (fun _ h => by cases h) hlt ?_)
              exact fun r hr => hfree r (List.mem_cons_of_mem _ hr)
            · rw [if_neg hmarker] at hfree ⊢
              refine ih hrest ?_ hlt hfree
              intro o' ho'
              cases ho'
              exact Nat.lt_succ_of_lt ho

end Region

/-! ## The rule -/

namespace Document

variable {d : Document} {regions regions' : List Region}

/-- A region is a begin marker that is not inside a region, with the nearest end marker below it.
Regions are listed one behind the other, and have no end marker inside. -/
structure Pairs (d : Document) (regions : List Region) : Prop where
  mem_iff : ∀ r, r ∈ regions ↔ d.markerAt? r.beginLine = some .opening ∧
    d.NearestEnd r.beginLine r.endLine ∧ ∀ r' ∈ regions, ¬ r'.hasContentLine r.beginLine
  ordered : regions.Pairwise fun r r' => r.endLine < r'.beginLine
  content : ∀ r ∈ regions, ∀ n, r.hasContentLine n → d.markerAt? n ≠ some .closing

theorem regions_sound (d : Document) {r : Region} (hr : r ∈ d.regions) :
    d.markerAt? r.beginLine = some .opening ∧ d.NearestEnd r.beginLine r.endLine :=
  Region.scan_sound List.drop_zero (by simp) hr

/-- The lines of two regions are disjoint, so no region begins inside another one. -/
theorem not_hasContentLine_of_mem_regions {r r' : Region} (hr : r ∈ d.regions)
    (hr' : r' ∈ d.regions) : ¬ r'.hasContentLine r.beginLine := by
  intro hinside
  have hbelow := (d.regions_sound hr).2.below
  have hspan : r'.lineSpan = r.lineSpan :=
    d.regions_ascending.eq_of_contains (n := r.beginLine) (List.mem_map_of_mem hr')
      (List.mem_map_of_mem hr) (contains_iff.2 ⟨Nat.le_of_lt hinside.1, hinside.2⟩)
      (contains_iff.2 ⟨Nat.le_refl _, hbelow⟩)
  have hbegin : r'.beginLine = r.beginLine := congrArg Span.start hspan
  exact absurd hinside.1 (Nat.not_lt.2 (Nat.le_of_eq hbegin.symm))

theorem pairs_regions (d : Document) : d.Pairs d.regions where
  mem_iff := by
    intro r
    constructor
    · intro hr
      rcases d.regions_sound hr with ⟨hopening, hend⟩
      exact ⟨hopening, hend, fun r' hr' => not_hasContentLine_of_mem_regions hr hr'⟩
    · rintro ⟨hopening, hend, hfree⟩
      exact Region.mem_scan List.drop_zero (by simp) (Nat.zero_le _) hopening hend hfree
  ordered := by
    refine (List.pairwise_map.1 d.regions_ascending.pairwise).imp_of_mem ?_
    intro r r' hr hr' hle
    -- One line is not both markers, so the next region begins below the end of this one.
    refine Nat.lt_of_le_of_ne hle ?_
    intro heq
    have hclosing := (d.regions_sound hr).2.closing
    rw [show r.endLine = r'.beginLine from heq, (d.regions_sound hr').1] at hclosing
    cases hclosing
  content := fun r hr n hn => (d.regions_sound hr).2.nearest n hn.1 hn.2

/-! ## Only one list follows the rule -/

theorem Pairs.nodup (h : d.Pairs regions) : regions.Nodup := by
  refine h.ordered.imp_of_mem ?_
  rintro r r' hr - hlt rfl
  exact absurd ((h.mem_iff r).1 hr).2.1.below (Nat.lt_asymm hlt)

/-- Whether a marker opens a region is settled by the regions that begin above it. -/
theorem Pairs.mem_of_mem (h : d.Pairs regions) (h' : d.Pairs regions') {r : Region}
    (hr : r ∈ regions)
    (habove : ∀ s : Region, s.beginLine < r.beginLine → s ∈ regions' → s ∈ regions) :
    r ∈ regions' := by
  rcases (h.mem_iff r).1 hr with ⟨hopening, hend, hfree⟩
  refine (h'.mem_iff r).2 ⟨hopening, hend, ?_⟩
  intro s hs hinside
  exact hfree s (habove s hinside.1 hs) hinside

theorem Pairs.mem_congr (h : d.Pairs regions) (h' : d.Pairs regions') (r : Region) :
    r ∈ regions ↔ r ∈ regions' := by
  induction hb : r.beginLine using Nat.strongRecOn generalizing r with
  | ind b ih =>
      subst hb
      constructor
      · intro hr
        exact h.mem_of_mem h' hr fun s hs hmem => (ih s.beginLine hs s rfl).2 hmem
      · intro hr
        exact h'.mem_of_mem h hr fun s hs hmem => (ih s.beginLine hs s rfl).1 hmem

theorem Pairs.unique (h : d.Pairs regions) (h' : d.Pairs regions') : regions = regions' := by
  have hperm : regions.Perm regions' :=
    (List.perm_ext_iff_of_nodup h.nodup h'.nodup).2 fun r => h.mem_congr h' r
  refine hperm.eq_of_pairwise ?_ h.ordered h'.ordered
  intro r r' hr hr' hlt hgt
  have hbelow := ((h.mem_iff r).1 hr).2.1.below
  have hbelow' := ((h'.mem_iff r').1 hr').2.1.below
  omega

/-- The regions of a document are its pairs of a begin marker and the nearest end marker below it,
in order, without the begin markers that stand inside a region.  No other list of regions has these
properties. -/
theorem pairs_iff_eq_regions (d : Document) (regions : List Region) :
    d.Pairs regions ↔ regions = d.regions := by
  constructor
  · intro h
    exact h.unique d.pairs_regions
  · rintro rfl
    exact d.pairs_regions

example : (ofString "//sql end\n//sql begin\n//sql begin\n//sql end\n//sql begin").regions =
    [⟨1, 3⟩] := by
  decide +kernel

end Document
end EmbeddedSql
