import EmbeddedSql.Proofs.Editor.Picture

/-!
# Canvas — tokens of any kind have a well-formed encoding

Nothing is known here of the tokens: their spans may overlap, reach past the end of the text, begin
inside a character or between a `\r` and its break, and come in any order.  They are painted on a
canvas with a cell for each byte from the first that a token covers up to the last, where a stroke
that left the canvas would be refused.

* `Editor.stroke?`, `Editor.canvas?` — one token and all tokens painted on the canvas;
* `Editor.canvas?_eq` — no stroke is refused, and each cell shows the token that is seen there;
* `Editor.semanticTokens_well_formed` — decoding gives back what is seen, piece by piece.
-/

namespace EmbeddedSql
namespace Editor

variable {origin size : Nat}

/-- Paint a token over the cells of its bytes, of which the first on the canvas is `origin`.  Empty
tokens are passed over, and a token with a byte beside the canvas is refused. -/
def stroke? (origin : Nat) (canvas : List (Option (Token × Nat))) (x : Token × Nat) :
    Option (List (Option (Token × Nat))) :=
  if x.1.range.isEmpty then some canvas
  else if origin ≤ x.1.range.span.start ∧
      x.1.range.span.stop - origin ≤ canvas.length then
    some (canvas.mapIdx fun k owner =>
      if x.1.range.span.contains (origin + k) then some x else owner)
  else none

/-- All tokens painted in their order on an empty canvas. -/
def canvas? (tokens : List Token) : Option (List (Option (Token × Nat))) :=
  (paintOrder tokens).foldlM (stroke? (firstByte tokens))
    (List.replicate (lastByte tokens - firstByte tokens) none)

/-! ## Strokes -/

/-- The cells of a canvas with the tokens that are seen in them. -/
def cells (origin size : Nat) (painted : List (Token × Nat)) : List (Option (Token × Nat)) :=
  (List.range' origin size).map (owner? painted)

theorem owner?_append (painted : List (Token × Nat)) (x : Token × Nat) (offset : Nat) :
    owner? (painted ++ [x]) offset =
      if x.1.range.span.contains offset then some x else owner? painted offset := by
  by_cases h : x.1.range.span.contains offset = true <;>
    simp [owner?, List.filter_append, h]

theorem cells_nil (origin size : Nat) : cells origin size [] = List.replicate size none := by
  rw [cells, List.eq_replicate_iff]
  constructor
  · simp
  · intro owner howner
    rcases List.mem_map.1 howner with ⟨offset, -, rfl⟩
    rfl

/-- A stroke on the canvas shows its token on top of what was painted before. -/
theorem stroke?_cells {painted : List (Token × Nat)} {x : Token × Nat}
    (hfits : origin ≤ x.1.range.span.start ∧ x.1.range.span.stop ≤ origin + size) :
    stroke? origin (cells origin size painted) x = some (cells origin size (painted ++ [x])) := by
  have hlength : (cells origin size painted).length = size := by simp [cells]
  rw [stroke?]
  by_cases hempty : x.1.range.isEmpty = true
  · -- An empty token holds no byte, so it is seen nowhere.
    rw [if_pos hempty]
    have hnone : ∀ offset, x.1.range.span.contains offset = false := by
      intro offset
      have hle : x.1.range.span.stop ≤ x.1.range.span.start := by
        simpa [Range.isEmpty, Span.isEmpty] using hempty
      rw [Bool.eq_false_iff, Ne, Span.contains_iff]
      omega
    have hunseen : owner? (painted ++ [x]) = owner? painted := by
      funext offset
      simp [owner?_append, hnone]
    rw [cells, cells, hunseen]
  · rw [if_neg hempty, if_pos ⟨hfits.1, by omega⟩]
    congr 1
    apply List.ext_getElem?
    intro k
    rw [List.getElem?_mapIdx]
    by_cases hk : k < size
    · simp [cells, hk, owner?_append]
    · simp [cells, hk]

theorem foldlM_stroke? {painted rest : List (Token × Nat)}
    (hfits : ∀ x ∈ rest, origin ≤ x.1.range.span.start ∧ x.1.range.span.stop ≤ origin + size) :
    rest.foldlM (stroke? origin) (cells origin size painted) =
      some (cells origin size (painted ++ rest)) := by
  -- By induction on what is still to be painted; the canvas shows what was painted so far.
  induction rest generalizing painted with
  | nil => simp
  | cons x rest ih =>
      have hx := hfits x List.mem_cons_self
      have hrest := fun y hy => hfits y (List.mem_cons_of_mem x hy)
      rw [List.foldlM_cons, stroke?_cells hx]
      show rest.foldlM (stroke? origin) (cells origin size (painted ++ [x])) = _
      rw [ih hrest, List.append_assoc]
      rfl

theorem canvas?_eq (tokens : List Token) : canvas? tokens = some (ownersOf tokens) := by
  have hfits : ∀ x ∈ paintOrder tokens, firstByte tokens ≤ x.1.range.span.start ∧
      x.1.range.span.stop ≤ firstByte tokens + (lastByte tokens - firstByte tokens) := by
    rintro ⟨t, i⟩ hx
    have ht : t ∈ tokens := List.mem_of_getElem? (mem_paintOrder_iff.1 hx)
    have hlast : t.range.span.stop ≤ lastByte tokens := le_lastByte ht
    exact ⟨firstByte_le ht, Nat.le_trans hlast (by omega)⟩
  rw [canvas?, ← cells_nil (firstByte tokens)]
  exact foldlM_stroke? hfits

/-! ## The encoding -/

/-- Whatever the tokens are, all of them can be painted on the canvas, every cell that is painted
has the number of a token, and what is seen is read off the canvas.  An editor reads back, in order,
the pieces of the lines of what is seen, each with its class; no difference was cut off in writing
them. The pieces are nonempty, stand on lines of the text and follow each other, and their numbers
fit into 32 bits if the length of the text does.

The canvas has a cell for every byte from the first that a token covers up to the last, also beyond
the end of the text, and the theorem takes it for granted that there is memory for all of them:
spans near the largest word ask for more than any machine has.  The highlights of a text never do,
as their spans lie in it. -/
theorem semanticTokens_well_formed (d : Document) (tokens : List Token) :
    (∃ canvas, canvas? tokens = some canvas ∧
      (∀ t i, some (t, i) ∈ canvas → tokens[i]? = some t) ∧
      visibleRuns tokens = (runsFrom (firstByte tokens) canvas).map fun run =>
        (run.1.category, run.2.2)) ∧
    shownTokens d tokens = (visibleRuns tokens).flatMap (fun run =>
      (d.pieces (d.rangeFor run.2.start run.2.stop)).map fun piece =>
        ⟨piece, run.1.emitIndex⟩) ∧
    Unsaturated 0 0 (marks d tokens) ∧
    (∀ m ∈ shownTokens d tokens, 0 < m.piece.length ∧ m.piece.line < d.lineCount) ∧
    ((shownTokens d tokens).Pairwise fun m n => m.piece.Precedes n.piece) ∧
    (d.length < UInt32.size → ∀ m ∈ shownTokens d tokens,
      m.piece.line < UInt32.size ∧ m.piece.start + m.piece.length < UInt32.size) := by
  have hshown : ∀ m ∈ shownTokens d tokens, ∃ n ∈ marks d tokens, m = n.shown := by
    intro m hm
    rw [shownTokens_eq] at hm
    rcases List.mem_map.1 hm with ⟨n, hn, rfl⟩
    exact ⟨n, hn, rfl⟩
  have hnumbered : ∀ t i, some (t, i) ∈ ownersOf tokens → tokens[i]? = some t :=
    fun _ _ => getElem?_of_mem_ownersOf
  refine ⟨⟨ownersOf tokens, canvas?_eq tokens, hnumbered, visibleRuns_eq tokens⟩, ?_,
    marks_unsaturated d tokens, ?_, ?_, ?_⟩
  · rw [shownTokens_eq, marks, List.map_flatMap]
    simp only [List.map_map]
    rfl
  · intro m hm
    rcases hshown m hm with ⟨n, hn, rfl⟩
    exact ⟨(mark_bounds hn).1, (mark_bounds hn).2.1⟩
  · rw [shownTokens_eq, List.pairwise_map]
    exact marks_pairwise d tokens
  · intro hlength m hm
    rcases hshown m hm with ⟨n, hn, rfl⟩
    rcases mark_bounds hn with ⟨-, -, hline, hunits⟩
    exact ⟨Nat.lt_of_le_of_lt hline hlength, Nat.lt_of_le_of_lt hunits hlength⟩

/-- One token ends and another begins inside the first character, a third begins between `\r` and
its break and reaches past the end of the text. -/
theorem semanticTokens_well_formed_astray :
    let d : Document := ⟨['é', '\r', '\n', '😀']⟩
    let tokens : List Token :=
      [⟨.number, d.rangeFor 3 20⟩, ⟨.string, d.rangeFor 1 6⟩, ⟨.string, d.rangeFor 0 1⟩]
    d.length < UInt32.size ∧ (∃ canvas, canvas? tokens = some canvas) ∧
      shownTokens d tokens = [⟨⟨0, 0, 1⟩, 3⟩, ⟨⟨1, 0, 2⟩, 4⟩] ∧
      ∀ m ∈ shownTokens d tokens,
        m.piece.line < UInt32.size ∧ m.piece.start + m.piece.length < UInt32.size := by
  intro d tokens
  have hlength : d.length < UInt32.size := by decide
  rcases semanticTokens_well_formed d tokens with
    ⟨⟨canvas, hcanvas, -⟩, hpieces, -, -, -, hnumbers⟩
  exact ⟨hlength, ⟨canvas, hcanvas⟩, hpieces.trans (by decide), hnumbers hlength⟩

end Editor
end EmbeddedSql
