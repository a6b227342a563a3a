import EmbeddedSql.Proofs.Editor.Painting
import EmbeddedSql.Proofs.Editor.Pieces

/-!
# Picture — what an editor shows for semantic tokens

An editor reads semantic tokens one after the other, adding up lines and units, and paints each on
its line.  The picture that results is compared with the tokens themselves, character by character:

* `Editor.ShownToken`, `Editor.decode`, `Editor.shownTokens` — how an editor reads semantic tokens;
* `Editor.Unsaturated`, `Editor.decode_encode` — no difference is cut off, so nothing is lost;
* `Editor.shownTokens_eq` — it reads back the pieces that were written;
* `Editor.categories_marks` — the classes of the pieces that cover a unit;
* `Editor.semanticTokens_picture` — each character shows the class of the latest pass among the
  tokens that hold it, and nothing else is painted.
-/

namespace EmbeddedSql
namespace Editor

open Text

/-! ## Reading semantic tokens -/

/-- A semantic token at its place. -/
structure ShownToken where
  piece : Piece
  tokenType : Nat
deriving DecidableEq, Repr

/-- The places of semantic tokens.  Lines count from that of the token before, and so do units as
long as the line is the same. -/
def decode : (line start : Nat) → List SemanticToken → List ShownToken
  | _, _, [] => []
  | line, start, t :: rest =>
    let first := if t.deltaLine = 0 then start + t.deltaStart else t.deltaStart
    ⟨⟨line + t.deltaLine, first, t.length⟩, t.tokenType⟩ :: decode (line + t.deltaLine) first rest

def Mark.shown (m : Mark) : ShownToken :=
  ⟨m.piece, m.category.emitIndex⟩

/-- No mark stands in front of the one before it, which started at `start` of `line`, so that no
difference of the encoding is cut off at zero. -/
def Unsaturated : (line start : Nat) → List Mark → Prop
  | _, _, [] => True
  | line, start, m :: rest =>
    line ≤ m.piece.line ∧ (m.piece.line = line → start ≤ m.piece.start) ∧
      Unsaturated m.piece.line m.piece.start rest

theorem unsaturated_of_precedes {line start : Nat} {ms : List Mark}
    (hafter : ∀ m ∈ ms, line < m.piece.line ∨ (line = m.piece.line ∧ start ≤ m.piece.start))
    (hordered : ms.Pairwise fun m n => m.piece.Precedes n.piece) : Unsaturated line start ms := by
  induction ms generalizing line start with
  | nil => trivial
  | cons m rest ih =>
      rcases List.pairwise_cons.1 hordered with ⟨hm, hrest⟩
      have hnext : ∀ n ∈ rest, m.piece.line < n.piece.line ∨
          (m.piece.line = n.piece.line ∧ m.piece.start ≤ n.piece.start) := by
        intro n hn
        rcases hm n hn with hlt | ⟨heq, hle⟩
        · exact .inl hlt
        · exact .inr ⟨heq, Nat.le_trans (Nat.le_add_right _ _) hle⟩
      rcases hafter m List.mem_cons_self with hlt | ⟨heq, hle⟩
      · exact ⟨Nat.le_of_lt hlt, fun hsame => absurd hsame (Nat.ne_of_gt hlt), ih hnext hrest⟩
      · exact ⟨Nat.le_of_eq heq, fun _ => hle, ih hnext hrest⟩

theorem decode_encode {line start : Nat} {ms : List Mark} (h : Unsaturated line start ms) :
    decode line start (encode line start ms) = ms.map Mark.shown := by
  induction ms generalizing line start with
  | nil => rfl
  | cons m rest ih =>
      rcases h with ⟨hline, hstart, hrest⟩
      have hplace : line + (m.piece.line - line) = m.piece.line ∧
          (if m.piece.line - line = 0 then
            start + (if m.piece.line - line = 0 then m.piece.start - start else m.piece.start)
          else if m.piece.line - line = 0 then m.piece.start - start else m.piece.start) =
            m.piece.start := by
        -- On a later line units are counted anew, on the same line from the token before.
        by_cases hsame : m.piece.line = line
        · have hle := hstart hsame
          have hzero : m.piece.line - line = 0 := by omega
          simp only [hzero, if_true]
          omega
        · have hne : m.piece.line - line ≠ 0 := by omega
          simp only [hne, if_false, and_true]
          omega
      simp only [encode, decode, hplace, List.map_cons, ih hrest]
      rfl

/-! ## Marks -/

variable {d : Document} {tokens : List Token}

theorem mem_marks {m : Mark} (h : m ∈ marks d tokens) :
    ∃ r ∈ visibleRuns tokens,
      m.category = r.1 ∧ m.piece ∈ d.pieces (d.rangeFor r.2.start r.2.stop) := by
  rcases List.mem_flatMap.1 h with ⟨r, hr, hm⟩
  rcases List.mem_map.1 hm with ⟨p, hp, rfl⟩
  exact ⟨r, hr, rfl, hp⟩

theorem marks_pairwise (d : Document) (tokens : List Token) :
    (marks d tokens).Pairwise fun m n => m.piece.Precedes n.piece := by
  rw [marks, List.pairwise_flatMap]
  constructor
  · intro r _
    rw [List.pairwise_map]
    exact (d.pieces_pairwise_line _).imp .inl
  · have hruns := List.pairwise_map.1 (visibleRuns_ascending tokens).pairwise
    refine hruns.imp ?_
    intro r r' hstop m hm n hn
    rcases List.mem_map.1 hm with ⟨p, hp, rfl⟩
    rcases List.mem_map.1 hn with ⟨q, hq, rfl⟩
    exact Document.pieces_precedes hstop hp hq

/-- What an editor shows for tokens: the tokens of the answer, at their places. -/
def shownTokens (d : Document) (tokens : List Token) : List ShownToken :=
  decode 0 0 (d.semanticTokens tokens)

theorem marks_unsaturated (d : Document) (tokens : List Token) :
    Unsaturated 0 0 (marks d tokens) := by
  apply unsaturated_of_precedes _ (marks_pairwise d tokens)
  intro m _
  rcases Nat.eq_zero_or_pos m.piece.line with hzero | hpos
  · exact .inr ⟨hzero.symm, Nat.zero_le _⟩
  · exact .inl hpos

theorem shownTokens_eq (d : Document) (tokens : List Token) :
    shownTokens d tokens = (marks d tokens).map Mark.shown :=
  decode_encode (marks_unsaturated d tokens)

/-- The classes of the marks on a unit: that of the token which is seen at the last byte of the
unit's character. -/
theorem categories_marks {i u : Nat} {pre post : List Char} {c : Char}
    (hline : d.line i = pre ++ c :: post) (hlow : unitLength pre ≤ u)
    (hhigh : u < unitLength pre + unitWidth c) :
    ((marks d tokens).filter (·.piece.covers i u)).map (·.category) =
      ((owner? (paintOrder tokens) (d.offsetAt ⟨i, byteLength pre⟩ + c.utf8Size - 1)).map
        (·.1.category)).toList := by
  rw [← categories_visibleRuns, marks, List.filter_flatMap, List.map_flatMap]
  induction visibleRuns tokens with
  | nil => rfl
  | cons run rest ih =>
      rcases run with ⟨category, s⟩
      have hrun : (((d.pieces (d.rangeFor s.start s.stop)).map fun piece =>
          (⟨piece, category⟩ : Mark)).filter (·.piece.covers i u)).map (·.category) =
          if s.contains (d.offsetAt ⟨i, byteLength pre⟩ + c.utf8Size - 1) then [category]
          else [] := by
        -- All pieces of a run have its class, so counting them is enough.
        have hcount := Document.length_filter_covers_pieces (a := s.start) (b := s.stop)
          hline hlow hhigh
        rw [List.filter_map, List.map_map]
        have hconst : ∀ ps : List Piece, ps.map ((·.category) ∘ fun piece =>
            (⟨piece, category⟩ : Mark)) = List.replicate ps.length category := by
          intro ps
          exact List.map_const' ..
        rw [hconst]
        simp only [Function.comp_def, hcount]
        split <;> rfl
      rw [List.flatMap_cons, ih, hrun]
      by_cases h : s.contains (d.offsetAt ⟨i, byteLength pre⟩ + c.utf8Size - 1) = true <;> simp [h]

/-! ## Tokens on whole characters -/

/-- The span of a token lies in the text and holds whole characters. -/
structure InText (d : Document) (t : Token) : Prop where
  ordered : t.range.span.start ≤ t.range.span.stop
  bounded : t.range.span.stop ≤ d.length
  startsBetween : IsBoundary d.text t.range.span.start
  stopsBetween : IsBoundary d.text t.range.span.stop

/-- A token on whole characters that holds the last byte of a character holds all of it. -/
theorem InText.contains_last {t : Token} (ht : InText d t) {a b : List Char} {c : Char}
    (htext : d.text = a ++ c :: b) :
    t.range.span.contains (byteLength a + c.utf8Size - 1) =
      t.range.span.contains (byteLength a) :=
  Span.contains_last (htext ▸ ht.startsBetween) (htext ▸ ht.stopsBetween)

theorem TopCategory.congr {tokens : List Token} {m n : Nat} {c : Category}
    (hmn : ∀ t ∈ tokens, t.range.span.contains m = t.range.span.contains n)
    (h : TopCategory tokens m c) : TopCategory tokens n c := by
  rcases h with ⟨⟨t, ht, hclass, hholds⟩, hlatest⟩
  refine ⟨⟨t, ht, hclass, hmn t ht ▸ hholds⟩, ?_⟩
  intro u hu hcontains
  exact hlatest u hu ((hmn u hu).trans hcontains)

/-! ## Numbers -/

theorem mem_encode {line start : Nat} {ms : List Mark} {t : SemanticToken}
    (h : t ∈ encode line start ms) :
    ∃ m ∈ ms, t.deltaLine ≤ m.piece.line ∧ t.deltaStart ≤ m.piece.start ∧
      t.length = m.piece.length ∧ t.tokenType = m.category.emitIndex := by
  induction ms generalizing line start with
  | nil => cases h
  | cons m rest ih =>
      rcases List.mem_cons.1 h with rfl | hmem
      · refine ⟨m, List.mem_cons_self, Nat.sub_le _ _, ?_, rfl, rfl⟩
        simp only []
        split <;> omega
      · rcases ih hmem with ⟨n, hn, hbounds⟩
        exact ⟨n, List.mem_cons_of_mem _ hn, hbounds⟩

/-- A mark is nonempty and stands on its line, so that its numbers are bounded by the text. -/
theorem mark_bounds {m : Mark} (h : m ∈ marks d tokens) :
    0 < m.piece.length ∧ m.piece.line < d.lineCount ∧ m.piece.line ≤ d.length ∧
      m.piece.start + m.piece.length ≤ d.length := by
  rcases mem_marks h with ⟨r, -, -, hpiece⟩
  rcases Document.mem_pieces hpiece with ⟨hpos, hlines, hunits⟩
  exact ⟨hpos, hlines, Document.le_length_of_lt hlines,
    Nat.le_trans hunits (Document.unitLength_line_le hlines)⟩

/-- No number of a semantic token is greater than the length of the text, unless it is a type. -/
theorem numbers_le {t : SemanticToken} (h : t ∈ d.semanticTokens tokens) :
    ∀ n ∈ t.numbers, n ≤ max d.length 6 := by
  rcases mem_encode h with ⟨m, hm, hline, hstart, hlength, htype⟩
  rcases mark_bounds hm with ⟨-, -, hline_le, hunits_le⟩
  have htype_le : m.category.emitIndex ≤ 6 := by
    cases m.category <;> decide
  intro n hn
  simp only [SemanticToken.numbers, List.mem_cons, List.not_mem_nil, or_false] at hn
  omega

/-! ## The picture -/

/-- A unit of a character shows one token, of the top class, or no token holds the character. -/
theorem shownTokens_covering (hplaced : ∀ t ∈ tokens, InText d t) {i u : Nat}
    {pre post : List Char} {c : Char} (hline : d.line i = pre ++ c :: post)
    (hlow : unitLength pre ≤ u) (hhigh : u < unitLength pre + unitWidth c) :
    (∃ m category, (shownTokens d tokens).filter (·.piece.covers i u) = [m] ∧
      m.tokenType = category.emitIndex ∧
      TopCategory tokens (d.offsetAt ⟨i, byteLength pre⟩) category) ∨
    ((shownTokens d tokens).filter (·.piece.covers i u) = [] ∧
      ∀ t ∈ tokens, t.range.span.contains (d.offsetAt ⟨i, byteLength pre⟩) = false) := by
  rcases Document.text_eq_append_line hline with ⟨a, b, htext, ha⟩
  have hlast : ∀ t ∈ tokens,
      t.range.span.contains (d.offsetAt ⟨i, byteLength pre⟩ + c.utf8Size - 1) =
        t.range.span.contains (d.offsetAt ⟨i, byteLength pre⟩) := by
    intro t ht
    rw [← ha]
    exact (hplaced t ht).contains_last htext
  have hcover : (shownTokens d tokens).filter (·.piece.covers i u) =
      ((marks d tokens).filter (·.piece.covers i u)).map Mark.shown := by
    rw [shownTokens_eq, List.filter_map]
    rfl
  have hclasses := @categories_marks d tokens _ _ _ _ _ hline hlow hhigh
  rw [hcover]
  cases howner : owner? (paintOrder tokens) (d.offsetAt ⟨i, byteLength pre⟩ + c.utf8Size - 1) with
  | none =>
      right
      rw [howner] at hclasses
      refine ⟨by simpa using hclasses, ?_⟩
      intro t ht
      rw [← hlast t ht]
      exact owner?_eq_none_iff.1 howner t ht
  | some x =>
      left
      rw [howner] at hclasses
      -- One class is one mark, since classes are listed mark by mark.
      rcases List.map_eq_singleton_iff.1 hclasses with ⟨m, hm, hclass⟩
      refine ⟨m.shown, x.1.category, by rw [hm]; rfl, ?_, ?_⟩
      · exact congrArg Category.emitIndex hclass
      · exact (owner?_spec howner).2.congr hlast

/-- The picture that an editor shows is the painting of the tokens.  A unit of a character is
covered by exactly one token of the answer if some token holds the character, and that token has
the class of the latest pass among them; otherwise no token covers the unit.  Nothing is painted
beside the lines, and if the length of the text fits into 32 bits, so does every number. -/
theorem semanticTokens_picture (d : Document) (tokens : List Token)
    (hplaced : ∀ t ∈ tokens, InText d t) :
    (∀ (i : Nat) (pre post : List Char) (c : Char), d.line i = pre ++ c :: post →
      ∀ u, unitLength pre ≤ u → u < unitLength pre + unitWidth c →
        (((shownTokens d tokens).filter (·.piece.covers i u)).length = 1 ↔
          ∃ t ∈ tokens, t.range.span.contains (d.offsetAt ⟨i, byteLength pre⟩)) ∧
        (∀ m ∈ shownTokens d tokens, m.piece.covers i u →
          ∃ category, TopCategory tokens (d.offsetAt ⟨i, byteLength pre⟩) category ∧
            m.tokenType = category.emitIndex) ∧
        ((∀ t ∈ tokens, t.range.span.contains (d.offsetAt ⟨i, byteLength pre⟩) = false) →
          ∀ m ∈ shownTokens d tokens, m.piece.covers i u = false)) ∧
    (∀ m ∈ shownTokens d tokens, ∀ i u, m.piece.covers i u →
      i < d.lineCount ∧ u < unitLength (d.line i)) ∧
    (d.length < UInt32.size →
      ∀ t ∈ d.semanticTokens tokens, ∀ n ∈ t.numbers, n < UInt32.size) := by
  refine ⟨?_, ?_, ?_⟩
  · intro i pre post c hline u hlow hhigh
    have hmem : ∀ m ∈ shownTokens d tokens, m.piece.covers i u →
        m ∈ (shownTokens d tokens).filter (·.piece.covers i u) :=
      fun m hm hcovers => List.mem_filter.2 ⟨hm, hcovers⟩
    rcases shownTokens_covering hplaced hline hlow hhigh with
      ⟨m, category, hone, htype, htop⟩ | ⟨hnone, hfree⟩
    · rcases htop.held with ⟨t, ht, -, hholds⟩
      rw [hone] at hmem ⊢
      refine ⟨⟨fun _ => ⟨t, ht, hholds⟩, fun _ => rfl⟩, ?_, ?_⟩
      · intro n hn hcovers
        rw [List.mem_singleton.1 (hmem n hn hcovers)]
        exact ⟨category, htop, htype⟩
      · intro hfree
        rw [hfree t ht] at hholds
        cases hholds
    · rw [hnone] at hmem ⊢
      refine ⟨⟨fun h => (by cases h), ?_⟩, ?_, ?_⟩
      · rintro ⟨t, ht, hholds⟩
        rw [hfree t ht] at hholds
        cases hholds
      · intro n hn hcovers
        cases hmem n hn hcovers
      · intro _ n hn
        apply Bool.eq_false_iff.2
        intro hcovers
        cases hmem n hn hcovers
  · intro m hm i u hcovers
    rw [shownTokens_eq] at hm
    rcases List.mem_map.1 hm with ⟨n, hn, rfl⟩
    rcases mem_marks hn with ⟨r, -, -, hpiece⟩
    rcases Document.mem_pieces hpiece with ⟨-, hlines, hunits⟩
    rcases Piece.covers_iff.1 hcovers with ⟨rfl, -, hbelow⟩
    exact ⟨hlines, Nat.lt_of_lt_of_le hbelow hunits⟩
  · intro hlen t ht n hn
    have hle := numbers_le ht n hn
    have hsize : UInt32.size = 4294967296 := rfl
    omega

/-- A string over two lines with a number in it: the second half of a surrogate pair on the second
line is covered once, and the digit shows the number. -/
theorem semanticTokens_picture_two_lines :
    let d : Document := ⟨['\'', '5', '\r', '\n', '😀']⟩
    let tokens : List Token := [⟨.number, d.rangeFor 1 2⟩, ⟨.string, d.rangeFor 0 8⟩]
    (∀ t ∈ tokens, InText d t) ∧
      ((shownTokens d tokens).filter (·.piece.covers 1 1)).length = 1 ∧
      ∀ m ∈ shownTokens d tokens, m.piece.covers 0 1 → ∃ category,
        TopCategory tokens 1 category ∧ m.tokenType = category.emitIndex := by
  intro d tokens
  have hplaced : ∀ t ∈ tokens, InText d t := by
    intro t ht
    rcases List.mem_cons.1 ht with rfl | ht
    · exact ⟨by decide, by decide, ⟨['\''], ['5', '\r', '\n', '😀'], rfl, rfl⟩,
        ⟨['\'', '5'], ['\r', '\n', '😀'], rfl, rfl⟩⟩
    · rw [List.mem_singleton.1 ht]
      exact ⟨by decide, by decide, ⟨[], d.text, rfl, rfl⟩, ⟨d.text, [], by simp, rfl⟩⟩
  have hpicture := (semanticTokens_picture d tokens hplaced).1
  refine ⟨hplaced, ?_, ?_⟩
  · refine (hpicture 1 [] [] '😀' (by decide) 1 (by decide) (by decide)).1.2 ?_
    exact ⟨⟨.string, d.rangeFor 0 8⟩, by simp [tokens], by decide⟩
  · exact (hpicture 0 ['\''] [] '5' (by decide) 1 (by decide) (by decide)).2.1

end Editor
end EmbeddedSql
