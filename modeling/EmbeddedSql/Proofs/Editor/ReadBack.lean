import EmbeddedSql.Proofs.Classification.Edges
import EmbeddedSql.Proofs.Document.Stretches
import EmbeddedSql.Proofs.Editor.Agreement

/-!
# ReadBack — an editor finds a token where it was sent

A position is sent as a line and a number of UTF-16 units.  This loses something in general: a
column inside a character is moved to its start, and one behind the `\r` of a line to its front.
The ends of tokens are never such places, so an editor that counts the units on its own text comes
back to the bytes of the token:

* `Text.bytesOfUnits?` — the bytes in front of the character boundary at a number of units;
* `Document.offsetOf?`, `Document.spanOf?`, `Document.textBetween?` — what an editor makes of a
  position and of a range;
* `Document.between_positionAt` — where an offset has a position between the characters of a line;
* `Document.offsetOf?_editorPosition` — such a position is read back;
* `Document.ReadsBack` — what an editor gets back from the range of a token;
* `Document.tokens_read_back` — it gets back every token of every document.
-/

namespace EmbeddedSql

open Text

/-! ## Units on a line -/

namespace Text

/-- The bytes of the characters that take up exactly `n` units at the beginning of a text. -/
def bytesOfUnits? : Nat → List Char → Option Nat
  | 0, _ => some 0
  | _ + 1, [] => none
  | n + 1, c :: cs =>
    if unitWidth c ≤ n + 1 then (bytesOfUnits? (n + 1 - unitWidth c) cs).map (c.utf8Size + ·)
    else none

theorem unitWidth_pos (c : Char) : 0 < unitWidth c := by
  unfold unitWidth
  split <;> omega

theorem bytesOfUnits?_append (a b : List Char) :
    bytesOfUnits? (unitLength a) (a ++ b) = some (byteLength a) := by
  induction a with
  | nil => cases b <;> rfl
  | cons c cs ih =>
      -- A character takes up a unit at least, so the count is not used up in front of it.
      have hpos := unitWidth_pos c
      rcases Nat.exists_eq_add_one_of_ne_zero (n := unitLength (c :: cs))
        (by rw [unitLength_cons]; omega) with ⟨k, hk⟩
      have hrest : k + 1 - unitWidth c = unitLength cs := by
        rw [← hk, unitLength_cons, Nat.add_sub_cancel_left]
      have hfits : unitWidth c ≤ k + 1 := by
        rw [← hk, unitLength_cons]
        exact Nat.le_add_right _ _
      rw [hk, List.cons_append, bytesOfUnits?, if_pos hfits, hrest, ih]
      rfl

end Text

/-! ## What an editor reads -/

namespace Editor

/-- A position as it is sent, in numbers of 32 bits. -/
def Position.sent (p : Position) : Position :=
  ⟨p.line % UInt32.size, p.character % UInt32.size⟩

/-- A range as it is sent, in numbers of 32 bits. -/
def Range.sent (r : Range) : Range :=
  ⟨r.start.sent, r.stop.sent⟩

theorem Range.sent_eq {r : Range} (h : ∀ n ∈ r.numbers, n < UInt32.size) : r.sent = r := by
  simp only [Range.numbers, List.mem_cons, List.not_mem_nil, or_false, forall_eq_or_imp,
    forall_eq] at h
  rcases h with ⟨hline, hcharacter, hline', hcharacter'⟩
  simp only [Range.sent, Position.sent, Nat.mod_eq_of_lt hline, Nat.mod_eq_of_lt hcharacter,
    Nat.mod_eq_of_lt hline', Nat.mod_eq_of_lt hcharacter']

end Editor

namespace Document

/-- The offset of the character boundary that a position names, if it names one. -/
def offsetOf? (d : Document) (p : Editor.Position) : Option Nat :=
  d.lineStarts[p.line]?.bind fun start =>
    (bytesOfUnits? p.character (d.line p.line)).map (start + ·)

/-- The bytes between the two ends of a range. -/
def spanOf? (d : Document) (r : Editor.Range) : Option Span :=
  (d.offsetOf? r.start).bind fun start => (d.offsetOf? r.stop).map (Span.mk start)

/-- The text between the two ends of a range. -/
def textBetween? (d : Document) (r : Editor.Range) : Option (List Char) :=
  (d.spanOf? r).bind fun s => slice? s.start s.stop d.text

variable {d : Document}

/-! ## Positions that are read back -/

/-- Unless it stands behind the `\r` of a line, an offset between two characters of the text has a
position between two characters of the line. -/
theorem between_positionAt {front back : List Char} (htext : d.text = front ++ back)
    (hreturn : front.getLast? = some '\r' → ∃ c ∈ back.head?, c ≠ '\n') :
    d.Between (d.positionAt (byteLength front)) := by
  have hbounded : byteLength front ≤ d.length := by
    rw [length, htext, byteLength_append]
    exact Nat.le_add_right _ _
  rcases positionAt_spec d (byteLength front) with ⟨i, hpos, hi, hlow, hhigh⟩
  rw [Nat.min_eq_left hbounded] at hpos hlow hhigh
  rcases text_eq_append_ending hi with ⟨a, b, hrow, ha, hb⟩
  -- The offset cuts the row in two.
  rcases exists_append_of_byteLength_le (hrow.symm.trans htext) (by omega) with ⟨x, rfl, hx⟩
  rw [byteLength_append, ha] at hhigh hpos ⊢
  rcases exists_append_of_byteLength_le hx.symm (by omega) with ⟨y, hxy, rfl⟩
  rw [hpos, Nat.add_sub_cancel_left]
  refine ⟨hi, ?_⟩
  rw [line_eq]
  rcases stripReturn_eq_or (d.row i) with hstrip | hstrip
  · exact ⟨x, y, by rw [hstrip, hxy], rfl⟩
  · rcases List.eq_nil_or_concat y with rfl | ⟨y, c, rfl⟩
    · -- All of the row is in front of the offset, its `\r` included, and a line break follows.
      exfalso
      have hlast : (a ++ x).getLast? = some '\r' := by
        rw [List.append_nil] at hxy
        rw [← hxy, hstrip, ← List.append_assoc, List.getLast?_concat]
      rcases hreturn hlast with ⟨c, hc, hne⟩
      exact hne (hb c hc)
    · have hends : stripReturn (d.row i) ++ ['\r'] = (x ++ y) ++ [c] := by
        rw [← hstrip, hxy]
        simp
      exact ⟨x, y, (List.append_inj' hends rfl).1, rfl⟩

theorem offsetOf?_editorPosition {p : Position} (h : d.Between p) :
    d.offsetOf? (d.editorPosition p) = some (d.offsetAt p) := by
  have hle := h.column_le
  rcases h with ⟨hline, x, y, hxy, hcolumn⟩
  have hunits : Editor.column (d.line p.line) p.column = unitLength x := by
    rw [Editor.column, hxy, ← hcolumn, takeBytes_append]
  have hoffset : d.offsetAt p = d.lineStart p.line + byteLength x := by
    rw [offsetAt_eq hline hle, hcolumn]
  rw [editorPosition, offsetOf?, lineStarts_getElem?, hunits, hoffset, hxy, bytesOfUnits?_append]
  simp [hline]

-- Between `\r` and `\n` a position is not read back.
example : let d := ofString "a\r\nb"
    d.offsetOf? (d.editorPosition (d.positionAt 2)) = some 1 := by
  decide +kernel

/-- From a range that was sent, an editor gets back the bytes and the text of a range. -/
structure ReadsBack (d : Document) (r : Range) (sent : Editor.Range) : Prop where
  span : d.spanOf? sent = some r.span
  text : d.textBetween? sent = some (d.textOf r)

/-- Both ends of a range between the characters of their lines are read back. -/
theorem readsBack_of_between {r : Range} (hr : r.Exact d) (hstart : d.Between r.start)
    (hstop : d.Between r.stop) : d.ReadsBack r (d.editorRange r) := by
  have hspan : d.spanOf? (d.editorRange r) = some r.span := by
    simp only [spanOf?, editorRange, offsetOf?_editorPosition hstart,
      offsetOf?_editorPosition hstop, hr.offsetAt_start, hr.offsetAt_stop, Option.bind_some,
      Option.map_some]
  refine ⟨hspan, ?_⟩
  rw [textBetween?, hspan, Option.bind_some]
  exact hr.cut

/-- Different ranges are not sent as the same range if both are read back. -/
theorem ReadsBack.unique {r r' : Range} {sent : Editor.Range} (h : d.ReadsBack r sent)
    (h' : d.ReadsBack r' sent) (hr : r.Exact d) (hr' : r'.Exact d) : r = r' := by
  have hspan : r.span = r'.span := Option.some.inj (h.span.symm.trans h'.span)
  have hstart : r.start = r'.start := by
    rw [hr.start_eq, hr'.start_eq, hspan]
  have hstop : r.stop = r'.stop := by
    rw [hr.stop_eq, hr'.stop_eq, hspan]
  exact (Range.mk.injEq _ _ _ _ _ _).mpr ⟨hspan, hstart, hstop⟩

/-! ## Tokens -/

theorem readsBack_token {t : Token} (ht : t ∈ d.highlights.tokens) :
    d.ReadsBack t.range (d.editorRange t.range) := by
  have hexact := (holds_token ht).exact
  rcases edged_token ht with ⟨⟨a, c, b, htext, ha, hc⟩, ⟨a', c', b', htext', ha', hc'⟩⟩
  refine readsBack_of_between hexact ?_ ?_
  · -- The character behind the start is no line break.
    rw [hexact.start_eq, ← ha]
    refine between_positionAt htext fun _ => ?_
    exact ⟨c, rfl, (Classification.ne_break_of_isEdge hc).1⟩
  · -- The character in front of the end is no `\r`.
    have hfront : d.text = (a' ++ [c']) ++ b' := by simp [htext']
    have hstop : byteLength (a' ++ [c']) = t.range.span.stop := by simp [← ha']
    rw [hexact.stop_eq, ← hstop]
    refine between_positionAt hfront fun hlast => ?_
    rw [List.getLast?_concat] at hlast
    exact absurd (Option.some.inj hlast) (Classification.ne_break_of_isEdge hc').2

/-- Every token of a text that is shorter than 2^32 bytes is read back from the range that is sent
for it: its bytes, and so its text.  Tokens with different ranges are sent different ranges, and the
decorations of each class are read back as the ranges of the class, one by one. -/
theorem tokens_read_back (d : Document) (hlength : d.length < UInt32.size) (uri : Uri)
    (version : Option Int) (styles : StyleSheet) :
    (∀ t ∈ d.highlights.tokens, d.ReadsBack t.range (d.editorRange t.range).sent) ∧
    (∀ t ∈ d.highlights.tokens, ∀ t' ∈ d.highlights.tokens, t.range ≠ t'.range →
      (d.editorRange t.range).sent ≠ (d.editorRange t'.range).sent) ∧
    ∀ set ∈ (Editor.Decorations.build uri version d d.highlights styles).sets,
      List.Forall₂ (fun r shown => d.ReadsBack r (Editor.Range.sent shown))
        (d.highlights.ranges set.category) set.ranges := by
  have hreads : ∀ t ∈ d.highlights.tokens, d.ReadsBack t.range (d.editorRange t.range).sent := by
    intro t ht
    have hnumbers := Editor.numbers_editorRange_le (holds_token ht).exact
    have hsent : (d.editorRange t.range).sent = d.editorRange t.range :=
      Editor.Range.sent_eq fun n hn => Nat.lt_of_le_of_lt (hnumbers n hn) hlength
    rw [hsent]
    exact readsBack_token ht
  refine ⟨hreads, ?_, ?_⟩
  · intro t ht t' ht' hne hsame
    have hreads' := hreads t' ht'
    rw [← hsame] at hreads'
    exact hne ((hreads t ht).unique hreads' (holds_token ht).exact (holds_token ht').exact)
  · intro set hset
    simp only [Editor.Decorations.build, Highlights.byCategory, List.map_map, List.mem_map,
      Function.comp_apply] at hset
    rcases hset with ⟨c, -, rfl⟩
    rw [List.forall₂_map_right_iff, List.forall₂_same]
    intro r hr
    rw [Highlights.ranges_eq] at hr
    rcases List.mem_map.1 hr with ⟨t, ht, rfl⟩
    exact hreads t (List.mem_filter.1 ht).1

/-- A string over two lines, with a character of two units and one of two bytes in it, and a keyword
behind it. -/
theorem tokens_read_back_two_lines :
    let d := ofString "//sql begin\r\n$@\"é = '😀\r\nü' and \x7bx\x7d\"\r\n//sql end"
    let quoted : Range := ⟨⟨21, 31⟩, ⟨1, 8⟩, ⟨2, 3⟩⟩
    let word : Range := ⟨⟨32, 35⟩, ⟨2, 4⟩, ⟨2, 7⟩⟩
    d.length < UInt32.size ∧ ⟨.string, quoted⟩ ∈ d.highlights.tokens ∧
      ⟨.keyword, word⟩ ∈ d.highlights.tokens ∧ d.textOf quoted = "'😀\r\nü'".toList ∧
      d.ReadsBack quoted ⟨⟨1, 7⟩, ⟨2, 2⟩⟩ ∧
      (d.editorRange quoted).sent ≠ (d.editorRange word).sent := by
  intro d quoted word
  have hlength : d.length < UInt32.size := by decide +kernel
  have hquoted : ⟨.string, quoted⟩ ∈ d.highlights.tokens := by decide +kernel
  have hword : ⟨.keyword, word⟩ ∈ d.highlights.tokens := by decide +kernel
  have hsent : (d.editorRange quoted).sent = ⟨⟨1, 7⟩, ⟨2, 2⟩⟩ := by decide +kernel
  have hread := tokens_read_back d hlength ⟨"file:///a.cs"⟩ (some 1) (.ofConfig .default)
  refine ⟨hlength, hquoted, hword, by decide +kernel, ?_, ?_⟩
  · rw [← hsent]
    exact hread.1 _ hquoted
  · exact hread.2.1 _ hquoted _ hword (by decide)

end Document
end EmbeddedSql
