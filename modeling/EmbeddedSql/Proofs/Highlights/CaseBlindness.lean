import EmbeddedSql.Proofs.Classification.Folding
import EmbeddedSql.Proofs.Interpolation.Steps
import EmbeddedSql.Proofs.Literal.RoundTrip

/-!
# CaseBlindness — letter case makes no difference to a pass

Every stage of a pass looks at signs, at digits, at white space, at word characters and at words
without their case.  So each stage finds in a folded text what it finds in the text itself:

* `Marker.ofLine?_foldCase`, `Onset.find?_foldCase`, `Literal.closingColumn?_foldCase` — one line;
* `Region.scan_foldCase`, `Literal.scan_foldCase`, `Interpolation.runs_foldCase` — the scans;
* `Document.folded`, `Document.lines_folded`, `Document.textOf_folded` — a document in lower case,
  in which all places are where they were;
* `Document.highlights_folded` — the pass, and `Document.highlights_case_blind` — two documents that
  differ in letter case only.
-/

namespace EmbeddedSql

open Text

/-! ## Markers and regions -/

namespace Marker

theorem foldLetter_toLower (c : Char) : foldLetter c.toLower = foldLetter c :=
  rel_toLower (r := fun c l => foldLetter l = foldLetter c) (fun _ => rfl) (by decide) c

theorem comment?_foldCase (line : List Char) :
    comment? (foldCase line) = (comment? line).map foldCase := by
  simp only [comment?, trimStart_foldCase]
  generalize trimStart line = t
  split
  · rename_i body hfold
    rcases eq_append_of_foldCase (p := ['/', '/']) (by decide) hfold with ⟨v, rfl, rfl⟩
    rfl
  · rename_i hother
    split
    · exact (hother _ rfl).elim
    · rfl

theorem ofLine?_foldCase (line : List Char) : ofLine? (foldCase line) = ofLine? line := by
  have hletters : ∀ w : List Char, (foldCase w).map foldLetter = w.map foldLetter := by
    intro w
    rw [foldCase, List.map_map]
    exact List.map_congr_left fun c _ => foldLetter_toLower c
  rw [ofLine?, ofLine?, comment?_foldCase]
  cases comment? line with
  | none => rfl
  | some body =>
      simp only [Option.map_some, Option.bind_some, words_foldCase, List.map_map]
      congr 1
      exact List.map_congr_left fun w _ => hletters w

end Marker

theorem Region.scan_foldCase (opened : Option Nat) (index : Nat) (lines : List (List Char)) :
    scan opened index (lines.map foldCase) = scan opened index lines := by
  induction lines generalizing opened index with
  | nil => rfl
  | cons line rest ih =>
      cases opened with
      | none => simp only [List.map_cons, scan, Marker.ofLine?_foldCase, ih]
      | some b => simp only [List.map_cons, scan, Marker.ofLine?_foldCase, ih]

/-! ## Literals -/

theorem Onset.findFrom_foldCase (column : Nat) (cs : List Char) :
    findFrom column (foldCase cs) = findFrom column cs := by
  fun_induction findFrom column cs with
  | case1 => rfl
  | case2 => rfl
  | case3 => rfl
  | case4 => rfl
  | case5 column c cs hlast hplain hfirst ih =>
      -- No opening starts here, neither as it is nor folded.
      have hskip : findFrom column (c.toLower :: foldCase cs) =
          findFrom (column + c.toLower.utf8Size) (foldCase cs) := by
        apply findFrom_skip
        · refine foldCase_ne_append (p := ['@', '$', '"']) (t := c :: cs) (by decide) ?_
          rintro v heq
          cases heq
          exact hlast v rfl rfl
        · refine foldCase_ne_append (p := ['@', '"']) (t := c :: cs) (by decide) ?_
          rintro v heq
          cases heq
          exact hplain v rfl rfl
        · refine foldCase_ne_append (p := ['$', '@', '"']) (t := c :: cs) (by decide) ?_
          rintro v heq
          cases heq
          exact hfirst v rfl rfl
      rw [foldCase_cons, hskip, utf8Size_toLower, ih]

theorem Onset.find?_foldCase (line : List Char) : find? (foldCase line) = find? line :=
  findFrom_foldCase 0 line

namespace Literal

theorem closingFrom_foldCase (column : Nat) (cs : List Char) :
    closingFrom column (foldCase cs) = closingFrom column cs := by
  fun_induction closingFrom column cs with
  | case1 => rfl
  | case2 column cs ih => exact ih
  | case3 column cs hpair =>
      have halone : cs.head? ≠ some '"' := by
        intro hhead
        rcases List.head?_eq_some_iff.1 hhead with ⟨rest, rfl⟩
        exact hpair rest rfl rfl
      exact closingFrom_quote (head?_foldCase_ne (by decide) halone)
  | case4 column c cs _ hc ih =>
      have hc' : c.toLower ≠ '"' := toLower_ne (by decide) hc
      rw [foldCase_cons, closingFrom_char hc', utf8Size_toLower, ih]

theorem closingColumn?_foldCase (start : Nat) (line : List Char) :
    closingColumn? start (foldCase line) = closingColumn? start line := by
  have hgo : ∀ column cs, closingColumn?.go start column (foldCase cs) =
      closingColumn?.go start column cs := by
    intro column cs
    induction cs generalizing column with
    | nil => rfl
    | cons c cs ih =>
        have hclosing := closingFrom_foldCase column (c :: cs)
        rw [foldCase_cons] at hclosing ⊢
        simp only [closingColumn?.go, utf8Size_toLower, ih, hclosing]
  exact hgo 0 line

theorem scan_foldCase (opened : Option (LiteralKind × Position)) (index : Nat)
    (lines : List (List Char)) :
    scan opened index (lines.map foldCase) = scan opened index lines := by
  induction lines generalizing opened index with
  | nil => rfl
  | cons line rest ih =>
      cases opened with
      | none =>
          simp only [List.map_cons, scan, Onset.find?_foldCase, closingColumn?_foldCase, ih]
      | some o => simp only [List.map_cons, scan, closingColumn?_foldCase, ih]

end Literal

/-! ## Holes -/

namespace Interpolation

theorem isQuote_toLower (c : Char) : isQuote c.toLower = isQuote c :=
  rel_toLower (r := fun c l => isQuote l = isQuote c) (fun _ => rfl) (by decide) c

theorem isAlpha_of_isQuote {c : Char} (h : isQuote c = true) : c.isAlpha = false := by
  rcases isQuote_iff.1 h with rfl | rfl <;> decide

theorem State.read_toLower {state : State} (c : Char) (n : Nat)
    (hstate : ∀ q, state.quote? = some q → q.isAlpha = false) :
    state.read isQuote n c.toLower = state.read isQuote n c := by
  have hopen : c.toLower = '{' ↔ c = '{' := toLower_eq_iff (by decide)
  have hclose : c.toLower = '}' ↔ c = '}' := toLower_eq_iff (by decide)
  have hslash : c.toLower = '\\' ↔ c = '\\' := toLower_eq_iff (by decide)
  cases state with
  | run start => simp only [read, hopen]
  | hole inner =>
      by_cases hquote : isQuote c = true
      · rw [(toLower_eq_iff (isAlpha_of_isQuote hquote)).2 rfl]
      · simp [read, isQuote_toLower, hquote, hopen, hclose]
  | quoted inner quote =>
      have hsame : c.toLower = quote ↔ c = quote := toLower_eq_iff (hstate quote rfl)
      simp only [read, hslash, hsame]
  | escaped inner quote => rfl

theorem State.ended_toLower (state : State) (c : Char) (n : Nat) :
    state.ended n c.toLower = state.ended n c := by
  have hopen : c.toLower = '{' ↔ c = '{' := toLower_eq_iff (by decide)
  cases state <;> simp only [ended, hopen]

theorem State.pairs_of_foldCase {state : State} {c : Char} {cs : List Char}
    (h : state.Pairs c.toLower (foldCase cs)) : state.Pairs c cs := by
  rcases h with ⟨hrun, hbrace, hhead⟩
  have hsign : c.toLower.isAlpha = false := by
    rcases hbrace with heq | heq <;> rw [heq] <;> rfl
  have hfixed : c = c.toLower := (toLower_eq_iff hsign).1 rfl
  rw [← hfixed] at hsign hbrace hhead
  refine ⟨hrun, hbrace, Classical.byContradiction ?_⟩
  intro halone
  exact head?_foldCase_ne hsign halone hhead

/-- The quotes that open strings are no letters, so the string in which the scan stands ends at the
same place. -/
theorem scan_foldCase (state : State) (offset : Nat) (cs : List Char)
    (hstate : ∀ q, state.quote? = some q → q.isAlpha = false) :
    scan isQuote state offset (foldCase cs) = scan isQuote state offset cs := by
  fun_induction after isQuote state offset cs with
  | case1 => rfl
  | case2 start offset cs ih =>
      rw [scan, ← ih hstate]
      rfl
  | case3 start offset cs ih =>
      rw [scan, ← ih hstate]
      rfl
  | case4 state offset c cs hopen hclose ih =>
      have halone : ¬ state.Pairs c cs := State.not_pairs hopen hclose
      have halone' : ¬ state.Pairs c.toLower (foldCase cs) := mt State.pairs_of_foldCase halone
      have hnext : ∀ q, (state.read isQuote (offset + c.utf8Size) c).quote? = some q →
          q.isAlpha = false := by
        intro q hq
        rcases State.quote?_read hq with hold | ⟨hquote, rfl⟩
        · exact hstate q hold
        · exact isAlpha_of_isQuote hquote
      rw [foldCase_cons, scan_cons halone', scan_cons halone, State.ended_toLower,
        State.read_toLower _ _ hstate, utf8Size_toLower, ih hnext]

theorem runs_foldCase (text : List Char) : runs (foldCase text) = runs text :=
  scan_foldCase (.run 0) 0 text (by simp [State.quote?])

end Interpolation

/-! ## Documents -/

theorem stripReturn_foldCase (t : List Char) :
    stripReturn (foldCase t) = foldCase (stripReturn t) := by
  fun_induction stripReturn t with
  | case1 => rfl
  | case2 => rfl
  | case3 c hc =>
      have hc' : c.toLower ≠ '\r' := toLower_ne (by decide) hc
      simp [stripReturn, hc']
  | case4 c d cs ih => simpa [stripReturn] using ih

namespace Document

/-- A document with every ASCII letter in lower case. -/
def folded (d : Document) : Document :=
  ⟨foldCase d.text⟩

theorem lines_folded (d : Document) : d.folded.lines = d.lines.map foldCase := by
  rw [lines, lines, folded, split_foldCase (toLower_beq (by decide)), List.map_map, List.map_map]
  exact List.map_congr_left fun r _ => stripReturn_foldCase r

theorem breaksFrom_foldCase (offset : Nat) (t : List Char) :
    breaksFrom offset (foldCase t) = breaksFrom offset t := by
  have hbreak : ∀ c : Char, c.toLower = '\n' ↔ c = '\n' := fun c => toLower_eq_iff (by decide)
  induction t generalizing offset with
  | nil => rfl
  | cons c cs ih => simp only [foldCase_cons, breaksFrom, hbreak, utf8Size_toLower, ih]

theorem length_folded (d : Document) : d.folded.length = d.length :=
  byteLength_foldCase d.text

theorem positionAt_folded (d : Document) : d.folded.positionAt = d.positionAt := by
  funext offset
  rw [positionAt, positionAt, length_folded, folded, breaksFrom_foldCase]

theorem indexSum_folded (d : Document) : d.folded.indexSum = d.indexSum := by
  funext m n
  rw [indexSum, indexSum, indexLimit, indexLimit, length_folded]

theorem offsetAt_folded (d : Document) : d.folded.offsetAt = d.offsetAt := by
  have hstarts : d.folded.lineStarts = d.lineStarts :=
    congrArg (0 :: ·) (breaksFrom_foldCase 0 d.text)
  funext p
  simp only [offsetAt, lineEnd, hstarts, length_folded, indexSum_folded]

theorem textOf_folded (d : Document) (r : Range) : d.folded.textOf r = foldCase (d.textOf r) := by
  simp only [textOf, slice, length_folded]
  rw [folded, slice?_foldCase]
  cases slice? (min r.span.start (min r.span.stop d.length)) (min r.span.stop d.length) d.text with
  | none => rfl
  | some text => rfl

theorem regions_folded (d : Document) : d.folded.regions = d.regions := by
  rw [regions, regions, lines_folded, Region.scan_foldCase]

theorem literals_folded (d : Document) : d.folded.literals = d.literals := by
  funext r
  have hfirst : d.folded.firstLine r = d.firstLine r := by
    rw [firstLine, firstLine, indexSum_folded]
  have hcontent : d.folded.contentLines r = (d.contentLines r).map foldCase := by
    rw [contentLines, contentLines, contentCount, contentCount, hfirst, lines_folded,
      ← List.map_drop, ← List.map_take]
  have hplace : Literal.ofPlace d.folded = Literal.ofPlace d := by
    funext p
    simp only [Literal.ofPlace, rangeBetween, offsetAt_folded]
  rw [literals, literals, hfirst, hcontent, Literal.scan_foldCase, hplace]

theorem rangeFor_folded (d : Document) : d.folded.rangeFor = d.rangeFor := by
  funext start stop
  simp only [rangeFor, positionAt_folded]

theorem segments_folded (d : Document) (l : Literal) (index : Nat) :
    d.folded.segments l index = d.segments l index := by
  simp only [segments, Literal.raw, textOf_folded, Interpolation.runs_foldCase, rangeFor_folded]

theorem segmentsFrom_folded (d : Document) (index : Nat) (ls : List Literal) :
    d.folded.segmentsFrom index ls = d.segmentsFrom index ls := by
  induction ls generalizing index with
  | nil => rfl
  | cons l rest ih => rw [segmentsFrom, segmentsFrom, segments_folded, ih]

theorem tokens_folded (d : Document) (r : Range) : d.folded.tokens r = d.tokens r := by
  simp only [tokens, textOf_folded, classify_foldCase, rangeFor_folded]

/-! ## The whole pass -/

theorem highlights_folded (d : Document) : d.folded.highlights = d.highlights := by
  simp only [highlights, regions_folded, literals_folded, segmentsFrom_folded, tokens_folded]

/-- Two documents that differ in the case of ASCII letters only, wherever in the text, have the same
regions, literals, segments and tokens, and the same ranges of each class. -/
theorem highlights_case_blind {d e : Document} (h : foldCase d.text = foldCase e.text) :
    d.highlights = e.highlights ∧ ∀ c, d.highlights.ranges c = e.highlights.ranges c := by
  have hsame : d.highlights = e.highlights :=
    calc
      d.highlights
          = d.folded.highlights := (highlights_folded d).symm
      _ = e.folded.highlights := congrArg (fun t => (Document.mk t).highlights) h
      _ = e.highlights := highlights_folded e
  exact ⟨hsame, fun c => congrArg (fun found => found.ranges c) hsame⟩

/-- Markers, keywords, a parameter and the name in a hole, each written in two ways. -/
theorem highlights_case_blind_everywhere :
    let d := ofString "// SQL Begin\n$@\"Select @Id \x7bX\x7d OR true\"\n// sql END"
    let e := ofString "// sql bEGIN\n$@\"sELECT @iD \x7bx\x7d or TRUE\"\n// SQL end"
    foldCase d.text = foldCase e.text ∧ d ≠ e ∧
      d.highlights.tokens.map (·.category) =
        [.identifier, .identifier, .keyword, .parameter, .identifier, .identifier, .keyword,
          .boolean] ∧
      d.highlights = e.highlights ∧ ∀ c, d.highlights.ranges c = e.highlights.ranges c := by
  intro d e
  have hletters : foldCase d.text = foldCase e.text := by decide
  refine ⟨hletters, by decide, by decide +kernel, highlights_case_blind hletters⟩

end Document
end EmbeddedSql
