import EmbeddedSql.Highlights
import EmbeddedSql.Proofs.Document.Stacking
import EmbeddedSql.Proofs.Literal.Places

/-!
# RoundTrip — a string written as a literal comes back from a pass

A string is written into a region by doubling its quotes and putting it between an opening and a
quote.  Whatever the string is, a pass over that document finds one literal, which denotes the
string:

* `Literal.double`, `Literal.undouble_double` — writing and reading a content;
* `Opener`, `Onset.find?_opener` — the three openings, and where the search finds them;
* `Literal.scan_written` — the scan for literals over the lines of a written literal;
* `Marker.ofLine?_of_quote` — a line with a quote is no marker;
* `Document.written` — the document that holds a string as a literal;
* `Document.highlights_written` — what a pass finds in it.
-/

namespace EmbeddedSql

open Text

/-! ## Doubled quotes -/

namespace Literal

/-- Every quote twice. -/
def double (s : List Char) : List Char :=
  s.flatMap fun c => if c = '"' then ['"', '"'] else [c]

@[simp] theorem double_nil : double [] = [] := rfl

@[simp] theorem double_quote (cs : List Char) : double ('"' :: cs) = '"' :: '"' :: double cs := rfl

theorem double_char {c : Char} (hc : c ≠ '"') (cs : List Char) :
    double (c :: cs) = c :: double cs := by
  simp [double, hc]

theorem double_append (s t : List Char) : double (s ++ t) = double s ++ double t :=
  List.flatMap_append

theorem double_append_break (s t : List Char) :
    double (s ++ '\n' :: t) = double s ++ '\n' :: double t := by
  rw [double_append, double_char (by decide)]

theorem mem_double {c : Char} {s : List Char} : c ∈ double s ↔ c ∈ s := by
  constructor
  · intro h
    rcases List.mem_flatMap.1 h with ⟨c', hc', hmem⟩
    split at hmem <;> simp_all
  · intro h
    refine List.mem_flatMap.2 ⟨c, h, ?_⟩
    split <;> simp_all

theorem double_of_not_mem {s : List Char} (h : '"' ∉ s) : double s = s := by
  induction s with
  | nil => rfl
  | cons c cs ih =>
      have hc : c ≠ '"' := fun heq => h (heq ▸ List.mem_cons_self)
      rw [double_char hc, ih fun hmem => h (List.mem_cons_of_mem _ hmem)]

theorem undouble_char {c : Char} (hc : c ≠ '"') (cs : List Char) :
    undouble (c :: cs) = c :: undouble cs := by
  rw [undouble]
  intro rest heq
  exact absurd heq hc

theorem undouble_double (s : List Char) : undouble (double s) = s := by
  induction s with
  | nil => rfl
  | cons c cs ih =>
      by_cases hc : c = '"'
      · subst hc
        rw [double_quote, undouble, ih]
      · rw [double_char hc, undouble_char hc, ih]

/-- Doubled quotes never close a literal, whatever follows them. -/
theorem closingFrom_double (column : Nat) (s rest : List Char) :
    closingFrom column (double s ++ rest) = closingFrom (column + byteLength (double s)) rest := by
  induction s generalizing column with
  | nil => rfl
  | cons c cs ih =>
      by_cases hc : c = '"'
      · -- The scan skips the pair as a whole.
        subst hc
        have hone : '"'.utf8Size = 1 := rfl
        rw [double_quote, List.cons_append, List.cons_append, closingFrom, ih, byteLength_cons,
          byteLength_cons, hone]
        congr 1
        omega
      · rw [double_char hc, List.cons_append, closingFrom_char hc, ih, byteLength_cons,
          Nat.add_assoc]

end Literal

/-! ## Ends of lines -/

theorem stripReturn_append {t : List Char} (ht : t ≠ []) (s : List Char) :
    stripReturn (s ++ t) = s ++ stripReturn t := by
  induction s with
  | nil => rfl
  | cons c cs ih =>
      rcases List.exists_cons_of_ne_nil (List.append_ne_nil_of_right_ne_nil cs ht) with
        ⟨d, ds, hds⟩
      rw [List.cons_append, List.cons_append, ← ih, hds]
      rfl

theorem stripReturn_cons {c : Char} (hc : c ≠ '\r') (t : List Char) :
    stripReturn (c :: t) = c :: stripReturn t := by
  cases t with
  | nil => simp [stripReturn, hc]
  | cons d ds => rfl

theorem head?_stripReturn {c : Char} {t : List Char} (h : t.head? ≠ some c) :
    (stripReturn t).head? ≠ some c := by
  fun_cases stripReturn t with
  | case1 => exact h
  | case2 => simp
  | case3 => exact h
  | case4 => exact h

theorem stripReturn_double (s : List Char) :
    stripReturn (Literal.double s) = Literal.double (stripReturn s) := by
  fun_induction stripReturn s with
  | case1 => rfl
  | case2 => rfl
  | case3 c hc =>
      by_cases hquote : c = '"'
      · subst hquote
        rfl
      · rw [Literal.double_char hquote, Literal.double_nil, stripReturn, if_neg hc]
  | case4 c d cs ih =>
      -- What the first character becomes stays in front of what is stripped.
      have hsplit : ∀ t, Literal.double (c :: t) = Literal.double [c] ++ Literal.double t :=
        fun t => Literal.double_append [c] t
      have hne : Literal.double (d :: cs) ≠ [] := by
        have hd : d ∈ Literal.double (d :: cs) := Literal.mem_double.2 List.mem_cons_self
        exact List.ne_nil_of_mem hd
      rw [hsplit, stripReturn_append hne, ih, ← hsplit]

/-! ## Openings -/

/-- The three openings of a literal. -/
inductive Opener where
  /-- `@"` -/
  | plain
  /-- `$@"` -/
  | dollarFirst
  /-- `@$"` -/
  | dollarLast
deriving DecidableEq, Repr

namespace Opener

/-- What stands in front of the quote. -/
def mark : Opener → List Char
  | plain => ['@']
  | dollarFirst => ['$', '@']
  | dollarLast => ['@', '$']

def chars (o : Opener) : List Char :=
  o.mark ++ ['"']

def kind : Opener → LiteralKind
  | plain => .verbatim
  | dollarFirst => .interpolated
  | dollarLast => .interpolated

theorem kind_eq_verbatim_iff (o : Opener) : o.kind = .verbatim ↔ o = plain := by
  cases o <;> simp [kind]

/-- An opening stays on the line of what stands in front of it. -/
theorem not_mem_append_chars (o : Opener) {p : List Char} (hbreak : '\n' ∉ p) :
    '\n' ∉ p ++ o.chars := by
  have hchars : '\n' ∉ o.chars := by cases o <;> decide
  simp [hbreak, hchars]

end Opener

namespace Onset

theorem findFrom_skip {column : Nat} {c : Char} {cs : List Char}
    (hlast : ∀ rest, c :: cs ≠ '@' :: '$' :: '"' :: rest)
    (hplain : ∀ rest, c :: cs ≠ '@' :: '"' :: rest)
    (hfirst : ∀ rest, c :: cs ≠ '$' :: '@' :: '"' :: rest) :
    findFrom column (c :: cs) = findFrom (column + c.utf8Size) cs := by
  rw [findFrom]
  · rintro rest rfl rfl
    exact hlast rest rfl
  · rintro rest rfl rfl
    exact hplain rest rfl
  · rintro rest rfl rfl
    exact hfirst rest rfl

/-- Nothing in front of an opening is one, not even together with the beginning of the opening: a
`$` in front of `@"` is the only way to make another opening of it. -/
theorem findFrom_opener (o : Opener) {p : List Char} (hp : '"' ∉ p)
    (hdollar : o = .plain → p.getLast? ≠ some '$') (column : Nat) (rest : List Char) :
    findFrom column (p ++ (o.chars ++ rest)) =
      some ⟨column + byteLength p + byteLength o.mark, o.kind⟩ := by
  induction p generalizing column with
  | nil => cases o <;> rfl
  | cons c cs ih =>
      have hcs : '"' ∉ cs := fun hmem => hp (List.mem_cons_of_mem _ hmem)
      have hdollar' : o = .plain → cs.getLast? ≠ some '$' := by
        intro ho hlast
        refine hdollar ho ?_
        rw [List.getLast?_cons, hlast]
        rfl
      have hskip : findFrom column (c :: (cs ++ (o.chars ++ rest))) =
          findFrom (column + c.utf8Size) (cs ++ (o.chars ++ rest)) := by
        -- At most two characters of `cs` matter.
        rcases cs with _ | ⟨x, _ | ⟨y, ys⟩⟩
        · have hc : o = .plain → c ≠ '$' := by simpa using hdollar
          apply findFrom_skip <;> cases o <;> simp_all [Opener.chars, Opener.mark]
        · have hx : x ≠ '"' := by simpa [eq_comm] using hcs
          apply findFrom_skip <;> cases o <;> simp [Opener.chars, Opener.mark, hx]
        · have hxy : x ≠ '"' ∧ y ≠ '"' := by
            simp only [List.mem_cons, not_or] at hcs
            exact ⟨Ne.symm hcs.1, Ne.symm hcs.2.1⟩
          apply findFrom_skip <;> simp [hxy.1, hxy.2]
      rw [List.cons_append, hskip, ih hcs hdollar', byteLength_cons]
      congr 2
      omega

theorem find?_opener (o : Opener) {p : List Char} (hp : '"' ∉ p)
    (hdollar : o = .plain → p.getLast? ≠ some '$') (rest : List Char) :
    find? (p ++ o.chars ++ rest) = some ⟨byteLength (p ++ o.mark), o.kind⟩ := by
  have hfind := findFrom_opener o hp hdollar 0 rest
  rw [Nat.zero_add, ← byteLength_append] at hfind
  rw [find?, List.append_assoc]
  exact hfind

end Onset

/-! ## Lines of a written literal -/

theorem stripReturn_opener (o : Opener) (p z : List Char) :
    stripReturn (p ++ o.chars ++ z) = p ++ o.chars ++ stripReturn z := by
  have hquote : ∀ y, p ++ o.chars ++ y = p ++ o.mark ++ '"' :: y := by
    intro y
    simp [Opener.chars]
  rw [hquote, hquote, stripReturn_append (List.cons_ne_nil _ _), stripReturn_cons (by decide)]

namespace Literal

variable {t : List Char}

theorem stripReturn_written (s t : List Char) :
    stripReturn (double s ++ '"' :: t) = double s ++ '"' :: stripReturn t := by
  rw [stripReturn_append (List.cons_ne_nil _ _), stripReturn_cons (by decide)]

/-- The last line of a written content is closed behind the content. -/
theorem closingFrom_written (hquote : t.head? ≠ some '"') (column : Nat) (s : List Char) :
    closingFrom column (double s ++ '"' :: stripReturn t) =
      some (column + byteLength (double s)) := by
  rw [closingFrom_double, closingFrom_quote (head?_stripReturn hquote)]

/-- No other line of it is closed. -/
theorem closingFrom_stripReturn_double (column : Nat) (s : List Char) :
    closingFrom column (stripReturn (double s)) = none := by
  have hscan := closingFrom_double column (stripReturn s) []
  rw [List.append_nil] at hscan
  rw [stripReturn_double, hscan, closingFrom]

/-- A written content that is open at the start of its first line ends where its text ends. -/
theorem scan_opened (ht : '\n' ∉ t) (hquote : t.head? ≠ some '"') (kind : LiteralKind)
    (start : Position) (s : List Char) (index : Nat) :
    scan (some (kind, start)) index (⟨double s ++ '"' :: t⟩ : Document).lines =
      [⟨kind, start, (⟨double s⟩ : Document).endPosition.shift index⟩] := by
  induction s using lines_induction generalizing index with
  | line r hr =>
      -- The last line: the quote behind the content is the first that stands alone.
      have hcontent : '\n' ∉ double r := mt mem_double.1 hr
      have hline : '\n' ∉ double r ++ '"' :: t := by
        simp [hcontent, ht]
      rw [Document.lines_of_not_mem hline, stripReturn_written, scan, closingColumn?_zero,
        closingFrom_written hquote, Nat.zero_add, Document.endPosition_of_not_mem hcontent]
      rfl
  | above r s hr ih =>
      -- A line above it has pairs only and leaves the literal open.
      have hline : '\n' ∉ double r := mt mem_double.1 hr
      have hlines : (⟨double (r ++ '\n' :: s) ++ '"' :: t⟩ : Document).lines =
          stripReturn (double r) :: (⟨double s ++ '"' :: t⟩ : Document).lines := by
        rw [double_append_break, List.append_assoc, List.cons_append]
        exact Document.lines_append_break hline _
      rw [hlines, scan, closingColumn?_zero, closingFrom_stripReturn_double, double_append_break,
        Document.endPosition_append_break hline, Position.shift_shift]
      exact ih (index + 1)

/-- On a line with an opening, the search for the end begins behind the opening. -/
theorem scan_opener (o : Opener) {p : List Char} (hp : '"' ∉ p)
    (hdollar : o = .plain → p.getLast? ≠ some '$') (index : Nat) (z : List Char)
    (rest : List (List Char)) :
    scan none index ((p ++ o.chars ++ z) :: rest) =
      match closingFrom (byteLength (p ++ o.chars)) z with
      | some column =>
        ⟨o.kind, ⟨index, byteLength (p ++ o.chars)⟩, ⟨index, column⟩⟩ :: scan none (index + 1) rest
      | none => scan (some (o.kind, ⟨index, byteLength (p ++ o.chars)⟩)) (index + 1) rest := by
  have hcolumn : byteLength (p ++ o.mark) + 1 = byteLength (p ++ o.chars) := by
    rw [Opener.chars, ← List.append_assoc, byteLength_append (p ++ o.mark)]
    rfl
  rw [scan, Onset.find?_opener o hp hdollar]
  cases hclosing : closingFrom (byteLength (p ++ o.chars)) z with
  | none => simp only [hcolumn, closingColumn?_append, hclosing]
  | some column => simp only [hcolumn, closingColumn?_append, hclosing]

/-- A written literal is found behind its opening, and ends where its content ends. -/
theorem scan_written (o : Opener) {p : List Char} (hp : '"' ∉ p) (hbreak : '\n' ∉ p)
    (hdollar : o = .plain → p.getLast? ≠ some '$') (ht : '\n' ∉ t) (hquote : t.head? ≠ some '"')
    (s : List Char) (index : Nat) :
    scan none index (⟨p ++ o.chars ++ (double s ++ '"' :: t)⟩ : Document).lines =
      [⟨o.kind, (⟨p ++ o.chars⟩ : Document).endPosition.shift index,
        (⟨p ++ o.chars ++ double s⟩ : Document).endPosition.shift index⟩] := by
  have hfront := o.not_mem_append_chars hbreak
  have hstart : (⟨p ++ o.chars⟩ : Document).endPosition.shift index =
      ⟨index, byteLength (p ++ o.chars)⟩ := by
    rw [Document.endPosition_of_not_mem hfront]
    rfl
  rw [hstart]
  induction s using lines_induction with
  | line r hr =>
      -- The literal is closed on the line on which it is opened.
      have hcontent : '\n' ∉ p ++ o.chars ++ double r := by
        rw [List.mem_append, not_or]
        exact ⟨hfront, mt mem_double.1 hr⟩
      have hline : '\n' ∉ p ++ o.chars ++ (double r ++ '"' :: t) := by
        rw [← List.append_assoc, List.mem_append, not_or]
        exact ⟨hcontent, by simp [ht]⟩
      rw [Document.lines_of_not_mem hline, stripReturn_opener, stripReturn_written,
        scan_opener o hp hdollar, closingFrom_written hquote,
        Document.endPosition_of_not_mem hcontent, byteLength_append (p ++ o.chars)]
      rfl
  | above r s hr _ =>
      -- It stays open on that line, and the lines below are a written content.
      have hline : '\n' ∉ p ++ o.chars ++ double r := by
        rw [List.mem_append, not_or]
        exact ⟨hfront, mt mem_double.1 hr⟩
      have hcontent : p ++ o.chars ++ double (r ++ '\n' :: s) =
          p ++ o.chars ++ double r ++ '\n' :: double s := by
        rw [double_append_break, ← List.append_assoc]
      have hlines : (⟨p ++ o.chars ++ (double (r ++ '\n' :: s) ++ '"' :: t)⟩ : Document).lines =
          (p ++ o.chars ++ stripReturn (double r)) ::
            (⟨double s ++ '"' :: t⟩ : Document).lines := by
        rw [← List.append_assoc, hcontent, List.append_assoc, List.cons_append,
          Document.lines_append_break hline, stripReturn_opener]
      rw [hlines, scan_opener o hp hdollar, closingFrom_stripReturn_double]
      simp only []
      rw [scan_opened ht hquote, hcontent, Document.endPosition_append_break hline,
        Position.shift_shift]

end Literal

/-! ## Markers -/

theorem Text.mem_of_split {p : Char → Bool} {c : Char} {t : List Char} (hc : p c = false)
    (h : c ∈ t) : ∃ piece ∈ split p t, c ∈ piece := by
  induction t with
  | nil => cases h
  | cons d ds ih =>
      rcases List.exists_cons_of_ne_nil (split_ne_nil p ds) with ⟨first, rest, hs⟩
      rcases List.mem_cons.1 h with rfl | hmem
      · exact ⟨c :: first, by simp [split, hc, hs], List.mem_cons_self⟩
      · rcases ih hmem with ⟨piece, hpiece, hcpiece⟩
        by_cases hd : p d = true
        · exact ⟨piece, by simp [split, hd, hpiece], hcpiece⟩
        · rw [hs] at hpiece
          rcases List.mem_cons.1 hpiece with rfl | hrest
          · exact ⟨d :: piece, by simp [split, hd, hs], List.mem_cons_of_mem _ hcpiece⟩
          · exact ⟨piece, by simp [split, hd, hs, hrest], hcpiece⟩

namespace Marker

theorem not_mem_of_ofWords? {words : List (List Char)} {m : Marker} (h : ofWords? words = some m) :
    ∀ w ∈ words, '"' ∉ w := by
  simp only [ofWords?] at h
  split at h
  · rename_i hwords
    subst hwords
    decide
  · split at h
    · rename_i hwords
      subst hwords
      decide
    · split at h
      · rename_i hwords
        rcases hwords with rfl | rfl <;> decide
      · cases h

/-- Neither white space nor a word of a marker has a quote. -/
theorem ofLine?_of_quote {line : List Char} (h : '"' ∈ line) : ofLine? line = none := by
  apply Option.eq_none_iff_forall_ne_some.2
  intro m hm
  rcases Option.bind_eq_some_iff.1 hm with ⟨body, hbody, hwords⟩
  -- The quote is neither trimmed nor one of the slashes, so it gets into a word.
  have hblank : isBlank '"' = false := by decide
  have htrimmed : '"' ∈ trimStart line := by
    rw [← List.takeWhile_append_dropWhile (p := isBlank) (l := line)] at h
    rcases List.mem_append.1 h with hfront | hback
    · have hfront' : isBlank '"' = true := List.all_eq_true.1 List.all_takeWhile _ hfront
      rw [hblank] at hfront'
      cases hfront'
    · exact hback
  have hmem : '"' ∈ body := by
    simp only [comment?] at hbody
    split at hbody
    · rename_i rest hline
      cases hbody
      rw [hline] at htrimmed
      simpa using htrimmed
    · cases hbody
  rcases mem_of_split hblank hmem with ⟨word, hword, hquote⟩
  have hkept : word ∈ words body := by
    refine List.mem_filter.2 ⟨hword, ?_⟩
    cases word with
    | nil => cases hquote
    | cons c cs => rfl
  refine not_mem_of_ofWords? hwords (word.map foldLetter) (List.mem_map_of_mem hkept) ?_
  exact List.mem_map.2 ⟨'"', hquote, by decide⟩

end Marker

/-- If the lines of a content, but the last, are no end markers, none of the written lines is. -/
theorem Literal.not_closing_of_written {s t : List Char} (ht : '\n' ∉ t)
    (hs : ∀ line ∈ (⟨s⟩ : Document).lines.dropLast, Marker.ofLine? line ≠ some .closing) :
    ∀ line ∈ (⟨Literal.double s ++ '"' :: t⟩ : Document).lines,
      Marker.ofLine? line ≠ some .closing := by
  induction s using lines_induction with
  | line r hr =>
      have hline : '\n' ∉ Literal.double r ++ '"' :: t := by
        simp [mt Literal.mem_double.1 hr, ht]
      rw [Document.lines_of_not_mem hline, Literal.stripReturn_written]
      intro line hmem
      rw [List.mem_singleton.1 hmem, Marker.ofLine?_of_quote (by simp)]
      simp
  | above r s hr ih =>
      have hcontent : '\n' ∉ Literal.double r := mt Literal.mem_double.1 hr
      have hne : (⟨s⟩ : Document).lines ≠ [] := by
        simp [Document.lines, split_ne_nil]
      rw [Document.lines_append_break hr, List.dropLast_cons_of_ne_nil hne] at hs
      rw [Literal.double_append_break, List.append_assoc, List.cons_append,
        Document.lines_append_break hcontent, stripReturn_double]
      intro line hmem
      rcases List.mem_cons.1 hmem with rfl | hmem
      · -- With a quote the line is no marker; without one it is the line of the content.
        by_cases hquote : '"' ∈ stripReturn r
        · rw [Marker.ofLine?_of_quote (Literal.mem_double.2 hquote)]
          simp
        · rw [Literal.double_of_not_mem hquote]
          exact hs _ List.mem_cons_self
      · exact ih (fun line' hline' => hs line' (List.mem_cons_of_mem _ hline')) line hmem

/-! ## The document around a literal -/

/-- A region that is open ends at the first end marker. -/
theorem Region.scan_closing {lines : List (List Char)} {last : List Char}
    (hlines : ∀ line ∈ lines, Marker.ofLine? line ≠ some .closing)
    (hlast : Marker.ofLine? last = some .closing) (b index : Nat) :
    scan (some b) index (lines ++ [last]) = [⟨b, index + lines.length⟩] := by
  induction lines generalizing index with
  | nil => simp [scan, hlast]
  | cons line rest ih =>
      have hrest := fun line' hline' => hlines line' (List.mem_cons_of_mem _ hline')
      rw [List.cons_append, scan, if_neg (hlines line List.mem_cons_self), ih hrest,
        List.length_cons, Nat.add_assoc, Nat.add_comm 1]

namespace Document

/-- The line that opens a region. -/
def beginLine : List Char := "// sql begin".toList

/-- The line that closes a region. -/
def endLine : List Char := "// sql end".toList

/-- A region with one literal in it: some code, an opening, the content with its quotes doubled, a
quote and more code. -/
def written (o : Opener) (before content after : List Char) : Document :=
  ⟨beginLine ++ '\n' :: (before ++ o.chars ++ Literal.double content ++ '"' :: after ++
    '\n' :: endLine)⟩

variable {o : Opener} {p s t : List Char}

/-- The lines between the markers of a written document, as a document. -/
def writtenLines (o : Opener) (before content after : List Char) : Document :=
  ⟨before ++ o.chars ++ (Literal.double content ++ '"' :: after)⟩

theorem lines_written (o : Opener) (p s t : List Char) :
    (written o p s t).lines = beginLine :: ((writtenLines o p s t).lines ++ [endLine]) := by
  have hstack : written o p s t =
      stack ⟨beginLine⟩ (stack (writtenLines o p s t) ⟨endLine⟩) := by
    simp [written, writtenLines, stack]
  have hbegin : (⟨beginLine⟩ : Document).lines = [beginLine] := by decide +kernel
  have hend : (⟨endLine⟩ : Document).lines = [endLine] := by decide +kernel
  rw [hstack, lines_stack, lines_stack, hbegin, hend, List.singleton_append]

/-- The first line has the quote of the opening, so that only the content's inner lines matter. -/
theorem not_closing_of_writtenLines (hbreak : '\n' ∉ p) (ht : '\n' ∉ t)
    (hs : ∀ line ∈ (⟨s⟩ : Document).lines.tail.dropLast, Marker.ofLine? line ≠ some .closing) :
    ∀ line ∈ (writtenLines o p s t).lines, Marker.ofLine? line ≠ some .closing := by
  have hfront := o.not_mem_append_chars hbreak
  have hopener : ∀ z, Marker.ofLine? (stripReturn (p ++ o.chars ++ z)) ≠ some .closing := by
    intro z
    rw [stripReturn_opener, Marker.ofLine?_of_quote (by simp [Opener.chars])]
    simp
  induction s using lines_induction with
  | line r hr =>
      have hline : '\n' ∉ p ++ o.chars ++ (Literal.double r ++ '"' :: t) := by
        rw [List.mem_append, not_or]
        exact ⟨hfront, by simp [mt Literal.mem_double.1 hr, ht]⟩
      rw [writtenLines, lines_of_not_mem hline]
      intro line hmem
      rw [List.mem_singleton.1 hmem]
      exact hopener _
  | above r s hr _ =>
      have hline : '\n' ∉ p ++ o.chars ++ Literal.double r := by
        rw [List.mem_append, not_or]
        exact ⟨hfront, mt Literal.mem_double.1 hr⟩
      have htext : p ++ o.chars ++ (Literal.double (r ++ '\n' :: s) ++ '"' :: t) =
          p ++ o.chars ++ Literal.double r ++ '\n' :: (Literal.double s ++ '"' :: t) := by
        simp [Literal.double_append_break]
      rw [lines_append_break hr, List.tail_cons] at hs
      rw [writtenLines, htext, lines_append_break hline]
      intro line hmem
      rcases List.mem_cons.1 hmem with rfl | hmem
      · exact hopener _
      · exact Literal.not_closing_of_written ht hs line hmem

theorem regions_written (hbreak : '\n' ∉ p) (ht : '\n' ∉ t)
    (hs : ∀ line ∈ (⟨s⟩ : Document).lines.tail.dropLast, Marker.ofLine? line ≠ some .closing) :
    (written o p s t).regions = [⟨0, 1 + (writtenLines o p s t).lineCount⟩] := by
  have hopening : Marker.ofLine? beginLine = some .opening := by decide +kernel
  have hclosing : Marker.ofLine? endLine = some .closing := by decide +kernel
  rw [regions, lines_written, Region.scan, if_pos hopening]
  exact Region.scan_closing (not_closing_of_writtenLines hbreak ht hs) hclosing 0 1

theorem firstLine_written (o : Opener) (p s t : List Char) (endLine : Nat) :
    (written o p s t).firstLine ⟨0, endLine⟩ = 1 := by
  refine firstLine_eq ?_
  rw [lineCount, lines_written]
  exact Nat.zero_lt_succ _

theorem contentLines_written (o : Opener) (p s t : List Char) :
    (written o p s t).contentLines ⟨0, 1 + (writtenLines o p s t).lineCount⟩ =
      (writtenLines o p s t).lines := by
  rw [contentLines, contentCount, firstLine_written, lines_written, Nat.add_sub_cancel_left,
    List.drop_succ_cons, List.drop_zero]
  exact List.take_left

/-- The content stands between the places where the text in front of it and the content end. -/
theorem holds_written (o : Opener) (p s t : List Char) :
    (written o p s t).Holds
      ((written o p s t).rangeBetween ((⟨p ++ o.chars⟩ : Document).endPosition.shift 1)
        ((⟨p ++ o.chars ++ Literal.double s⟩ : Document).endPosition.shift 1))
      (Literal.double s) := by
  have hbegin : '\n' ∉ beginLine := by decide +kernel
  -- Below the begin marker a text ends one line further down than it does alone.
  have hposition : ∀ x y, (written o p s t).text = beginLine ++ '\n' :: x ++ y →
      (⟨x⟩ : Document).endPosition.shift 1 =
        (written o p s t).positionAt (byteLength (beginLine ++ '\n' :: x)) := by
    intro x y hxy
    have hdocument : written o p s t = ⟨beginLine ++ '\n' :: x ++ y⟩ := by
      rw [← hxy]
    rw [hdocument, positionAt_append, endPosition_append_break hbegin]
  have htext : (written o p s t).text = beginLine ++ '\n' :: (p ++ o.chars) ++
      (Literal.double s ++ ('"' :: t ++ '\n' :: endLine)) := by
    simp [written]
  have hstart := hposition (p ++ o.chars) _ htext
  have hstop := hposition (p ++ o.chars ++ Literal.double s) ('"' :: t ++ '\n' :: endLine)
    (by simp [htext])
  have hlen : byteLength (beginLine ++ '\n' :: (p ++ o.chars ++ Literal.double s)) =
      byteLength (beginLine ++ '\n' :: (p ++ o.chars)) + byteLength (Literal.double s) := by
    rw [← byteLength_append]
    simp
  have hfits : byteLength (beginLine ++ '\n' :: (p ++ o.chars)) + byteLength (Literal.double s) ≤
      (written o p s t).length := by
    rw [length, htext, byteLength_append _ (Literal.double s ++ _),
      byteLength_append (Literal.double s)]
    omega
  refine ⟨beginLine ++ '\n' :: (p ++ o.chars), _, htext, ?_⟩
  rw [hstart, hstop, hlen]
  exact rangeBetween_positionAt (by omega) hfits

/-- A string that is written as a literal comes back from a pass: the pass finds one region, from
the first line to the last, and one literal in it, whose source text is the string with its quotes
doubled and whose value is the string.  An end marker inside the string would close the region, but
its first and last lines share their lines with the quotes around it. -/
theorem highlights_written (o : Opener) (p s t : List Char) (hp : '"' ∉ p) (hbreak : '\n' ∉ p)
    (hdollar : o = .plain → p.getLast? ≠ some '$') (ht : '\n' ∉ t) (hquote : t.head? ≠ some '"')
    (hs : ∀ line ∈ (⟨s⟩ : Document).lines.tail.dropLast, Marker.ofLine? line ≠ some .closing) :
    (written o p s t).highlights.regions = [⟨0, (written o p s t).lineCount - 1⟩] ∧
    ∃ l, (written o p s t).highlights.literals = [l] ∧ (l.kind = .verbatim ↔ o = .plain) ∧
      l.raw (written o p s t) = Literal.double s ∧ l.value (written o p s t) = s := by
  have hregions := regions_written (o := o) hbreak ht hs
  have hcount : 1 + (writtenLines o p s t).lineCount = (written o p s t).lineCount - 1 := by
    rw [lineCount, lineCount, lines_written, List.length_cons, List.length_append]
    simp only [List.length_singleton]
    omega
  refine ⟨hcount ▸ hregions, ?_⟩
  have hliterals : (written o p s t).highlights.literals = [Literal.ofPlace (written o p s t)
      ⟨o.kind, (⟨p ++ o.chars⟩ : Document).endPosition.shift 1,
        (⟨p ++ o.chars ++ Literal.double s⟩ : Document).endPosition.shift 1⟩] := by
    show (written o p s t).regions.flatMap _ = _
    rw [hregions, List.flatMap_singleton, literals, firstLine_written, contentLines_written,
      writtenLines,
      Literal.scan_written o hp hbreak hdollar ht hquote, List.map_singleton]
  have hraw := (holds_written o p s t).textOf_eq
  refine ⟨_, hliterals, o.kind_eq_verbatim_iff, hraw, ?_⟩
  exact (congrArg Literal.undouble hraw).trans (Literal.undouble_double s)

/-- Contents may hold runs of quotes, ends of lines of both kinds, openings and begin markers. -/
theorem highlights_written_quotes :
    let s := "\"\"\r\n// sql begin\n$@\"é\"\n// sql end".toList
    let d := written .dollarFirst "f(".toList s ");".toList
    d.highlights.regions = [⟨0, 5⟩] ∧ d.highlights.literals.map (·.value d) = [s] := by
  intro s d
  have hpass := highlights_written .dollarFirst "f(".toList s ");".toList (by decide) (by decide)
    (by decide) (by decide) (by decide) (by decide +kernel)
  rcases hpass with ⟨hregions, l, hliterals, -, -, hvalue⟩
  have hcount : d.lineCount - 1 = 5 := by decide +kernel
  refine ⟨hcount ▸ hregions, ?_⟩
  rw [hliterals, List.map_singleton, hvalue]

end Document
end EmbeddedSql
