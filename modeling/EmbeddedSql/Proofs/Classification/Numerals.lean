import EmbeddedSql.Proofs.Classification.Chains
import EmbeddedSql.Proofs.Classification.Patterns

/-!
# Numerals — numbers are words of digits, with at most one fraction

The words of a text are read from left to right.  A word of digits is a number, and if one dot joins
it to another word of digits, that one is its fraction and is not read again.  A search for digits
and a fraction between two edges finds the same numbers: it reads the fraction first, and gives it
up if the word behind the dot does not end with it.

* `Classification.readNumbers`, `Classification.numbers_eq` — the pass as reading words;
* `Pattern.decimal`, `Pattern.searchFrom_decimal` — the search finds what the pass finds;
* `number_tokens_exact` — numbers among the tokens of a text.
-/

namespace EmbeddedSql

open Text Lexeme

/-! ## Reading words -/

namespace Classification

open Text.Run

/-- The word of digits that a dot joins to a word, if it is the next one. -/
def fraction? (text : List Char) (r : Run) (runs : List Run) : Option Run :=
  runs.head?.filter fun v => isNumeral v.chars && decide (Dotted text r v)

/-- The numbers among the words of a text, each with its fraction.  The first word may have been
used, as the fraction of the number in front of it. -/
def readNumbers (text : List Char) : (used : Bool) → List Run → List (List Run)
  | _, [] => []
  | true, _ :: runs => readNumbers text false runs
  | false, r :: runs =>
    if isNumeral r.chars then
      match fraction? text r runs with
      | some v => [r, v] :: readNumbers text true runs
      | none => [r] :: readNumbers text false runs
    else readNumbers text false runs

section

variable {text : List Char} {r v : Run} {runs : List Run}

theorem fraction?_eq_some : fraction? text r runs = some v ↔
    runs.head? = some v ∧ isNumeral v.chars = true ∧ Dotted text r v := by
  simp [fraction?, Option.filter_eq_some_iff]

theorem readNumbers_skip (h : isNumeral r.chars = false) :
    readNumbers text false (r :: runs) = readNumbers text false runs := by
  simp [readNumbers, h]

theorem readNumbers_joined (hr : isNumeral r.chars = true) (hv : isNumeral v.chars = true)
    (hdot : Dotted text r v) :
    readNumbers text false (r :: v :: runs) = [r, v] :: readNumbers text false runs := by
  have hfraction : fraction? text r (v :: runs) = some v := fraction?_eq_some.2 ⟨rfl, hv, hdot⟩
  rw [readNumbers, if_pos hr, hfraction]
  simp only [readNumbers]

theorem readNumbers_alone (hr : isNumeral r.chars = true)
    (h : ∀ v ∈ runs.head?, isNumeral v.chars = true → ¬ Dotted text r v) :
    readNumbers text false (r :: runs) = [r] :: readNumbers text false runs := by
  have hfraction : fraction? text r runs = none := by
    rw [Option.eq_none_iff_forall_ne_some]
    intro v hv
    rcases fraction?_eq_some.1 hv with ⟨hhead, hnumeral, hdot⟩
    exact h v hhead hnumeral hdot
  rw [readNumbers, if_pos hr, hfraction]

/-- Words of digits from a list, each joined to the next. -/
structure DigitChain (text : List Char) (runs c : List Run) : Prop where
  ne_nil : c ≠ []
  words : ∀ r ∈ c, r ∈ runs ∧ isNumeral r.chars = true
  joined : c.IsChain (Dotted text)

theorem DigitChain.cons {c : List Run} (h : DigitChain text runs c) (r : Run) :
    DigitChain text (r :: runs) c :=
  ⟨h.ne_nil, fun v hv => ⟨List.mem_cons_of_mem r (h.words v hv).1, (h.words v hv).2⟩, h.joined⟩

theorem mem_readNumbers {used : Bool} {c : List Run} (h : c ∈ readNumbers text used runs) :
    DigitChain text runs c := by
  fun_induction readNumbers text used runs with
  | case1 => cases h
  | case2 r runs ih => exact (ih h).cons r
  | case3 r runs hr v hfraction ih =>
      rcases fraction?_eq_some.1 hfraction with ⟨hhead, hv, hdot⟩
      rcases List.mem_cons.1 h with rfl | h
      · refine ⟨by simp, ?_, by simpa using hdot⟩
        simp [hr, hv, List.mem_of_head? hhead]
      · exact (ih h).cons r
  | case4 r runs hr hfraction ih =>
      rcases List.mem_cons.1 h with rfl | h
      · exact ⟨by simp, by simpa using hr, List.isChain_singleton r⟩
      · exact (ih h).cons r
  | case5 r runs hr ih => exact (ih h).cons r

end

/-! ## The pass -/

variable {front w v : List Char} {offset : Nat} {ls : List Lexeme}

/-- A dot and a word of digits. -/
def Joined (ls : List Lexeme) : Prop :=
  ∃ v rest, ls = mark '.' :: word v :: rest ∧ isNumeral v = true

/-- The lexemes of a text can be gone over as the pass does it, a number at a time. -/
theorem numbers_induction {motive : List Lexeme → Prop} (nil : motive [])
    (mark : ∀ c ls, isWordChar c = false → Proper ls → motive ls → motive (mark c :: ls))
    (skip : ∀ w ls, Proper (word w :: ls) → isNumeral w = false → motive ls →
      motive (word w :: ls))
    (joined : ∀ w v ls, Proper (word w :: Lexeme.mark '.' :: word v :: ls) → isNumeral w = true →
      isNumeral v = true → motive ls → motive (word w :: Lexeme.mark '.' :: word v :: ls))
    (alone : ∀ w ls, Proper (word w :: ls) → isNumeral w = true → ¬ Joined ls → motive ls →
      motive (word w :: ls)) : ∀ ls, Proper ls → motive ls
  | [], _ => nil
  | Lexeme.mark c :: ls, .mark hc hls =>
      mark c ls hc hls (numbers_induction nil mark skip joined alone ls hls)
  | word w :: ls, h@(.word _ _ _ hls) => by
      have hlater := numbers_induction nil mark skip joined alone ls hls
      by_cases hw : isNumeral w = true
      · by_cases hjoined : Joined ls
        · rcases hjoined with ⟨v, rest, rfl, hv⟩
          rcases hls with _ | ⟨-, _ | _ | ⟨-, -, -, hrest⟩⟩
          exact joined w v rest h hw hv (numbers_induction nil mark skip joined alone rest hrest)
        · exact alone w ls h hw hjoined hlater
      · exact skip w ls h (by simpa using hw) hlater

theorem numbers_mark (offset : Nat) (c : Char) (ls : List Lexeme) :
    numbers offset (mark c :: ls) = numbers (offset + c.utf8Size) ls := by
  rw [numbers]

theorem numbers_skip (hw : isNumeral w = false) :
    numbers offset (word w :: ls) = numbers (offset + Text.byteLength w) ls := by
  by_cases hnext : ∃ v rest, ls = mark '.' :: word v :: rest
  · rcases hnext with ⟨v, rest, rfl⟩
    rw [numbers, if_neg (by simp [hw])]
    rfl
  · rw [numbers, if_neg (by simp [hw])]
    exact fun v rest hrest => hnext ⟨v, rest, hrest⟩

theorem numbers_alone (hw : isNumeral w = true) (h : ¬ Joined ls) :
    numbers offset (word w :: ls) =
      ⟨offset, offset + Text.byteLength w⟩ :: numbers (offset + Text.byteLength w) ls := by
  by_cases hnext : ∃ v rest, ls = mark '.' :: word v :: rest
  · rcases hnext with ⟨v, rest, rfl⟩
    rw [numbers, if_pos hw, if_neg fun hv => h ⟨v, rest, rfl, hv⟩]
    rfl
  · rw [numbers, if_pos hw]
    exact fun v rest hrest => hnext ⟨v, rest, hrest⟩

theorem numbers_joined (hw : isNumeral w = true) (hv : isNumeral v = true) :
    numbers offset (word w :: mark '.' :: word v :: ls) =
      ⟨offset, offset + Text.byteLength w + 1 + Text.byteLength v⟩ ::
        numbers (offset + Text.byteLength w + 1 + Text.byteLength v) ls := by
  rw [numbers, if_pos hw, if_pos hv]

/-- A word is joined to another one only if that one comes next, behind a dot. -/
theorem eq_word_of_dotted {r : Run} (hls : Proper ls)
    (hr : r ∈ wordRuns (Text.byteLength front + Text.byteLength w) ls)
    (hdot : Dotted (front ++ (w ++ spell ls)) ⟨Text.byteLength front, w⟩ r) :
    ∃ rest, ls = mark '.' :: word r.chars :: rest := by
  rcases dotted_iff.1 hdot with ⟨hhead, hstart⟩
  rcases hls.eq_mark rfl hhead with ⟨rest, rfl⟩
  cases hls with
  | mark _ hrest =>
      rcases hrest.eq_word_of_start hr hstart with ⟨later, rfl⟩
      exact ⟨later, rfl⟩

/-- The tokens of the pass are the numbers that are read. -/
theorem numbers_eq (hls : Proper ls) (front : List Char) :
    numbers (Text.byteLength front) ls =
      (readNumbers (front ++ spell ls) false (wordRuns (Text.byteLength front) ls)).map
        chainSpan := by
  revert front
  refine numbers_induction (motive := fun ls => ∀ front, numbers (Text.byteLength front) ls =
    (readNumbers (front ++ spell ls) false (wordRuns (Text.byteLength front) ls)).map chainSpan)
    ?nil ?mark ?skip ?joined ?alone ls hls
  case nil =>
    intro front
    rfl
  case mark =>
    intro c ls _ _ ih front
    have hlater := ih (front ++ [c])
    rw [List.append_assoc, byteLength_append_mark] at hlater
    rw [numbers_mark, wordRuns]
    exact hlater
  case skip =>
    intro w ls _ hw ih front
    have hlater := ih (front ++ w)
    rw [List.append_assoc, byteLength_append] at hlater
    rw [numbers_skip hw, wordRuns, readNumbers_skip hw]
    exact hlater
  case joined =>
    intro w v ls _ hw hv ih front
    have hlater := ih (front ++ w ++ ['.'] ++ v)
    rw [byteLength_append, byteLength_append_dot] at hlater
    have hdot : Dotted (front ++ (w ++ spell (mark '.' :: word v :: ls)))
        ⟨Text.byteLength front, w⟩ ⟨Text.byteLength front + Text.byteLength w + 1, v⟩ :=
      dotted_iff.2 ⟨rfl, rfl⟩
    have htext : front ++ w ++ ['.'] ++ v ++ spell ls =
        front ++ (w ++ spell (mark '.' :: word v :: ls)) := by simp [Lexeme.chars]
    rw [htext] at hlater
    rw [numbers_joined hw hv, hlater]
    exact (congrArg (List.map chainSpan) (readNumbers_joined hw hv hdot)).symm
  case alone =>
    intro w ls hproper hw hnot ih front
    have hlater := ih (front ++ w)
    rw [List.append_assoc, byteLength_append] at hlater
    rw [numbers_alone hw hnot, wordRuns, readNumbers_alone hw, hlater]
    · rfl
    · -- The next word is a fraction only if the lexemes say so.
      intro r hr hnumeral hdot
      rcases hproper with _ | _ | ⟨-, -, -, hls⟩
      rcases eq_word_of_dotted hls (List.mem_of_mem_head? hr) hdot with ⟨rest, rfl⟩
      exact hnot ⟨r.chars, rest, rfl, hnumeral⟩

end Classification

/-! ## The search -/

namespace Pattern

/-- One or more digits. -/
def digits : Pattern :=
  led Char.isDigit Char.isDigit

/-- A dot and digits. -/
def fraction : Pattern :=
  seq dot digits

/-- Digits between two edges, with a fraction if there is one. -/
def decimal : Pattern :=
  seq edge (seq digits (seq (either fraction nothing) edge))

variable {k k' : Cursor} {front w v rest : List Char}

theorem isWordChar_of_isDigit (c : Char) (h : c.isDigit = true) : isWordChar c = true := by
  simp [isWordChar, Char.isAlphanum, h]

theorem head?_digits (hrun : IsRun isWordChar front w rest) (hw : isNumeral w = true) :
    (digits.ways ⟨front, w ++ rest⟩).head? = some ⟨front ++ w, rest⟩ := by
  rcases List.exists_cons_of_ne_nil hrun.ne_nil with ⟨c, cs, rfl⟩
  have hall : ∀ d ∈ c :: cs, d.isDigit = true := List.all_eq_true.1 hw
  refine head?_led (hall c List.mem_cons_self) (fun d hd => hall d (List.mem_cons_of_mem _ hd)) ?_
  intro d hd
  rw [← Bool.not_eq_true]
  exact fun hdigit => by simpa [isWordChar_of_isDigit d hdigit] using hrun.right d hd

theorem mem_digits (h : k' ∈ digits.ways k) :
    ∃ t, t ≠ [] ∧ (∀ c ∈ t, c.isDigit = true) ∧ k.Reads t k' := by
  rcases mem_led h with ⟨c, t, hc, ht, hreads⟩
  refine ⟨c :: t, by simp, ?_, hreads⟩
  intro d hd
  rcases List.mem_cons.1 hd with rfl | hd
  · exact hc
  · exact ht d hd

/-- Digits that are read from the beginning of a word up to an edge are the whole word. -/
theorem numeral_of_mem_digits (hrun : IsRun isWordChar front w rest)
    (h : k ∈ digits.ways ⟨front, w ++ rest⟩) (hedge : k.atEdge = true) : isNumeral w = true := by
  rcases mem_digits h with ⟨t, hne, hall, hreads⟩
  have htw : t = w :=
    hreads.eq_word hrun hne (fun c hc => isWordChar_of_isDigit c (hall c hc)) hedge
  rw [← htw]
  exact List.all_eq_true.2 hall

/-- A fraction that ends at an edge is a dot and a word of digits. -/
theorem mem_fraction (h : k' ∈ fraction.ways ⟨front, rest⟩) (hedge : k'.atEdge = true) :
    ∃ v later, rest = '.' :: (v ++ later) ∧ IsRun isWordChar (front ++ ['.']) v later ∧
      isNumeral v = true := by
  rcases mem_dot_led isWordChar_of_isDigit h with ⟨c, cs, later, hrest, -, hrun, hk'⟩
  exact ⟨c :: cs, later, hrest, hrun, numeral_of_mem_digits hrun hk' hedge⟩

/-- In front of a fraction digits end at an edge. -/
theorem atEdge_of_fraction (h : k ∈ digits.ways ⟨front, rest⟩) (hk' : k' ∈ fraction.ways k) :
    k.atEdge = true := by
  rcases mem_digits h with ⟨t, hne, hall, hreads⟩
  rcases k with ⟨front', rest'⟩
  rcases mem_dot_led isWordChar_of_isDigit hk' with ⟨c, cs, later, rfl, -, -, -⟩
  rw [show front' = front ++ t from hreads.1, Cursor.atEdge,
    Cursor.wordBefore_append hne fun c hc => isWordChar_of_isDigit c (hall c hc)]
  rfl

theorem decimal_ways_eq_nil (hrun : IsRun isWordChar front w rest) (hw : isNumeral w = false) :
    decimal.ways ⟨front, w ++ rest⟩ = [] := by
  rw [List.eq_nil_iff_forall_not_mem]
  intro k' hk'
  rcases mem_seq.1 hk' with ⟨k₁, hedge, hk'⟩
  rcases mem_seq.1 hk' with ⟨k₂, hdigits, hk'⟩
  rcases mem_seq.1 hk' with ⟨k₃, hfraction, hstop⟩
  cases (mem_edge.1 hedge).2
  -- Whether a fraction follows or not, the digits have come to an edge.
  have hedge₂ : k₂.atEdge = true := by
    rcases List.mem_append.1 hfraction with hfraction | hnothing
    · exact atEdge_of_fraction hdigits hfraction
    · cases List.mem_singleton.1 hnothing
      exact (mem_edge.1 hstop).1
  rw [numeral_of_mem_digits hrun hdigits hedge₂] at hw
  cases hw

theorem head?_decimal_joined (hrun : IsRun isWordChar front w ('.' :: (v ++ rest)))
    (hrun' : IsRun isWordChar (front ++ w ++ ['.']) v rest) (hw : isNumeral w = true)
    (hv : isNumeral v = true) : (decimal.ways ⟨front, w ++ '.' :: (v ++ rest)⟩).head? =
      some ⟨front ++ w ++ ['.'] ++ v, rest⟩ := by
  have hfraction : (fraction.ways ⟨front ++ w, '.' :: (v ++ rest)⟩).head? =
      some ⟨front ++ w ++ ['.'] ++ v, rest⟩ := head?_seq rfl (head?_digits hrun' hv)
  have heither : ((either fraction nothing).ways ⟨front ++ w, '.' :: (v ++ rest)⟩).head? =
      some ⟨front ++ w ++ ['.'] ++ v, rest⟩ := by
    rw [ways, List.head?_append, hfraction]
    rfl
  exact head?_seq (head?_edge (Cursor.atEdge_start hrun)) (head?_seq (head?_digits hrun hw)
    (head?_seq heither (head?_edge (Cursor.atEdge_stop hrun'))))

/-- If no fraction ends at an edge, the fraction is given up. -/
theorem head?_decimal_alone (hrun : IsRun isWordChar front w rest) (hw : isNumeral w = true)
    (hnot : ∀ k ∈ fraction.ways ⟨front ++ w, rest⟩, k.atEdge = false) :
    (decimal.ways ⟨front, w ++ rest⟩).head? = some ⟨front ++ w, rest⟩ := by
  have hstop := Cursor.atEdge_stop hrun
  have hnone : (fraction.ways ⟨front ++ w, rest⟩).flatMap edge.ways = [] := by
    rw [List.flatMap_eq_nil_iff]
    intro k hk
    simp [ways, hnot k hk]
  have htail : ((seq (either fraction nothing) edge).ways ⟨front ++ w, rest⟩).head? =
      some ⟨front ++ w, rest⟩ := by
    rw [ways, ways, List.flatMap_append, hnone]
    simp [ways, hstop]
  exact head?_seq (head?_edge (Cursor.atEdge_start hrun)) (head?_seq (head?_digits hrun hw) htail)

theorem decimal_anchored : Anchored decimal :=
  ((opens_led isWordChar_of_isDigit).seq _).anchored

/-- Behind a word of digits that stands alone, no fraction ends at an edge. -/
theorem atEdge_fraction_eq_false {ls : List Lexeme} (hls : Proper ls)
    (hnot : ¬ Classification.Joined ls) (h : k ∈ fraction.ways ⟨front, spell ls⟩) :
    k.atEdge = false := by
  rw [← Bool.not_eq_true]
  intro hedge
  rcases mem_fraction h hedge with ⟨v, later, hspell, hrun, hv⟩
  rcases hls.eq_mark (c := '.') rfl (by rw [hspell]; rfl) with ⟨rest, rfl⟩
  cases hls with
  | mark _ hrest =>
      rcases hrest.eq_word hrun (List.cons.inj hspell).2 with ⟨more, rfl⟩
      exact hnot ⟨v, more, rfl, hv⟩

open Classification in
theorem searchFrom_decimal {ls : List Lexeme} (hls : Proper ls)
    (hparted : Parted front (spell ls)) :
    decimal.searchFrom ⟨front, spell ls⟩ = numbers (byteLength front) ls := by
  have hanchored := decimal_anchored
  revert front
  refine numbers_induction (motive := fun ls => ∀ {front}, Parted front (spell ls) →
    decimal.searchFrom ⟨front, spell ls⟩ = numbers (byteLength front) ls)
    ?nil ?mark ?skip ?joined ?alone ls hls
  case nil =>
    intro front _
    exact hanchored.searchFrom_nil front
  case mark =>
    intro c ls hc _ ih front _
    rw [numbers_mark, ← byteLength_append_mark, ← ih (parted_of_mark hc)]
    exact hanchored.searchFrom_mark hc
  case skip =>
    intro w ls hproper hw ih front hparted
    have hrun := hproper.isRun hparted
    rw [numbers_skip hw, ← byteLength_append, ← ih (parted_of_head hrun.right)]
    exact hanchored.searchFrom_word hrun.all (decimal_ways_eq_nil hrun hw)
  case joined =>
    intro w v ls hproper hw hv ih front hparted
    have hrun := hproper.isRun hparted
    rcases hproper with _ | _ | ⟨-, -, -, _ | ⟨hdot, hrest⟩⟩
    have hrun' : IsRun isWordChar (front ++ w ++ ['.']) v (spell ls) :=
      hrest.isRun (parted_of_mark hdot)
    have hstop : byteLength (front ++ w ++ ['.'] ++ v) =
        byteLength front + byteLength w + 1 + byteLength v := by
      rw [byteLength_append, Run.byteLength_append_dot]
    have hhead := @head?_decimal_joined front w v (spell ls) hrun hrun' hw hv
    rw [numbers_joined hw hv, ← hstop, ← ih (parted_of_head hrun'.right)]
    refine searchFrom_hit hhead ?_
    simp only [List.length_append, List.length_cons]
    omega
  case alone =>
    intro w ls hproper hw hnot ih front hparted
    have hrun := hproper.isRun hparted
    rcases hproper with _ | _ | ⟨hne, -, -, hls⟩
    have hpos : 0 < w.length := List.length_pos_iff.2 hne
    rw [numbers_alone hw hnot, ← byteLength_append, ← ih (parted_of_head hrun.right)]
    refine searchFrom_hit (head?_decimal_alone hrun hw fun k hk => ?_) (by simpa using hpos)
    exact atEdge_fraction_eq_false hls hnot hk

end Pattern

/-! ## Tokens -/

/-- A letter or an underscore stands right in front of a run of a text or right behind it. -/
def Text.Run.TouchesLetter (text : List Char) (r : Run) : Prop :=
  ∃ before after, text = before ++ (r.chars ++ after) ∧ byteLength before = r.start ∧
    ((∃ c ∈ before.getLast?, c.isAlpha = true ∨ c = '_') ∨
      ∃ c ∈ after.head?, c.isAlpha = true ∨ c = '_')

theorem Text.Run.MaximalIn.not_touchesLetter {text : List Char} {r : Run}
    (h : r.MaximalIn isWordChar text) : ¬ r.TouchesLetter text := by
  have hword : ∀ c : Char, c.isAlpha = true ∨ c = '_' → isWordChar c = true := by
    rintro c (hc | rfl)
    · simp [isWordChar, Char.isAlphanum, hc]
    · rfl
  rcases h with ⟨before, after, rfl, hstart, hrun⟩
  rintro ⟨before', after', htext, hstart', htouch⟩
  rcases append_inj_of_byteLength htext (hstart.trans hstart'.symm) with ⟨rfl, htail⟩
  have hafter : after = after' := List.append_cancel_left htail
  subst hafter
  rcases htouch with ⟨c, hc, hletter⟩ | ⟨c, hc, hletter⟩
  · simpa [hword c hletter] using hrun.left c hc
  · simpa [hword c hletter] using hrun.right c hc

/-- Numbers are read off the words of a text from left to right, and no run of digits that touches
a letter or an underscore is part of one.  A search for decimals finds the same tokens. -/
theorem number_tokens_exact (text : List Char) :
    (∃ runs : List Run, runs.Pairwise Run.Apart ∧
      (∀ r, r ∈ runs ↔ r.MaximalIn isWordChar text) ∧
        tokenSpans text .number = (Classification.readNumbers text false runs).map chainSpan) ∧
    (∀ r : Run, r.MaximalIn Char.isDigit text → r.TouchesLetter text →
      ∀ s ∈ tokenSpans text .number, r.span.stop ≤ s.start ∨ s.stop ≤ r.start) ∧
    Pattern.decimal.search text = tokenSpans text .number := by
  have hpass : tokenSpans text .number = Classification.numbers 0 (cut text) :=
    classify_filter text .number
  have hread : Classification.numbers 0 (cut text) =
      (Classification.readNumbers text false (wordRuns 0 (cut text))).map chainSpan := by
    have hnumbers := Classification.numbers_eq (cut_proper text) []
    rwa [List.nil_append, spell_cut] at hnumbers
  refine ⟨⟨wordRuns 0 (cut text), (cut_proper text).wordRuns_apart 0, fun r => mem_wordRuns_cut,
    hpass.trans hread⟩, ?_, ?_⟩
  · intro r hr htouch s hs
    rw [hpass, hread, List.mem_map] at hs
    rcases hs with ⟨c, hc, rfl⟩
    have hchain := Classification.mem_readNumbers hc
    have hmax : ∀ v ∈ c, v.MaximalIn isWordChar text :=
      fun v hv => mem_wordRuns_cut.1 (hchain.words v hv).1
    refine outside_of_not_mem ?_ hchain.ne_nil hchain.joined hr ?_
    · -- A word of digits is also a maximal run of digits.
      intro v hv
      exact (hmax v hv).of_imp Pattern.isWordChar_of_isDigit
        (List.all_eq_true.1 (hchain.words v hv).2)
    · exact fun hmem => (hmax r hmem).not_touchesLetter htouch
  · exact (Pattern.search_eq_pass Pattern.searchFrom_decimal text).trans hpass.symm

example : tokenSpans "1.2.3.4 5.6a _7".toList .number = [⟨0, 3⟩, ⟨4, 7⟩, ⟨8, 9⟩] := by
  decide +kernel

end EmbeddedSql
