import EmbeddedSql.Proofs.Classification.Patterns
import EmbeddedSql.Proofs.Text.Folding

/-!
# Vocabulary — the words of a fixed list

A pass for a list of words finds a word only as a whole: the tokens are the maximal runs of word
characters that the list has, whatever the case of their letters.  The same tokens are found by a
search for any of the words between two edges.  There the words are tried one after the other, some
of them begin like others, and a shorter one that matches first is given up at the edge behind it.
So the order of the list does not matter.

* `Classification.vocabularyWords_eq` — the pass as a choice among the words of the text;
* `Pattern.wholeWord`, `Pattern.mem_wholeWord` — any word of a list between two edges;
* `Pattern.searchFrom_wholeWord` — the search finds what the pass finds;
* `vocabulary_tokens_exact` — keywords, functions and booleans among the tokens of a text.
-/

namespace EmbeddedSql

open Text Lexeme

/-! ## The pass -/

namespace Classification

theorem vocabularyWords_eq (vocabulary : List String) (offset : Nat) (ls : List Lexeme) :
    vocabularyWords vocabulary offset ls =
      ((wordRuns offset ls).filter fun r => Vocabulary.holds vocabulary r.chars).map Run.span := by
  fun_induction vocabularyWords vocabulary offset ls with
  | case1 => rfl
  | case2 offset w rest stop hholds ih =>
      rw [ih, wordRuns, List.filter_cons, if_pos hholds]
      rfl
  | case3 offset w rest stop hholds ih =>
      rw [ih, wordRuns, List.filter_cons, if_neg hholds]
  | case4 offset c rest ih =>
      rw [ih, wordRuns]

theorem holds_perm {vocabulary vocabulary' : List String} (h : vocabulary'.Perm vocabulary)
    (w : List Char) : Vocabulary.holds vocabulary' w = Vocabulary.holds vocabulary w := by
  rw [Bool.eq_iff_iff]
  simp [Vocabulary.holds, h.mem_iff]

end Classification

/-! ## The search -/

namespace Pattern

/-- A word, whatever the case of its letters. -/
def spelled (word : List Char) : Pattern :=
  word.foldr (fun c p => seq (one fun d => d.toUpper == c.toUpper) p) nothing

/-- A word of a list, words in front preferred. -/
def oneOf (vocabulary : List String) : Pattern :=
  vocabulary.foldr (fun entry p => either (spelled entry.toList) p) (one fun _ => false)

/-- A word of a list between two edges. -/
def wholeWord (vocabulary : List String) : Pattern :=
  seq edge (seq (oneOf vocabulary) edge)

variable {k k' : Cursor} {vocabulary : List String} {front w rest : List Char}

theorem mem_spelled {word : List Char} : k' ∈ (spelled word).ways k ↔
    ∃ t, Vocabulary.upper t = Vocabulary.upper word ∧ k.Reads t k' := by
  induction word generalizing k with
  | nil =>
      simp only [spelled, List.foldr_nil, ways, List.mem_singleton, Vocabulary.upper, List.map_nil,
        List.map_eq_nil_iff, exists_eq_left, Cursor.reads_nil_iff]
  | cons c cs ih =>
      have hseq : spelled (c :: cs) = seq (one fun d => d.toUpper == c.toUpper) (spelled cs) := rfl
      rw [hseq, mem_seq]
      constructor
      · rintro ⟨k₁, hk₁, hk'⟩
        rcases mem_one.1 hk₁ with ⟨d, hd, hread⟩
        rcases ih.1 hk' with ⟨t, ht, hreads⟩
        refine ⟨d :: t, ?_, hread.trans hreads⟩
        rw [Vocabulary.upper, List.map_cons, beq_iff_eq.1 hd]
        exact congrArg _ ht
      · rintro ⟨t, ht, hreads⟩
        cases t with
        | nil => cases ht
        | cons d t =>
            rcases List.cons.inj ht with ⟨hd, ht⟩
            rcases Cursor.Reads.split (t := [d]) hreads with ⟨k₁, hread, hreads⟩
            exact ⟨k₁, mem_one.2 ⟨d, by simp [hd], hread⟩, ih.2 ⟨t, ht, hreads⟩⟩

theorem mem_oneOf : k' ∈ (oneOf vocabulary).ways k ↔
    ∃ entry ∈ vocabulary, k' ∈ (spelled entry.toList).ways k := by
  induction vocabulary with
  | nil =>
      simp only [oneOf, List.foldr_nil, mem_one]
      simp
  | cons entry rest ih =>
      have heither : oneOf (entry :: rest) = either (spelled entry.toList) (oneOf rest) := rfl
      rw [heither, ways, List.mem_append, ih]
      simp

theorem isWordChar_toUpper (c : Char) : isWordChar c.toUpper = isWordChar c :=
  rel_toUpper (r := fun c u => isWordChar u = isWordChar c) (fun _ => rfl) (by decide) c

/-- Words that a list may have: not empty, and of word characters only. -/
def OfWords (vocabulary : List String) : Prop :=
  ∀ entry ∈ vocabulary, entry.toList ≠ [] ∧ ∀ c ∈ entry.toList, isWordChar c = true

theorem ofWords_of_all (h : vocabulary.all (fun entry =>
      !entry.toList.isEmpty && entry.toList.all isWordChar) = true) : OfWords vocabulary := by
  intro entry hentry
  rcases Bool.and_eq_true_iff.1 (List.all_eq_true.1 h entry hentry) with ⟨hne, hall⟩
  exact ⟨by simpa using hne, List.all_eq_true.1 hall⟩

/-- What is spelled like a word is one. -/
theorem word_of_upper_eq {t u : List Char} (h : Vocabulary.upper t = Vocabulary.upper u)
    (hu : u ≠ [] ∧ ∀ c ∈ u, isWordChar c = true) : t ≠ [] ∧ ∀ c ∈ t, isWordChar c = true := by
  constructor
  · rintro rfl
    exact hu.1 (List.map_eq_nil_iff.1 h.symm)
  · intro c hc
    have hmem : c.toUpper ∈ Vocabulary.upper u := by
      rw [← h]
      exact List.mem_map_of_mem hc
    rcases List.mem_map.1 hmem with ⟨d, hd, heq⟩
    rw [← isWordChar_toUpper, ← heq, isWordChar_toUpper]
    exact hu.2 d hd

theorem opens_oneOf (hwords : OfWords vocabulary) : Opens (oneOf vocabulary) := by
  intro k k' hk
  rcases mem_oneOf.1 hk with ⟨entry, hentry, hk⟩
  rcases mem_spelled.1 hk with ⟨t, ht, -, hrest⟩
  rcases word_of_upper_eq ht (hwords entry hentry) with ⟨hne, hall⟩
  rcases k with ⟨front, rest⟩
  rw [show rest = t ++ k'.rest from hrest]
  exact Cursor.wordAfter_append hne hall

theorem wholeWord_anchored (hwords : OfWords vocabulary) : Anchored (wholeWord vocabulary) :=
  ((opens_oneOf hwords).seq edge).anchored

/-- Where a word begins, the only match is the whole word. -/
theorem mem_wholeWord (hwords : OfWords vocabulary) (h : IsRun isWordChar front w rest) :
    k' ∈ (wholeWord vocabulary).ways ⟨front, w ++ rest⟩ ↔
      Vocabulary.holds vocabulary w = true ∧ k' = ⟨front ++ w, rest⟩ := by
  simp only [wholeWord, mem_seq, mem_edge, mem_oneOf, mem_spelled]
  constructor
  · rintro ⟨_, ⟨-, rfl⟩, k', ⟨entry, hentry, t, ht, hreads⟩, hedge, rfl⟩
    rcases word_of_upper_eq ht (hwords entry hentry) with ⟨hne, hall⟩
    have htw : t = w := hreads.eq_word h hne hall hedge
    subst htw
    refine ⟨List.any_eq_true.2 ⟨entry, hentry, beq_iff_eq.2 ht.symm⟩, ?_⟩
    rcases k' with ⟨front', rest'⟩
    simpa [Cursor.Reads, eq_comm] using hreads
  · rintro ⟨hholds, rfl⟩
    rcases List.any_eq_true.1 hholds with ⟨entry, hentry, heq⟩
    refine ⟨_, ⟨Cursor.atEdge_start h, rfl⟩, _, ⟨entry, hentry, w, ?_, rfl, rfl⟩, ?_, rfl⟩
    · exact (beq_iff_eq.1 heq).symm
    · exact Cursor.atEdge_stop h

theorem searchFrom_wholeWord (hwords : OfWords vocabulary) {ls : List Lexeme} (hls : Proper ls)
    (hparted : Parted front (spell ls)) :
    (wholeWord vocabulary).searchFrom ⟨front, spell ls⟩ =
      Classification.vocabularyWords vocabulary (byteLength front) ls := by
  have hanchored := wholeWord_anchored hwords
  induction hls generalizing front with
  | nil => exact hanchored.searchFrom_nil front
  | @mark c ls hc _ ih =>
      rw [Classification.vocabularyWords, ← byteLength_append_mark, ← ih (parted_of_mark hc)]
      exact hanchored.searchFrom_mark hc
  | @word w ls hne hall hend hrest ih =>
      have hrun : IsRun isWordChar front w (spell ls) :=
        (Proper.word hne hall hend hrest).isRun hparted
      have hlater := @ih (front ++ w) (parted_of_head hend)
      rw [byteLength_append] at hlater
      rw [Classification.vocabularyWords, ← hlater]
      by_cases hholds : Vocabulary.holds vocabulary w = true
      · -- All ways lead behind the word, so the preferred one does.
        have hmem := (mem_wholeWord hwords hrun).2 ⟨hholds, rfl⟩
        have hhead : ((wholeWord vocabulary).ways ⟨front, w ++ spell ls⟩).head? =
            some ⟨front ++ w, spell ls⟩ := by
          cases hways : (wholeWord vocabulary).ways ⟨front, w ++ spell ls⟩ with
          | nil => simp [hways] at hmem
          | cons k' more =>
              have hk' := ((mem_wholeWord hwords hrun).1 (hways ▸ List.mem_cons_self)).2
              rw [hk']
              rfl
        have hpos : 0 < w.length := List.length_pos_iff.2 hne
        rw [if_pos hholds, ← byteLength_append]
        exact searchFrom_hit hhead (by simpa using hpos)
      · have hnone : (wholeWord vocabulary).ways ⟨front, w ++ spell ls⟩ = [] := by
          rw [List.eq_nil_iff_forall_not_mem]
          intro k' hk'
          exact hholds ((mem_wholeWord hwords hrun).1 hk').1
        rw [if_neg hholds]
        exact hanchored.searchFrom_word hall hnone

end Pattern

/-! ## Tokens -/

/-- The tokens of a class are the words of a text that count, and they are found by the pass and by
the search for a list of words, in whatever order the list has them. -/
structure WordTokens (text : List Char) (c : Category) (vocabulary : List String)
    (counts : List Char → Prop) : Prop where
  listed : Span.Lists (byteLength text) (tokenSpans text c) fun s =>
    ∃ r : Run, r.MaximalIn isWordChar text ∧ counts r.chars ∧ r.span = s
  unordered : ∀ vocabulary', vocabulary'.Perm vocabulary →
    Classification.vocabularyWords vocabulary' 0 (cut text) = tokenSpans text c ∧
      (Pattern.wholeWord vocabulary').search text = tokenSpans text c

theorem WordTokens.of_pass {text : List Char} {c : Category} {vocabulary : List String}
    {counts : List Char → Prop} (hwords : Pattern.OfWords vocabulary)
    (hcounts : ∀ w, Vocabulary.holds vocabulary w = true ↔ counts w)
    (hpass : Classification.pass text c =
      Classification.vocabularyWords vocabulary 0 (cut text)) :
    WordTokens text c vocabulary counts := by
  have htokens : tokenSpans text c = Classification.vocabularyWords vocabulary 0 (cut text) :=
    (classify_filter text c).trans hpass
  refine ⟨⟨tokenSpans_ascending text c, ?_⟩, ?_⟩
  · intro s
    rw [htokens, Classification.vocabularyWords_eq]
    simp only [List.mem_map, List.mem_filter, mem_wordRuns_cut, hcounts, and_assoc]
  · intro vocabulary' hperm
    have hreordered : Classification.vocabularyWords vocabulary' 0 (cut text) =
        tokenSpans text c := by
      simp only [htokens, Classification.vocabularyWords_eq, Classification.holds_perm hperm]
    refine ⟨hreordered, ?_⟩
    have hwords' : Pattern.OfWords vocabulary' :=
      fun entry hentry => hwords entry (hperm.mem_iff.1 hentry)
    exact (Pattern.search_eq_pass (Pattern.searchFrom_wholeWord hwords') text).trans hreordered

/-- In a list of capitals a word is found as its own capitals. -/
theorem holds_iff_of_capitals {vocabulary : List String}
    (hcapitals : ∀ entry ∈ vocabulary, Vocabulary.upper entry.toList = entry.toList)
    (w : List Char) : Vocabulary.holds vocabulary w = true ↔
      String.ofList (Vocabulary.upper w) ∈ vocabulary := by
  constructor
  · intro h
    rcases List.any_eq_true.1 h with ⟨entry, hentry, heq⟩
    rw [← beq_iff_eq.1 heq, hcapitals entry hentry, String.ofList_toList]
    exact hentry
  · intro h
    refine List.any_eq_true.2 ⟨_, h, ?_⟩
    rw [hcapitals _ h, String.toList_ofList]
    exact beq_self_eq_true _

/-- Keywords and functions are the words of a text whose capitals are in the list, booleans those
that read `true` or `false` without their case. -/
theorem vocabulary_tokens_exact (text : List Char) :
    WordTokens text .keyword Vocabulary.keywords
      (fun w => String.ofList (Vocabulary.upper w) ∈ Vocabulary.keywords) ∧
    WordTokens text .function Vocabulary.functions
      (fun w => String.ofList (Vocabulary.upper w) ∈ Vocabulary.functions) ∧
    WordTokens text .boolean Vocabulary.booleans
      (fun w => Vocabulary.upper w = Vocabulary.upper "true".toList ∨
        Vocabulary.upper w = Vocabulary.upper "false".toList) := by
  refine ⟨.of_pass ?_ ?_ rfl, .of_pass ?_ ?_ rfl, .of_pass ?_ ?_ rfl⟩
  · exact Pattern.ofWords_of_all (by decide +kernel)
  · exact holds_iff_of_capitals (by decide +kernel)
  · exact Pattern.ofWords_of_all (by decide +kernel)
  · exact holds_iff_of_capitals (by decide +kernel)
  · exact Pattern.ofWords_of_all (by decide +kernel)
  · intro w
    simp only [Vocabulary.holds, Vocabulary.booleans, List.any_cons, List.any_nil, Bool.or_false,
      Bool.or_eq_true, beq_iff_eq]
    exact or_congr eq_comm eq_comm

end EmbeddedSql
