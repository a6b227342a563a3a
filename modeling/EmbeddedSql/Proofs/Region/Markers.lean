import EmbeddedSql.Marker
import EmbeddedSql.Proofs.Classification.Patterns
import EmbeddedSql.Proofs.Text.Folding
import Mathlib.Data.List.Forall2

/-!
# Markers — how a marker is written

A line is taken for a marker by the words of its comment.  This file gives the lines that are taken
for each marker by a grammar that does not speak of words: white space, two slashes, and letters
with white space around them.  The patterns for the three markers match the same lines.

* `Text.IsGap` — white space only, possibly none;
* `Text.words_append_cons`, `Text.words_run_append` — the words of a text that is put together;
* `Text.exists_run_of_words`, `Text.isGap_of_words` — a text taken apart into its words;
* `Marker.Spells` — letters that spell a word, in either case, the long s standing for `s`;
* `Marker.Written` — the grammar;
* `Marker.ofLine?_eq_some_iff` — a line is a marker if and only if it is written like one;
* `Marker.ofLine?_gap` — white space around a line makes no difference;
* `Marker.Matches` — the pattern for a marker matches a line; `Marker.matches_iff` — it does if and
  only if the line is written like the marker.
-/

namespace EmbeddedSql
namespace Text

/-- White space only, possibly none. -/
def IsGap (t : List Char) : Prop :=
  ∀ c ∈ t, isBlank c = true

instance (t : List Char) : Decidable (IsGap t) :=
  decidable_of_iff (t.all isBlank = true) List.all_eq_true

theorem IsGap.blank_of_head? {t : List Char} (h : IsGap t) : ∀ c ∈ t.head?, isBlank c = true :=
  fun c hc => h c (List.mem_of_mem_head? hc)

/-- The characters of words. -/
def isSolid (c : Char) : Bool :=
  !isBlank c

variable {a t w : List Char} {c : Char}

/-! ## Words of a text that is put together -/

theorem words_append_cons (hc : isBlank c = true) (s t : List Char) :
    words (s ++ c :: t) = words s ++ words t := by
  rw [words, split_append_cons hc, List.filter_append]
  rfl

theorem words_blank_cons (hc : isBlank c = true) (t : List Char) : words (c :: t) = words t :=
  words_append_cons hc [] t

theorem words_gap_append (ha : IsGap a) (t : List Char) : words (a ++ t) = words t := by
  induction a with
  | nil => rfl
  | cons c a ih =>
      rcases List.forall_mem_cons.1 ha with ⟨hc, htail⟩
      rw [List.cons_append, words_blank_cons hc, ih htail]

theorem words_gap (ha : IsGap a) : words a = [] := by
  have hwords := words_gap_append ha []
  rwa [List.append_nil] at hwords

theorem words_append_gap (t : List Char) (ha : IsGap a) : words (t ++ a) = words t := by
  cases a with
  | nil => rw [List.append_nil]
  | cons c a =>
      rcases List.forall_mem_cons.1 ha with ⟨hc, htail⟩
      rw [words_append_cons hc, words_gap htail, List.append_nil]

/-- A run of characters that are no white space is a word. -/
theorem words_run_append {before : List Char} (h : IsRun isSolid before w t) :
    words (w ++ t) = w :: words t := by
  have hword : words w = [w] := by
    have hsolid : ∀ c ∈ w, isBlank c = false := by
      intro c hc
      simpa [isSolid] using h.all c hc
    rw [words, split_of_forall hsolid]
    simpa using h.ne_nil
  cases t with
  | nil =>
      rw [List.append_nil, hword]
      rfl
  | cons c t =>
      have hc : isBlank c = true := by simpa [isSolid] using h.right c rfl
      rw [words_append_cons hc, hword, words_blank_cons hc]
      rfl

/-! ## Words of a text that is taken apart -/

/-- Where there is no white space, a word begins. -/
theorem exists_run_of_solid (hc : isBlank c = false) (t : List Char) :
    ∃ run rest, t = run ++ rest ∧ IsRun isSolid [] (c :: run) rest ∧
      words (c :: t) = (c :: run) :: words rest := by
  have hsolid : isSolid c = true := by simp [isSolid, hc]
  have hword : ∃ run rest, t = run ++ rest ∧ IsRun isSolid [] (c :: run) rest :=
    exists_isRun hsolid (by simp)
  rcases hword with ⟨run, rest, rfl, hrun⟩
  exact ⟨run, rest, rfl, hrun, words_run_append hrun⟩

theorem isGap_of_words (h : words t = []) : IsGap t := by
  induction t with
  | nil => exact fun _ hc => nomatch hc
  | cons c t ih =>
      cases hc : isBlank c with
      | true =>
          rw [words_blank_cons hc] at h
          exact List.forall_mem_cons.2 ⟨hc, ih h⟩
      | false =>
          rcases exists_run_of_solid hc t with ⟨run, rest, -, -, hwords⟩
          rw [h] at hwords
          cases hwords

theorem exists_run_of_words {ws : List (List Char)} (h : words t = w :: ws) :
    ∃ gap rest, t = gap ++ (w ++ rest) ∧ IsGap gap ∧ IsRun isSolid [] w rest ∧ words rest = ws := by
  induction t with
  | nil => cases h
  | cons c t ih =>
      cases hc : isBlank c with
      | true =>
          rw [words_blank_cons hc] at h
          rcases ih h with ⟨gap, rest, rfl, hgap, hrun, hrest⟩
          exact ⟨c :: gap, rest, rfl, List.forall_mem_cons.2 ⟨hc, hgap⟩, hrun, hrest⟩
      | false =>
          rcases exists_run_of_solid hc t with ⟨run, rest, rfl, hrun, hwords⟩
          rw [h] at hwords
          rcases List.cons.inj hwords with ⟨rfl, hrest⟩
          exact ⟨[], rest, rfl, (fun _ hc => nomatch hc), hrun, hrest.symm⟩

end Text

namespace Marker

open Text

/-! ## Letters -/

/-- A character that stands for a small letter: the letter, its capital, or the long s for `s`. -/
def Stands (k c : Char) : Prop :=
  c = k ∨ c = k.toUpper ∨ (k = 's' ∧ c = 'ſ')

/-- Characters that spell a word of small letters, one by one. -/
def Spells (word t : List Char) : Prop :=
  List.Forall₂ Stands word t

theorem range_of_isLower {k : Char} (hk : k.isLower = true) :
    'a'.val ≤ k.val ∧ k.val ≤ 'z'.val := by
  have hboth : (decide ('a'.val ≤ k.val) && decide (k.val ≤ 'z'.val)) = true := hk
  simpa using hboth

theorem toLower_of_isLower {k : Char} (hk : k.isLower = true) : k.toLower = k := by
  have hletter : ∀ n : Fin 26, (Char.ofNat (97 + n)).toLower = Char.ofNat (97 + n) := by decide
  have hrange := range_of_isLower hk
  exact of_letter (P := fun k => k.toLower = k) hletter hrange.1 hrange.2

theorem toLower_toUpper (c : Char) : c.toUpper.toLower = c.toLower :=
  rel_toUpper (r := fun c u => u.toLower = c.toLower) (fun _ => rfl) (by decide) c

theorem eq_or_eq_toUpper (c : Char) : c = c.toLower ∨ c = c.toLower.toUpper :=
  rel_toLower (r := fun c l => c = l ∨ c = l.toUpper) (fun _ => .inl rfl) (by decide) c

theorem stands_iff {k c : Char} (hk : k.isLower = true) : Stands k c ↔ foldLetter c = k := by
  have hlower : k.toLower = k := toLower_of_isLower hk
  have hlong : 'ſ'.toLower = 'ſ' := by decide
  have hne : k ≠ 'ſ' := by
    rintro rfl
    exact absurd hk (by decide)
  by_cases hc : c = 'ſ'
  · subst hc
    constructor
    · rintro (heq | heq | ⟨rfl, -⟩)
      · exact absurd heq.symm hne
      · -- The capital of a small letter folds to the letter, and the long s to itself.
        have hfold : k = 'ſ' :=
          calc k = k.toUpper.toLower := by rw [toLower_toUpper, hlower]
            _ = 'ſ' := by rw [← heq, hlong]
        exact absurd hfold hne
      · rfl
    · intro hfold
      exact .inr (.inr ⟨hfold.symm, rfl⟩)
  · have hfold : foldLetter c = c.toLower := if_neg hc
    rw [hfold]
    constructor
    · rintro (rfl | rfl | ⟨-, heq⟩)
      · exact hlower
      · rw [toLower_toUpper, hlower]
      · exact absurd heq hc
    · rintro rfl
      rcases eq_or_eq_toUpper c with heq | heq
      · exact .inl heq
      · exact .inr (.inl heq)

theorem spells_iff {word t : List Char} (hword : ∀ k ∈ word, k.isLower = true) :
    Spells word t ↔ t.map foldLetter = word := by
  induction word generalizing t with
  | nil => simp [Spells]
  | cons k word ih =>
      rcases List.forall_mem_cons.1 hword with ⟨hk, htail⟩
      cases t with
      | nil => simp [Spells]
      | cons c t =>
          have hrest : List.Forall₂ Stands word t ↔ t.map foldLetter = word := ih htail
          simp only [Spells, List.forall₂_cons, stands_iff hk, hrest, List.map_cons,
            List.cons.injEq]

theorem isBlank_foldLetter (c : Char) : isBlank (foldLetter c) = isBlank c := by
  by_cases hc : c = 'ſ'
  · subst hc
    decide
  · rw [foldLetter, if_neg hc, isBlank_toLower]

/-- What spells a word is a run, if white space or nothing follows it. -/
theorem isRun_of_spells {word t rest : List Char} (hne : word ≠ [])
    (hword : ∀ k ∈ word, k.isLower = true) (h : Spells word t)
    (hrest : ∀ c ∈ rest.head?, isBlank c = true) : IsRun isSolid [] t rest := by
  have hfold := (spells_iff hword).1 h
  have hblank : ∀ k : Char, k.isLower = true → isBlank k = false := by
    intro k hk
    have hrange := range_of_isLower hk
    exact of_letter (P := fun k => isBlank k = false) (by decide) hrange.1 hrange.2
  refine ⟨?_, ?_, by simp, ?_⟩
  · rintro rfl
    exact hne hfold.symm
  · intro c hc
    have hmem : foldLetter c ∈ word := by
      rw [← hfold]
      exact List.mem_map_of_mem hc
    have hletter := hblank _ (hword _ hmem)
    rw [isBlank_foldLetter] at hletter
    simp [isSolid, hletter]
  · intro c hc
    simp [isSolid, hrest c hc]

/-! ## The grammar -/

/-- The word behind `sql`. -/
def keyword : Marker → List Char
  | opening => "begin".toList
  | closing => "end".toList
  | hint => "syntax".toList

/-- How a marker is written: white space, two slashes, `sql` and the word of the marker.  There is
white space between the two words, and there may be some in front of each of them and at the end.
A hint may do without its second word. -/
inductive Written : Marker → List Char → Prop where
  | full {m : Marker} {indent gap sql sep word trail : List Char} :
      IsGap indent → IsGap gap → Spells "sql".toList sql → IsGap sep → sep ≠ [] →
      Spells m.keyword word → IsGap trail →
      Written m (indent ++ '/' :: '/' :: (gap ++ (sql ++ (sep ++ (word ++ trail)))))
  | bare {indent gap sql trail : List Char} :
      IsGap indent → IsGap gap → Spells "sql".toList sql → IsGap trail →
      Written hint (indent ++ '/' :: '/' :: (gap ++ (sql ++ trail)))

theorem isLower_sql : ∀ k ∈ "sql".toList, k.isLower = true :=
  List.all_eq_true.1 (by decide)

theorem isLower_keyword (m : Marker) : ∀ k ∈ m.keyword, k.isLower = true :=
  List.all_eq_true.1 (by cases m <;> decide)

theorem keyword_ne_nil (m : Marker) : m.keyword ≠ [] := by
  cases m <;> decide

/-! ## Reading a line -/

theorem ofWords?_eq_some_iff {ws : List (List Char)} {m : Marker} :
    ofWords? ws = some m ↔
      ws = ["sql".toList, m.keyword] ∨ (m = hint ∧ ws = ["sql".toList]) := by
  constructor
  · intro h
    simp only [ofWords?] at h
    split at h
    · cases h
      exact .inl ‹_›
    · split at h
      · cases h
        exact .inl ‹_›
      · split at h
        · rename_i hws
          cases h
          rcases hws with hws | hws
          · exact .inr ⟨rfl, hws⟩
          · exact .inl hws
        · cases h
  · rintro (rfl | ⟨rfl, rfl⟩)
    · cases m <;> decide
    · decide

theorem comment?_eq_some_iff {line body : List Char} :
    comment? line = some body ↔ ∃ indent, IsGap indent ∧ line = indent ++ '/' :: '/' :: body := by
  constructor
  · intro h
    simp only [comment?] at h
    split at h
    · rename_i rest htrim
      cases h
      refine ⟨line.takeWhile isBlank, fun c hc => List.mem_takeWhile_imp hc, ?_⟩
      rw [← htrim]
      exact List.takeWhile_append_dropWhile.symm
    · cases h
  · rintro ⟨indent, hindent, rfl⟩
    have htrim : trimStart (indent ++ '/' :: '/' :: body) = '/' :: '/' :: body := by
      rw [trimStart, List.dropWhile_append_of_pos hindent]
      rfl
    rw [comment?, htrim]
    rfl

theorem ofLine?_eq_some_iff {line : List Char} {m : Marker} :
    ofLine? line = some m ↔ Written m line := by
  constructor
  · intro h
    rcases Option.bind_eq_some_iff.1 h with ⟨body, hbody, hwords⟩
    rcases comment?_eq_some_iff.1 hbody with ⟨indent, hindent, rfl⟩
    rcases ofWords?_eq_some_iff.1 hwords with htwo | ⟨rfl, hone⟩
    · -- Two words.
      rcases List.map_eq_cons_iff.1 htwo with ⟨sql, ws, hbody, hsql, hws⟩
      rcases List.map_eq_singleton_iff.1 hws with ⟨word, rfl, hword⟩
      rcases exists_run_of_words hbody with ⟨gap, rest, rfl, hgap, hrun, hrest⟩
      rcases exists_run_of_words hrest with ⟨sep, trail, rfl, hsep, hrun', htrail⟩
      have hsep_ne : sep ≠ [] := by
        rintro rfl
        -- The first word would go on with the second one.
        rcases List.exists_cons_of_ne_nil hrun'.ne_nil with ⟨c, cs, rfl⟩
        have hsolid : isSolid c = true := hrun'.all c List.mem_cons_self
        rw [hrun.right c rfl] at hsolid
        cases hsolid
      exact .full hindent hgap ((spells_iff isLower_sql).2 hsql) hsep hsep_ne
        ((spells_iff (isLower_keyword m)).2 hword) (isGap_of_words htrail)
    · -- One word.
      rcases List.map_eq_singleton_iff.1 hone with ⟨sql, hbody, hsql⟩
      rcases exists_run_of_words hbody with ⟨gap, trail, rfl, hgap, -, htrail⟩
      exact .bare hindent hgap ((spells_iff isLower_sql).2 hsql) (isGap_of_words htrail)
  · intro h
    cases h with
    | @full _ indent gap sql sep word trail hindent hgap hsql hsep hne hword htrail =>
        have hsep_head : ∀ c ∈ (sep ++ (word ++ trail)).head?, isBlank c = true := by
          rcases List.exists_cons_of_ne_nil hne with ⟨c, sep, rfl⟩
          simpa using hsep c List.mem_cons_self
        have hrun := isRun_of_spells (by decide) isLower_sql hsql hsep_head
        have hrun' := isRun_of_spells m.keyword_ne_nil m.isLower_keyword hword htrail.blank_of_head?
        have hwords : words (gap ++ (sql ++ (sep ++ (word ++ trail)))) = [sql, word] :=
          calc
            words (gap ++ (sql ++ (sep ++ (word ++ trail))))
                = words (sql ++ (sep ++ (word ++ trail))) := words_gap_append hgap _
            _ = sql :: words (sep ++ (word ++ trail)) := words_run_append hrun
            _ = sql :: words (word ++ trail) := by rw [words_gap_append hsep]
            _ = [sql, word] := by rw [words_run_append hrun', words_gap htrail]
        rw [ofLine?, comment?_eq_some_iff.2 ⟨indent, hindent, rfl⟩, Option.bind_some, hwords]
        refine ofWords?_eq_some_iff.2 (.inl ?_)
        rw [← (spells_iff isLower_sql).1 hsql, ← (spells_iff m.isLower_keyword).1 hword]
        rfl
    | @bare indent gap sql trail hindent hgap hsql htrail =>
        have hrun := isRun_of_spells (by decide) isLower_sql hsql htrail.blank_of_head?
        have hwords : words (gap ++ (sql ++ trail)) = [sql] := by
          rw [words_gap_append hgap, words_run_append hrun, words_gap htrail]
        rw [ofLine?, comment?_eq_some_iff.2 ⟨indent, hindent, rfl⟩, Option.bind_some, hwords]
        refine ofWords?_eq_some_iff.2 (.inr ⟨rfl, ?_⟩)
        rw [← (spells_iff isLower_sql).1 hsql]
        rfl

/-! ## White space around a line -/

theorem comment?_gap_append {front : List Char} (hfront : IsGap front) (line : List Char) :
    comment? (front ++ line) = comment? line := by
  rw [comment?, comment?, trimStart, List.dropWhile_append_of_pos hfront]
  rfl

theorem comment?_append_gap (line : List Char) {back : List Char} (hback : IsGap back) :
    comment? (line ++ back) = (comment? line).map (· ++ back) := by
  have htrim : trimStart (line ++ back) =
      if (trimStart line).isEmpty then [] else trimStart line ++ back := by
    have hgap : back.dropWhile isBlank = [] := List.dropWhile_eq_nil_iff.2 hback
    rw [trimStart, List.dropWhile_append, hgap]
    rfl
  rw [comment?, comment?, htrim]
  rcases trimStart line with _ | ⟨c, _ | ⟨d, rest⟩⟩
  · rfl
  · -- A slash at the end of the line is not followed by another one.
    cases back with
    | nil =>
        by_cases hc : c = '/' <;> simp [hc]
    | cons e back =>
        have he : e ≠ '/' := by
          rintro rfl
          exact absurd (hback '/' List.mem_cons_self) (by decide)
        simp [he]
  · by_cases hc : c = '/'
    · by_cases hd : d = '/' <;> simp [hc, hd]
    · simp [hc]

theorem ofLine?_gap {front back : List Char} (hfront : IsGap front) (hback : IsGap back)
    (line : List Char) : ofLine? (front ++ (line ++ back)) = ofLine? line := by
  rw [ofLine?, ofLine?, comment?_gap_append hfront, comment?_append_gap line hback]
  cases comment? line with
  | none => rfl
  | some body => simp only [Option.map_some, Option.bind_some, words_append_gap body hback]

/-! ## Patterns -/

section Patterns

open Pattern

/-- Any amount of white space. -/
def blanks : Pattern :=
  many (one isBlank)

/-- Two slashes. -/
def slashes : Pattern :=
  seq (one (· == '/')) (one (· == '/'))

instance (k c : Char) : Decidable (Stands k c) :=
  inferInstanceAs (Decidable (_ ∨ _ ∨ _))

/-- The letters of a word, in either case. -/
def letters (word : List Char) : Pattern :=
  word.foldr (fun k p => seq (one fun c => decide (Stands k c)) p) nothing

/-- The pattern for the line of a begin or end marker. -/
def linePattern (word : List Char) : Pattern :=
  seq blanks (seq slashes (seq blanks (seq (letters "sql".toList)
    (seq (led isBlank isBlank) (seq (letters word) blanks)))))

/-- The pattern for a hint that is alone, without white space in front of it. -/
def hintPattern : Pattern :=
  seq slashes (seq blanks (seq (letters "sql".toList)
    (seq (either (seq (led isBlank isBlank) (letters "syntax".toList)) nothing) blanks)))

/-- The pattern for a marker matches all of a line; hints are trimmed before. -/
def Matches : Marker → List Char → Prop
  | opening, line => (linePattern "begin".toList).Fits line
  | closing, line => (linePattern "end".toList).Fits line
  | hint, line => hintPattern.Fits (trim line)

theorem denotes_blanks : Denotes blanks IsGap :=
  denotes_many_one

theorem denotes_slashes : Denotes slashes (· = ['/', '/']) := by
  have hsign := denotes_char '/'
  intro k k'
  rw [slashes, hsign.seq hsign k k']
  simp

theorem denotes_letters (word : List Char) : Denotes (letters word) (Spells word) := by
  induction word with
  | nil =>
      intro k k'
      rw [letters, List.foldr_nil, denotes_nothing k k']
      simp [Spells]
  | cons c word ih =>
      intro k k'
      have hseq : letters (c :: word) = seq (one fun d => decide (Stands c d)) (letters word) := rfl
      rw [hseq, denotes_one.seq ih k k']
      refine exists_congr fun t => and_congr_left fun _ => ?_
      simp only [Spells, List.forall₂_cons_left_iff, decide_eq_true_eq]
      constructor
      · rintro ⟨_, u, rfl, ⟨d, hd, rfl⟩, hu⟩
        exact ⟨d, u, hd, hu, rfl⟩
      · rintro ⟨d, u, hd, hu, rfl⟩
        exact ⟨[d], u, rfl, ⟨d, hd, rfl⟩, hu⟩

theorem denotes_sep : Denotes (led isBlank isBlank) fun t => IsGap t ∧ t ≠ [] := by
  intro k k'
  rw [led, denotes_one.seq denotes_many_one k k']
  refine exists_congr fun t => and_congr_left fun _ => ?_
  constructor
  · rintro ⟨_, u, rfl, ⟨c, hc, rfl⟩, hu⟩
    exact ⟨List.forall_mem_cons.2 ⟨hc, hu⟩, by simp⟩
  · rintro ⟨hgap, hne⟩
    rcases List.exists_cons_of_ne_nil hne with ⟨c, u, rfl⟩
    rcases List.forall_mem_cons.1 hgap with ⟨hc, hu⟩
    exact ⟨[c], u, rfl, ⟨c, hc, rfl⟩, hu⟩

theorem linePattern_fits_iff {m : Marker} (hm : m ≠ hint) {line : List Char} :
    (linePattern m.keyword).Fits line ↔ Written m line := by
  rw [linePattern, (denotes_blanks.seq (denotes_slashes.seq (denotes_blanks.seq
    ((denotes_letters _).seq (denotes_sep.seq
      ((denotes_letters _).seq denotes_blanks)))))).fits_iff]
  constructor
  · rintro ⟨indent, _, rfl, hindent, _, _, rfl, rfl, gap, _, rfl, hgap, sql, _, rfl, hsql, sep, _,
      rfl, ⟨hsep, hne⟩, word, trail, rfl, hword, htrail⟩
    exact @Written.full m indent gap sql sep word trail hindent hgap hsql hsep hne hword htrail
  · intro h
    cases h with
    | full hindent hgap hsql hsep hne hword htrail =>
        exact ⟨_, _, rfl, hindent, ['/', '/'], _, rfl, rfl, _, _, rfl, hgap, _, _, rfl, hsql, _, _,
          rfl, ⟨hsep, hne⟩, _, _, rfl, hword, htrail⟩
    | bare => exact absurd rfl hm

theorem hintPattern_fits_iff {t : List Char} (ht : ∀ c ∈ t.head?, isBlank c = false) :
    hintPattern.Fits t ↔ Written hint t := by
  rw [hintPattern, (denotes_slashes.seq (denotes_blanks.seq ((denotes_letters _).seq
    (((denotes_sep.seq (denotes_letters _)).either denotes_nothing).seq denotes_blanks)))).fits_iff]
  have hnil : IsGap [] := fun _ hc => nomatch hc
  constructor
  · rintro ⟨_, _, rfl, rfl, gap, _, rfl, hgap, sql, _, rfl, hsql, _, trail, rfl, hsecond, htrail⟩
    rcases hsecond with ⟨sep, word, rfl, ⟨hsep, hne⟩, hword⟩ | rfl
    · have hfull :=
        @Written.full hint [] gap sql sep word trail hnil hgap hsql hsep hne hword htrail
      simpa using hfull
    · exact @Written.bare [] gap sql trail hnil hgap hsql htrail
  · intro h
    -- No white space stands in front of the slashes.
    have hindent : ∀ {indent rest : List Char}, IsGap indent → t = indent ++ rest →
        indent = [] := by
      intro indent rest hindent heq
      cases indent with
      | nil => rfl
      | cons c indent =>
          have hc : isBlank c = true := hindent c List.mem_cons_self
          rw [ht c (by rw [heq]; rfl)] at hc
          cases hc
    cases h with
    | @full _ indent gap sql sep word trail hgap' hgap hsql hsep hne hword htrail =>
        cases hindent hgap' rfl
        exact ⟨['/', '/'], _, rfl, rfl, gap, _, rfl, hgap, sql, sep ++ (word ++ trail), rfl, hsql,
          sep ++ word, trail, by simp, .inl ⟨sep, word, rfl, ⟨hsep, hne⟩, hword⟩, htrail⟩
    | @bare indent gap sql trail hgap' hgap hsql htrail =>
        cases hindent hgap' rfl
        exact ⟨['/', '/'], _, rfl, rfl, gap, _, rfl, hgap, sql, trail, rfl, hsql, [], trail, rfl,
          .inr rfl, htrail⟩

/-- Trimming takes white space away at both ends, and all of it at the beginning. -/
theorem exists_gaps_trim (line : List Char) :
    ∃ front back, line = front ++ (trim line ++ back) ∧ IsGap front ∧ IsGap back ∧
      ∀ c ∈ (trim line).head?, isBlank c = false := by
  have hback : trimStart line =
      trim line ++ ((trimStart line).reverse.takeWhile isBlank).reverse := by
    rw [trim, trimEnd, ← List.reverse_append, List.takeWhile_append_dropWhile, List.reverse_reverse]
  refine ⟨line.takeWhile isBlank, ((trimStart line).reverse.takeWhile isBlank).reverse, ?_, ?_, ?_,
    ?_⟩
  · rw [← hback]
    exact List.takeWhile_append_dropWhile.symm
  · exact fun c hc => List.mem_takeWhile_imp hc
  · exact fun c hc => List.mem_takeWhile_imp (List.mem_reverse.1 hc)
  · intro c hc
    have hhead : (trimStart line).head? = some c := by
      rw [hback, List.head?_append, show (trim line).head? = some c from hc]
      rfl
    have hnot := List.head?_dropWhile_not isBlank line
    rw [show (line.dropWhile isBlank).head? = some c from hhead] at hnot
    simpa using hnot

theorem matches_iff {m : Marker} {line : List Char} : m.Matches line ↔ Written m line := by
  cases m with
  | opening => exact linePattern_fits_iff (m := opening) (by decide)
  | closing => exact linePattern_fits_iff (m := closing) (by decide)
  | hint =>
      rcases exists_gaps_trim line with ⟨front, back, hline, hfront, hback, hhead⟩
      have htrim : ofLine? line = ofLine? (trim line) :=
        calc ofLine? line = ofLine? (front ++ (trim line ++ back)) := congrArg ofLine? hline
          _ = ofLine? (trim line) := ofLine?_gap hfront hback (trim line)
      rw [Matches, hintPattern_fits_iff hhead, ← ofLine?_eq_some_iff, ← ofLine?_eq_some_iff, htrim]

end Patterns

/-- A line is a marker if and only if it is written like one, and if and only if the pattern for the
marker matches it.  It is written like one marker at most, and white space around it may be added
and taken away. -/
theorem markers_written (line : List Char) :
    (∀ m, ofLine? line = some m ↔ Written m line) ∧ (∀ m, Matches m line ↔ Written m line) ∧
    (∀ m m', Written m line → Written m' line → m = m') ∧
    ∀ front back, IsGap front → IsGap back →
      ofLine? (front ++ (line ++ back)) = ofLine? line := by
  refine ⟨fun m => ofLine?_eq_some_iff, fun m => matches_iff, ?_, ?_⟩
  · intro m m' hm hm'
    have hread := ofLine?_eq_some_iff.2 hm
    rw [ofLine?_eq_some_iff.2 hm'] at hread
    exact (Option.some.inj hread).symm
  · intro front back hfront hback
    exact ofLine?_gap hfront hback line

/-- A begin marker over two lines, with a long s and wide spaces. -/
theorem markers_written_wide :
    let line := "\t//\u3000ſQl\r\nBEGIN".toList
    Written opening line ∧ Matches opening line ∧ (∀ m, Written m line → m = opening) ∧
      ofLine? ("\u2028".toList ++ (line ++ " \n".toList)) = some opening := by
  intro line
  have hread : ofLine? line = some opening := by decide +kernel
  have hlaws := markers_written line
  have hwritten : Written opening line := (hlaws.1 opening).1 hread
  refine ⟨hwritten, (hlaws.2.1 opening).2 hwritten, ?_, ?_⟩
  · exact fun m hm => hlaws.2.2.1 m opening hm hwritten
  · rw [← hread]
    exact hlaws.2.2.2 _ _ (by decide) (by decide)

end Marker
end EmbeddedSql
