import EmbeddedSql.Proofs.Classification.Order
import EmbeddedSql.Proofs.Text.Runs

/-!
# Words — the lexemes of a text and its maximal runs

Five of the passes read lexemes.  What they find is said in terms of the text alone: its words are
the maximal runs of word characters, and two words are joined if one dot stands between them.

* `Lexeme.Proper`, `Lexeme.cut_proper` — what holds of lexemes that were cut out of a text;
* `Lexeme.wordRuns`, `Lexeme.mem_wordRuns_cut` — the words among the lexemes are the maximal runs;
* `Text.Run.Dotted` — one dot stands between two runs;
* `tokenSpans` — the tokens of one class;
* `Span.Lists` — a list has exactly the spans with some property, in order.
-/

namespace EmbeddedSql

open Text

namespace Lexeme

/-! ## Joints -/

/-- No word goes on across the joint of two texts. -/
def Parted (front rest : List Char) : Prop :=
  ∀ c ∈ front.getLast?, isWordChar c = true → ∀ d ∈ rest.head?, isWordChar d = false

theorem parted_nil (rest : List Char) : Parted [] rest := by
  intro c hc
  cases hc

theorem byteLength_append_mark (front : List Char) (c : Char) :
    Text.byteLength (front ++ [c]) = Text.byteLength front + c.utf8Size := by
  simp

theorem not_word_of_mark {front : List Char} {c : Char} (hc : isWordChar c = false) :
    ∀ d ∈ (front ++ [c]).getLast?, isWordChar d = false := by
  intro d hd
  have heq : c = d := by simpa using hd
  rwa [← heq]

theorem parted_of_mark {front rest : List Char} {c : Char} (hc : isWordChar c = false) :
    Parted (front ++ [c]) rest := by
  intro d hd hword
  rw [not_word_of_mark hc d hd] at hword
  cases hword

theorem parted_of_head {front rest : List Char} (h : ∀ d ∈ rest.head?, isWordChar d = false) :
    Parted front rest :=
  fun _ _ _ => h

/-- In front of a word stands no word character. -/
theorem Parted.left {front w rest : List Char} (h : Parted front (w ++ rest)) (hne : w ≠ [])
    (hall : ∀ c ∈ w, isWordChar c = true) : ∀ c ∈ front.getLast?, isWordChar c = false := by
  intro c hc
  rcases List.exists_cons_of_ne_nil hne with ⟨d, ds, rfl⟩
  rw [← Bool.not_eq_true]
  intro hword
  have hd : isWordChar d = false := h c hc hword d rfl
  rw [hall d List.mem_cons_self] at hd
  cases hd

/-! ## What is cut out of a text -/

/-- Words have word characters only and end where these end, and marks are none. -/
inductive Proper : List Lexeme → Prop
  | nil : Proper []
  | mark {c : Char} {ls : List Lexeme} (hc : isWordChar c = false) (hrest : Proper ls) :
      Proper (Lexeme.mark c :: ls)
  | word {w : List Char} {ls : List Lexeme} (hne : w ≠ []) (hall : ∀ c ∈ w, isWordChar c = true)
      (hend : ∀ c ∈ (spell ls).head?, isWordChar c = false) (hrest : Proper ls) :
      Proper (Lexeme.word w :: ls)

/-- A word character in front of lexemes: a part of the first word, or a word of its own. -/
def lengthen (c : Char) : List Lexeme → List Lexeme
  | word w :: rest => word (c :: w) :: rest
  | rest => word [c] :: rest

theorem cut_cons_word {c : Char} (hc : isWordChar c = true) (cs : List Char) :
    cut (c :: cs) = lengthen c (cut cs) := by
  rw [cut, if_pos hc]
  cases cut cs with
  | nil => rfl
  | cons l ls => cases l <;> rfl

theorem cut_cons_mark {c : Char} (hc : isWordChar c = false) (cs : List Char) :
    cut (c :: cs) = mark c :: cut cs := by
  simp [cut, hc]

theorem Proper.lengthen {c : Char} {ls : List Lexeme} (hc : isWordChar c = true)
    (h : Proper ls) : Proper (lengthen c ls) := by
  cases h with
  | nil => exact Proper.word (by simp) (by simpa using hc) (by simp [spell]) Proper.nil
  | mark hmark hrest =>
      refine Proper.word (by simp) (by simpa using hc) ?_ (Proper.mark hmark hrest)
      intro d hd
      cases hd
      exact hmark
  | word hne hall hend hrest =>
      refine Proper.word (by simp) ?_ hend hrest
      intro d hd
      rcases List.mem_cons.1 hd with rfl | hd
      · exact hc
      · exact hall d hd

theorem cut_proper (t : List Char) : Proper (cut t) := by
  induction t with
  | nil => exact Proper.nil
  | cons c cs ih =>
      by_cases hc : isWordChar c = true
      · rw [cut_cons_word hc]
        exact ih.lengthen hc
      · rw [cut_cons_mark (by simpa using hc)]
        exact Proper.mark (by simpa using hc) ih

theorem Proper.eq_mark {ls : List Lexeme} {c : Char} (h : Proper ls) (hc : isWordChar c = false)
    (hhead : (spell ls).head? = some c) : ∃ rest, ls = Lexeme.mark c :: rest := by
  cases h with
  | nil => cases hhead
  | mark _ _ =>
      cases hhead
      exact ⟨_, rfl⟩
  | @word w ls hne hall _ _ =>
      rcases List.exists_cons_of_ne_nil hne with ⟨d, ds, rfl⟩
      have heq : d = c := by simpa [chars] using hhead
      rw [← heq, hall d List.mem_cons_self] at hc
      cases hc

theorem cut_append {a b : List Char} (h : Parted a b) : cut (a ++ b) = cut a ++ cut b := by
  induction a with
  | nil => rfl
  | cons c a ih =>
      have hparted : Parted a b := by
        intro d hd
        cases a with
        | nil => cases hd
        | cons e a => exact h d (by simpa using hd)
      by_cases hc : isWordChar c = true
      · rw [List.cons_append, cut_cons_word hc, cut_cons_word hc, ih hparted]
        cases a with
        | nil =>
            -- The word ends with this character, so no word comes first behind it.
            have hhead := h c rfl hc
            cases b with
            | nil => rfl
            | cons d b =>
                rw [cut_cons_mark (hhead d rfl)]
                rfl
        | cons d a =>
            cases hcut : cut (d :: a) with
            | nil => simpa [hcut, spell] using spell_cut (d :: a)
            | cons l ls => cases l <;> rfl
      · have hmark : isWordChar c = false := by simpa using hc
        rw [List.cons_append, cut_cons_mark hmark, cut_cons_mark hmark, ih hparted,
          List.cons_append]

theorem cut_word {w : List Char} (hne : w ≠ []) (hall : ∀ c ∈ w, isWordChar c = true) :
    cut w = [word w] := by
  induction w with
  | nil => exact absurd rfl hne
  | cons c cs ih =>
      rw [cut_cons_word (hall c List.mem_cons_self)]
      cases cs with
      | nil => rfl
      | cons d ds =>
          rw [ih (by simp) fun e he => hall e (List.mem_cons_of_mem _ he)]
          rfl

/-! ## Words -/

/-- The words among lexemes that start at `offset`. -/
def wordRuns : (offset : Nat) → List Lexeme → List Run
  | _, [] => []
  | offset, word w :: rest => ⟨offset, w⟩ :: wordRuns (offset + Text.byteLength w) rest
  | offset, mark c :: rest => wordRuns (offset + c.utf8Size) rest

variable {front : List Char} {offset : Nat} {ls : List Lexeme} {r v : Run}

theorem le_start_of_mem_wordRuns (h : r ∈ wordRuns offset ls) : offset ≤ r.start := by
  fun_induction wordRuns offset ls with
  | case1 => cases h
  | case2 offset w rest ih =>
      rcases List.mem_cons.1 h with rfl | h
      · exact Nat.le_refl _
      · have hrest := ih h
        omega
  | case3 offset c rest ih =>
      have hrest := ih h
      omega

theorem Proper.eq_word_of_start (h : Proper ls) (hr : r ∈ wordRuns offset ls)
    (hstart : r.start = offset) : ∃ rest, ls = Lexeme.word r.chars :: rest := by
  cases h with
  | nil => cases hr
  | @mark c ls _ _ =>
      have hpos : 0 < c.utf8Size := c.utf8Size_pos
      have hle : offset + c.utf8Size ≤ r.start := le_start_of_mem_wordRuns hr
      omega
  | @word w ls hne _ _ _ =>
      rcases List.mem_cons.1 hr with rfl | hr
      · exact ⟨ls, rfl⟩
      · have hpos : 0 < Text.byteLength w :=
          Nat.pos_of_ne_zero fun hzero => hne (byteLength_eq_zero_iff.1 hzero)
        have hle : offset + Text.byteLength w ≤ r.start := le_start_of_mem_wordRuns hr
        omega

theorem wordRuns_append (offset : Nat) (ls ms : List Lexeme) :
    wordRuns offset (ls ++ ms) =
      wordRuns offset ls ++ wordRuns (offset + Text.byteLength (spell ls)) ms := by
  fun_induction wordRuns offset ls with
  | case1 offset => simp [spell]
  | case2 offset w rest ih => simp [wordRuns, ih, chars, Nat.add_assoc]
  | case3 offset c rest ih => simp [wordRuns, ih, chars, Nat.add_assoc]

theorem Proper.isRun {w : List Char} (h : Proper (Lexeme.word w :: ls))
    (hparted : Parted front (w ++ spell ls)) : IsRun isWordChar front w (spell ls) := by
  cases h with
  | word hne hall hend _ => exact ⟨hne, hall, hparted.left hne hall, hend⟩

/-- Where a text begins with a word, its lexemes do. -/
theorem Proper.eq_word {w rest : List Char} (h : Proper ls) (hrun : IsRun isWordChar front w rest)
    (hspell : spell ls = w ++ rest) : ∃ later, ls = Lexeme.word w :: later := by
  cases h with
  | nil => exact absurd (List.append_eq_nil_iff.1 hspell.symm).1 hrun.ne_nil
  | @mark c ls hc _ =>
      rcases List.exists_cons_of_ne_nil hrun.ne_nil with ⟨d, ds, rfl⟩
      have heq : c = d := (List.cons.inj hspell).1
      rw [heq, hrun.all d List.mem_cons_self] at hc
      cases hc
  | @word u ls hne hall hend _ =>
      have hu : IsRun isWordChar front u (spell ls) := ⟨hne, hall, hrun.left, hend⟩
      have heq : u = w := by
        calc u = (u ++ spell ls).takeWhile isWordChar := hu.takeWhile_eq.symm
          _ = (w ++ rest).takeWhile isWordChar := congrArg _ hspell
          _ = w := hrun.takeWhile_eq
      exact ⟨ls, by rw [heq]⟩

theorem Proper.maximalIn (h : Proper ls) (hparted : Parted front (spell ls))
    (hr : r ∈ wordRuns (Text.byteLength front) ls) :
    r.MaximalIn isWordChar (front ++ spell ls) := by
  induction h generalizing front with
  | nil => cases hr
  | @mark c ls hc _ ih =>
      have htext : front ++ spell (Lexeme.mark c :: ls) = (front ++ [c]) ++ spell ls := by
        simp [chars]
      rw [htext]
      exact ih (parted_of_mark hc) (by rwa [byteLength_append_mark])
  | @word w ls hne hall hend hrest ih =>
      rcases List.mem_cons.1 hr with rfl | hr
      · exact ⟨front, spell ls, rfl, rfl, (Proper.word hne hall hend hrest).isRun hparted⟩
      · have htext : front ++ spell (Lexeme.word w :: ls) = (front ++ w) ++ spell ls := by
          simp [chars]
        rw [htext]
        exact ih (parted_of_head hend) (by rwa [byteLength_append])

theorem Proper.wordRuns_apart (h : Proper ls) (offset : Nat) :
    (wordRuns offset ls).Pairwise Run.Apart := by
  induction h generalizing offset with
  | nil => exact List.Pairwise.nil
  | mark _ _ ih => exact ih _
  | @word w ls _ _ hend hrest ih =>
      refine List.Pairwise.cons ?_ (ih _)
      intro v hv
      -- What follows the word begins with a mark.
      cases hrest with
      | nil => cases hv
      | @mark c ls _ _ =>
          have hpos : 0 < c.utf8Size := c.utf8Size_pos
          have hle : offset + Text.byteLength w + c.utf8Size ≤ v.start :=
            le_start_of_mem_wordRuns hv
          simp only [Run.Apart, Run.span]
          omega
      | @word u ls hne hall _ _ =>
          rcases List.exists_cons_of_ne_nil hne with ⟨c, cs, rfl⟩
          have hc := hend c rfl
          rw [hall c List.mem_cons_self] at hc
          cases hc

theorem mem_wordRuns_cut {text : List Char} :
    r ∈ wordRuns 0 (cut text) ↔ r.MaximalIn isWordChar text := by
  constructor
  · intro hr
    have hmax := (cut_proper text).maximalIn (parted_nil _) (r := r) hr
    rwa [List.nil_append, spell_cut] at hmax
  · rintro ⟨before, after, rfl, hstart, hrun⟩
    have hbefore : Parted before (r.chars ++ after) := by
      intro c hc hword
      rw [hrun.left c hc] at hword
      cases hword
    rw [cut_append hbefore, cut_append (parted_of_head hrun.right), cut_word hrun.ne_nil hrun.all,
      wordRuns_append, spell_cut, Nat.zero_add, hstart]
    exact List.mem_append_right _ List.mem_cons_self

end Lexeme

/-! ## Dots between words -/

namespace Text.Run

variable {text : List Char} {r v : Run}

/-- Between two runs of a text stands one dot and nothing else. -/
def Dotted (text : List Char) (r v : Run) : Prop :=
  slice? r.span.stop v.start text = some ['.']

instance (text : List Char) (r v : Run) : Decidable (Dotted text r v) :=
  inferInstanceAs (Decidable (_ = _))

theorem byteLength_append_dot (front w : List Char) :
    byteLength (front ++ w ++ ['.']) = byteLength front + byteLength w + 1 := by
  rw [byteLength_append, byteLength_append]
  rfl

theorem Dotted.start_eq (h : Dotted text r v) : v.start = r.span.stop + 1 := by
  have hlen : 1 = v.start - r.span.stop := byteLength_slice? h
  omega

theorem dotted_iff {front w rest : List Char} :
    Dotted (front ++ (w ++ rest)) ⟨byteLength front, w⟩ v ↔
      rest.head? = some '.' ∧ v.start = byteLength front + byteLength w + 1 := by
  have hstop : Run.span ⟨byteLength front, w⟩ = ⟨byteLength front, byteLength (front ++ w)⟩ := by
    simp [span]
  constructor
  · intro h
    refine ⟨?_, h.start_eq⟩
    rw [Dotted, hstop, ← List.append_assoc] at h
    rcases eq_append_of_slice? h with ⟨r, rfl⟩
    rfl
  · rintro ⟨hhead, hstart⟩
    rcases List.head?_eq_some_iff.1 hhead with ⟨rest, rfl⟩
    have hslice := slice?_append (front ++ w) ['.'] rest
    have hv : v.start = byteLength (front ++ w) + byteLength ['.'] := by
      rw [hstart, byteLength_append]
      rfl
    rw [Dotted, hstop, hv]
    simpa using hslice

end Text.Run

/-! ## Tokens of one class -/

/-- The tokens of a class, in the order in which they are listed. -/
def tokenSpans (text : List Char) (c : Category) : List Span :=
  ((classify text).filter (·.1 == c)).map (·.2)

/-- A list has exactly the spans with a property, one behind the other, in front of `high`. -/
def Span.Lists (high : Nat) (spans : List Span) (has : Span → Prop) : Prop :=
  Span.Ascending 0 high spans ∧ ∀ s, s ∈ spans ↔ has s

theorem tokenSpans_ascending (text : List Char) (c : Category) :
    Span.Ascending 0 (byteLength text) (tokenSpans text c) := by
  have hcarved := (Classification.pass_carved text c).ascending
  rwa [tokenSpans, classify_filter, ← Nat.zero_add (byteLength text)]

end EmbeddedSql
