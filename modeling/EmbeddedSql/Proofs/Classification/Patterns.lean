import EmbeddedSql.Proofs.Classification.Words

/-!
# Patterns — leftmost-first search in a text

The classes of tokens can also be described by patterns.  A pattern may match in several ways, and
the ways have an order: what comes first in a choice is preferred, and more repetitions are
preferred to fewer.  A search goes over the text from left to right, takes the preferred way at the
first place where there is one, and goes on behind it.

* `Cursor` — a place in a text; `Cursor.atEdge` — whether a word begins or ends there;
* `Pattern`, `Pattern.ways` — patterns, and the ways in which they match, preferred ways first;
* `Pattern.search` — all matches in a text;
* `Pattern.Greedy` — as many repetitions as possible, each in the preferred way;
* `Pattern.led` — a character of one class and then those of another;
* `Pattern.Denotes` — the texts that a pattern reads; `Pattern.Fits` — a match of a whole text;
* `Pattern.Anchored` — patterns whose matches begin where a word begins, and how a search for them
  goes over marks and words;
* `Pattern.search_eq_pass` — how to compare a search with a pass over lexemes.
-/

namespace EmbeddedSql

open Text Lexeme

/-! ## Places -/

/-- A place in a text, by what stands in front of it and what follows it. -/
structure Cursor where
  front : List Char
  rest : List Char
deriving DecidableEq, Repr

namespace Cursor

/-- Whether a word character stands right in front of a place. -/
def wordBefore (k : Cursor) : Bool :=
  k.front.getLast?.any isWordChar

/-- Whether a word character follows. -/
def wordAfter (k : Cursor) : Bool :=
  k.rest.head?.any isWordChar

/-- Whether a word begins or ends at a place. -/
def atEdge (k : Cursor) : Bool :=
  k.wordBefore != k.wordAfter

/-- The characters between two places. -/
def Reads (k : Cursor) (t : List Char) (k' : Cursor) : Prop :=
  k'.front = k.front ++ t ∧ k.rest = t ++ k'.rest

theorem Reads.refl (k : Cursor) : k.Reads [] k :=
  ⟨by simp, rfl⟩

theorem Reads.trans {k k' k'' : Cursor} {t u : List Char} (h : k.Reads t k')
    (h' : k'.Reads u k'') : k.Reads (t ++ u) k'' :=
  ⟨by simp [h'.1, h.1], by simp [h.2, h'.2]⟩

theorem Reads.split {k k' : Cursor} {t u : List Char} (h : k.Reads (t ++ u) k') :
    ∃ k₁, k.Reads t k₁ ∧ k₁.Reads u k' :=
  ⟨⟨k.front ++ t, u ++ k'.rest⟩, ⟨rfl, by simp [h.2]⟩, ⟨by simp [h.1], rfl⟩⟩

theorem reads_nil_iff {k k' : Cursor} : k.Reads [] k' ↔ k' = k := by
  rcases k with ⟨front, rest⟩
  rcases k' with ⟨front', rest'⟩
  simp [Reads, eq_comm]

variable {front w t rest : List Char} {k : Cursor}

theorem wordBefore_append (hne : t ≠ []) (hall : ∀ c ∈ t, isWordChar c = true) :
    wordBefore ⟨front ++ t, rest⟩ = true := by
  rcases List.eq_nil_or_concat t with rfl | ⟨t, c, rfl⟩
  · exact absurd rfl hne
  · simp [wordBefore, hall c (by simp)]

theorem wordAfter_append (hne : t ≠ []) (hall : ∀ c ∈ t, isWordChar c = true) :
    wordAfter ⟨front, t ++ rest⟩ = true := by
  rcases List.exists_cons_of_ne_nil hne with ⟨c, t, rfl⟩
  simp [wordAfter, hall c List.mem_cons_self]

theorem wordBefore_eq_false (h : ∀ c ∈ front.getLast?, isWordChar c = false) :
    wordBefore ⟨front, rest⟩ = false := by
  rw [wordBefore]
  cases hlast : front.getLast? with
  | none => rfl
  | some c => exact h c hlast

theorem wordAfter_eq_false (h : ∀ c ∈ rest.head?, isWordChar c = false) :
    wordAfter ⟨front, rest⟩ = false := by
  rw [wordAfter]
  cases hhead : rest.head? with
  | none => rfl
  | some c => exact h c hhead

theorem atEdge_start (h : IsRun isWordChar front w rest) : atEdge ⟨front, w ++ rest⟩ = true := by
  rw [atEdge, wordBefore_eq_false h.left, wordAfter_append h.ne_nil h.all]
  rfl

theorem atEdge_stop (h : IsRun isWordChar front w rest) : atEdge ⟨front ++ w, rest⟩ = true := by
  rw [atEdge, wordBefore_append h.ne_nil h.all, wordAfter_eq_false h.right]
  rfl

/-- Word characters that are read from the beginning of a word up to an edge are all of the word. -/
theorem Reads.eq_word (h : IsRun isWordChar front w rest) (hreads : Reads ⟨front, w ++ rest⟩ t k)
    (hne : t ≠ []) (hall : ∀ c ∈ t, isWordChar c = true) (hedge : k.atEdge = true) : t = w := by
  rcases k with ⟨front', rest'⟩
  have heq : w ++ rest = t ++ rest' := hreads.2
  have hfront : front' = front ++ t := hreads.1
  subst hfront
  rcases List.append_eq_append_iff.1 heq with ⟨y, hy, rfl⟩ | ⟨y, hy, rfl⟩
  · -- More than the word: what follows it is no word character.
    cases y with
    | nil => simpa using hy
    | cons c y =>
        have hc : isWordChar c = false := h.right c rfl
        rw [hall c (by simp [hy])] at hc
        cases hc
  · -- Less than the word: it would go on on both sides of the edge.
    cases y with
    | nil => simpa using hy.symm
    | cons c y =>
        have hafter : wordAfter ⟨front ++ t, (c :: y) ++ rest⟩ = true :=
          wordAfter_append (by simp) fun d hd => h.all d (hy ▸ List.mem_append_right _ hd)
        rw [atEdge, wordBefore_append hne hall, hafter] at hedge
        cases hedge

end Cursor

/-! ## Patterns -/

/-- What to look for in a text. -/
inductive Pattern where
  /-- The empty text. -/
  | nothing
  /-- The empty text, where a word begins or ends. -/
  | edge
  /-- One character of a class. -/
  | one (ok : Char → Bool)
  /-- One pattern and then another. -/
  | seq (p q : Pattern)
  /-- One of two patterns, the first one preferred. -/
  | either (p q : Pattern)
  /-- A pattern as often as possible, or less often. -/
  | many (p : Pattern)

namespace Pattern

/-- The ways to repeat what has the given ways, at most `n` times.  Every repetition goes ahead. -/
def repeated (ways : Cursor → List Cursor) : (n : Nat) → Cursor → List Cursor
  | 0, k => [k]
  | n + 1, k =>
    ((ways k).filter fun k' => k'.rest.length < k.rest.length).flatMap (repeated ways n) ++ [k]

/-- The places behind the matches of a pattern, preferred matches first. -/
def ways : Pattern → Cursor → List Cursor
  | nothing, k => [k]
  | edge, k => if k.atEdge then [k] else []
  | one ok, k =>
    match k.rest with
    | [] => []
    | c :: cs => if ok c then [⟨k.front ++ [c], cs⟩] else []
  | seq p q, k => (p.ways k).flatMap q.ways
  | either p q, k => p.ways k ++ q.ways k
  | many p, k => repeated p.ways k.rest.length k

/-- The place behind the preferred match, if that is not empty. -/
def match? (p : Pattern) (k : Cursor) : Option Cursor :=
  (p.ways k).head?.filter fun k' => k'.rest.length < k.rest.length

theorem length_lt_of_match? {p : Pattern} {k k' : Cursor} (h : p.match? k = some k') :
    k'.rest.length < k.rest.length := by
  simpa using (Option.filter_eq_some_iff.1 h).2

/-- The matches at a place and behind it. -/
def searchFrom (p : Pattern) (k : Cursor) : List Span :=
  match _h : p.match? k with
  | some k' => ⟨byteLength k.front, byteLength k'.front⟩ :: searchFrom p k'
  | none =>
    match _hrest : k.rest with
    | [] => []
    | c :: cs => searchFrom p ⟨k.front ++ [c], cs⟩
termination_by k.rest.length
decreasing_by
  · exact length_lt_of_match? _h
  · simp [_hrest]

/-- The matches of a pattern in a text. -/
def search (p : Pattern) (text : List Char) : List Span :=
  p.searchFrom ⟨[], text⟩

/-! ## Preferred ways -/

variable {p q : Pattern} {ok : Char → Bool} {f : Cursor → List Cursor} {k k' k'' : Cursor}
  {front rest : List Char} {n : Nat}

theorem ways_one_cons (c : Char) :
    (one ok).ways ⟨front, c :: rest⟩ = if ok c = true then [⟨front ++ [c], rest⟩] else [] := rfl

theorem mem_seq : k'' ∈ (seq p q).ways k ↔ ∃ k' ∈ p.ways k, k'' ∈ q.ways k' :=
  List.mem_flatMap

theorem mem_edge : k' ∈ edge.ways k ↔ k.atEdge = true ∧ k' = k := by
  by_cases hedge : k.atEdge = true <;> simp [ways, hedge]

theorem mem_one : k' ∈ (one ok).ways k ↔ ∃ c, ok c = true ∧ k.Reads [c] k' := by
  rcases k with ⟨front, _ | ⟨c, cs⟩⟩
  · simp [ways, Cursor.Reads]
  · rcases k' with ⟨front', rest'⟩
    by_cases hc : ok c = true
    · simp only [ways_one_cons, hc, if_true, List.mem_singleton, Cursor.mk.injEq, Cursor.Reads]
      constructor
      · rintro ⟨rfl, rfl⟩
        exact ⟨c, hc, rfl, rfl⟩
      · rintro ⟨d, -, hfront, hrest⟩
        rcases List.cons.inj hrest with ⟨rfl, rfl⟩
        exact ⟨hfront, rfl⟩
    · simp only [ways_one_cons, hc, Bool.false_eq_true, if_false, List.not_mem_nil, false_iff]
      rintro ⟨d, hd, -, hrest⟩
      rcases List.cons.inj hrest with ⟨rfl, -⟩
      exact hc hd

theorem head?_seq (h : (p.ways k).head? = some k') (h' : (q.ways k').head? = some k'') :
    ((seq p q).ways k).head? = some k'' := by
  rcases List.head?_eq_some_iff.1 h with ⟨more, hmore⟩
  rw [ways, hmore, List.flatMap_cons, List.head?_append, h']
  rfl

theorem head?_edge (h : k.atEdge = true) : (edge.ways k).head? = some k := by
  simp [ways, h]

/-- As many repetitions as there can be, each in the preferred way. -/
inductive Greedy (f : Cursor → List Cursor) : Cursor → Cursor → Prop
  | stop {k : Cursor} (hnone : f k = []) : Greedy f k k
  | step {k k' k'' : Cursor} (hhead : (f k).head? = some k')
      (hahead : k'.rest.length < k.rest.length) (hrest : Greedy f k' k'') : Greedy f k k''

/-- The number of characters left bounds the number of repetitions. -/
theorem Greedy.head?_repeated (h : Greedy f k k') (hn : k.rest.length ≤ n) :
    (repeated f n k).head? = some k' := by
  induction h generalizing n with
  | stop hnone =>
      cases n with
      | zero => rfl
      | succ n => simp [repeated, hnone]
  | @step k k' k'' hhead hahead _ ih =>
      cases n with
      -- Nothing is left to read, so there is no step ahead.
      | zero => omega
      | succ n =>
          rcases List.head?_eq_some_iff.1 hhead with ⟨more, hmore⟩
          rw [repeated, hmore, List.filter_cons, if_pos (by simpa using hahead),
            List.flatMap_cons, List.append_assoc, List.head?_append, ih (by omega)]
          rfl

theorem Greedy.head?_many (h : Greedy p.ways k k') : ((many p).ways k).head? = some k' :=
  h.head?_repeated (Nat.le_refl _)

theorem Greedy.length_le (h : Greedy f k k') : k'.rest.length ≤ k.rest.length := by
  induction h with
  | stop => exact Nat.le_refl _
  | step _ hahead _ ih => omega

theorem exists_greedy (hahead : ∀ k k', k' ∈ f k → k'.rest.length < k.rest.length) (k : Cursor) :
    ∃ k', Greedy f k k' := by
  cases hhead : (f k).head? with
  | none => exact ⟨k, .stop (by simpa using hhead)⟩
  | some k' =>
      have hlt := hahead k k' (List.mem_of_head? hhead)
      rcases exists_greedy hahead k' with ⟨k'', hk''⟩
      exact ⟨k'', .step hhead hlt hk''⟩
termination_by k.rest.length

/-! ## Repeated characters -/

theorem greedy_one {w : List Char} (hall : ∀ c ∈ w, ok c = true)
    (hend : ∀ c ∈ rest.head?, ok c = false) :
    Greedy (one ok).ways ⟨front, w ++ rest⟩ ⟨front ++ w, rest⟩ := by
  induction w generalizing front with
  | nil =>
      simp only [List.nil_append, List.append_nil]
      refine Greedy.stop ?_
      cases rest with
      | nil => rfl
      | cons c rest => simp [ways_one_cons, hend c rfl]
  | cons c w ih =>
      have hc : ok c = true := hall c List.mem_cons_self
      have hlater := @ih (front ++ [c]) fun d hd => hall d (List.mem_cons_of_mem _ hd)
      rw [List.append_assoc] at hlater
      have hhead : ((one ok).ways ⟨front, c :: (w ++ rest)⟩).head? =
          some ⟨front ++ [c], w ++ rest⟩ := by
        rw [ways_one_cons, if_pos hc]
        rfl
      exact Greedy.step hhead (by simp) hlater

theorem mem_many_one (h : k' ∈ (many (one ok)).ways k) :
    ∃ t, (∀ c ∈ t, ok c = true) ∧ k.Reads t k' := by
  -- The bound on the repetitions plays no part, so it is arbitrary.
  have hrepeated : ∀ n k, k' ∈ repeated (one ok).ways n k →
      ∃ t, (∀ c ∈ t, ok c = true) ∧ k.Reads t k' := by
    intro n
    induction n with
    | zero =>
        intro k hk
        cases List.mem_singleton.1 hk
        exact ⟨[], by simp, Cursor.Reads.refl _⟩
    | succ n ih =>
        intro k hk
        rcases List.mem_append.1 hk with hk | hk
        · rcases List.mem_flatMap.1 hk with ⟨k₁, hk₁, hk⟩
          rcases mem_one.1 (List.mem_filter.1 hk₁).1 with ⟨c, hc, hread⟩
          rcases ih k₁ hk with ⟨t, ht, hreads⟩
          refine ⟨c :: t, ?_, hread.trans hreads⟩
          intro d hd
          rcases List.mem_cons.1 hd with rfl | hd
          · exact hc
          · exact ht d hd
        · cases List.mem_singleton.1 hk
          exact ⟨[], by simp, Cursor.Reads.refl _⟩
  exact hrepeated _ k h

/-- One character of a class, and then characters of another. -/
def led (first more : Char → Bool) : Pattern :=
  seq (one first) (many (one more))

/-- A dot. -/
def dot : Pattern :=
  one (· == '.')

variable {first more : Char → Bool}

theorem head?_led {c : Char} {cs : List Char} (hc : first c = true)
    (hall : ∀ d ∈ cs, more d = true) (hend : ∀ d ∈ rest.head?, more d = false) :
    ((led first more).ways ⟨front, c :: cs ++ rest⟩).head? = some ⟨front ++ c :: cs, rest⟩ := by
  have hfirst : ((one first).ways ⟨front, c :: cs ++ rest⟩).head? =
      some ⟨front ++ [c], cs ++ rest⟩ := by
    rw [List.cons_append, ways_one_cons, if_pos hc]
    rfl
  have hmany := (@greedy_one _ (front ++ [c]) _ _ hall hend).head?_many
  rw [List.append_assoc] at hmany
  exact head?_seq hfirst hmany

theorem mem_led (h : k' ∈ (led first more).ways k) :
    ∃ c t, first c = true ∧ (∀ d ∈ t, more d = true) ∧ k.Reads (c :: t) k' := by
  rcases mem_seq.1 h with ⟨k₁, hfirst, hlater⟩
  rcases mem_one.1 hfirst with ⟨c, hc, hread⟩
  rcases mem_many_one hlater with ⟨t, ht, hreads⟩
  exact ⟨c, t, hc, ht, hread.trans hreads⟩

/-- Behind a dot a word begins wherever a character of a word is read. -/
theorem mem_dot_led (hwords : ∀ c, first c = true → isWordChar c = true)
    (h : k' ∈ (seq dot (led first more)).ways ⟨front, rest⟩) :
    ∃ c cs later, rest = '.' :: (c :: cs ++ later) ∧ first c = true ∧
      IsRun isWordChar (front ++ ['.']) (c :: cs) later ∧
        k' ∈ (led first more).ways ⟨front ++ ['.'], c :: cs ++ later⟩ := by
  rcases mem_seq.1 h with ⟨⟨front', rest'⟩, hdot, hk'⟩
  rcases mem_one.1 hdot with ⟨d, hd, hfront, hrest⟩
  rcases mem_led hk' with ⟨c, t, hc, -, -, hrest'⟩
  rcases @exists_isRun isWordChar (front ++ ['.']) (t ++ k'.rest) c (hwords c hc)
    (not_word_of_mark rfl) with ⟨cs, later, hsplit, hrun⟩
  have htail : rest' = c :: cs ++ later := by
    calc rest' = c :: (t ++ k'.rest) := hrest'
      _ = c :: cs ++ later := by rw [hsplit]; rfl
  rw [beq_iff_eq.1 hd] at hfront hrest
  rw [show front' = front ++ ['.'] from hfront, htail] at hk'
  exact ⟨c, cs, later, hrest.trans (by rw [htail]; rfl), hc, hrun, hk'⟩

/-! ## Texts that are read -/

/-- A pattern reads the texts of a language and no others, wherever they stand. -/
def Denotes (p : Pattern) (L : List Char → Prop) : Prop :=
  ∀ k k', k' ∈ p.ways k ↔ ∃ t, L t ∧ k.Reads t k'

/-- A match from the beginning of a text to its end. -/
def Fits (p : Pattern) (text : List Char) : Prop :=
  ∃ k ∈ p.ways ⟨[], text⟩, k.rest = []

variable {L M : List Char → Prop}

theorem denotes_nothing : Denotes nothing (· = []) := by
  intro k k'
  simp [ways, Cursor.reads_nil_iff]

theorem denotes_one : Denotes (one ok) fun t => ∃ c, ok c = true ∧ t = [c] := by
  intro k k'
  rw [mem_one]
  constructor
  · rintro ⟨c, hc, hread⟩
    exact ⟨[c], ⟨c, hc, rfl⟩, hread⟩
  · rintro ⟨_, ⟨c, hc, rfl⟩, hread⟩
    exact ⟨c, hc, hread⟩

theorem denotes_char (c : Char) : Denotes (one (· == c)) (· = [c]) := by
  intro k k'
  rw [mem_one]
  simp

theorem denotes_many_one : Denotes (many (one ok)) fun t => ∀ c ∈ t, ok c = true := by
  intro k k'
  refine ⟨mem_many_one, ?_⟩
  rintro ⟨t, ht, hreads⟩
  -- As many repetitions as there are characters in the text are allowed.
  have hbound : t.length ≤ k.rest.length := by
    rw [hreads.2, List.length_append]
    exact Nat.le_add_right _ _
  have hrepeated : ∀ n k, k.Reads t k' → t.length ≤ n → k' ∈ repeated (one ok).ways n k := by
    clear hreads hbound
    induction t with
    | nil =>
        intro n k hreads _
        cases Cursor.reads_nil_iff.1 hreads
        cases n <;> simp [repeated]
    | cons c t ih =>
        intro n k hreads hn
        rcases List.forall_mem_cons.1 ht with ⟨hc, ht⟩
        cases n with
        | zero => cases hn
        | succ n =>
            rcases Cursor.Reads.split (t := [c]) hreads with ⟨k₁, hread, hlater⟩
            have hahead : k₁.rest.length < k.rest.length := by simp [hread.2]
            refine List.mem_append_left _ (List.mem_flatMap.2 ⟨k₁, ?_, ?_⟩)
            · exact List.mem_filter.2 ⟨mem_one.2 ⟨c, hc, hread⟩, by simpa using hahead⟩
            · exact ih ht n k₁ hlater (Nat.le_of_succ_le_succ hn)
  exact hrepeated _ k hreads hbound

theorem Denotes.seq (hp : Denotes p L) (hq : Denotes q M) :
    Denotes (seq p q) fun t => ∃ a b, t = a ++ b ∧ L a ∧ M b := by
  intro k k''
  rw [mem_seq]
  constructor
  · rintro ⟨k', hk', hk''⟩
    rcases (hp k k').1 hk' with ⟨a, ha, hreads⟩
    rcases (hq k' k'').1 hk'' with ⟨b, hb, hreads'⟩
    exact ⟨a ++ b, ⟨a, b, rfl, ha, hb⟩, hreads.trans hreads'⟩
  · rintro ⟨_, ⟨a, b, rfl, ha, hb⟩, hreads⟩
    rcases hreads.split with ⟨k', hfirst, hlater⟩
    exact ⟨k', (hp k k').2 ⟨a, ha, hfirst⟩, (hq k' k'').2 ⟨b, hb, hlater⟩⟩

theorem Denotes.either (hp : Denotes p L) (hq : Denotes q M) :
    Denotes (either p q) fun t => L t ∨ M t := by
  intro k k'
  rw [ways, List.mem_append, hp, hq]
  constructor
  · rintro (⟨t, ht, hreads⟩ | ⟨t, ht, hreads⟩)
    · exact ⟨t, .inl ht, hreads⟩
    · exact ⟨t, .inr ht, hreads⟩
  · rintro ⟨t, ht | ht, hreads⟩
    · exact .inl ⟨t, ht, hreads⟩
    · exact .inr ⟨t, ht, hreads⟩

theorem Denotes.fits_iff (h : Denotes p L) {text : List Char} : p.Fits text ↔ L text := by
  constructor
  · rintro ⟨k, hk, hend⟩
    rcases (h _ k).1 hk with ⟨t, ht, -, htext⟩
    rw [hend, List.append_nil] at htext
    rwa [show text = t from htext]
  · intro htext
    exact ⟨⟨text, []⟩, (h _ _).2 ⟨text, htext, by simp [Cursor.Reads]⟩, rfl⟩

/-! ## Searching -/

/-- The preferred match is taken, and the search goes on behind it. -/
theorem searchFrom_hit (h : (p.ways k).head? = some k')
    (hahead : k'.rest.length < k.rest.length) :
    p.searchFrom k = ⟨byteLength k.front, byteLength k'.front⟩ :: p.searchFrom k' := by
  have hmatch : p.match? k = some k' := by simp [match?, h, hahead]
  rw [searchFrom]
  split
  · rename_i heq
    rw [hmatch] at heq
    cases heq
    rfl
  · rename_i heq
    rw [hmatch] at heq
    cases heq

theorem searchFrom_miss {c : Char} (h : p.ways ⟨front, c :: rest⟩ = []) :
    p.searchFrom ⟨front, c :: rest⟩ = p.searchFrom ⟨front ++ [c], rest⟩ := by
  have hmatch : p.match? ⟨front, c :: rest⟩ = none := by simp [match?, h]
  rw [searchFrom]
  split
  · rename_i heq
    rw [hmatch] at heq
    cases heq
  · rfl

theorem searchFrom_end (h : p.ways ⟨front, []⟩ = []) : p.searchFrom ⟨front, []⟩ = [] := by
  have hmatch : p.match? ⟨front, []⟩ = none := by simp [match?, h]
  rw [searchFrom]
  split
  · rename_i heq
    rw [hmatch] at heq
    cases heq
  · rfl

/-- Every match begins with a word character. -/
def Opens (p : Pattern) : Prop :=
  ∀ k k', k' ∈ p.ways k → k.wordAfter = true

/-- Every match begins where a word begins. -/
def Anchored (p : Pattern) : Prop :=
  ∀ k k', k' ∈ p.ways k → k.wordBefore = false ∧ k.wordAfter = true

theorem opens_led (h : ∀ c, first c = true → isWordChar c = true) : Opens (led first more) := by
  intro k k' hk
  rcases mem_led hk with ⟨c, t, hc, -, -, hrest⟩
  simp [Cursor.wordAfter, hrest, h c hc]

theorem Opens.seq (h : Opens p) (q : Pattern) : Opens (seq p q) := by
  intro k k'' hk
  rcases mem_seq.1 hk with ⟨k', hk', -⟩
  exact h k k' hk'

theorem Opens.anchored (h : Opens p) : Anchored (edge.seq p) := by
  intro k k' hk
  rcases mem_seq.1 hk with ⟨k₁, hk₁, hlater⟩
  rcases mem_edge.1 hk₁ with ⟨hedge, rfl⟩
  have hafter := h _ k' hlater
  refine ⟨?_, hafter⟩
  simpa [Cursor.atEdge, hafter] using hedge

namespace Anchored

variable {w : List Char}

theorem ways_eq_nil (hp : Anchored p) (h : k.wordBefore = true ∨ k.wordAfter = false) :
    p.ways k = [] := by
  rw [List.eq_nil_iff_forall_not_mem]
  intro k' hk'
  simp [hp k k' hk'] at h

theorem searchFrom_nil (hp : Anchored p) (front : List Char) : p.searchFrom ⟨front, []⟩ = [] :=
  searchFrom_end (hp.ways_eq_nil (.inr rfl))

theorem searchFrom_mark (hp : Anchored p) {c : Char} (hc : isWordChar c = false) :
    p.searchFrom ⟨front, c :: rest⟩ = p.searchFrom ⟨front ++ [c], rest⟩ := by
  refine searchFrom_miss (hp.ways_eq_nil (.inr ?_))
  simp [Cursor.wordAfter, hc]

/-- Inside a word there is no match. -/
theorem searchFrom_inside (hp : Anchored p) (hfront : ∃ c ∈ front.getLast?, isWordChar c = true)
    (hall : ∀ c ∈ w, isWordChar c = true) :
    p.searchFrom ⟨front, w ++ rest⟩ = p.searchFrom ⟨front ++ w, rest⟩ := by
  induction w generalizing front with
  | nil => simp
  | cons c w ih =>
      have hbefore : Cursor.wordBefore ⟨front, c :: (w ++ rest)⟩ = true := by
        rcases hfront with ⟨d, hd, hword⟩
        have hlast : front.getLast? = some d := hd
        simp [Cursor.wordBefore, hlast, hword]
      rw [List.cons_append, searchFrom_miss (hp.ways_eq_nil (.inl hbefore)),
        ih ⟨c, by simp, hall c List.mem_cons_self⟩ fun d hd => hall d (List.mem_cons_of_mem _ hd),
        List.append_assoc]
      rfl

/-- Without a match at its beginning, a word is passed over. -/
theorem searchFrom_word (hp : Anchored p) (hall : ∀ c ∈ w, isWordChar c = true)
    (hnone : p.ways ⟨front, w ++ rest⟩ = []) :
    p.searchFrom ⟨front, w ++ rest⟩ = p.searchFrom ⟨front ++ w, rest⟩ := by
  cases w with
  | nil => simp
  | cons c w =>
      have hc : isWordChar c = true := hall c List.mem_cons_self
      rw [List.cons_append] at hnone ⊢
      rw [searchFrom_miss hnone,
        hp.searchFrom_inside ⟨c, by simp, hc⟩ fun d hd => hall d (List.mem_cons_of_mem _ hd),
        List.append_assoc]
      rfl

end Anchored

/-- A search agrees with a pass over lexemes if it does so between any two lexemes. -/
theorem search_eq_pass {pass : Nat → List Lexeme → List Span}
    (h : ∀ {front : List Char} {ls : List Lexeme}, Proper ls → Parted front (spell ls) →
      p.searchFrom ⟨front, spell ls⟩ = pass (byteLength front) ls) (text : List Char) :
    p.search text = pass 0 (cut text) := by
  have hsearch := @h [] _ (cut_proper text) (parted_nil _)
  rwa [spell_cut] at hsearch

end Pattern
end EmbeddedSql
