import EmbeddedSql.Proofs.Classification.Patterns
import EmbeddedSql.Proofs.Literal.RoundTrip

/-!
# Onsets — the first quote that opens a literal

The search for the opening of a literal tries the three openings at every character of a line.
What it finds can be said of quotes alone: a quote opens a literal if `@` or `@$` stands right in
front of it, and the first such quote of the line is the one.  The search is also that of a pattern,
taken where it matches first.

* `Onset.Leading`, `Onset.findFrom_cases` — the opening that begins first;
* `Onset.Opens`, `Onset.Interpolates` — what stands in front of a quote;
* `Onset.IsFirst` — the first quote that opens a literal, and the form of the literal;
* `Onset.Leading.isFirst`, `Onset.IsFirst.unique` — the opening that begins first has this quote;
* `Onset.pattern`, `Onset.findFrom_eq_search` — the search for an opening by a pattern;
* `Onset.onset_is_first_quote` — all that holds of the opening on a line.
-/

namespace EmbeddedSql
namespace Onset

open Text

variable {line cs a b before after : List Char} {o : Opener} {onset : Onset}

/-! ## The opening that begins first -/

/-- An opening of a text, in front of which no other one begins. -/
structure Leading (cs : List Char) (o : Opener) (a b : List Char) : Prop where
  text : cs = a ++ (o.chars ++ b)
  leads : ∀ (o' : Opener) (a' b' : List Char), cs = a' ++ (o'.chars ++ b') → a.length ≤ a'.length

/-- Where no opening begins, the search goes on. -/
theorem findFrom_step {column : Nat} {c : Char}
    (hnone : ∀ (o : Opener) (b : List Char), c :: cs ≠ o.chars ++ b) :
    findFrom column (c :: cs) = findFrom (column + c.utf8Size) cs :=
  findFrom_skip (fun rest => hnone .dollarLast rest) (fun rest => hnone .plain rest)
    fun rest => hnone .dollarFirst rest

theorem findFrom_chars (o : Opener) (column : Nat) (b : List Char) :
    findFrom column (o.chars ++ b) = some ⟨column + byteLength o.mark, o.kind⟩ := by
  cases o <;> rfl

/-- The search finds the opening that begins first, unless there is none. -/
theorem findFrom_cases (column : Nat) (cs : List Char) :
    (findFrom column cs = none ∧
      ∀ (o : Opener) (a b : List Char), cs ≠ a ++ (o.chars ++ b)) ∨
    ∃ o a b, Leading cs o a b ∧
      findFrom column cs = some ⟨column + byteLength (a ++ o.mark), o.kind⟩ := by
  induction cs generalizing column with
  | nil =>
      refine .inl ⟨rfl, ?_⟩
      intro o a b
      simp [Opener.chars]
  | cons c cs ih =>
      by_cases hhere : ∃ (o : Opener) (b : List Char), c :: cs = o.chars ++ b
      · rcases hhere with ⟨o, b, heq⟩
        refine .inr ⟨o, [], b, ⟨heq, fun _ _ _ _ => Nat.zero_le _⟩, ?_⟩
        rw [heq, findFrom_chars]
        rfl
      · have hnone : ∀ (o : Opener) (b : List Char), c :: cs ≠ o.chars ++ b :=
          fun o b heq => hhere ⟨o, b, heq⟩
        -- What begins in the text begins behind its first character.
        have hbehind : ∀ (o : Opener) (a b : List Char), c :: cs = a ++ (o.chars ++ b) →
            ∃ a', a = c :: a' ∧ cs = a' ++ (o.chars ++ b) := by
          intro o a b heq
          cases a with
          | nil => exact absurd heq (hnone o b)
          | cons d a' =>
              rcases List.cons.inj heq with ⟨rfl, hcs⟩
              exact ⟨a', rfl, hcs⟩
        rw [findFrom_step hnone]
        rcases ih (column + c.utf8Size) with ⟨hfind, hfree⟩ | ⟨o, a, b, hlead, hfind⟩
        · refine .inl ⟨hfind, ?_⟩
          intro o a b heq
          rcases hbehind o a b heq with ⟨a', -, hcs⟩
          exact hfree o a' b hcs
        · refine .inr ⟨o, c :: a, b, ⟨by rw [hlead.text, List.cons_append], ?_⟩, ?_⟩
          · intro o' a' b' heq
            rcases hbehind o' a' b' heq with ⟨a'', rfl, hcs⟩
            exact Nat.succ_le_succ (hlead.leads o' a'' b' hcs)
          · rw [hfind, List.cons_append, byteLength_cons, Nat.add_assoc]

/-! ## Quotes -/

/-- What stands in front of a quote makes it open a literal. -/
def Opens (before : List Char) : Prop :=
  ['@'] <:+ before ∨ ['@', '$'] <:+ before

/-- What stands in front of a quote makes the literal that it opens an interpolated one. -/
def Interpolates (before : List Char) : Prop :=
  ['$', '@'] <:+ before ∨ ['@', '$'] <:+ before

theorem opens_iff : Opens before ↔ ∃ o : Opener, o.mark <:+ before := by
  constructor
  · rintro (h | h)
    · exact ⟨.plain, h⟩
    · exact ⟨.dollarLast, h⟩
  · rintro ⟨o, h⟩
    cases o with
    | plain => exact .inl h
    | dollarFirst => exact .inl ((List.suffix_cons '$' ['@']).trans h)
    | dollarLast => exact .inr h

/-- The quote of a line that an opening has, if no quote in front of it opens a literal. -/
structure IsFirst (line : List Char) (onset : Onset) (before after : List Char) : Prop where
  text : line = before ++ '"' :: after
  opens : Opens before
  first : ∀ a b, line = a ++ '"' :: b → Opens a → before.length ≤ a.length
  column : onset.quoteColumn = byteLength before
  kind : onset.kind = .interpolated ↔ Interpolates before

/-- A quote behind a mark is the quote of an opening. -/
theorem exists_opener (htext : line = before ++ '"' :: after) (h : Opens before) :
    ∃ (o : Opener) (a : List Char), before = a ++ o.mark ∧ line = a ++ (o.chars ++ after) := by
  rcases opens_iff.1 h with ⟨o, a, rfl⟩
  refine ⟨o, a, rfl, ?_⟩
  rw [htext, Opener.chars]
  simp

/-- Two openings that begin at one place are the same. -/
theorem opener_unique {o o' : Opener} {b b' : List Char} (h : o.chars ++ b = o'.chars ++ b') :
    o = o' := by
  cases o <;> cases o' <;> simp [Opener.chars, Opener.mark] at h ⊢

theorem Leading.kind_iff (h : Leading line o a b) :
    o.kind = .interpolated ↔ Interpolates (a ++ o.mark) := by
  cases o with
  | plain =>
      have hverbatim : ¬ Opener.plain.kind = .interpolated := by
        simp [Opener.kind]
      refine ⟨fun hkind => absurd hkind hverbatim, ?_⟩
      rintro (⟨x, hx⟩ | ⟨x, hx⟩)
      · -- With a `$` in front of it, the opening would begin there.
        have hcut : x ++ ['$'] ++ ['@'] = a ++ ['@'] := by
          rw [List.append_assoc]
          exact hx
        have ha : a = x ++ ['$'] := (List.append_cancel_right hcut).symm
        have hearlier : line = x ++ (Opener.dollarFirst.chars ++ b) := by
          rw [h.text, ha]
          simp [Opener.chars, Opener.mark]
        have hle := h.leads .dollarFirst x b hearlier
        rw [ha, List.length_append] at hle
        exact absurd hle (by simp)
      · have hlast := congrArg List.getLast? hx
        simp [Opener.mark] at hlast
  | dollarFirst => exact ⟨fun _ => .inl ⟨a, rfl⟩, fun _ => rfl⟩
  | dollarLast => exact ⟨fun _ => .inr ⟨a, rfl⟩, fun _ => rfl⟩

theorem Leading.isFirst (h : Leading line o a b) :
    IsFirst line ⟨byteLength (a ++ o.mark), o.kind⟩ (a ++ o.mark) b where
  text := by
    rw [h.text, Opener.chars]
    simp
  opens := opens_iff.2 ⟨o, a, rfl⟩
  first := by
    intro before' after' htext hopens
    rcases exists_opener htext hopens with ⟨o', a', rfl, hline⟩
    have hle := h.leads o' a' after' hline
    have hlength : ∀ o : Opener, o.mark.length = 1 ∨ o.mark.length = 2 := by
      intro o
      cases o <;> simp [Opener.mark]
    rw [List.length_append, List.length_append]
    -- A mark is one character longer than another one at most, so only an opening at the same
    -- place could have its quote earlier.
    by_cases hsame : a.length = a'.length
    · have heq := List.append_inj (h.text.symm.trans hline) hsame
      rw [hsame, opener_unique heq.2]
    · have ho := hlength o
      have ho' := hlength o'
      omega
  column := rfl
  kind := h.kind_iff

theorem IsFirst.unique {onset' : Onset} {before' after' : List Char}
    (h : IsFirst line onset before after) (h' : IsFirst line onset' before' after') :
    onset = onset' := by
  have hlength : before.length = before'.length :=
    Nat.le_antisymm (h.first _ _ h'.text h'.opens) (h'.first _ _ h.text h.opens)
  have hbefore : before = before' :=
    (List.append_inj (h.text.symm.trans h'.text) hlength).1
  have hcolumn : onset.quoteColumn = onset'.quoteColumn := by
    rw [h.column, h'.column, hbefore]
  have hkind : onset.kind = .interpolated ↔ onset'.kind = .interpolated := by
    rw [h.kind, h'.kind, hbefore]
  rcases onset with ⟨column, _ | _⟩ <;> rcases onset' with ⟨column', _ | _⟩ <;> simp_all

/-! ## The search by a pattern -/

open Pattern

/-- `@` with or without `$` behind it, or `$@`, and then a quote. -/
def pattern : Pattern :=
  seq (either (seq (one (· == '@')) (either (one (· == '$')) nothing))
    (seq (one (· == '$')) (one (· == '@')))) (one (· == '"'))

/-- The opening that a match of the pattern is: its last character is the quote, and a `$` in it
makes the literal an interpolated one. -/
def ofMatch (line : List Char) (s : Span) : Onset :=
  ⟨s.stop - 1,
    if '$' ∈ (slice? s.start s.stop line).getD [] then .interpolated else .verbatim⟩

theorem denotes_pattern : Denotes pattern fun t => ∃ o : Opener, t = o.chars := by
  have hat := denotes_char '@'
  have hdollar := denotes_char '$'
  intro k k'
  rw [pattern, (((hat.seq (hdollar.either denotes_nothing)).either (hdollar.seq hat)).seq
    (denotes_char '"')) k k']
  refine exists_congr fun t => and_congr_left fun _ => ?_
  constructor
  · rintro ⟨_, _, rfl, ⟨_, _, rfl, rfl, rfl | rfl⟩ | ⟨_, _, rfl, rfl, rfl⟩, rfl⟩
    · exact ⟨.dollarLast, rfl⟩
    · exact ⟨.plain, rfl⟩
    · exact ⟨.dollarFirst, rfl⟩
  · rintro ⟨o, rfl⟩
    refine ⟨o.mark, ['"'], rfl, ?_, rfl⟩
    cases o with
    | plain => exact .inl ⟨['@'], [], rfl, rfl, .inr rfl⟩
    | dollarFirst => exact .inr ⟨['$'], ['@'], rfl, rfl, rfl⟩
    | dollarLast => exact .inl ⟨['@'], ['$'], rfl, rfl, .inl rfl⟩

theorem head?_pattern (o : Opener) (front b : List Char) :
    (pattern.ways ⟨front, o.chars ++ b⟩).head? = some ⟨front ++ o.chars, b⟩ := by
  cases o <;> simp [pattern, ways, Opener.chars, Opener.mark]

theorem ofMatch_chars (o : Opener) (front b : List Char) :
    ofMatch (front ++ (o.chars ++ b)) ⟨byteLength front, byteLength (front ++ o.chars)⟩ =
      ⟨byteLength front + byteLength o.mark, o.kind⟩ := by
  have hone : byteLength ['"'] = 1 := rfl
  rw [ofMatch, byteLength_append, slice?_append, Option.getD_some, Opener.chars, byteLength_append,
    hone, Nat.add_succ_sub_one]
  cases o <;> rfl

/-- Both searches stop at the same opening, and read the same off it. -/
theorem findFrom_eq_search (front cs : List Char) :
    findFrom (byteLength front) cs =
      (pattern.searchFrom ⟨front, cs⟩).head?.map (ofMatch (front ++ cs)) := by
  induction cs generalizing front with
  | nil =>
      have hend : pattern.ways ⟨front, []⟩ = [] := rfl
      rw [searchFrom_end hend]
      rfl
  | cons c cs ih =>
      by_cases hhere : ∃ (o : Opener) (b : List Char), c :: cs = o.chars ++ b
      · rcases hhere with ⟨o, b, heq⟩
        have hahead : b.length < (o.chars ++ b).length := by
          simp only [Opener.chars, List.length_append, List.length_cons]
          omega
        rw [heq, findFrom_chars, searchFrom_hit (head?_pattern o front b) hahead, List.head?_cons,
          Option.map_some, ofMatch_chars]
      · have hmiss : pattern.ways ⟨front, c :: cs⟩ = [] := by
          rw [List.eq_nil_iff_forall_not_mem]
          intro k hk
          rcases (denotes_pattern _ k).1 hk with ⟨_, ⟨o, rfl⟩, hreads⟩
          exact hhere ⟨o, k.rest, hreads.2⟩
        have hlater := ih (front ++ [c])
        rw [byteLength_append, List.append_assoc] at hlater
        rw [findFrom_step fun o b heq => hhere ⟨o, b, heq⟩, searchFrom_miss hmiss]
        exact hlater

/-! ## All of the opening on a line -/

/-- A line has no opening if no quote of it stands right behind `@` or `@$`.  Otherwise the first
such quote is that of the opening, which is an interpolated one if the quote stands right behind
`$@` or `@$`.  This is what the leftmost match of the pattern for openings says. -/
theorem onset_is_first_quote (line : List Char) :
    (find? line = none ↔ ∀ before after, line = before ++ '"' :: after → ¬ Opens before) ∧
    (∀ onset, find? line = some onset ↔ ∃ before after, IsFirst line onset before after) ∧
    find? line = (pattern.search line).head?.map (ofMatch line) := by
  have hcases := findFrom_cases 0 line
  refine ⟨?_, ?_, findFrom_eq_search [] line⟩
  · rcases hcases with ⟨hfind, hfree⟩ | ⟨o, a, b, hlead, hfind⟩
    · refine ⟨fun _ before after htext hopens => ?_, fun _ => hfind⟩
      rcases exists_opener htext hopens with ⟨o, a, -, hline⟩
      exact hfree o a after hline
    · refine ⟨fun hnone => ?_, fun hfree => ?_⟩
      · rw [find?, hfind] at hnone
        cases hnone
      · exact absurd hlead.isFirst.opens (hfree _ _ hlead.isFirst.text)
  · intro onset
    rcases hcases with ⟨hfind, hfree⟩ | ⟨o, a, b, hlead, hfind⟩
    · rw [find?, hfind]
      constructor
      · intro hsome
        cases hsome
      · rintro ⟨before, after, hfirst⟩
        rcases exists_opener hfirst.text hfirst.opens with ⟨o, a, -, hline⟩
        exact absurd hline (hfree o a after)
    · rw [Nat.zero_add] at hfind
      rw [find?, hfind]
      constructor
      · intro heq
        rw [← Option.some.inj heq]
        exact ⟨a ++ o.mark, b, hlead.isFirst⟩
      · rintro ⟨before, after, hfirst⟩
        exact congrArg some (hlead.isFirst.unique hfirst)

example : find? "\"é\" $$@$@\"".toList = some ⟨10, .interpolated⟩ := by
  decide

end Onset
end EmbeddedSql
