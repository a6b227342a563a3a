import EmbeddedSql.Proofs.Classification.Layers
import EmbeddedSql.Proofs.Highlights.Exactness

/-!
# Edges — the characters at both ends of a token

A token may hold any characters, line breaks among them, but it begins and ends with a character of
a word, an at sign or a quote.  So a token never begins at a line break and never ends behind a
`\r`.

* `Text.BeginsAt`, `Text.EndsAt` — a character of a class begins or ends at an offset;
* `Span.Edged` — a span begins and ends with a character of a class;
* `Classification.strings_edged` — strings begin and end with a quote;
* `tokenSpans_edged`, `Document.edged_token` — the edges of the tokens of a text and of a pass.
-/

namespace EmbeddedSql

open Text Lexeme

/-! ## Characters at an offset -/

namespace Text

variable {p : Char → Bool} {text : List Char} {n : Nat}

/-- A character of a class begins at an offset. -/
def BeginsAt (p : Char → Bool) (text : List Char) (n : Nat) : Prop :=
  ∃ a c b, text = a ++ c :: b ∧ byteLength a = n ∧ p c = true

/-- A character of a class ends at an offset. -/
def EndsAt (p : Char → Bool) (text : List Char) (n : Nat) : Prop :=
  ∃ a c b, text = a ++ c :: b ∧ byteLength a + c.utf8Size = n ∧ p c = true

theorem BeginsAt.inside (h : BeginsAt p text n) (front back : List Char) :
    BeginsAt p (front ++ (text ++ back)) (byteLength front + n) := by
  rcases h with ⟨a, c, b, rfl, rfl, hc⟩
  exact ⟨front ++ a, c, b ++ back, by simp, byteLength_append front a, hc⟩

theorem EndsAt.inside (h : EndsAt p text n) (front back : List Char) :
    EndsAt p (front ++ (text ++ back)) (byteLength front + n) := by
  rcases h with ⟨a, c, b, rfl, rfl, hc⟩
  refine ⟨front ++ a, c, b ++ back, by simp, ?_, hc⟩
  rw [byteLength_append, Nat.add_assoc]

theorem Run.MaximalIn.beginsAt {r : Run} (h : r.MaximalIn p text) : BeginsAt p text r.start := by
  rcases h with ⟨before, after, htext, hstart, hrun⟩
  rcases List.exists_cons_of_ne_nil hrun.ne_nil with ⟨c, cs, hchars⟩
  have hc : p c = true := hrun.all c (by rw [hchars]; exact List.mem_cons_self)
  exact ⟨before, c, cs ++ after, by rw [htext, hchars, List.cons_append], hstart, hc⟩

theorem Run.MaximalIn.endsAt {r : Run} (h : r.MaximalIn p text) : EndsAt p text r.span.stop := by
  rcases h with ⟨before, after, htext, hstart, hrun⟩
  rcases List.eq_nil_or_concat r.chars with hnil | ⟨cs, c, hchars⟩
  · exact absurd hnil hrun.ne_nil
  · have hc : p c = true := hrun.all c (by simp [hchars])
    refine ⟨before ++ cs, c, after, by simp [htext, hchars], ?_, hc⟩
    simp only [Run.span, hchars, List.concat_eq_append, byteLength_append, byteLength_cons,
      byteLength_nil]
    omega

end Text

/-! ## Edges of a span -/

/-- A span begins and ends with a character of a class. -/
structure Span.Edged (p : Char → Bool) (text : List Char) (s : Span) : Prop where
  begins : BeginsAt p text s.start
  ends : EndsAt p text s.stop

namespace Span.Edged

variable {p q : Char → Bool} {text : List Char} {s : Span}

theorem imp (h : s.Edged p text) (himp : ∀ c, p c = true → q c = true) : s.Edged q text := by
  rcases h with ⟨⟨a, c, b, htext, ha, hc⟩, ⟨a', c', b', htext', ha', hc'⟩⟩
  exact ⟨⟨a, c, b, htext, ha, himp c hc⟩, ⟨a', c', b', htext', ha', himp c' hc'⟩⟩

/-- Edges stay where the text stands in a longer one. -/
theorem inside (h : s.Edged p text) (front back : List Char) :
    (s.shift (byteLength front)).Edged p (front ++ (text ++ back)) :=
  ⟨h.begins.inside front back, h.ends.inside front back⟩

end Span.Edged

/-- A chain of runs begins with its first run and ends with its last one. -/
theorem Text.IsRunChain.edged {p : Char → Bool} {text : List Char} {chain : List Run}
    (h : IsRunChain p text chain) : (chainSpan chain).Edged p text := by
  rcases List.exists_cons_of_ne_nil h.ne_nil with ⟨r, rs, rfl⟩
  have hlast : rs.getLastD r ∈ r :: rs := by
    rw [← List.getLast_eq_getLastD]
    exact List.getLast_mem (List.cons_ne_nil r rs)
  exact ⟨(h.maximal r List.mem_cons_self).beginsAt, (h.maximal _ hlast).endsAt⟩

namespace Classification

/-- The characters that a token can begin and end with. -/
def isEdge (c : Char) : Bool :=
  isWordChar c || c == '@' || c == '\''

theorem isEdge_of_isWordChar (c : Char) (h : isWordChar c = true) : isEdge c = true := by
  simp [isEdge, h]

theorem ne_break_of_isEdge {c : Char} (h : isEdge c = true) : c ≠ '\n' ∧ c ≠ '\r' := by
  constructor
  · rintro rfl
    exact absurd h (by decide)
  · rintro rfl
    exact absurd h (by decide)

/-! ## Strings -/

theorem strings_edged {s : Span} {front cs : List Char} {resume : Nat}
    (h : s ∈ strings resume (byteLength front) cs) : s.Edged (· == '\'') (front ++ cs) := by
  induction cs generalizing front resume with
  | nil => cases h
  | cons c cs ih =>
      -- What is found later is found behind one more character.
      have hlater : ∀ resume, s ∈ strings resume (byteLength front + c.utf8Size) cs →
          s.Edged (· == '\'') (front ++ c :: cs) := by
        intro resume hs
        have hfront : byteLength front + c.utf8Size = byteLength (front ++ [c]) := by simp
        rw [hfront] at hs
        simpa using ih hs
      rw [strings] at h
      split at h
      · exact hlater _ h
      · split at h
        · rename_i hquote
          subst hquote
          split at h
          · rename_i n hclosing
            rcases List.mem_cons.1 h with rfl | h
            · rcases quote_of_closingBytes? hclosing with ⟨b, rest, rfl, hn⟩
              refine ⟨⟨front, '\'', b ++ '\'' :: rest, rfl, rfl, rfl⟩, front ++ '\'' :: b, '\'',
                rest,
                by simp, ?_, rfl⟩
              have hone : '\''.utf8Size = 1 := rfl
              simp only [byteLength_append, byteLength_cons, hone]
              omega
            · exact hlater _ h
          · exact hlater _ h
        · exact hlater _ h

end Classification

/-! ## All tokens -/

open Classification

theorem tokenSpans_edged {text : List Char} {c : Category} {s : Span}
    (hs : s ∈ tokenSpans text c) : s.Edged isEdge text := by
  have hword : ∀ {c : Category} {vocabulary : List String}, c.words? = some vocabulary →
      s ∈ tokenSpans text c → s.Edged isEdge text := by
    intro c vocabulary hc hs
    rcases (mem_words_iff hc).1 hs with ⟨r, hr, -, rfl⟩
    exact Span.Edged.imp ⟨hr.beginsAt, hr.endsAt⟩ isEdge_of_isWordChar
  cases c with
  | identifier =>
      rcases mem_identifiers_iff.1 hs with ⟨chain, hchain, rfl⟩
      exact hchain.isRunChain.edged.imp isEdge_of_isWordChar
  | keyword => exact hword rfl hs
  | function => exact hword rfl hs
  | boolean => exact hword rfl hs
  | parameter =>
      -- The at sign comes first, and the name last.
      rcases exists_of_mem_parameters hs with ⟨r, hname, hheaded, hstart, hstop⟩
      rcases hheaded with ⟨before, after, htext, hbefore⟩
      have hword := Span.Edged.imp ⟨hname.1.beginsAt, hname.1.endsAt⟩ isEdge_of_isWordChar
      refine ⟨⟨before, '@', r.chars ++ after, htext, by omega, rfl⟩, ?_⟩
      rw [hstop]
      exact hword.ends
  | string =>
      rw [tokenSpans, classify_filter, Classification.pass] at hs
      split at hs
      · cases hs
      · -- The pass for strings is the only one that does not go over words.
        have hedged := @strings_edged s [] text 0 hs
        refine hedged.imp ?_
        intro c hc
        simp [isEdge, beq_iff_eq.1 hc]
  | number =>
      rcases exists_of_mem_numbers hs with ⟨chain, hchain, -, rfl⟩
      exact hchain.edged.imp isEdge_of_isWordChar

theorem Document.edged_token {d : Document} {t : Token} (ht : t ∈ d.highlights.tokens) :
    t.range.span.Edged isEdge d.text := by
  rcases List.mem_flatMap.1 ht with ⟨s, hs, hts⟩
  rcases List.mem_map.1 hts with ⟨⟨c, span⟩, hmem, rfl⟩
  have hspan : span ∈ tokenSpans (d.textOf s.range) c := by
    rw [tokenSpans, List.mem_map]
    exact ⟨(c, span), List.mem_filter.2 ⟨hmem, beq_self_eq_true c⟩, rfl⟩
  -- The text of the segment stands in the document where the segment begins.
  rcases holds_segment hs with ⟨a, b, htext, hrange⟩
  have hstart : s.range.span.start = byteLength a := by rw [hrange]; rfl
  show (span.shift s.range.span.start).Edged isEdge d.text
  rw [hstart, htext]
  exact (tokenSpans_edged hspan).inside a b

end EmbeddedSql
