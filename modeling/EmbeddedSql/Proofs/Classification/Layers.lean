import EmbeddedSql.Proofs.Classification.Numerals
import EmbeddedSql.Proofs.Classification.Parameters
import EmbeddedSql.Proofs.Classification.Vocabulary

/-!
# Layers — how tokens of different classes lie over each other

The passes know nothing of each other, yet their tokens fit together, since five of them see the
same words.  Identifiers are the base layer: what has a list of words lies on one of them, a
parameter is the beginning of one behind an at sign, and a number lies beside them.

* `Span.Disjoint` — no byte lies in two spans;
* `Text.IsRunChain`, `Text.IsRunChain.apart` — chains of runs that have no run in common stand
  apart;
* `mem_words_iff`, `exists_of_mem_parameters`, `exists_of_mem_numbers` — the tokens of a class by
  the words that they are made of;
* `Layered` — the relations between the layers;
* `tokens_layered` — they hold in every text.
-/

namespace EmbeddedSql

open Text Lexeme

/-! ## Spans without a common byte -/

namespace Span

variable {s t : Span}

/-- No byte lies in both spans. -/
def Disjoint (s t : Span) : Prop :=
  ∀ n, ¬ (s.contains n = true ∧ t.contains n = true)

theorem disjoint_of_le (h : s.stop ≤ t.start ∨ t.stop ≤ s.start) : s.Disjoint t := by
  rintro n ⟨hs, ht⟩
  rw [contains_iff] at hs ht
  omega

end Span

/-! ## Chains of runs -/

namespace Text

open Run

variable {p : Char → Bool} {text : List Char} {r v : Run} {c c' : List Run}

/-- Maximal runs of a class, each joined to the next by one dot. -/
structure IsRunChain (p : Char → Bool) (text : List Char) (c : List Run) : Prop where
  ne_nil : c ≠ []
  maximal : ∀ r ∈ c, r.MaximalIn p text
  joined : c.IsChain (Dotted text)

theorem IsNameChain.isRunChain (h : IsNameChain text c) : IsRunChain isWordChar text c :=
  ⟨h.ne_nil, fun r hr => (h.names r hr).1, h.joined⟩

/-- Of two chains without a common run the one that begins later stands behind the other one. -/
theorem IsRunChain.behind (h : IsRunChain p text c) (h' : IsRunChain p text c')
    (hnone : ∀ r ∈ c', r ∉ c) (hle : (chainSpan c).start ≤ (chainSpan c').start) :
    (chainSpan c).stop < (chainSpan c').start := by
  rcases List.exists_cons_of_ne_nil h'.ne_nil with ⟨r, rs, rfl⟩
  have hr : r.MaximalIn p text := h'.maximal r List.mem_cons_self
  rcases mem_or_behind h.maximal h.ne_nil h.joined hr hle with hmem | hbehind
  · exact absurd hmem (hnone r List.mem_cons_self)
  · exact hbehind

theorem IsRunChain.apart (h : IsRunChain p text c) (h' : IsRunChain p text c')
    (hnone : ∀ r ∈ c, r ∉ c') : (chainSpan c).stop < (chainSpan c').start ∨
      (chainSpan c').stop < (chainSpan c).start := by
  rcases Nat.le_total (chainSpan c).start (chainSpan c').start with hle | hle
  · exact .inl (h.behind h' (fun r hr' hr => hnone r hr hr') hle)
  · exact .inr (h'.behind h hnone hle)

/-- A run of a chain comes first in it, or another run is joined to it. -/
theorem head?_or_dotted (hjoined : c.IsChain (Dotted text)) (hr : r ∈ c) :
    c.head? = some r ∨ ∃ u, Dotted text u r := by
  induction c with
  | nil => cases hr
  | cons u c ih =>
      rw [List.isChain_cons] at hjoined
      rcases List.mem_cons.1 hr with rfl | hr
      · exact .inl rfl
      · rcases ih hjoined.2 hr with hhead | hdotted
        · exact .inr ⟨u, hjoined.1 r hhead⟩
        · exact .inr hdotted

/-- What stands in front of a run is not both a dot and an at sign. -/
theorem Run.Headed.not_dotted (h : r.Headed text) (u : Run) : ¬ Dotted text u r := by
  intro hdot
  rcases h with ⟨before, after, rfl, hstart⟩
  have hnext := hdot.start_eq
  have hstop : u.span.stop = byteLength before := by omega
  rw [Dotted, hstop] at hdot
  rcases eq_append_of_slice? hdot with ⟨rest, hrest⟩
  exact absurd (List.cons.inj hrest).1 (by decide)

/-- A run with a digit at its beginning and a name are different runs. -/
theorem IsNameChain.not_mem_of_isNumeral (h : IsNameChain text c) (hr : isNumeral r.chars = true) :
    r ∉ c := by
  intro hmem
  rcases h.names r hmem with ⟨hmax, hdigit⟩
  have hname : isName r.chars = true := hmax.isName_iff.2 hdigit
  rcases List.exists_cons_of_ne_nil (Classification.ne_nil_of_isName hname) with ⟨d, ds, hchars⟩
  have hall : ∀ x ∈ r.chars, x.isDigit = true := List.all_eq_true.1 hr
  have hd : d.isDigit = true := hall d (by rw [hchars]; exact List.mem_cons_self)
  rw [hchars, isName, hd] at hname
  cases hname

end Text

/-! ## What tokens are made of -/

section Tokens

variable {text : List Char} {s : Span} {c : Category} {vocabulary : List String}

theorem exists_of_mem_numbers (hs : s ∈ tokenSpans text .number) :
    ∃ chain, IsRunChain isWordChar text chain ∧ (∀ r ∈ chain, isNumeral r.chars = true) ∧
      chainSpan chain = s := by
  have hnumbers := Classification.numbers_eq (cut_proper text) []
  rw [List.nil_append, spell_cut, byteLength_nil] at hnumbers
  rw [tokenSpans, classify_filter, Classification.pass, hnumbers, List.mem_map] at hs
  rcases hs with ⟨chain, hmem, hspan⟩
  have hchain := Classification.mem_readNumbers hmem
  refine ⟨chain, ⟨hchain.ne_nil, ?_, hchain.joined⟩, fun r hr => (hchain.words r hr).2, hspan⟩
  exact fun r hr => mem_wordRuns_cut.1 (hchain.words r hr).1

theorem exists_of_mem_parameters (hs : s ∈ tokenSpans text .parameter) :
    ∃ r : Run, r.IsName text ∧ r.Headed text ∧ s.start + 1 = r.start ∧ s.stop = r.span.stop := by
  rw [tokenSpans, classify_filter, Classification.pass] at hs
  have hname := @Classification.mem_parameters [] _ s (cut_proper text) hs
  rwa [List.nil_append, spell_cut] at hname

/-- The words of a class that has a list of words. -/
def Category.words? : Category → Option (List String)
  | .keyword => some Vocabulary.keywords
  | .function => some Vocabulary.functions
  | .boolean => some Vocabulary.booleans
  | _ => none

theorem mem_words_iff (hc : c.words? = some vocabulary) : s ∈ tokenSpans text c ↔
    ∃ r : Run, r.MaximalIn isWordChar text ∧ Vocabulary.holds vocabulary r.chars = true ∧
      r.span = s := by
  have hpass : Classification.pass text c =
      Classification.vocabularyWords vocabulary 0 (cut text) := by
    cases c <;> cases hc <;> rfl
  rw [tokenSpans, classify_filter, hpass, Classification.vocabularyWords_eq]
  simp only [List.mem_map, List.mem_filter, mem_wordRuns_cut, and_assoc]

end Tokens

/-! ## Words of the lists -/

section Words

variable {c c' : Category} {vocabulary vocabulary' : List String} {w : List Char}

theorem isName_upper (w : List Char) : isName (Vocabulary.upper w) = isName w := by
  have hdigit : ∀ d : Char, d.toUpper.isDigit = d.isDigit :=
    rel_toUpper (r := fun d u => u.isDigit = d.isDigit) (fun _ => rfl) (by decide)
  cases w with
  | nil => rfl
  | cons d ds => simp [Vocabulary.upper, isName, hdigit]

/-- No word of a list begins with a digit. -/
theorem isName_of_holds (hc : c.words? = some vocabulary)
    (h : Vocabulary.holds vocabulary w = true) : isName w = true := by
  have hall : ∀ entry ∈ vocabulary, isName entry.toList = true := by
    cases c <;> cases hc <;> decide +kernel
  rcases List.any_eq_true.1 h with ⟨entry, hentry, heq⟩
  calc
    isName w = isName (Vocabulary.upper w) := (isName_upper w).symm
    _ = isName (Vocabulary.upper entry.toList) := by rw [beq_iff_eq.1 heq]
    _ = isName entry.toList := isName_upper _
    _ = true := hall entry hentry

theorem upper_ne_of_lt (hc : c.words? = some vocabulary) (hc' : c'.words? = some vocabulary')
    (hlt : c.passIndex < c'.passIndex) : ∀ entry ∈ vocabulary, ∀ entry' ∈ vocabulary',
      Vocabulary.upper entry.toList ≠ Vocabulary.upper entry'.toList := by
  revert hlt
  cases c <;> cases hc <;> cases c' <;> cases hc' <;> decide +kernel

/-- No word is in the lists of two classes. -/
theorem not_holds_of_ne (hc : c.words? = some vocabulary) (hc' : c'.words? = some vocabulary')
    (hne : c ≠ c') (h : Vocabulary.holds vocabulary w = true) :
    ¬ Vocabulary.holds vocabulary' w = true := by
  intro h'
  rcases List.any_eq_true.1 h with ⟨entry, hentry, heq⟩
  rcases List.any_eq_true.1 h' with ⟨entry', hentry', heq'⟩
  have hupper : Vocabulary.upper entry.toList = Vocabulary.upper entry'.toList :=
    (beq_iff_eq.1 heq).trans (beq_iff_eq.1 heq').symm
  rcases Nat.lt_or_gt_of_ne (mt Category.passIndex_inj hne) with hlt | hgt
  · exact upper_ne_of_lt hc hc' hlt entry hentry entry' hentry' hupper
  · exact upper_ne_of_lt hc' hc hgt entry' hentry' entry hentry hupper.symm

end Words

/-! ## The layers -/

/-- Every keyword, function or boolean lies on exactly one identifier, and no byte is in two of
these classes.  A parameter is an at sign and a beginning of an identifier right behind it.  A
number has no byte in common with an identifier or a parameter. -/
structure Layered (text : List Char) : Prop where
  words : ∀ c ∈ [Category.keyword, .function, .boolean], ∀ s ∈ tokenSpans text c,
    ∃ t, (tokenSpans text .identifier).filter (fun t => s.Within t) = [t]
  vocabularies : ∀ c ∈ [Category.keyword, .function, .boolean],
    ∀ c' ∈ [Category.keyword, .function, .boolean], c ≠ c' →
      ∀ s ∈ tokenSpans text c, ∀ s' ∈ tokenSpans text c', s.Disjoint s'
  parameters : ∀ s ∈ tokenSpans text .parameter, ∃ t ∈ tokenSpans text .identifier,
    t.start = s.start + 1 ∧ ∃ name whole, name ≠ [] ∧ name <+: whole ∧
      slice? s.start s.stop text = some ('@' :: name) ∧ slice? t.start t.stop text = some whole
  numbers : ∀ s ∈ tokenSpans text .number, ∀ c ∈ [Category.identifier, .parameter],
    ∀ t ∈ tokenSpans text c, s.Disjoint t

section Layers

variable {text : List Char} {s t : Span} {c c' : Category} {vocabulary vocabulary' : List String}

/-- A name lies on one identifier. -/
theorem filter_within_identifiers {r : Run} (hr : r.IsName text) :
    ∃ t, (tokenSpans text .identifier).filter (fun t => r.span.Within t) = [t] := by
  rcases hr.exists_chain with ⟨chain, hchain, hmem⟩
  have hin : r.span.Within (chainSpan chain) := within_chainSpan hchain.joined hmem
  have hpos := hr.1.start_lt_stop
  have hcontains : ∀ t, r.span.Within t → t.contains r.start = true := by
    intro t ht
    exact Span.contains_iff.2 ⟨ht.1, Nat.lt_of_lt_of_le hpos ht.2⟩
  -- All identifiers that the name lies on hold its first byte, and one identifier does.
  have hone : (tokenSpans text .identifier).filter (fun t => t.contains r.start) =
      [chainSpan chain] := by
    have hascending := tokenSpans_ascending text .identifier
    rw [← List.map_id (tokenSpans text .identifier)] at hascending
    exact hascending.filter_contains (mem_identifiers_iff.2 ⟨chain, hchain, rfl⟩)
      (hcontains _ hin)
  refine ⟨chainSpan chain, ?_⟩
  calc
    (tokenSpans text .identifier).filter (fun t => r.span.Within t)
        = ((tokenSpans text .identifier).filter (fun t => t.contains r.start)).filter
            (fun t => r.span.Within t) := by
          rw [List.filter_filter]
          refine List.filter_congr fun t _ => ?_
          by_cases ht : r.span.Within t
          · simp [ht, hcontains t ht]
          · simp [ht]
    _ = [chainSpan chain] := by
          rw [hone]
          simp [hin]

theorem words_disjoint (hc : c.words? = some vocabulary) (hc' : c'.words? = some vocabulary')
    (hne : c ≠ c') (hs : s ∈ tokenSpans text c) (ht : t ∈ tokenSpans text c') : s.Disjoint t := by
  rcases (mem_words_iff hc).1 hs with ⟨r, hr, hholds, rfl⟩
  rcases (mem_words_iff hc').1 ht with ⟨v, hv, hholds', rfl⟩
  -- Both are whole words, and one word is not in both lists.
  have hrv : r ≠ v := by
    rintro rfl
    exact not_holds_of_ne hc hc' hne hholds hholds'
  refine Span.disjoint_of_le ?_
  rcases Nat.le_total r.start v.start with hle | hle
  · rcases hr.eq_or_apart_of_le hv hle with heq | hapart
    · exact absurd heq hrv
    · exact .inl (Nat.le_of_lt hapart)
  · rcases hv.eq_or_apart_of_le hr hle with heq | hapart
    · exact absurd heq.symm hrv
    · exact .inr (Nat.le_of_lt hapart)

/-- A parameter's name comes first in its chain, so an identifier begins with it. -/
theorem exists_chain_of_mem_parameters (hs : s ∈ tokenSpans text .parameter) :
    ∃ (r : Run) (rs : List Run), r.Headed text ∧ IsNameChain text (r :: rs) ∧
      s.start + 1 = r.start ∧ s.stop = r.span.stop := by
  rcases exists_of_mem_parameters hs with ⟨r, hname, hheaded, hstart, hstop⟩
  rcases hname.exists_chain with ⟨chain, hchain, hmem⟩
  rcases head?_or_dotted hchain.joined hmem with hhead | ⟨u, hdot⟩
  · rcases List.head?_eq_some_iff.1 hhead with ⟨rs, rfl⟩
    exact ⟨r, rs, hheaded, hchain, hstart, hstop⟩
  · exact absurd hdot (hheaded.not_dotted u)

theorem parameter_texts (hs : s ∈ tokenSpans text .parameter) :
    ∃ t ∈ tokenSpans text .identifier, t.start = s.start + 1 ∧
      ∃ name whole, name ≠ [] ∧ name <+: whole ∧
        slice? s.start s.stop text = some ('@' :: name) ∧
          slice? t.start t.stop text = some whole := by
  rcases exists_chain_of_mem_parameters hs with ⟨r, rs, hheaded, hchain, hstart, hstop⟩
  have hmem : chainSpan (r :: rs) ∈ tokenSpans text .identifier :=
    mem_identifiers_iff.2 ⟨r :: rs, hchain, rfl⟩
  have hin := within_chainSpan hchain.joined List.mem_cons_self
  refine ⟨chainSpan (r :: rs), hmem, hstart.symm, ?_⟩
  rw [tokenSpans, classify_filter] at hmem
  rcases (Classification.pass_carved text .identifier).mem hmem with
    ⟨a, whole, rest, htext, -, ha, hb⟩
  rcases hheaded with ⟨before, after, htext', hbefore⟩
  have hlen : byteLength (before ++ ['@']) = byteLength a := by
    rw [byteLength_append_mark]
    have hchainStart : (chainSpan (r :: rs)).start = r.start := rfl
    have hone : '@'.utf8Size = 1 := rfl
    omega
  -- The text is cut behind the at sign in one way, so name and identifier begin together.
  have hcut : (before ++ ['@']) ++ (r.chars ++ after) = a ++ (whole ++ rest) := by
    rw [← htext, htext']
    simp
  rcases append_inj_of_byteLength hcut hlen with ⟨-, htail⟩
  have hshort : byteLength r.chars ≤ byteLength whole := by
    have hchainStart : (chainSpan (r :: rs)).start = r.start := rfl
    simp only [Run.span] at hin
    omega
  rcases exists_append_of_byteLength_le htail hshort with ⟨z, hz, -⟩
  refine ⟨r.chars, whole, ?_, ⟨z, hz.symm⟩, ?_, ?_⟩
  · rcases (hchain.names r List.mem_cons_self).1 with ⟨_, _, _, _, hrun⟩
    exact hrun.ne_nil
  · have hslice := slice?_append before ('@' :: r.chars) after
    have hone : '@'.utf8Size = 1 := rfl
    have hs₁ : s.start = byteLength before := by omega
    have hs₂ : s.stop = byteLength before + byteLength ('@' :: r.chars) := by
      rw [byteLength_cons, hone, hstop]
      simp only [Run.span]
      omega
    rw [hs₁, hs₂, htext']
    simpa using hslice
  · have hslice := slice?_append a whole rest
    rw [hb, ha, Nat.zero_add, htext]
    exact hslice

/-- The words of a number are none of an identifier. -/
theorem numbers_apart (hs : s ∈ tokenSpans text .number) {chain : List Run}
    (hchain : IsNameChain text chain) :
    s.stop < (chainSpan chain).start ∨ (chainSpan chain).stop < s.start := by
  rcases exists_of_mem_numbers hs with ⟨digits, hdigits, hall, rfl⟩
  refine hdigits.apart hchain.isRunChain ?_
  exact fun r hr => hchain.not_mem_of_isNumeral (hall r hr)

/-- Tokens of different passes fit together in every text: identifiers are the base layer.  The
parameters are what a search for an at sign and a name finds. -/
theorem tokens_layered (text : List Char) :
    Layered text ∧ Pattern.atName.search text = tokenSpans text .parameter := by
  have hwords : ∀ c ∈ [Category.keyword, .function, .boolean],
      ∃ vocabulary, c.words? = some vocabulary := by
    simp [Category.words?]
  refine ⟨⟨?_, ?_, ?_, ?_⟩, ?_⟩
  · -- words
    intro c hc s hs
    rcases hwords c hc with ⟨vocabulary, hvocabulary⟩
    rcases (mem_words_iff hvocabulary).1 hs with ⟨r, hr, hholds, rfl⟩
    exact filter_within_identifiers ⟨hr, hr.isName_iff.1 (isName_of_holds hvocabulary hholds)⟩
  · -- vocabularies
    intro c hc c' hc' hne s hs s' hs'
    rcases hwords c hc with ⟨vocabulary, hvocabulary⟩
    rcases hwords c' hc' with ⟨vocabulary', hvocabulary'⟩
    exact words_disjoint hvocabulary hvocabulary' hne hs hs'
  · -- parameters
    exact fun s hs => parameter_texts hs
  · -- numbers
    intro s hs c hc t ht
    refine Span.disjoint_of_le ?_
    rcases List.mem_cons.1 hc with rfl | hc
    · rcases mem_identifiers_iff.1 ht with ⟨chain, hchain, rfl⟩
      exact (numbers_apart hs hchain).imp Nat.le_of_lt Nat.le_of_lt
    · -- In front of the name there is one more byte, the at sign.
      cases List.mem_singleton.1 hc
      rcases exists_chain_of_mem_parameters ht with ⟨r, rs, -, hchain, hstart, hstop⟩
      have hin := within_chainSpan hchain.joined List.mem_cons_self
      have hapart := numbers_apart hs hchain
      have hchainStart : (chainSpan (r :: rs)).start = r.start := rfl
      omega
  · rw [tokenSpans, classify_filter]
    exact Pattern.search_eq_pass (fun hls _ => Pattern.searchFrom_atName hls) text

end Layers

example : classify "@a.b 1.5 IN".toList =
    [(.identifier, ⟨1, 4⟩), (.identifier, ⟨9, 11⟩), (.keyword, ⟨9, 11⟩), (.parameter, ⟨0, 2⟩),
      (.number, ⟨5, 8⟩)] := by
  decide +kernel

end EmbeddedSql
