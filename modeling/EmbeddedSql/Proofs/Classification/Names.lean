import EmbeddedSql.Proofs.Classification.Chains
import EmbeddedSql.Proofs.Classification.Patterns

/-!
# Names — identifiers are the maximal chains of names

The pass for identifiers goes over the lexemes once and joins a name to what has been found behind
the dot that follows it.  A search for dotted names goes the other way: it reads name after name as
long as it can.  Both find the chains of names.

* `Classification.nameChains`, `Classification.identifiers_eq` — the pass as the groups of joined
  names;
* `Pattern.dottedName`, `Pattern.searchFrom_dottedName` — the search finds what the pass finds;
* `mem_identifiers_iff`, `identifier_tokens_exact` — identifiers among the tokens of a text.
-/

namespace EmbeddedSql

open Text Lexeme

/-! ## The pass -/

namespace Classification

open Text.Run

/-- The names among runs of a text, in groups of names that are joined. -/
def nameChains (text : List Char) (runs : List Run) : List (List Run) :=
  (runs.filter fun r => isName r.chars).splitBy fun r v => decide (Dotted text r v)

variable {text front w : List Char} {offset : Nat} {ls : List Lexeme} {r : Run} {runs : List Run}

theorem ne_nil_of_mem_nameChains {c : List Run} (h : c ∈ nameChains text runs) : c ≠ [] :=
  List.ne_nil_of_mem_splitBy h

theorem mem_of_mem_nameChains {c : List Run} (hc : c ∈ nameChains text runs) (hr : r ∈ c) :
    r ∈ runs ∧ isName r.chars = true := by
  have hflat : r ∈ (nameChains text runs).flatten := List.mem_flatten_of_mem hc hr
  rw [nameChains, List.flatten_splitBy] at hflat
  exact List.mem_filter.1 hflat

theorem nameChains_cons_skip (h : isName r.chars = false) :
    nameChains text (r :: runs) = nameChains text runs := by
  rw [nameChains, List.filter_cons, h]
  rfl

theorem nameChains_cons_alone (hname : isName r.chars = true)
    (h : ∀ c ∈ (nameChains text runs).head?, ∀ v ∈ c.head?, ¬ Dotted text r v) :
    nameChains text (r :: runs) = [r] :: nameChains text runs := by
  rw [nameChains, List.filter_cons, if_pos hname]
  refine splitBy_cons_of_not fun v hv => ?_
  rw [decide_eq_false_iff_not]
  cases hchains : nameChains text runs with
  | nil =>
      rw [nameChains, List.splitBy_eq_nil] at hchains
      rw [hchains] at hv
      cases hv
  | cons c cs =>
      have hne : c ≠ [] := List.ne_nil_of_mem_splitBy (hchains ▸ List.mem_cons_self)
      have hflat := List.flatten_splitBy (fun r v => decide (Dotted text r v))
        (runs.filter fun r => isName r.chars)
      rw [← nameChains, hchains, List.flatten_cons] at hflat
      rw [← hflat, List.head?_append_of_ne_nil _ hne] at hv
      exact h c (by rw [hchains]; rfl) v hv

theorem nameChains_cons_joined (hname : isName r.chars = true) {v : Run} {vs : List Run}
    {cs : List (List Run)} (hchains : nameChains text runs = (v :: vs) :: cs)
    (h : Dotted text r v) : nameChains text (r :: runs) = (r :: v :: vs) :: cs := by
  rw [nameChains, List.filter_cons, if_pos hname]
  refine splitBy_cons_of_rel hchains ?_
  simpa using h

theorem identifiers_mark (offset : Nat) (c : Char) (ls : List Lexeme) :
    identifiers offset (mark c :: ls) = identifiers (offset + c.utf8Size) ls := by
  rw [identifiers]

theorem identifiers_skip (h : isName w = false) :
    identifiers offset (word w :: ls) = identifiers (offset + Text.byteLength w) ls := by
  by_cases hdot : ∃ rest, ls = mark '.' :: rest
  · rcases hdot with ⟨rest, rfl⟩
    rw [identifiers, if_neg (by simp [h])]
    rfl
  · rw [identifiers, if_neg (by simp [h])]
    exact fun rest hrest => hdot ⟨rest, hrest⟩

/-- Behind a word that ends at `stop` comes a dot, and a token begins right behind the dot. -/
def Joins (stop : Nat) (ls : List Lexeme) : Prop :=
  ∃ rest s more, ls = mark '.' :: rest ∧ identifiers (stop + 1) rest = s :: more ∧
    s.start = stop + 1

theorem identifiers_joined (hname : isName w = true) {s : Span} {more : List Span}
    (hlater : identifiers (offset + Text.byteLength w + 1) ls = s :: more)
    (hs : s.start = offset + Text.byteLength w + 1) :
    identifiers offset (word w :: mark '.' :: ls) = ⟨offset, s.stop⟩ :: more := by
  rw [identifiers, if_pos hname, hlater]
  exact if_pos hs

theorem identifiers_alone (hname : isName w = true)
    (h : ¬ Joins (offset + Text.byteLength w) ls) :
    identifiers offset (word w :: ls) =
      ⟨offset, offset + Text.byteLength w⟩ :: identifiers (offset + Text.byteLength w) ls := by
  by_cases hdot : ∃ rest, ls = mark '.' :: rest
  · rcases hdot with ⟨rest, rfl⟩
    rw [identifiers_mark, identifiers, if_pos hname]
    cases hlater : identifiers (offset + Text.byteLength w + 1) rest with
    | nil => exact congrArg _ hlater.symm
    | cons s more =>
        refine (if_neg ?_).trans (congrArg _ hlater.symm)
        exact fun hstart => h ⟨rest, s, more, rfl, hlater, hstart⟩
  · rw [identifiers, if_pos hname]
    exact fun rest hrest => hdot ⟨rest, hrest⟩

/-- The tokens of the pass are the groups of joined names. -/
theorem identifiers_eq (hls : Proper ls) (front : List Char) :
    identifiers (Text.byteLength front) ls =
      (nameChains (front ++ spell ls) (wordRuns (Text.byteLength front) ls)).map chainSpan := by
  induction hls generalizing front with
  | nil => rfl
  | @mark c ls _ _ ih =>
      have hlater := ih (front ++ [c])
      rw [List.append_assoc, byteLength_append_mark] at hlater
      rw [identifiers_mark, wordRuns]
      exact hlater
  | @word w ls _ _ _ hrest ih =>
      have hlater := ih (front ++ w)
      rw [List.append_assoc, byteLength_append] at hlater
      have hdot (v : Run) : Dotted (front ++ (w ++ spell ls)) ⟨Text.byteLength front, w⟩ v ↔
          (spell ls).head? = some '.' ∧
            v.start = Text.byteLength front + Text.byteLength w + 1 := dotted_iff
      rw [wordRuns, spell_cons, Lexeme.chars]
      by_cases hname : isName w = true
      · by_cases hjoins : Joins (Text.byteLength front + Text.byteLength w) ls
        · -- The first chain behind the dot begins there, so the name is joined to it.
          rcases hjoins with ⟨rest, s, more, rfl, hmore, hstart⟩
          rw [identifiers_mark, show '.'.utf8Size = 1 from rfl, hmore] at hlater
          rcases List.map_eq_cons_iff.1 hlater.symm with ⟨c, cs, hchains, hspan, hmap⟩
          have hne : c ≠ [] := ne_nil_of_mem_nameChains (hchains ▸ List.mem_cons_self)
          rcases List.exists_cons_of_ne_nil hne with ⟨v, vs, rfl⟩
          rw [← hspan] at hstart
          rw [identifiers_joined hname hmore (by rw [← hspan]; exact hstart),
            nameChains_cons_joined hname hchains ((hdot v).2 ⟨rfl, hstart⟩), List.map_cons,
            chainSpan_cons_cons, hspan, hmap]
        · rw [identifiers_alone hname hjoins, nameChains_cons_alone hname, List.map_cons, hlater]
          · rfl
          · -- A name that is joined comes first behind the dot, and so does its token.
            intro c hc v hv hdotted
            refine hjoins ?_
            rcases (hdot v).1 hdotted with ⟨hhead, hstart⟩
            rcases hrest.eq_mark (by decide) hhead with ⟨rest, rfl⟩
            rcases List.head?_eq_some_iff.1 hc with ⟨cs, hcs⟩
            rcases List.head?_eq_some_iff.1 hv with ⟨vs, rfl⟩
            rw [hcs] at hlater
            exact ⟨rest, _, _, rfl, hlater, hstart⟩
      · rw [identifiers_skip (by simpa using hname), nameChains_cons_skip (by simpa using hname)]
        exact hlater

/-- A token begins where the lexemes begin only if a name does. -/
theorem name_of_start (hls : Proper ls) {s : Span} (hs : s ∈ identifiers (Text.byteLength front) ls)
    (hstart : s.start = Text.byteLength front) :
    ∃ v rest, ls = word v :: rest ∧ isName v = true := by
  rw [identifiers_eq hls, List.mem_map] at hs
  rcases hs with ⟨c, hc, rfl⟩
  rcases List.exists_cons_of_ne_nil (ne_nil_of_mem_nameChains hc) with ⟨r, rs, rfl⟩
  have hr := mem_of_mem_nameChains hc List.mem_cons_self
  rcases hls.eq_word_of_start hr.1 hstart with ⟨rest, rfl⟩
  exact ⟨r.chars, rest, rfl, hr.2⟩

end Classification

/-! ## The search -/

namespace Pattern

/-- Whether a name may begin with a character. -/
def opensName (c : Char) : Bool :=
  isWordChar c && !c.isDigit

/-- A word that does not begin with a digit. -/
def name : Pattern :=
  led opensName isWordChar

/-- A dot and a name. -/
def dotName : Pattern :=
  seq dot name

/-- Names between two edges, each but the first behind a dot. -/
def dottedName : Pattern :=
  seq edge (seq name (seq (many dotName) edge))

variable {k k' : Cursor} {front w rest : List Char}

theorem isWordChar_of_opensName (c : Char) (h : opensName c = true) : isWordChar c = true :=
  (Bool.and_eq_true_iff.1 h).1

theorem head?_name (h : IsRun isWordChar front w rest) (hname : isName w = true) :
    (name.ways ⟨front, w ++ rest⟩).head? = some ⟨front ++ w, rest⟩ := by
  rcases List.exists_cons_of_ne_nil h.ne_nil with ⟨c, cs, rfl⟩
  have hc : opensName c = true := Bool.and_eq_true_iff.2 ⟨h.all c List.mem_cons_self, hname⟩
  exact head?_led hc (fun d hd => h.all d (List.mem_cons_of_mem _ hd)) h.right

theorem mem_dotName (h : k' ∈ dotName.ways ⟨front, rest⟩) : ∃ w later,
    rest = '.' :: (w ++ later) ∧ IsRun isWordChar (front ++ ['.']) w later ∧ isName w = true := by
  rcases mem_dot_led isWordChar_of_opensName h with ⟨c, cs, later, hrest, hc, hrun, -⟩
  exact ⟨c :: cs, later, hrest, hrun, (Bool.and_eq_true_iff.1 hc).2⟩

theorem head?_dotName (h : IsRun isWordChar (front ++ ['.']) w rest) (hname : isName w = true) :
    (dotName.ways ⟨front, '.' :: (w ++ rest)⟩).head? = some ⟨front ++ ['.'] ++ w, rest⟩ :=
  head?_seq rfl (head?_name h hname)

theorem length_lt_of_mem_dotName (h : k' ∈ dotName.ways k) : k'.rest.length < k.rest.length := by
  rcases mem_seq.1 h with ⟨k₁, hdot, hk'⟩
  rcases mem_one.1 hdot with ⟨d, -, -, hrest⟩
  rcases mem_led hk' with ⟨c, t, -, -, -, hrest'⟩
  rw [hrest, hrest']
  simp only [List.length_append, List.length_cons, List.length_nil]
  omega

/-- Reading on from the end of a word, one comes to the end of a word. -/
theorem Greedy.atEnd (h : Greedy dotName.ways k k') (hbefore : k.wordBefore = true)
    (hafter : k.wordAfter = false) : k'.wordBefore = true ∧ k'.wordAfter = false := by
  induction h with
  | stop _ => exact ⟨hbefore, hafter⟩
  | @step k k' k'' hhead _ _ ih =>
      rcases k with ⟨front, rest⟩
      rcases mem_dotName (List.mem_of_head? hhead) with ⟨w, later, rfl, hrun, hname⟩
      rw [head?_dotName hrun hname] at hhead
      cases hhead
      exact ih (Cursor.wordBefore_append hrun.ne_nil hrun.all)
        (Cursor.wordAfter_eq_false hrun.right)

/-- A match goes from a name over all names that are joined to it. -/
theorem searchFrom_name (h : IsRun isWordChar front w rest) (hname : isName w = true)
    (hgreedy : Greedy dotName.ways ⟨front ++ w, rest⟩ k') :
    dottedName.searchFrom ⟨front, w ++ rest⟩ =
      ⟨byteLength front, byteLength k'.front⟩ :: dottedName.searchFrom k' := by
  have hend := hgreedy.atEnd (Cursor.wordBefore_append h.ne_nil h.all)
    (Cursor.wordAfter_eq_false h.right)
  have hedge : k'.atEdge = true := by simp [Cursor.atEdge, hend]
  have hpos : 0 < w.length := List.length_pos_iff.2 h.ne_nil
  have hle := hgreedy.length_le
  refine searchFrom_hit ?_ ?_
  · exact head?_seq (head?_edge (Cursor.atEdge_start h))
      (head?_seq (head?_name h hname) (head?_seq hgreedy.head?_many (head?_edge hedge)))
  · simp only [List.length_append]
    simp only at hle
    omega

theorem dottedName_anchored : Anchored dottedName :=
  ((opens_led isWordChar_of_opensName).seq _).anchored

/-- Where a word begins with a digit, there is no match. -/
theorem dottedName_ways_eq_nil (hne : w ≠ []) (h : isName w = false) :
    dottedName.ways ⟨front, w ++ rest⟩ = [] := by
  rcases List.exists_cons_of_ne_nil hne with ⟨c, cs, rfl⟩
  rw [List.eq_nil_iff_forall_not_mem]
  intro k' hk'
  rcases mem_seq.1 hk' with ⟨k₁, hedge, hk'⟩
  rcases mem_seq.1 hk' with ⟨k₂, hname, -⟩
  cases (mem_edge.1 hedge).2
  rcases mem_led hname with ⟨d, t, hd, -, -, hrest⟩
  have heq : c = d := (List.cons.inj hrest).1
  rw [← heq, opensName, Bool.and_eq_true] at hd
  rw [isName, hd.2] at h
  cases h

open Classification in
theorem searchFrom_dottedName {ls : List Lexeme} (hls : Proper ls)
    (hparted : Parted front (spell ls)) :
    dottedName.searchFrom ⟨front, spell ls⟩ = identifiers (byteLength front) ls := by
  have hanchored := dottedName_anchored
  induction hls generalizing front with
  | nil => exact hanchored.searchFrom_nil front
  | @mark c ls hc _ ih =>
      rw [identifiers_mark, ← byteLength_append_mark, ← ih (parted_of_mark hc)]
      exact hanchored.searchFrom_mark hc
  | @word w ls hne hall hend hrest ih =>
      have hrun : IsRun isWordChar front w (spell ls) :=
        (Proper.word hne hall hend hrest).isRun hparted
      have hlater := @ih (front ++ w) (parted_of_head hend)
      rw [byteLength_append] at hlater
      rw [spell_cons, Lexeme.chars]
      by_cases hname : isName w = true
      · rcases exists_greedy (fun _ _ => length_lt_of_mem_dotName) ⟨front ++ w, spell ls⟩ with
          ⟨k', hgreedy⟩
        rw [searchFrom_name hrun hname hgreedy]
        cases hgreedy with
        | stop hnone =>
            -- No name follows behind a dot, so no token begins there.
            rw [identifiers_alone hname, hlater, byteLength_append]
            rintro ⟨rest, s, more, rfl, hmore, hstart⟩
            cases hrest with
            | mark hdot hrest =>
                rw [← Run.byteLength_append_dot] at hmore hstart
                rcases name_of_start hrest (hmore ▸ List.mem_cons_self) hstart with
                  ⟨v, later, rfl, hvname⟩
                have hv : IsRun isWordChar (front ++ w ++ ['.']) v (spell later) :=
                  hrest.isRun (parted_of_mark hdot)
                have hhead := head?_dotName hv hvname
                have hways : dotName.ways ⟨front ++ w, '.' :: (v ++ spell later)⟩ = [] := hnone
                rw [hways] at hhead
                cases hhead
        | @step _ k₁ _ hhead _ hgreedy =>
            -- From the name behind the dot the search would go to the same place.
            rcases mem_dotName (List.mem_of_head? hhead) with ⟨v, later, hspell, hv, hvname⟩
            rcases hrest.eq_mark (c := '.') rfl (by rw [hspell]; rfl) with ⟨rest, rfl⟩
            rw [hspell, head?_dotName hv hvname] at hhead
            cases hhead
            rw [hspell, hanchored.searchFrom_mark rfl, searchFrom_name hv hvname hgreedy,
              identifiers_mark] at hlater
            exact (identifiers_joined hname hlater.symm (Run.byteLength_append_dot front w)).symm
      · have hnot : isName w = false := by simpa using hname
        rw [identifiers_skip hnot, ← hlater]
        exact hanchored.searchFrom_word hall (dottedName_ways_eq_nil hne hnot)

end Pattern

/-! ## Tokens -/

theorem mem_names_cut {text : List Char} {r : Run} :
    r ∈ (wordRuns 0 (cut text)).filter (fun r => isName r.chars) ↔ r.IsName text := by
  rw [List.mem_filter, mem_wordRuns_cut]
  exact and_congr_right fun hr => hr.isName_iff

theorem mem_nameChains_cut {text : List Char} {c : List Run} :
    c ∈ Classification.nameChains text (wordRuns 0 (cut text)) ↔ IsNameChain text c :=
  mem_splitBy_iff_isNameChain ((cut_proper text).wordRuns_apart 0 |>.filter _)
    fun _ => mem_names_cut

theorem mem_identifiers_iff {text : List Char} {s : Span} :
    s ∈ tokenSpans text .identifier ↔ ∃ chain, IsNameChain text chain ∧ chainSpan chain = s := by
  have hchains := Classification.identifiers_eq (cut_proper text) []
  rw [List.nil_append, spell_cut, byteLength_nil] at hchains
  rw [tokenSpans, classify_filter, Classification.pass, hchains, List.mem_map]
  simp only [mem_nameChains_cut]

theorem Text.Run.IsName.exists_chain {text : List Char} {r : Run} (h : r.IsName text) :
    ∃ c, IsNameChain text c ∧ r ∈ c := by
  have hmem := mem_names_cut.2 h
  rw [← List.flatten_splitBy (fun r v => decide (Run.Dotted text r v)) (List.filter _ _)] at hmem
  rcases List.mem_flatten.1 hmem with ⟨c, hc, hr⟩
  exact ⟨c, mem_nameChains_cut.1 hc, hr⟩

/-- Identifiers are the chains of names, so every name is in exactly one of them, and a word that
begins with a digit is in none.  A search for dotted names between edges finds the same tokens. -/
theorem identifier_tokens_exact (text : List Char) :
    Span.Lists (byteLength text) (tokenSpans text .identifier)
      (fun s => ∃ c, IsNameChain text c ∧ chainSpan c = s) ∧
    (∀ r : Run, r.IsName text → ∃! s, s ∈ tokenSpans text .identifier ∧
      s.start ≤ r.start ∧ r.span.stop ≤ s.stop) ∧
    (∀ s ∈ tokenSpans text .identifier, ∀ r : Run, r.MaximalIn isWordChar text →
      r.ledByDigit = true → r.span.stop ≤ s.start ∨ s.stop ≤ r.start) ∧
    Pattern.dottedName.search text = tokenSpans text .identifier := by
  have hpass : tokenSpans text .identifier = Classification.identifiers 0 (cut text) :=
    classify_filter text .identifier
  refine ⟨⟨tokenSpans_ascending text _, fun _ => mem_identifiers_iff⟩, ?_, ?_, ?_⟩
  · intro r hr
    rcases hr.exists_chain with ⟨c, hc, hmem⟩
    have hpos := hr.1.start_lt_stop
    have hin := within_chainSpan hc.joined hmem
    refine ⟨chainSpan c, ⟨mem_identifiers_iff.2 ⟨c, hc, rfl⟩, hin⟩, ?_⟩
    rintro s ⟨hs, hstart, hstop⟩
    refine (tokenSpans_ascending text _).eq_of_contains hs (mem_identifiers_iff.2 ⟨c, hc, rfl⟩)
      (n := r.start) ?_ ?_
    · exact Span.contains_iff.2 ⟨hstart, by omega⟩
    · exact Span.contains_iff.2 ⟨hin.1, by omega⟩
  · intro s hs r hr hdigit
    rcases mem_identifiers_iff.1 hs with ⟨c, hc, rfl⟩
    refine outside_of_not_mem (fun v hv => (hc.names v hv).1) hc.ne_nil hc.joined hr ?_
    intro hmem
    rw [(hc.names r hmem).2] at hdigit
    cases hdigit
  · exact (Pattern.search_eq_pass Pattern.searchFrom_dottedName text).trans hpass.symm

example : tokenSpans "a.b.1c.d..é_".toList .identifier = [⟨0, 3⟩, ⟨7, 8⟩, ⟨12, 13⟩] := by
  decide +kernel

end EmbeddedSql
