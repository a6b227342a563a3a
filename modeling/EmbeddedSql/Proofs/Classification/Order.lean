import EmbeddedSql.Classification
import EmbeddedSql.Proofs.Document.Spans

/-!
# Order — the tokens of one pass stand one behind the other

Every pass goes over the text once, so its tokens are nonempty parts of the text, in order.  Five of
the passes read lexemes; their text is what the lexemes spell.

* `Classification.pass_carved` — the tokens of each pass are carved out of the text;
* `classify_filter` — the tokens of a class are those of its pass;
* `classify_mem` — every token is nonempty and ends inside the text.
-/

namespace EmbeddedSql

open Text

/-- Words are cut out nonempty. -/
theorem Lexeme.ne_nil_of_word_mem_cut {t w : List Char} (h : Lexeme.word w ∈ Lexeme.cut t) :
    w ≠ [] := by
  induction t generalizing w with
  | nil => simp [cut] at h
  | cons c cs ih =>
      simp only [cut] at h
      split at h
      · split at h
        · rename_i v rest hcut
          rw [hcut] at ih
          rcases List.mem_cons.1 h with heq | hmem
          · simp_all
          · exact ih (List.mem_cons_of_mem _ hmem)
        · rcases List.mem_cons.1 h with heq | hmem
          · simp_all
          · exact ih hmem
      · rcases List.mem_cons.1 h with heq | hmem
        · cases heq
        · exact ih hmem

namespace Classification

open Lexeme EmbeddedSql.Span

theorem ne_nil_of_isName {w : List Char} (h : isName w = true) : w ≠ [] := by
  cases w with
  | nil => simp [isName] at h
  | cons c cs => simp

theorem byteLength_dot : byteLength ['.'] = 1 := rfl

/-! ## Passes over lexemes -/

theorem identifiers_carved (offset : Nat) (ls : List Lexeme) :
    Carved offset (spell ls) (identifiers offset ls) := by
  fun_induction identifiers offset ls with
  | case1 => trivial
  | case2 offset w rest stop later hname next more hlater hjoined ih =>
      -- A later name right behind the dot: both are one token.
      have hsplit : spell (word w :: mark '.' :: rest) = (w ++ ['.']) ++ spell rest := by
        simp [chars]
      have hlen : offset + byteLength (w ++ ['.']) = stop + 1 := by
        simp only [byteLength_append, byteLength_dot, ← Nat.add_assoc, stop]
      rw [hsplit]
      apply Carved.extend
      · rw [hlen, ← hlater]
        exact ih
      · rw [hlen]
        exact hjoined
  | case3 offset w rest stop later hname next more hlater _ ih =>
      apply Carved.take (ne_nil_of_isName hname)
      apply @Carved.skip stop (spell rest) _ ['.']
      rw [← hlater]
      exact ih
  | case4 offset w rest stop later hname hlater ih =>
      exact Carved.take (ne_nil_of_isName hname) trivial
  | case5 offset w rest stop hname later ih =>
      apply Carved.skip
      exact @Carved.skip stop (spell rest) _ ['.'] ih
  | case6 offset w rest _ stop hname ih =>
      exact Carved.take (ne_nil_of_isName hname) ih
  | case7 offset w rest _ stop hname ih =>
      exact Carved.skip ih
  | case8 offset c rest ih =>
      exact @Carved.skip offset (spell rest) _ [c] ih

theorem vocabularyWords_carved (vocabulary : List String) (offset : Nat) (ls : List Lexeme)
    (hwords : ∀ w, word w ∈ ls → w ≠ []) :
    Carved offset (spell ls) (vocabularyWords vocabulary offset ls) := by
  fun_induction vocabularyWords vocabulary offset ls with
  | case1 => trivial
  | case2 offset w rest stop hholds ih =>
      apply Carved.take (hwords w List.mem_cons_self)
      exact ih fun v hv => hwords v (List.mem_cons_of_mem _ hv)
  | case3 offset w rest stop hholds ih =>
      apply Carved.skip
      exact ih fun v hv => hwords v (List.mem_cons_of_mem _ hv)
  | case4 offset c rest ih =>
      apply @Carved.skip offset (spell rest) _ [c]
      exact ih fun v hv => hwords v (List.mem_cons_of_mem _ hv)

theorem parameters_carved (offset : Nat) (ls : List Lexeme) :
    Carved offset (spell ls) (parameters offset ls) := by
  have hsplit : ∀ (w : List Char) (rest : List Lexeme),
      spell (mark '@' :: word w :: rest) = ('@' :: w) ++ spell rest := by
    intro w rest
    simp [chars]
  have hlen : ∀ (offset : Nat) (w : List Char),
      offset + byteLength ('@' :: w) = offset + 1 + byteLength w := by
    intro offset w
    have hone : '@'.utf8Size = 1 := rfl
    rw [byteLength_cons, hone, Nat.add_assoc]
  fun_induction parameters offset ls with
  | case1 => trivial
  | case2 offset w rest stop hname ih =>
      rw [hsplit, show stop = offset + byteLength ('@' :: w) from (hlen offset w).symm]
      apply Carved.take (by simp)
      rw [hlen]
      exact ih
  | case3 offset w rest stop hname ih =>
      rw [hsplit]
      apply Carved.skip
      rw [hlen]
      exact ih
  | case4 offset l rest _ ih => exact Carved.skip ih

theorem numbers_carved (offset : Nat) (ls : List Lexeme) (hwords : ∀ w, word w ∈ ls → w ≠ []) :
    Carved offset (spell ls) (numbers offset ls) := by
  fun_induction numbers offset ls with
  | case1 => trivial
  | case2 offset w v rest stop farStop hw hv ih =>
      have hsplit : spell (word w :: mark '.' :: word v :: rest) =
          (w ++ ('.' :: v)) ++ spell rest := by
        simp [chars]
      have hlen : farStop = offset + byteLength (w ++ ('.' :: v)) := by
        have hone : '.'.utf8Size = 1 := rfl
        simp only [byteLength_append, byteLength_cons, hone, farStop, stop, Nat.add_assoc]
      rw [hsplit, hlen]
      apply Carved.take (by simp)
      rw [← hlen]
      exact ih fun x hx => hwords x (by simp [hx])
  | case3 offset w v rest stop hw hv ih =>
      apply Carved.take (hwords w List.mem_cons_self)
      apply @Carved.skip stop _ _ ['.']
      exact ih fun x hx => hwords x (by simp at hx ⊢; exact .inr hx)
  | case4 offset w v rest stop hw ih =>
      apply Carved.skip
      apply @Carved.skip stop _ _ ['.']
      exact ih fun x hx => hwords x (by simp at hx ⊢; exact .inr hx)
  | case5 offset w rest _ stop hw ih =>
      apply Carved.take (hwords w List.mem_cons_self)
      exact ih fun v hv => hwords v (List.mem_cons_of_mem _ hv)
  | case6 offset w rest _ stop hw ih =>
      apply Carved.skip
      exact ih fun v hv => hwords v (List.mem_cons_of_mem _ hv)
  | case7 offset c rest ih =>
      apply @Carved.skip offset (spell rest) _ [c]
      exact ih fun v hv => hwords v (List.mem_cons_of_mem _ hv)

/-! ## Strings -/

/-- What closes a string is a quote. -/
theorem quote_of_closingBytes? {cs : List Char} {n : Nat} (h : closingBytes? cs = some n) :
    ∃ b rest, cs = b ++ '\'' :: rest ∧ byteLength b + 1 = n := by
  have hone : '\''.utf8Size = 1 := rfl
  fun_induction closingBytes? cs generalizing n with
  | case1 => cases h
  | case2 cs m hm ih =>
      rcases ih hm with ⟨b, rest, rfl, hb⟩
      cases h
      refine ⟨'\'' :: '\'' :: b, rest, rfl, ?_⟩
      simp only [byteLength_cons, hone]
      omega
  | case3 cs hnone ih =>
      cases h
      exact ⟨[], '\'' :: cs, rfl, rfl⟩
  | case4 cs hpair =>
      cases h
      exact ⟨[], cs, rfl, rfl⟩
  | case5 c cs hpair hquote ih =>
      rcases Option.map_eq_some_iff.1 h with ⟨m, hm, rfl⟩
      rcases ih hm with ⟨b, rest, rfl, hb⟩
      refine ⟨c :: b, rest, rfl, ?_⟩
      rw [byteLength_cons, ← hb]
      omega

/-- What is closed is a nonempty part of the text behind the opening quote. -/
theorem eq_append_of_closingBytes? {cs : List Char} {n : Nat} (h : closingBytes? cs = some n) :
    ∃ b rest, cs = b ++ rest ∧ byteLength b = n := by
  rcases quote_of_closingBytes? h with ⟨b, rest, rfl, hb⟩
  refine ⟨b ++ ['\''], rest, by simp, ?_⟩
  rw [byteLength_append, ← hb]
  rfl

/-- Nothing starts in front of `resume`. -/
theorem strings_append {resume offset : Nat} {b rest : List Char}
    (h : offset + byteLength b ≤ resume) :
    strings resume offset (b ++ rest) = strings resume (offset + byteLength b) rest := by
  induction b generalizing offset with
  | nil => rfl
  | cons c cs ih =>
      have hpos : 0 < c.utf8Size := c.utf8Size_pos
      rw [byteLength_cons] at h ⊢
      rw [List.cons_append, strings, if_pos (by omega), ih (by omega), Nat.add_assoc]

theorem strings_carved (resume offset : Nat) (cs : List Char) :
    Carved offset cs (strings resume offset cs) := by
  match cs with
  | [] => trivial
  | c :: cs =>
      rw [strings]
      by_cases hresume : offset < resume
      · rw [if_pos hresume]
        exact @Carved.skip offset cs _ [c] (strings_carved resume (offset + c.utf8Size) cs)
      · rw [if_neg hresume]
        by_cases hquote : c = '\''
        · subst hquote
          rw [if_pos rfl]
          cases hclosing : closingBytes? cs with
          | none => exact @Carved.skip offset cs _ ['\''] (strings_carved resume (offset + 1) cs)
          | some n =>
              rcases eq_append_of_closingBytes? hclosing with ⟨b, rest, hcs, hb⟩
              have hshorter : rest.length ≤ cs.length := by
                rw [hcs]
                simp
              have hlen : offset + 1 + n = offset + byteLength ('\'' :: b) := by
                have hone : '\''.utf8Size = 1 := rfl
                rw [byteLength_cons, hone, hb, Nat.add_assoc]
              -- The search goes on over the string's own text, where it finds nothing.
              have hskip : strings (offset + 1 + n) (offset + 1) cs =
                  strings (offset + 1 + n) (offset + 1 + n) rest := by
                rw [hcs, strings_append (by omega), hb]
              simp only [hskip]
              rw [hcs, hlen]
              exact @Carved.take offset rest _ ('\'' :: b) (by simp) (strings_carved _ _ rest)
        · rw [if_neg hquote]
          exact @Carved.skip offset cs _ [c] (strings_carved resume (offset + c.utf8Size) cs)
termination_by cs.length
decreasing_by
  all_goals simp_wf
  all_goals omega

/-! ## All passes -/

theorem pass_carved (text : List Char) (c : Category) : Carved 0 text (pass text c) := by
  have hwords : ∀ w, word w ∈ cut text → w ≠ [] := fun _ => ne_nil_of_word_mem_cut
  have hspell : ∀ spans, Carved 0 (spell (cut text)) spans → Carved 0 text spans := by
    intro spans h
    rwa [spell_cut] at h
  cases c with
  | identifier => exact hspell _ (identifiers_carved 0 (cut text))
  | keyword => exact hspell _ (vocabularyWords_carved _ 0 (cut text) hwords)
  | function => exact hspell _ (vocabularyWords_carved _ 0 (cut text) hwords)
  | boolean => exact hspell _ (vocabularyWords_carved _ 0 (cut text) hwords)
  | parameter => exact hspell _ (parameters_carved 0 (cut text))
  | string =>
      simp only [pass]
      split
      · trivial
      · exact strings_carved 0 0 text
  | number => exact hspell _ (numbers_carved 0 (cut text) hwords)

end Classification

theorem classify_filter (text : List Char) (c : Category) :
    ((classify text).filter (·.1 == c)).map (·.2) = Classification.pass text c := by
  -- All tokens of a pass have its class, so a pass is kept as a whole or dropped.
  have hpass : ∀ c', (((Classification.pass text c').map (c', ·)).filter (·.1 == c)).map (·.2) =
      if c' = c then Classification.pass text c' else [] := by
    intro c'
    by_cases hc : c' = c <;> simp [List.filter_map, Function.comp_def, hc]
  rw [classify, List.filter_flatMap, List.map_flatMap]
  simp only [hpass]
  cases c <;> simp [Category.passOrder]

theorem classify_mem {text : List Char} {c : Category} {s : Span} (h : (c, s) ∈ classify text) :
    s.start < s.stop ∧ s.stop ≤ byteLength text := by
  rcases List.mem_flatMap.1 h with ⟨c', -, hmem⟩
  rcases List.mem_map.1 hmem with ⟨s', hs, heq⟩
  cases heq
  have hbounds := (Classification.pass_carved text c).ascending.mem hs
  exact ⟨hbounds.2.1, by omega⟩

end EmbeddedSql
