import EmbeddedSql.Proofs.Classification.Names

/-!
# Parameters — an at sign and the name behind it

The pass for parameters looks at two lexemes at a time.  The pattern for it has no edges: a search
reads an at sign and then as much of a name as there is.  It stops where the name stops, so both
find names that have an at sign right in front of them.

* `Text.Run.Headed` — an at sign stands right in front of a run;
* `Classification.parameters_induction` — going over the lexemes as the pass does;
* `Classification.mem_parameters` — what the pass finds is a name with an at sign;
* `Pattern.atName`, `Pattern.searchFrom_atName` — the search finds what the pass finds.
-/

namespace EmbeddedSql

open Text Lexeme

/-- An at sign stands right in front of a run. -/
def Text.Run.Headed (text : List Char) (r : Run) : Prop :=
  ∃ before after, text = before ++ '@' :: (r.chars ++ after) ∧ byteLength before + 1 = r.start

/-- Behind a lexeme the text goes on with other lexemes, and not with the same word. -/
theorem Lexeme.Proper.behind {l : Lexeme} {ls : List Lexeme} (h : Proper (l :: ls))
    (front : List Char) : Proper ls ∧ Parted (front ++ l.chars) (spell ls) := by
  cases h with
  | mark hc hrest => exact ⟨hrest, parted_of_mark hc⟩
  | word _ _ hend hrest => exact ⟨hrest, parted_of_head hend⟩

/-! ## The pass -/

namespace Classification

open Text.Run

variable {front w : List Char} {offset : Nat} {l : Lexeme} {ls : List Lexeme}

/-- The lexemes of a text can be gone over as the pass does it, an at sign and a word at a time. -/
theorem parameters_induction {motive : List Lexeme → Prop} (nil : motive [])
    (headed : ∀ w ls, Proper (mark '@' :: word w :: ls) → motive ls →
      motive (mark '@' :: word w :: ls))
    (other : ∀ l ls, Proper (l :: ls) → (∀ w rest, l = mark '@' → ls ≠ word w :: rest) →
      motive ls → motive (l :: ls)) : ∀ ls, Proper ls → motive ls
  | [], _ => nil
  | l :: ls, h => by
      have hls : Proper ls := (h.behind []).1
      by_cases hheaded : ∃ w rest, l = mark '@' ∧ ls = word w :: rest
      · rcases hheaded with ⟨w, rest, rfl, rfl⟩
        exact headed w rest h (parameters_induction nil headed other rest (hls.behind []).1)
      · refine other l ls h ?_ (parameters_induction nil headed other ls hls)
        exact fun w rest hl hls => hheaded ⟨w, rest, hl, hls⟩

theorem parameters_headed (offset : Nat) (w : List Char) (ls : List Lexeme) :
    parameters offset (mark '@' :: word w :: ls) =
      if isName w then
        ⟨offset, offset + 1 + Text.byteLength w⟩ :: parameters (offset + 1 + Text.byteLength w) ls
      else parameters (offset + 1 + Text.byteLength w) ls := by
  rw [parameters]

theorem parameters_other (h : ∀ w rest, l = mark '@' → ls ≠ word w :: rest) :
    parameters offset (l :: ls) = parameters (offset + l.byteLength) ls := by
  rw [parameters]
  exact h

theorem byteLength_append_at (front w : List Char) :
    Text.byteLength (front ++ ['@'] ++ w) = Text.byteLength front + 1 + Text.byteLength w := by
  rw [byteLength_append, byteLength_append_mark]
  rfl

theorem mem_parameters {s : Span} (hls : Proper ls)
    (hs : s ∈ parameters (Text.byteLength front) ls) :
    ∃ r : Run, r.IsName (front ++ spell ls) ∧ r.Headed (front ++ spell ls) ∧
      s.start + 1 = r.start ∧ s.stop = r.span.stop := by
  revert front
  refine parameters_induction (motive := fun ls => ∀ {front},
    s ∈ parameters (Text.byteLength front) ls → ∃ r : Run, r.IsName (front ++ spell ls) ∧
      r.Headed (front ++ spell ls) ∧ s.start + 1 = r.start ∧ s.stop = r.span.stop)
    ?nil ?headed ?other ls hls
  case nil =>
    intro front hs
    cases hs
  case headed =>
    intro w ls hproper ih front hs
    have htext : front ++ spell (mark '@' :: word w :: ls) = (front ++ ['@'] ++ w) ++ spell ls := by
      simp [Lexeme.chars]
    -- Behind the word the pass goes on, whether it was a name or not.
    have hlater := @ih (front ++ ['@'] ++ w)
    rw [← htext, byteLength_append_at] at hlater
    rw [parameters_headed] at hs
    by_cases hname : isName w = true
    · rw [if_pos hname] at hs
      rcases List.mem_cons.1 hs with rfl | hs
      · have hword := hproper.behind front
        have hmax : MaximalIn isWordChar (front ++ spell (mark '@' :: word w :: ls))
            ⟨Text.byteLength front + 1, w⟩ :=
          ⟨front ++ ['@'], spell ls, by simp [Lexeme.chars], byteLength_append_mark front '@',
            hword.1.isRun hword.2⟩
        refine ⟨_, ⟨hmax, hmax.isName_iff.1 hname⟩, ?_, rfl, rfl⟩
        exact ⟨front, spell ls, by simp [Lexeme.chars], rfl⟩
      · exact hlater hs
    · rw [if_neg hname] at hs
      exact hlater hs
  case other =>
    intro l ls hproper hnot ih front hs
    have hlater := @ih (front ++ l.chars)
    rw [byteLength_append, List.append_assoc] at hlater
    rw [parameters_other hnot] at hs
    exact hlater hs

end Classification

/-! ## The search -/

namespace Pattern

/-- An at sign and a name. -/
def atName : Pattern :=
  seq (one (· == '@')) name

variable {k' : Cursor} {front w rest : List Char}

theorem mem_atName (h : k' ∈ atName.ways ⟨front, rest⟩) :
    ∃ c cs, rest = '@' :: c :: cs ∧ opensName c = true := by
  rcases mem_seq.1 h with ⟨⟨front', rest'⟩, hat, hname⟩
  rcases mem_one.1 hat with ⟨a, ha, -, hrest⟩
  rcases mem_led hname with ⟨c, t, hc, -, -, hrest'⟩
  rw [beq_iff_eq.1 ha] at hrest
  exact ⟨c, t ++ k'.rest, hrest.trans (congrArg (['@'] ++ ·) hrest'), hc⟩

theorem atName_ways_eq_nil (h : ∀ c cs, rest = '@' :: c :: cs → opensName c = false) :
    atName.ways ⟨front, rest⟩ = [] := by
  rw [List.eq_nil_iff_forall_not_mem]
  intro k' hk'
  rcases mem_atName hk' with ⟨c, cs, heq, hc⟩
  rw [h c cs heq] at hc
  cases hc

/-- Where no at sign stands, the search goes on. -/
theorem searchFrom_atName_skip (h : ∀ c ∈ w, c ≠ '@') :
    atName.searchFrom ⟨front, w ++ rest⟩ = atName.searchFrom ⟨front ++ w, rest⟩ := by
  induction w generalizing front with
  | nil => simp
  | cons c w ih =>
      have hnone : atName.ways ⟨front, c :: (w ++ rest)⟩ = [] := by
        refine atName_ways_eq_nil ?_
        intro d cs heq
        exact absurd (List.cons.inj heq).1 (h c List.mem_cons_self)
      rw [List.cons_append, searchFrom_miss hnone,
        ih fun d hd => h d (List.mem_cons_of_mem _ hd), List.append_assoc]
      rfl

theorem searchFrom_atName_nil (front : List Char) : atName.searchFrom ⟨front, []⟩ = [] := by
  have hmatch : atName.match? ⟨front, []⟩ = none := rfl
  rw [searchFrom]
  split
  · rename_i heq
    rw [hmatch] at heq
    cases heq
  · rfl

/-- Behind an at sign a name has to begin. -/
theorem searchFrom_atName_miss (h : ∀ c ∈ rest.head?, opensName c = false) :
    atName.searchFrom ⟨front, '@' :: rest⟩ = atName.searchFrom ⟨front ++ ['@'], rest⟩ := by
  refine searchFrom_miss (atName_ways_eq_nil ?_)
  intro c cs heq
  exact h c (by rw [(List.cons.inj heq).2]; rfl)

theorem searchFrom_atName_hit (h : IsRun isWordChar (front ++ ['@']) w rest)
    (hname : isName w = true) :
    atName.searchFrom ⟨front, '@' :: (w ++ rest)⟩ =
      ⟨byteLength front, byteLength (front ++ ['@'] ++ w)⟩ ::
        atName.searchFrom ⟨front ++ ['@'] ++ w, rest⟩ := by
  refine searchFrom_hit (head?_seq rfl (head?_name h hname)) ?_
  simp only [List.length_cons, List.length_append]
  omega

theorem ne_at_of_isWordChar {c : Char} (h : isWordChar c = true) : c ≠ '@' := by
  rintro rfl
  cases h

open Classification in
theorem searchFrom_atName {ls : List Lexeme} (hls : Proper ls) :
    atName.searchFrom ⟨front, spell ls⟩ = parameters (byteLength front) ls := by
  revert front
  refine parameters_induction (motive := fun ls => ∀ {front},
    atName.searchFrom ⟨front, spell ls⟩ = parameters (byteLength front) ls)
    ?nil ?headed ?other ls hls
  case nil =>
    intro front
    exact searchFrom_atName_nil front
  case headed =>
    intro w ls hproper ih front
    have hword := hproper.behind front
    have hrun : IsRun isWordChar (front ++ ['@']) w (spell ls) := hword.1.isRun hword.2
    rw [parameters_headed, ← byteLength_append_at, ← ih]
    by_cases hname : isName w = true
    · rw [if_pos hname]
      exact searchFrom_atName_hit hrun hname
    · -- The word begins with a digit, and there is no at sign in it.
      rw [if_neg hname]
      rcases List.exists_cons_of_ne_nil hrun.ne_nil with ⟨c, cs, rfl⟩
      have hdigit : opensName c = false := by
        simpa [opensName, hrun.all c List.mem_cons_self, isName] using hname
      have hmiss := @searchFrom_atName_miss front (c :: cs ++ spell ls)
        (by simpa using hdigit)
      exact hmiss.trans (searchFrom_atName_skip fun d hd => ne_at_of_isWordChar (hrun.all d hd))
  case other =>
    intro l ls hproper hnot ih front
    have hlater := @ih (front ++ l.chars)
    rw [byteLength_append] at hlater
    rw [parameters_other hnot,
      ← show _ = parameters (byteLength front + l.byteLength) ls from hlater]
    cases hproper with
    | word _ hall _ _ => exact searchFrom_atName_skip fun d hd => ne_at_of_isWordChar (hall d hd)
    | @mark c ls hc hrest =>
        by_cases hat : c = '@'
        · subst hat
          refine searchFrom_atName_miss ?_
          -- No word comes next, so no name does.
          intro d hd
          cases hrest with
          | nil => cases hd
          | mark hd' _ =>
              cases hd
              simp [opensName, hd']
          | word _ _ _ _ => exact absurd rfl (hnot _ _ rfl)
        · exact @searchFrom_atName_skip front [c] _ (by simpa using hat)

end Pattern
end EmbeddedSql
