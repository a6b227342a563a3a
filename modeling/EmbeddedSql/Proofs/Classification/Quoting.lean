import EmbeddedSql.Proofs.Classification.Folding

/-!
# Quoting — where the strings of an SQL text end

In SQL a quote inside a string is written twice, so a string ends at the first quote that no other
quote follows, and a string that is never closed is none.  The pass for strings keeps to this rule
for all strings that are closed.  At the end of the text it does not: if a string stays open and a
doubled quote stands in it, the pass takes the first half of the last doubled quote for its end.

* `Classification.quoteScan` — the strings of a text by the rule, and the one that stays open;
* `Classification.Paired` — what may stand between the quotes of a string;
* `Classification.closes_or_paired` — a string is closed, or all of the text behind its quote could
  stand between two quotes;
* `Classification.strings_quoteScan` — the pass for strings against the rule, from every offset;
* `string_tokens_quoting` — the strings among the tokens of a text.
-/

namespace EmbeddedSql

open Text

namespace Classification

/-! ## The rule -/

/-- The strings that are closed, and the offset of the quote of a string that stays open.  The text
starts at `offset`, in a string that was opened at `opened`, or outside of strings. -/
def quoteScan : (opened : Option Nat) → (offset : Nat) → List Char → List Span × Option Nat
  | opened, _, [] => ([], opened)
  | none, offset, c :: cs =>
    if c = '\'' then quoteScan (some offset) (offset + 1) cs
    else quoteScan none (offset + c.utf8Size) cs
  | some start, offset, '\'' :: '\'' :: cs => quoteScan (some start) (offset + 2) cs
  | some start, offset, c :: cs =>
    if c = '\'' then
      let later := quoteScan none (offset + 1) cs
      (⟨start, offset + 1⟩ :: later.1, later.2)
    else quoteScan (some start) (offset + c.utf8Size) cs

inductive Paired : List Char → Prop where
  | nil : Paired []
  | char {c : Char} {cs : List Char} : c ≠ '\'' → Paired cs → Paired (c :: cs)
  | pair {cs : List Char} : Paired cs → Paired ('\'' :: '\'' :: cs)

variable {start offset resume : Nat} {b cs : List Char}

theorem quoteScan_nil (opened : Option Nat) (offset : Nat) :
    quoteScan opened offset [] = ([], opened) := by
  cases opened <;> rfl

theorem quoteScan_paired (h : Paired b) :
    quoteScan (some start) offset (b ++ cs) =
      quoteScan (some start) (offset + byteLength b) cs := by
  induction h generalizing offset with
  | nil => rfl
  | @char c b hc _ ih =>
      have hstep : quoteScan (some start) offset (c :: (b ++ cs)) =
          quoteScan (some start) (offset + c.utf8Size) (b ++ cs) := by
        rw [quoteScan, if_neg hc]
        intro rest heq
        exact absurd heq hc
      rw [List.cons_append, hstep, ih, byteLength_cons, Nat.add_assoc]
  | pair _ ih =>
      have hone : '\''.utf8Size = 1 := rfl
      simp only [List.cons_append, quoteScan, ih, byteLength_cons, hone]
      congr 1
      omega

theorem quoteScan_closing (h : cs.head? ≠ some '\'') :
    quoteScan (some start) offset ('\'' :: cs) =
      (⟨start, offset + 1⟩ :: (quoteScan none (offset + 1) cs).1,
        (quoteScan none (offset + 1) cs).2) := by
  rw [quoteScan, if_pos rfl]
  rintro rest - rfl
  exact h rfl

/-- The last byte of a span is a quote that no other quote follows, in a text that starts at
`offset`. -/
def EndsAlone (offset : Nat) (text : List Char) (s : Span) : Prop :=
  ∃ y z, text = y ++ '\'' :: z ∧ s.stop = offset + byteLength y + 1 ∧ z.head? ≠ some '\''

theorem EndsAlone.prepend {s : Span} {text front : List Char}
    (h : EndsAlone (offset + byteLength front) text s) : EndsAlone offset (front ++ text) s := by
  rcases h with ⟨y, z, rfl, hstop, hz⟩
  refine ⟨front ++ y, z, by simp, ?_, hz⟩
  rw [hstop, byteLength_append, Nat.add_assoc offset]

theorem quoteScan_alone {opened : Option Nat} {s : Span} (h : s ∈ (quoteScan opened offset cs).1) :
    EndsAlone offset cs s := by
  fun_induction quoteScan opened offset cs with
  | case1 => cases h
  | case2 offset cs ih => exact @EndsAlone.prepend offset s cs ['\''] (ih h)
  | case3 offset c cs _ ih => exact @EndsAlone.prepend offset s cs [c] (ih h)
  | case4 start offset cs ih => exact @EndsAlone.prepend offset s cs ['\'', '\''] (ih h)
  | case5 start offset cs later hpair ih =>
      rcases List.mem_cons.1 h with rfl | h
      · refine ⟨[], cs, rfl, rfl, ?_⟩
        intro hhead
        rcases List.head?_eq_some_iff.1 hhead with ⟨rest, rfl⟩
        exact hpair rest rfl rfl
      · exact @EndsAlone.prepend offset s cs ['\''] (ih h)
  | case6 start offset c cs _ _ ih => exact @EndsAlone.prepend offset s cs [c] (ih h)

/-! ## Closed and open strings -/

theorem closes_or_paired : ∀ cs : List Char,
    (∃ b rest, Paired b ∧ rest.head? ≠ some '\'' ∧ cs = b ++ '\'' :: rest) ∨ Paired cs
  | [] => .inr .nil
  | c :: cs => by
      by_cases hc : c = '\''
      · subst hc
        by_cases hpair : cs.head? = some '\''
        · -- Of two quotes neither closes the string.
          rcases List.head?_eq_some_iff.1 hpair with ⟨ds, rfl⟩
          rcases closes_or_paired ds with ⟨b, rest, hb, hrest, rfl⟩ | hpaired
          · exact .inl ⟨'\'' :: '\'' :: b, rest, .pair hb, hrest, rfl⟩
          · exact .inr (.pair hpaired)
        · exact .inl ⟨[], cs, .nil, hpair, rfl⟩
      · rcases closes_or_paired cs with ⟨b, rest, hb, hrest, rfl⟩ | hpaired
        · exact .inl ⟨c :: b, rest, .char hc hb, hrest, rfl⟩
        · exact .inr (.char hc hpaired)

/-- The last doubled quote of a text whose quotes are all doubled. -/
theorem Paired.last_pair (h : Paired cs) (hquote : '\'' ∈ cs) :
    ∃ b c, cs = b ++ '\'' :: '\'' :: c ∧ Paired b ∧ '\'' ∉ c := by
  induction h with
  | nil => cases hquote
  | @char c cs hc _ ih =>
      have hlater : '\'' ∈ cs := by
        rcases List.mem_cons.1 hquote with heq | hmem
        · exact absurd heq.symm hc
        · exact hmem
      rcases ih hlater with ⟨b, z, rfl, hb, hz⟩
      exact ⟨c :: b, z, rfl, .char hc hb, hz⟩
  | @pair cs hpaired ih =>
      by_cases hlater : '\'' ∈ cs
      · rcases ih hlater with ⟨b, z, rfl, hb, hz⟩
        exact ⟨'\'' :: '\'' :: b, z, rfl, .pair hb, hz⟩
      · exact ⟨[], cs, rfl, .nil, hlater⟩

/-! ## The pass -/

theorem closingBytes?_append {n : Nat} (hb : Paired b) (h : closingBytes? cs = some n) :
    closingBytes? (b ++ cs) = some (byteLength b + n) := by
  induction hb with
  | nil => simpa using h
  | @char c b hc _ ih =>
      rw [List.cons_append, closingBytes?_char hc, ih, byteLength_cons, Option.map_some]
      congr 1
      omega
  | pair _ ih =>
      have hone : '\''.utf8Size = 1 := rfl
      simp only [List.cons_append, closingBytes?, ih, byteLength_cons, hone]
      congr 1
      omega

theorem closingBytes?_of_not_mem (h : '\'' ∉ cs) : closingBytes? cs = none := by
  induction cs with
  | nil => rfl
  | cons c cs ih =>
      rw [List.mem_cons, not_or] at h
      rw [closingBytes?_char (Ne.symm h.1), ih h.2]
      rfl

theorem strings_of_not_mem (h : '\'' ∉ cs) : strings resume offset cs = [] := by
  induction cs generalizing offset with
  | nil => rfl
  | cons c cs ih =>
      rw [List.mem_cons, not_or] at h
      simp only [strings, Ne.symm h.1, if_false, ih h.2, ite_self]

/-- Behind a string the pass goes on where the string ends. -/
theorem strings_opening {rest : List Char} (hresume : resume ≤ offset)
    (hclosing : closingBytes? (b ++ '\'' :: rest) = some (byteLength b + 1)) :
    strings resume offset ('\'' :: (b ++ '\'' :: rest)) =
      ⟨offset, offset + byteLength b + 2⟩ ::
        strings (offset + byteLength b + 2) (offset + byteLength b + 2) rest := by
  have hstop : offset + 1 + (byteLength b + 1) = offset + byteLength b + 2 := by omega
  have hlen : offset + 1 + byteLength (b ++ ['\'']) = offset + byteLength b + 2 := by
    have hone : byteLength ['\''] = 1 := rfl
    rw [byteLength_append, hone]
    omega
  have hskip : strings (offset + byteLength b + 2) (offset + 1) (b ++ '\'' :: rest) =
      strings (offset + byteLength b + 2) (offset + byteLength b + 2) rest := by
    have happend : b ++ '\'' :: rest = (b ++ ['\'']) ++ rest := by simp
    rw [happend, strings_append (Nat.le_of_eq hlen), hlen]
  rw [strings, if_neg (Nat.not_lt.2 hresume), if_pos rfl, hclosing]
  simp only [hstop, hskip]

/-- What is found in a text that starts at `offset`, against what the rule gives.  Only a string
that stays open and has another quote in it makes a difference. -/
structure Follows (text : List Char) (offset : Nat) (found : List Span)
    (rule : List Span × Option Nat) : Prop where
  closed : rule.2 = none → found = rule.1
  opened : ∀ start, rule.2 = some start → ∃ a inner, text = a ++ '\'' :: inner ∧
    start = offset + byteLength a ∧ ('\'' ∉ inner → found = rule.1) ∧
    ('\'' ∈ inner → ∃ b c, inner = b ++ '\'' :: '\'' :: c ∧ '\'' ∉ c ∧
      found = rule.1 ++ [⟨start, start + byteLength b + 2⟩])

/-- A part of the text in which nothing stays open can be put in front. -/
theorem Follows.prepend {text front : List Char} {found : List Span}
    {rule : List Span × Option Nat} (h : Follows text (offset + byteLength front) found rule)
    (earlier : List Span) :
    Follows (front ++ text) offset (earlier ++ found) (earlier ++ rule.1, rule.2) := by
  refine ⟨fun hnone => congrArg (earlier ++ ·) (h.closed hnone), ?_⟩
  intro start hstart
  rcases h.opened start hstart with ⟨a, inner, rfl, rfl, hnone, hsome⟩
  refine ⟨front ++ a, inner, by simp, ?_, fun hq => congrArg (earlier ++ ·) (hnone hq), ?_⟩
  · rw [byteLength_append, Nat.add_assoc]
  · intro hq
    rcases hsome hq with ⟨b, c, rfl, hc, hfound⟩
    exact ⟨b, c, rfl, hc, by simp [hfound]⟩

theorem strings_quoteScan (text : List Char) (resume offset : Nat) (hresume : resume ≤ offset) :
    Follows text offset (strings resume offset text) (quoteScan none offset text) := by
  match text with
  | [] => exact ⟨fun _ => rfl, fun start hstart => by cases hstart⟩
  | c :: cs =>
      by_cases hc : c = '\''
      · subst hc
        have hrule : quoteScan none offset ('\'' :: cs) = quoteScan (some offset) (offset + 1) cs :=
          by rw [quoteScan, if_pos rfl]
        rw [hrule]
        rcases closes_or_paired cs with ⟨b, rest, hb, hrest, hcs⟩ | hpaired
        · -- The string is closed: the rule and the pass end it at the same quote.
          have hshorter : rest.length < cs.length := by
            rw [hcs, List.length_append, List.length_cons]
            omega
          have hstop : offset + 1 + byteLength b + 1 = offset + byteLength b + 2 := by omega
          have hfront :
              offset + byteLength ('\'' :: (b ++ ['\''])) = offset + byteLength b + 2 := by
            have hone : '\''.utf8Size = 1 := rfl
            simp only [byteLength_cons, byteLength_append, byteLength_nil, hone]
            omega
          have hlater := strings_quoteScan rest (offset + byteLength b + 2)
            (offset + byteLength b + 2) (Nat.le_refl _)
          rw [← hfront] at hlater
          have hall := hlater.prepend [⟨offset, offset + byteLength b + 2⟩]
          rw [hfront] at hall
          have hclosing : closingBytes? (b ++ '\'' :: rest) = some (byteLength b + 1) :=
            closingBytes?_append hb (closingBytes?_quote hrest)
          rw [hcs, quoteScan_paired hb, quoteScan_closing hrest, hstop,
            strings_opening hresume hclosing]
          simpa using hall
        · -- The string stays open: by the rule there is no string any more.
          have hopen : quoteScan (some offset) (offset + 1) cs = ([], some offset) := by
            have hscan := @quoteScan_paired offset (offset + 1) cs [] hpaired
            rwa [List.append_nil, quoteScan_nil] at hscan
          rw [hopen]
          refine ⟨fun hnone => absurd hnone (by simp), ?_⟩
          intro start hstart
          cases hstart
          refine ⟨[], cs, rfl, rfl, ?_, ?_⟩
          · intro hquote
            rw [strings, if_neg (Nat.not_lt.2 hresume), if_pos rfl, closingBytes?_of_not_mem hquote]
            exact strings_of_not_mem hquote
          · intro hquote
            rcases hpaired.last_pair hquote with ⟨b, z, hcs, hb, hz⟩
            have hpair : closingBytes? ('\'' :: '\'' :: z) = some 1 := by
              rw [closingBytes?, closingBytes?_of_not_mem hz]
            have hclosing : closingBytes? (b ++ '\'' :: '\'' :: z) = some (byteLength b + 1) :=
              closingBytes?_append hb hpair
            -- The second half of the last pair opens a string again, and nothing closes it.
            have hrest : ∀ n, strings n n ('\'' :: z) = [] := by
              intro n
              rw [strings, if_neg (Nat.lt_irrefl n), if_pos rfl, closingBytes?_of_not_mem hz]
              exact strings_of_not_mem hz
            refine ⟨b, z, hcs, hz, ?_⟩
            rw [hcs, strings_opening hresume hclosing, hrest]
            rfl
      · have hrule : quoteScan none offset (c :: cs) = quoteScan none (offset + c.utf8Size) cs := by
          rw [quoteScan, if_neg hc]
        have hpass : strings resume offset (c :: cs) =
            strings resume (offset + c.utf8Size) cs := by
          rw [strings, if_neg (Nat.not_lt.2 hresume), if_neg hc]
        have hlater := strings_quoteScan cs resume (offset + c.utf8Size) (by omega)
        rw [hrule, hpass]
        exact @Follows.prepend offset cs [c] _ _ hlater []
termination_by text.length
decreasing_by
  all_goals simp_wf
  all_goals omega

end Classification

open Classification

/-- The strings among the tokens of a text, unless the text is bounded by quotes.  They are the
strings that the rule gives, each up to a quote that no other quote follows.  If a string stays open
and has a doubled quote in it, one token more reaches up to the first half of the last one. -/
theorem string_tokens_quoting (text : List Char) (hunbounded : isQuoteBounded text = false) :
    Follows text 0 (((classify text).filter (·.1 == .string)).map (·.2)) (quoteScan none 0 text) ∧
    ∀ s ∈ (quoteScan none 0 text).1, EndsAlone 0 text s := by
  have hpass : Classification.pass text .string = strings 0 0 text := by
    simp [Classification.pass, hunbounded]
  rw [classify_filter, hpass]
  exact ⟨strings_quoteScan text 0 0 (Nat.le_refl 0), fun _ => quoteScan_alone⟩

/-- A closed string with a doubled quote in it, and an open one. -/
theorem string_tokens_quoting_two :
    let text := "'a''b' 'c''d".toList
    isQuoteBounded text = false ∧
      Follows text 0 [⟨0, 6⟩, ⟨7, 10⟩] ([⟨0, 6⟩], some 7) ∧ EndsAlone 0 text ⟨0, 6⟩ := by
  intro text
  have hunbounded : isQuoteBounded text = false := by decide +kernel
  have hfound : ((classify text).filter (·.1 == .string)).map (·.2) = [⟨0, 6⟩, ⟨7, 10⟩] := by
    decide +kernel
  have hrule : quoteScan none 0 text = ([⟨0, 6⟩], some 7) := by decide +kernel
  rcases string_tokens_quoting text hunbounded with ⟨hfollows, halone⟩
  rw [hfound, hrule] at hfollows
  exact ⟨hunbounded, hfollows, halone ⟨0, 6⟩ (by rw [hrule]; simp)⟩

/-- By the rule an open string is none, but here a token ends at a quote that is followed by
another quote. -/
theorem open_string_yields_token :
    let text := "x = 'it''s".toList
    isQuoteBounded text = false ∧ quoteScan none 0 text = ([], some 4) ∧
      ((classify text).filter (·.1 == .string)).map (·.2) = [⟨4, 8⟩] ∧
      slice? 7 9 text = some ['\'', '\''] := by
  decide +kernel

end EmbeddedSql
