import EmbeddedSql.Proofs.Classification.Order
import EmbeddedSql.Proofs.Text.Folding

/-!
# Folding — the tokens of a folded text

A folded text is cut into the same lexemes, up to the case of their letters.  The passes look at the
bytes of a lexeme, at its first character or at its digits, at a sign, or at a word without its
case, so each pass finds the same tokens:

* `Lexeme.folded`, `Lexeme.cut_foldCase` — the lexemes of a folded text;
* `Classification.identifiers_folded`, `Classification.vocabularyWords_folded`,
  `Classification.parameters_folded`, `Classification.numbers_folded` — the passes over lexemes;
* `Classification.strings_foldCase`, `Classification.isQuoteBounded_foldCase` — the pass over
  characters;
* `classify_foldCase` — all passes.
-/

namespace EmbeddedSql

open Text

/-! ## Lexemes -/

namespace Lexeme

/-- A lexeme of the folded text. -/
def folded : Lexeme → Lexeme
  | word w => word (foldCase w)
  | mark c => mark c.toLower

@[simp] theorem folded_word (w : List Char) : (word w).folded = word (foldCase w) := rfl

@[simp] theorem folded_mark (c : Char) : (mark c).folded = mark c.toLower := rfl

theorem isWordChar_toLower (c : Char) : isWordChar c.toLower = isWordChar c :=
  rel_toLower (r := fun c l => isWordChar l = isWordChar c) (fun _ => rfl) (by decide) c

theorem cut_foldCase (t : List Char) : cut (foldCase t) = (cut t).map folded := by
  induction t with
  | nil => rfl
  | cons c cs ih =>
      simp only [foldCase_cons, cut, isWordChar_toLower, ih]
      by_cases hc : isWordChar c = true
      · simp only [if_pos hc]
        cases cut cs with
        | nil => rfl
        | cons l rest =>
            cases l with
            | word w => rfl
            | mark c => rfl
      · simp only [if_neg hc]
        rfl

theorem isName_foldCase (w : List Char) : isName (foldCase w) = isName w := by
  cases w with
  | nil => rfl
  | cons c cs => simp [isName]

theorem isNumeral_foldCase (w : List Char) : isNumeral (foldCase w) = isNumeral w := by
  rw [isNumeral, isNumeral, foldCase, List.all_map]
  congr 1
  exact funext isDigit_toLower

end Lexeme

namespace Classification

open Lexeme

/-! ## Passes over lexemes

The recursions follow the patterns of the passes, which look one or two lexemes ahead for a sign.
-/

theorem identifiers_folded : ∀ (offset : Nat) (ls : List Lexeme),
    identifiers offset (ls.map folded) = identifiers offset ls
  | _, [] => rfl
  | offset, mark c :: rest => by simp [identifiers, identifiers_folded _ rest]
  | offset, [word w] => by simp [identifiers, isName_foldCase]
  | offset, word w :: word v :: rest => by
      have hrest := fun stop => identifiers_folded stop (word v :: rest)
      simp only [List.map_cons, folded_word] at hrest
      simp [identifiers, isName_foldCase, hrest]
  | offset, word w :: mark c :: rest => by
      by_cases hc : c = '.'
      · subst hc
        have hdot : Char.toLower '.' = '.' := rfl
        simp [identifiers, isName_foldCase, hdot, identifiers_folded _ rest]
      · have hc' : c.toLower ≠ '.' := toLower_ne (by decide) hc
        simp [identifiers, isName_foldCase, hc, hc', identifiers_folded _ rest]

theorem parameters_folded : ∀ (offset : Nat) (ls : List Lexeme),
    parameters offset (ls.map folded) = parameters offset ls
  | _, [] => rfl
  | offset, [l] => by simp [parameters]
  | offset, word w :: rest => by
      simp [parameters, Lexeme.byteLength, chars, parameters_folded _ rest]
  | offset, mark c :: mark d :: rest => by
      have hrest := fun stop => parameters_folded stop (mark d :: rest)
      simp only [List.map_cons, folded_mark] at hrest
      simp [parameters, Lexeme.byteLength, chars, hrest]
  | offset, mark c :: word w :: rest => by
      by_cases hc : c = '@'
      · subst hc
        have hat : Char.toLower '@' = '@' := rfl
        simp [parameters, isName_foldCase, hat, parameters_folded _ rest]
      · have hc' : c.toLower ≠ '@' := toLower_ne (by decide) hc
        simp [parameters, Lexeme.byteLength, chars, hc, hc', parameters_folded _ rest]

theorem numbers_folded : ∀ (offset : Nat) (ls : List Lexeme),
    numbers offset (ls.map folded) = numbers offset ls
  | _, [] => rfl
  | offset, mark c :: rest => by simp [numbers, numbers_folded _ rest]
  | offset, [word w] => by simp [numbers, isNumeral_foldCase]
  | offset, word w :: word v :: rest => by
      have hrest := fun stop => numbers_folded stop (word v :: rest)
      simp only [List.map_cons, folded_word] at hrest
      simp [numbers, isNumeral_foldCase, hrest]
  | offset, [word w, mark c] => by simp [numbers, isNumeral_foldCase]
  | offset, word w :: mark c :: mark d :: rest => by
      simp [numbers, isNumeral_foldCase, numbers_folded _ rest]
  | offset, word w :: mark c :: word v :: rest => by
      have hrest := fun stop => numbers_folded stop (word v :: rest)
      simp only [List.map_cons, folded_word] at hrest
      by_cases hc : c = '.'
      · subst hc
        have hdot : Char.toLower '.' = '.' := rfl
        simp [numbers, isNumeral_foldCase, hdot, numbers_folded _ rest, hrest]
      · have hc' : c.toLower ≠ '.' := toLower_ne (by decide) hc
        simp [numbers, isNumeral_foldCase, hc, hc', hrest]

theorem upper_foldCase (w : List Char) : Vocabulary.upper (foldCase w) = Vocabulary.upper w := by
  rw [Vocabulary.upper, foldCase, List.map_map]
  exact List.map_congr_left fun c _ => toUpper_toLower c

theorem vocabularyWords_folded (vocabulary : List String) (offset : Nat) (ls : List Lexeme) :
    vocabularyWords vocabulary offset (ls.map folded) = vocabularyWords vocabulary offset ls := by
  induction ls generalizing offset with
  | nil => rfl
  | cons l rest ih =>
      cases l with
      | word w => simp [vocabularyWords, Vocabulary.holds, upper_foldCase, ih]
      | mark c => simp [vocabularyWords, ih]

/-! ## Strings -/

theorem closingBytes?_quote {cs : List Char} (h : cs.head? ≠ some '\'') :
    closingBytes? ('\'' :: cs) = some 1 := by
  rw [closingBytes?, if_pos rfl]
  rintro rest - rfl
  exact h rfl

theorem closingBytes?_char {c : Char} (hc : c ≠ '\'') (cs : List Char) :
    closingBytes? (c :: cs) = (closingBytes? cs).map (· + c.utf8Size) := by
  rw [closingBytes?, if_neg hc]
  intro rest heq
  exact absurd heq hc

theorem closingBytes?_foldCase (cs : List Char) :
    closingBytes? (foldCase cs) = closingBytes? cs := by
  have hquote : Char.toLower '\'' = '\'' := rfl
  fun_induction closingBytes? cs with
  | case1 => rfl
  | case2 cs n hclosing ih => simp [closingBytes?, hquote, ih, hclosing]
  | case3 cs hclosing ih => simp [closingBytes?, hquote, ih, hclosing]
  | case4 cs hpair =>
      have halone : cs.head? ≠ some '\'' := by
        intro hhead
        rcases List.head?_eq_some_iff.1 hhead with ⟨rest, rfl⟩
        exact hpair rest rfl rfl
      exact closingBytes?_quote (head?_foldCase_ne (by decide) halone)
  | case5 c cs _ hc ih =>
      have hc' : c.toLower ≠ '\'' := toLower_ne (by decide) hc
      rw [foldCase_cons, closingBytes?_char hc', utf8Size_toLower, ih]

theorem strings_foldCase (resume offset : Nat) (cs : List Char) :
    strings resume offset (foldCase cs) = strings resume offset cs := by
  have hquote : ∀ c : Char, c.toLower = '\'' ↔ c = '\'' := fun c => toLower_eq_iff (by decide)
  induction cs generalizing resume offset with
  | nil => rfl
  | cons c cs ih =>
      simp only [foldCase_cons, strings, utf8Size_toLower, hquote, closingBytes?_foldCase, ih]

theorem isQuoteBounded_foldCase (text : List Char) :
    isQuoteBounded (foldCase text) = isQuoteBounded text := by
  have hquote : ∀ c : Char, (c.toLower == '\'') = (c == '\'') := toLower_beq (by decide)
  have hlast : ∀ t : List Char,
      ((foldCase t).getLast? == some '\'') = (t.getLast? == some '\'') := by
    intro t
    rw [foldCase, List.getLast?_map]
    cases t.getLast? with
    | none => rfl
    | some c => exact hquote c
  simp only [isQuoteBounded, trim_foldCase]
  cases trim text with
  | nil => rfl
  | cons c rest =>
      cases rest with
      | nil => rfl
      | cons d cs =>
          show (c.toLower == '\'' && (foldCase (d :: cs)).getLast? == some '\'') = _
          rw [hquote, hlast]

/-! ## All passes -/

theorem pass_foldCase (text : List Char) (c : Category) : pass (foldCase text) c = pass text c := by
  cases c with
  | identifier => rw [pass, pass, cut_foldCase, identifiers_folded]
  | keyword => rw [pass, pass, cut_foldCase, vocabularyWords_folded]
  | function => rw [pass, pass, cut_foldCase, vocabularyWords_folded]
  | boolean => rw [pass, pass, cut_foldCase, vocabularyWords_folded]
  | parameter => rw [pass, pass, cut_foldCase, parameters_folded]
  | string => rw [pass, pass, isQuoteBounded_foldCase, strings_foldCase]
  | number => rw [pass, pass, cut_foldCase, numbers_folded]

end Classification

theorem classify_foldCase (text : List Char) : classify (foldCase text) = classify text := by
  simp only [classify, Classification.pass_foldCase]

end EmbeddedSql
