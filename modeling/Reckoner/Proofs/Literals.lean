import Reckoner.Proofs.Arithmetic.Naturals
import Reckoner.Proofs.Evaluation.Grouping

/-!
# `Reckoner.Proofs.Literals`: what the tokens of a formula say

The tokens of a formula group its marks, and the numbers among them are what their digits write.
A number is put together digit by digit in doubles, each time ten times what is there and the next
digit. What is there is never larger than the number in the end. So as long as that is at most
`2 ^ 53` no step is rounded, and the number is exact.

* `Token.holds_decimal`: the number that digits write, as a double.
* `Token.decimal_zero_cons`: a zero in front changes nothing, however long the number is.
* `tokens_group_marks`: tokens and marks, and the numbers among the tokens.
-/

set_option autoImplicit false

namespace Reckoner

open Arithmetic Float.Model

namespace Token

/-- The whole number that digits write, the first of them the most significant. -/
def wholeNumber (first : Fin 10) (others : List (Fin 10)) : ℕ :=
  Nat.ofDigits 10 ((first :: others).map Fin.val).reverse

/-- A further digit multiplies the whole number by ten and adds the digit. -/
theorem wholeNumber_concat (first : Fin 10) (others : List (Fin 10)) (d : Fin 10) :
    wholeNumber first (others ++ [d]) = wholeNumber first others * 10 + d := by
  rw [wholeNumber, ← List.cons_append, List.map_append, List.reverse_append, List.map_singleton,
    List.reverse_singleton, List.singleton_append, Nat.ofDigits_cons, wholeNumber]
  ring

/-- The double is built in the same way, one digit after the other. -/
theorem decimal_concat (first : Fin 10) (others : List (Fin 10)) (d : Fin 10) :
    decimal first (others ++ [d]) = decimal first others * 10 + digitValue d := by
  simp [decimal]

/-! ### Exact numbers -/

/-- The double of a digit is the double of the natural number. -/
theorem digitValue_eq : ∀ d : Fin 10, digitValue d = packed (UnpackedFloat.ofNat .binary64 d) := by
  decide +kernel

/-- The double of a digit holds that digit exactly. -/
theorem holds_digitValue (d : Fin 10) : Holds (digitValue d) d := by
  rw [digitValue_eq]
  exact holds_ofNat (by omega)

/-- The factor ten is held exactly as well. -/
theorem holds_ten : Holds 10 10 := by
  have hten : (10 : Float) = packed (UnpackedFloat.ofNat .binary64 10) := by decide +kernel
  rw [hten]
  exact holds_ofNat (by norm_num)

/-- Up to `2 ^ 53` the number of a literal is exact. -/
theorem holds_decimal (first : Fin 10) (others : List (Fin 10))
    (h : wholeNumber first others ≤ 2 ^ 53) :
    Holds (decimal first others) (wholeNumber first others) := by
  induction others using List.reverseRecOn with
  | nil =>
      have hfirst : wholeNumber first [] = first := by simp [wholeNumber]
      rw [hfirst]
      exact holds_digitValue first
  | append_singleton others d ih =>
      rw [wholeNumber_concat] at h ⊢
      rw [decimal_concat]
      -- What is in front of the last digit is no larger than the number.
      have hbefore := ih (by omega)
      exact (hbefore.mul holds_ten (by omega)).add (holds_digitValue d) h

/-- A zero in front changes nothing. -/
theorem decimal_zero_cons (d : Fin 10) (others : List (Fin 10)) :
    decimal 0 (d :: others) = decimal d others := by
  have hzero : ∀ d : Fin 10, digitValue 0 * 10 + digitValue d = digitValue d := by
    decide +kernel
  rw [decimal, List.foldl_cons, hzero]
  rfl

end Token

/-- **Tokens group the marks of a formula.** The marks fall into parts, in order and without one
left over. A number stands for a run of digits and has the place of the first. It is what they
write, and the run is as long as can be: no border between two parts has digits on both sides, and
numbers are never neighbours. Any other token stands for one mark, unchanged at its place. Up to
`2 ^ 53` the number is exact, and zeros in front of it change nothing. -/
theorem tokens_group_marks (f : Formula) :
    (∃ parts, Token.Groups f.tokens f.marks parts ∧
        parts.IsChain fun part next => ∀ x ∈ part.2.getLast?, ∀ y ∈ next.2.head?,
          ¬ (x.val.isDigit = true ∧ y.val.isDigit = true)) ∧
      (f.tokens.IsChain fun t next =>
        ¬ (t.val.isNumber = true ∧ next.val.isNumber = true)) ∧
      (∀ first others, Token.wholeNumber first others ≤ 2 ^ 53 →
        exactValue? (Token.decimal first others) = some (Token.wholeNumber first others : ℚ)) ∧
      ∀ d others, Token.decimal 0 (d :: others) = Token.decimal d others := by
  have hneighbours := Token.isChain_ofMarks f.marks
  obtain ⟨parts, hparts⟩ := Token.exists_groups f.marks
  refine ⟨⟨parts, hparts, ?_⟩, hneighbours, ?_, Token.decimal_zero_cons⟩
  · rw [← hparts.tokens_eq, List.isChain_map] at hneighbours
    refine hneighbours.imp_of_mem_imp ?_
    -- With digits on both sides of a border there would be a number on both sides.
    rintro part next hpart hnext hnumbers x hx y hy ⟨hxdigit, hydigit⟩
    exact hnumbers
      ⟨(hparts.covers part hpart).isNumber_of_isDigit (List.mem_of_getLast? hx) hxdigit,
        (hparts.covers next hnext).isNumber_of_isDigit (List.mem_of_head? hy) hydigit⟩
  · intro first others hle
    exact (Token.holds_decimal first others hle).exactValue?_eq

/-- Spacing does not end a number, and a foreign character does. -/
theorem tokens_group_marks_foreign :
    ∃ f : Formula, f.text = "1 2x 07" ∧
      f.tokens = [⟨0, .number 12⟩, ⟨3, .foreign 'x'⟩, ⟨5, .number 7⟩] ∧
      (∃ parts, Token.Groups f.tokens f.marks parts) ∧
      Token.wholeNumber 1 [2] ≤ 2 ^ 53 ∧
      exactValue? (Token.decimal 1 [2]) = some (Token.wholeNumber 1 [2] : ℚ) ∧
      Token.decimal 0 [7] = Token.decimal 7 [] := by
  have htokens : (Formula.mk "1 2x 07" ⟨'1', by decide⟩).tokens
      = [⟨0, .number 12⟩, ⟨3, .foreign 'x'⟩, ⟨5, .number 7⟩] := by decide +kernel
  have hle : Token.wholeNumber 1 [2] ≤ 2 ^ 53 := by decide +kernel
  obtain ⟨⟨parts, hparts, -⟩, -, hexact, hzero⟩ :=
    tokens_group_marks (Formula.mk "1 2x 07" ⟨'1', by decide⟩)
  exact ⟨_, rfl, htokens, ⟨parts, hparts⟩, hle, hexact 1 [2] hle, hzero 7 []⟩

end Reckoner
