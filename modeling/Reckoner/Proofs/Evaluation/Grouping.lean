import Mathlib.Data.List.Chain
import Reckoner.Proofs.Evaluation.Characters
import Reckoner.Proofs.Evaluation.Conservation
import Reckoner.Proofs.Tree.Words

/-!
# `Reckoner.Proofs.Evaluation.Grouping`: tokens group the marks

Tokens are made of marks, and no mark is lost or used twice. A number stands for a run of digits,
from its first digit, which has its place, to the last one that follows without another mark
between them. Any other token stands for one mark, which is unchanged and at its place. A foreign
character is a token like the others, so the tokens go on behind it.

* `Token.Covers`: a token and the marks that it stands for.
* `Token.Groups`, `Token.exists_groups`: the marks fall into the parts that the tokens stand for.
* `Token.isChain_ofMarks`: a number ends where no digit follows, so numbers are never neighbours.
-/

set_option autoImplicit false

namespace Reckoner.Token

/-! ### What a token stands for -/

/-- A token and the marks that it stands for. -/
inductive Covers : Located Token → List (Located Mark) → Prop where
  | number (pos : Nat) (first : Fin 10) (others : List (Located (Fin 10))) :
      Covers ⟨pos, .number (decimal first (others.map Located.val))⟩
        (⟨pos, .symbol (.digit first)⟩ :: Tree.digitMarks others)
  | operator (pos : Nat) (op : Operator) :
      Covers ⟨pos, .operator op⟩ [⟨pos, .symbol (.operator op)⟩]
  | opening (pos : Nat) : Covers ⟨pos, .opening⟩ [⟨pos, .symbol .opening⟩]
  | closing (pos : Nat) : Covers ⟨pos, .closing⟩ [⟨pos, .symbol .closing⟩]
  | foreign (pos : Nat) (c : Char) : Covers ⟨pos, .foreign c⟩ [⟨pos, .foreign c⟩]

/-- Only a number stands for digits. -/
theorem Covers.isNumber_of_isDigit {t : Located Token} {part : List (Located Mark)}
    {x : Located Mark} (h : Covers t part) (hx : x ∈ part) (hdigit : x.val.isDigit = true) :
    t.val.isNumber = true := by
  cases h with
  | number pos first others => rfl
  | operator pos op =>
      rw [List.mem_singleton.1 hx] at hdigit
      cases hdigit
  | opening pos =>
      rw [List.mem_singleton.1 hx] at hdigit
      cases hdigit
  | closing pos =>
      rw [List.mem_singleton.1 hx] at hdigit
      cases hdigit
  | foreign pos c =>
      rw [List.mem_singleton.1 hx] at hdigit
      cases hdigit

/-! ### The parts of the marks -/

/-- The digits that marks start with, each at its place. -/
theorem exists_eq_append_afterDigits (marks : List (Located Mark)) :
    ∃ digits : List (Located (Fin 10)),
      marks = Tree.digitMarks digits ++ afterDigits marks ∧
        leadingDigits marks = digits.map Located.val := by
  fun_induction afterDigits marks with
  | case1 pos d marks ih =>
      obtain ⟨digits, hmarks, hleading⟩ := ih
      refine ⟨⟨pos, d⟩ :: digits, ?_, ?_⟩
      · show _ = ⟨pos, .symbol (.digit d)⟩ :: (Tree.digitMarks digits ++ _)
        rw [← hmarks]
      · rw [leadingDigits, hleading]
        rfl
  | case2 marks h =>
      refine ⟨[], rfl, ?_⟩
      rw [leadingDigits]
      · rfl
      · exact h

/-- Whether tokens, each with a part of the marks, group them: in order, with all marks in one of
the parts. -/
structure Groups (tokens : List (Located Token)) (marks : List (Located Mark))
    (parts : List (Located Token × List (Located Mark))) : Prop where
  tokens_eq : parts.map Prod.fst = tokens
  marks_eq : parts.flatMap Prod.snd = marks
  covers : ∀ part ∈ parts, Covers part.1 part.2

/-- A token with its own marks, in front of others. -/
theorem Covers.cons {t : Located Token} {part rest : List (Located Mark)}
    {tokens : List (Located Token)} (h : Covers t part) (hrest : ∃ parts, Groups tokens rest parts) :
    ∃ parts, Groups (t :: tokens) (part ++ rest) parts := by
  obtain ⟨parts, hparts⟩ := hrest
  refine ⟨⟨t, part⟩ :: parts, ?_, ?_, List.forall_mem_cons.2 ⟨h, hparts.covers⟩⟩
  · rw [List.map_cons, hparts.tokens_eq]
  · rw [List.flatMap_cons, hparts.marks_eq]

/-- The tokens that marks make up group them. -/
theorem exists_groups (marks : List (Located Mark)) :
    ∃ parts, Groups (ofMarks marks) marks parts := by
  fun_induction ofMarks marks with
  | case1 => exact ⟨[], rfl, rfl, by simp⟩
  -- The number covers its first digit and those that lead the rest, and the induction goes on
  -- behind.
  | case2 pos d marks ih =>
      obtain ⟨digits, hmarks, hleading⟩ := exists_eq_append_afterDigits marks
      have hparts := Covers.cons (.number pos d digits) ih
      rwa [List.cons_append, ← hmarks, ← hleading] at hparts
  | case3 pos op marks ih => exact Covers.cons (.operator pos op) ih
  | case4 pos marks ih => exact Covers.cons (.opening pos) ih
  | case5 pos marks ih => exact Covers.cons (.closing pos) ih
  | case6 pos c marks ih => exact Covers.cons (.foreign pos c) ih

/-! ### Where a number ends -/

/-- Where no digit comes first, no number does. -/
theorem isNumber_head_ofMarks {marks : List (Located Mark)} (h : leadingDigits marks = []) :
    ∀ t ∈ (ofMarks marks).head?, t.val.isNumber = false := by
  fun_cases ofMarks marks with
  | case1 => simp
  | case2 pos d marks => simp [leadingDigits] at h
  | case3 pos op marks => simp [isNumber]
  | case4 pos marks => simp [isNumber]
  | case5 pos marks => simp [isNumber]
  | case6 pos c marks => simp [isNumber]

/-- Of two neighbours not both are numbers. -/
theorem isChain_ofMarks (marks : List (Located Mark)) :
    (ofMarks marks).IsChain fun t next => ¬ (t.val.isNumber = true ∧ next.val.isNumber = true) := by
  fun_induction ofMarks marks with
  | case1 => exact .nil
  | case2 pos d marks ih =>
      refine List.isChain_cons.2 ⟨?_, ih⟩
      intro next hnext
      -- All digits that follow are part of the number already.
      have hnumber := isNumber_head_ofMarks (leadingDigits_afterDigits marks) next hnext
      simp [hnumber]
  | case3 pos op marks ih => exact List.isChain_cons.2 ⟨by simp [isNumber], ih⟩
  | case4 pos marks ih => exact List.isChain_cons.2 ⟨by simp [isNumber], ih⟩
  | case5 pos marks ih => exact List.isChain_cons.2 ⟨by simp [isNumber], ih⟩
  | case6 pos c marks ih => exact List.isChain_cons.2 ⟨by simp [isNumber], ih⟩

end Reckoner.Token
