import Reckoner.Calculation
import Reckoner.Proofs.Evaluation.LeadingSign

/-!
# `Reckoner.Proofs.Evaluation.Conservation`: no value is lost or made up

Every number of a formula becomes one operand, and every operator takes two and leaves one. A
leading sign changes neither: it is part of a number, or it comes as a factor together with the
product that takes it. So at any point of an evaluation the operands are as many as the numbers
that have been read and the operators that still wait, less the operators that have been read.
This holds of every formula, however its tokens are put together.

* `Stacks.Reaches.count`: the balance behind any tokens that are taken in.
* `operands_conserved`: the balance at the end, for a value and for what is left over.
-/

set_option autoImplicit false

namespace Reckoner

open Move (Context)

/-- Whether a token is a number. -/
def Token.isNumber : Token → Bool
  | number _ => true
  | operator _ | opening | closing | foreign _ => false

/-- The numbers among tokens. -/
def Token.numberCount (tokens : List (Located Token)) : Nat :=
  tokens.countP (·.val.isNumber)

/-- One token more is one number more or none. -/
theorem Token.numberCount_append_singleton (tokens : List (Located Token)) (t : Located Token) :
    numberCount (tokens ++ [t]) = numberCount tokens + if t.val.isNumber then 1 else 0 := by
  simp [numberCount, List.countP_cons]

namespace Stacks

variable {before : List (Located Token)} {ctx : Context} {s : Stacks}

/-- The balance behind tokens: operands and read operators on one side, waiting operators and
read numbers on the other. -/
theorem Reaches.count (h : Reaches before ctx s) :
    s.operands.length + (Token.operators false true before).length
      = operatorCount s.waiting + Token.numberCount before := by
  induction h with
  | start => rfl
  | @step before ctx ctx' s s' t hreaches htakes ih =>
      rw [Token.operators_append, List.length_append, hreaches.allowsSign_eq,
        Token.numberCount_append_singleton]
      -- Token by token: what a token adds on one side it adds on the other, and settling takes
      -- from both.
      cases htakes with
      | number pos v =>
          simp [Token.operators, Token.isNumber]
          omega
      | signedNumber op place pos v =>
          simp [Token.operators, Token.isNumber]
          omega
      | signedBase op place pos v =>
          -- The factor and its product are in balance with each other.
          simp [Token.operators, Token.isNumber, operatorCount]
          omega
      | opening pos =>
          simp [Token.operators, Token.isNumber, operatorCount]
          omega
      | signedOpening op place pos =>
          simp [Token.operators, Token.isNumber, operatorCount]
          omega
      | closing pos place _ hsettle hw =>
          have hsettled := (settledFrom_of_settle_eq_ok hsettle).count
          rw [hw, operatorCount] at hsettled
          simp [Token.operators, Token.isNumber]
          omega
      | sign pos hop =>
          -- A leading sign is none of the operators counted.
          simp [Token.operators, Token.isNumber, hop]
          omega
      | @operator _ _ settled pos op hctx hsettle =>
          have hsettled := (settledFrom_of_settle_eq_ok hsettle).count
          have hbetween : (decide (ctx = .start) && op.isSign) = false := by
            rcases hctx with rfl | ⟨-, hop⟩
            · rfl
            · rw [hop, Bool.and_false]
          simp only [Token.operators, hbetween, if_pos, List.length_singleton, operatorCount]
          simp [Token.isNumber]
          omega

/-- What is left when all operators are settled and no group is open. -/
theorem Reaches.count_of_settle (h : Reaches before ctx s) {operands : List Float}
    (hsettle : settle (fun _ => true) s.operands s.waiting = .ok ⟨operands, []⟩) :
    Token.numberCount before = (Token.operators false true before).length + operands.length := by
  have hcount := h.count
  have hsettled := (settledFrom_of_settle_eq_ok hsettle).count
  simp only [operatorCount] at hsettled
  omega

end Stacks

namespace Formula

variable {f : Formula}

/-- A value is what is left over when the numbers are one more than the operators. -/
theorem count_of_evaluate_eq_ok {v : Float} (h : f.evaluate = .ok v) :
    Token.numberCount f.tokens = f.betweenOperators.length + 1 := by
  obtain ⟨ctx, s, hreaches, hsettle⟩ := exists_settle_of_evaluate_eq_ok h
  exact hreaches.count_of_settle hsettle

/-- What is left over is what the numbers are more than the operators. -/
theorem count_of_evaluate_eq_residual {n : Nat} (h : f.evaluate = .error (.residual n)) :
    n ≠ 1 ∧ Token.numberCount f.tokens = f.betweenOperators.length + n := by
  obtain ⟨ctx, s, operands, hreaches, hsettle, rfl, hne⟩ := exists_settle_of_evaluate_eq_residual h
  exact ⟨hne, hreaches.count_of_settle hsettle⟩

/-- Whether it is checked or not, a calculation with a result has evaluated its formula. -/
theorem exists_evaluate_eq_ok {settings : Settings} {v : Float}
    (h : settings.calculate f.text = .ok v) : ∃ w, f.evaluate = .ok w := by
  obtain ⟨w, hevaluate, -⟩ := bind_eq_ok h
  refine ⟨w, ?_⟩
  have hf : Formula.ofText f.text = .ok f := Formula.ofText_eq_ok_iff.2 rfl
  rw [Settings.evaluate, hf] at hevaluate
  -- A check in front of the evaluation is of no account here, since it has passed.
  cases hunchecked : settings.unchecked with
  | true =>
      rw [hunchecked] at hevaluate
      exact hevaluate
  | false =>
      rw [hunchecked] at hevaluate
      obtain ⟨u, -, hw⟩ : ∃ u, Failure.ofFault (f.check settings.maxDigits) = .ok u ∧
          f.evaluate = .ok w := bind_eq_ok hevaluate
      exact hw

end Formula

/-- **No value is lost or made up.** A formula has a value only with one number more than
operators, leading signs not counted. Where an evaluation leaves several operands or none, they
are what the numbers are more than the operators. So with any other balance there is no value,
whether formulas are checked or not. -/
theorem operands_conserved (f : Formula) :
    (∀ v, f.evaluate = .ok v →
        Token.numberCount f.tokens = f.betweenOperators.length + 1) ∧
      (∀ n, f.evaluate = .error (.residual n) →
        n ≠ 1 ∧ Token.numberCount f.tokens = f.betweenOperators.length + n) ∧
      (Token.numberCount f.tokens ≠ f.betweenOperators.length + 1 →
        ∀ (settings : Settings) (v : Float), settings.calculate f.text ≠ .ok v) := by
  refine ⟨?_, ?_, ?_⟩
  · intro v hv
    exact Formula.count_of_evaluate_eq_ok hv
  · intro n hn
    exact Formula.count_of_evaluate_eq_residual hn
  · intro hne settings v hv
    obtain ⟨w, hw⟩ := Formula.exists_evaluate_eq_ok hv
    exact hne (Formula.count_of_evaluate_eq_ok hw)

/-- Two groups side by side, which a check refuses, leave two values. -/
theorem operands_conserved_adjacentGroups :
    ∃ f : Formula, f.text = "(-1)( 2^0)" ∧ f.evaluate = .error (.residual 2) ∧
      2 ≠ 1 ∧ Token.numberCount f.tokens = f.betweenOperators.length + 2 := by
  have hresidual : (Formula.mk "(-1)( 2^0)" ⟨'(', by decide⟩).evaluate = .error (.residual 2) := by
    decide +kernel
  exact ⟨_, rfl, hresidual, (operands_conserved _).2.1 2 hresidual⟩

end Reckoner
