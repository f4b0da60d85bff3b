import Reckoner.Formula

/-!
# `Reckoner.Token`: the words of a formula

A token is a number, an operator, a parenthesis or a foreign character. A number
takes a whole run of digits, and spacing inside a run is as if it were not there.
All other marks are tokens of their own, so tokens group the marks and lose none.

- `Token.length_leadingDigits`: the digits of a run and the marks behind it are the
  marks that were there, so the pass over the marks ends.
- `Token.leadingDigits_afterDigits`: a run takes in all the digits that follow.
-/

set_option autoImplicit false

namespace Reckoner

/-- A word of a formula. -/
inductive Token where
  /-- An unsigned whole number. -/
  | number (value : Float)
  /-- An operator, between two values or as a sign. -/
  | operator (op : Operator)
  /-- The parenthesis `(`. -/
  | opening
  /-- The parenthesis `)`. -/
  | closing
  /-- A character that no formula may hold. -/
  | foreign (c : Char)
deriving DecidableEq, Repr

namespace Token

/-- The number that a digit stands for. -/
def digitValue (d : Fin 10) : Float :=
  Float.ofNat d.val

/-- The number that digits write, the first of them the most significant. -/
def decimal (first : Fin 10) (others : List (Fin 10)) : Float :=
  others.foldl (fun value d => value * 10 + digitValue d) (digitValue first)

/-- The digits that marks start with. -/
def leadingDigits : List (Located Mark) → List (Fin 10)
  | ⟨_, .symbol (.digit d)⟩ :: marks => d :: leadingDigits marks
  | _ => []

/-- The marks behind the digits that marks start with. -/
def afterDigits : List (Located Mark) → List (Located Mark)
  | ⟨_, .symbol (.digit _)⟩ :: marks => afterDigits marks
  | marks => marks

/-- The digits that marks start with are as many as are left out behind them. -/
theorem length_leadingDigits (marks : List (Located Mark)) :
    (leadingDigits marks).length + (afterDigits marks).length = marks.length := by
  fun_induction leadingDigits marks with
  | case1 _ _ _ ih => simp only [afterDigits, List.length_cons]; omega
  | case2 marks h =>
    rw [afterDigits]
    · simp
    · exact h

/-- What is left behind the digits is no longer than what was read. -/
theorem length_afterDigits_le (marks : List (Located Mark)) :
    (afterDigits marks).length ≤ marks.length := by
  rw [← length_leadingDigits marks]
  exact Nat.le_add_left _ _

/-- The tokens that marks make up, each at the place of its first mark. -/
def ofMarks : List (Located Mark) → List (Located Token)
  | [] => []
  | ⟨pos, .symbol (.digit d)⟩ :: marks =>
    ⟨pos, number (decimal d (leadingDigits marks))⟩ :: ofMarks (afterDigits marks)
  | ⟨pos, .symbol (.operator op)⟩ :: marks => ⟨pos, operator op⟩ :: ofMarks marks
  | ⟨pos, .symbol .opening⟩ :: marks => ⟨pos, opening⟩ :: ofMarks marks
  | ⟨pos, .symbol .closing⟩ :: marks => ⟨pos, closing⟩ :: ofMarks marks
  | ⟨pos, .foreign c⟩ :: marks => ⟨pos, foreign c⟩ :: ofMarks marks
termination_by marks => marks.length
decreasing_by
  · exact Nat.lt_succ_of_le (length_afterDigits_le marks)
  all_goals exact Nat.lt_succ_self _

/-- Behind the digits that marks start with comes no digit. -/
theorem leadingDigits_afterDigits (marks : List (Located Mark)) :
    leadingDigits (afterDigits marks) = [] := by
  fun_induction afterDigits marks with
  | case1 _ _ _ ih => exact ih
  | case2 marks h =>
    rw [leadingDigits]
    exact h

end Token

/-- The tokens of a formula. -/
def Formula.tokens (f : Formula) : List (Located Token) :=
  Token.ofMarks f.marks

end Reckoner
