import Reckoner.Proofs.Evaluation.Run

/-!
# `Reckoner.Proofs.Evaluation.LeadingSign`: the operators of a formula, and its leading signs

A `+` or `-` is a leading sign when it is the first token or stands directly behind a `(`. All
other operators stand between two operands, or ought to. `Token.operators` lists the ones or the
others, from the tokens alone.

* `Token.operators_append`: tokens behind others.
* `Stacks.Reaches.allowsSign_eq`: an evaluation expects a sign where a leading one can be.
-/

set_option autoImplicit false

namespace Reckoner

open Move (Context)

namespace Token

/-- Whether a token is a `(`. -/
def isOpening : Token → Bool
  | opening => true
  | number _ | operator _ | closing | foreign _ => false

/-- Whether a leading sign can stand behind tokens: the last of them is a `(`. `start` says
whether it can where there are none. -/
def allowsSign (start : Bool) (tokens : List (Located Token)) : Bool :=
  (tokens.getLast?.map (·.val.isOpening)).getD start

/-- The operators among tokens that are leading signs, or those that are not. `start` says
whether a leading sign can stand in front of the tokens. -/
def operators (leading : Bool) : Bool → List (Located Token) → List (Located Operator)
  | _, [] => []
  | start, ⟨pos, .operator op⟩ :: tokens =>
    if (start && op.isSign) = leading then ⟨pos, op⟩ :: operators leading false tokens
    else operators leading false tokens
  | _, t :: tokens => operators leading t.val.isOpening tokens

/-- Whether a sign may follow is up to the last token alone. -/
@[simp] theorem allowsSign_append_singleton (start : Bool) (tokens : List (Located Token))
    (t : Located Token) : allowsSign start (tokens ++ [t]) = t.val.isOpening := by
  simp [allowsSign]

/-- The token in front says so for those behind it. This is how a recursion from the front hands
on what is read from the end. -/
theorem allowsSign_cons (start : Bool) (t : Located Token) (tokens : List (Located Token)) :
    allowsSign start (t :: tokens) = allowsSign t.val.isOpening tokens := by
  rw [allowsSign, allowsSign, List.getLast?_cons]
  cases tokens.getLast? <;> rfl

/-- The operators of tokens that are put together from two parts. The second part has to be told
whether a sign may start it. -/
theorem operators_append (leading start : Bool) (xs ys : List (Located Token)) :
    operators leading start (xs ++ ys)
      = operators leading start xs ++ operators leading (allowsSign start xs) ys := by
  -- Along the recursion from the front, which carries on whether a sign may follow.
  fun_induction operators leading start xs with
  | case1 => rfl
  | case2 start pos op tokens h ih =>
      rw [List.cons_append, operators, if_pos h, ih, allowsSign_cons]
      rfl
  | case3 start pos op tokens h ih =>
      rw [List.cons_append, operators, if_neg h, ih, allowsSign_cons]
      rfl
  | case4 start t tokens h ih =>
      rw [List.cons_append, operators, ih, allowsSign_cons]
      exact h

end Token

/-- The leading signs of a formula. -/
def Formula.leadingSigns (f : Formula) : List (Located Operator) :=
  Token.operators true true f.tokens

/-- The operators of a formula that are no leading signs. -/
def Formula.betweenOperators (f : Formula) : List (Located Operator) :=
  Token.operators false true f.tokens

/-- An evaluation expects a sign exactly where a leading one can stand. -/
theorem Stacks.Reaches.allowsSign_eq {before : List (Located Token)} {ctx : Context} {s : Stacks}
    (h : Reaches before ctx s) : Token.allowsSign true before = decide (ctx = .start) := by
  cases h with
  | start => rfl
  | step _ htakes =>
      rw [Token.allowsSign_append_singleton]
      cases htakes <;> rfl

end Reckoner
