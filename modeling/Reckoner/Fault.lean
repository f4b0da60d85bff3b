import Reckoner.Operator
import Reckoner.Text

/-!
# `Reckoner.Fault`: why a text is no formula

Each constructor is one rule of the grammar that a text can break, with the
place where it is broken. `Fault.pos?` gives the place, `Fault.message` the text
that a user reads.
-/

set_option autoImplicit false

namespace Reckoner

/-- A rule of the grammar that a text breaks. Places are indices of characters in
the text as it was given. -/
inductive Fault where
  /-- Nothing but spacing, or nothing at all. -/
  | empty
  /-- A character that no formula may hold. -/
  | foreignChar (c : Char) (pos : Nat)
  /-- A number directly before the `(` at this place. -/
  | numberBeforeGroup (pos : Nat)
  /-- A `)` directly before the digit at this place. -/
  | numberAfterGroup (pos : Nat)
  /-- A `)` directly before the `(` at this place. -/
  | adjacentGroups (pos : Nat)
  /-- A digit more than a number may have, the first such digit. -/
  | numberTooLong (limit : UInt8) (pos : Nat)
  /-- An operator with nothing to its left that it could apply to. -/
  | missingLeftOperand (op : Operator) (pos : Nat)
  /-- An operator that is followed by neither a number nor a `(`. -/
  | missingRightOperand (op : Operator) (pos : Nat)
  /-- A `)` that closes nothing. -/
  | unmatchedClose (pos : Nat)
  /-- A `(` that is never closed. -/
  | unclosedGroup (pos : Nat)
  /-- A `)` that closes a group without a digit in it. -/
  | emptyGroup (pos : Nat)
deriving DecidableEq, Repr

namespace Fault

/-- The place that a fault points at. Only emptiness has none. -/
def pos? : Fault → Option Nat
  | empty => none
  | foreignChar _ pos
  | numberBeforeGroup pos
  | numberAfterGroup pos
  | adjacentGroups pos
  | numberTooLong _ pos
  | missingLeftOperand _ pos
  | missingRightOperand _ pos
  | unmatchedClose pos
  | unclosedGroup pos
  | emptyGroup pos => some pos

/-- What a user reads about a fault. -/
def message : Fault → String
  | empty => "formula is empty"
  | foreignChar c pos => s!"invalid character {Text.quoted c} at {pos}"
  | numberBeforeGroup pos =>
    s!"number directly followed by a parenthesized group at {pos} (missing operator)"
  | numberAfterGroup pos =>
    s!"parenthesized group directly followed by a number at {pos} (missing operator)"
  | adjacentGroups pos =>
    s!"two parenthesized groups without an operator between them at {pos}"
  | numberTooLong limit pos => s!"number exceeds {limit.toNat} digits at {pos}"
  | missingLeftOperand op pos => s!"operator '{op.toChar}' at {pos} is missing its left operand"
  | missingRightOperand op pos => s!"operator '{op.toChar}' at {pos} is missing its right operand"
  | unmatchedClose pos => s!"unmatched closing parenthesis at {pos}"
  | unclosedGroup pos => s!"unclosed parenthesis at {pos}"
  | emptyGroup pos => s!"parenthesized group ending at {pos} contains no number"

end Fault

end Reckoner
