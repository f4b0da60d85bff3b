import Reckoner.Evaluation.Move

/-!
# `Reckoner.Evaluation.Stacks`: operands and the work that waits for them

An evaluation keeps two stacks, the operands that no operator has taken yet and
the work that waits for its right operand: operators, and the groups that are
open. An operator is applied as soon as what follows it binds no tighter, so
between two open groups the waiting operators bind tighter and tighter upwards.

`Stacks.step` carries out one move, and `Stacks.result` ends an evaluation. So
`Formula.evaluate` is one pass over the moves of a formula. It does not ask whether
the formula keeps the rules of the grammar: one that breaks them has a value all the
same, or it fails in one of the ways that `Failure` lists.
-/

set_option autoImplicit false

namespace Reckoner

/-- Work that waits for what follows it. -/
inductive Waiting where
  /-- A group that is open, and where it was opened. -/
  | group (pos : Nat)
  /-- An operator without its right operand, and where it stands. -/
  | operator (op : Operator) (pos : Nat)
deriving DecidableEq, Repr

/-- The operands and the waiting work of an evaluation, the latest first. -/
structure Stacks where
  /-- The operands that no operator has taken yet. -/
  operands : List Float := []
  /-- The work that waits for what follows. -/
  waiting : List Waiting := []
deriving DecidableEq, Repr

namespace Stacks

/-- Applies an operator to the two latest operands. -/
def applyLatest (op : Operator) (pos : Nat) : List Float → Except Failure (List Float)
  | b :: a :: operands => do return (← op.apply a b pos) :: operands
  | _ => .error (.missingOperand op pos)

/-- Applies the latest operators for as long as they are `due`. An open group stops
it. -/
def settle (due : Operator → Bool) (operands : List Float) :
    List Waiting → Except Failure Stacks
  | .operator op pos :: waiting =>
    if due op then do settle due (← applyLatest op pos operands) waiting
    else .ok ⟨operands, .operator op pos :: waiting⟩
  | waiting => .ok ⟨operands, waiting⟩

/-- Lets an operator wait, behind the operators that take the operand in front of
it. -/
def await (s : Stacks) (op : Operator) (pos : Nat) : Except Failure Stacks := do
  let settled ← settle (·.bindsBefore op) s.operands s.waiting
  return { settled with waiting := .operator op pos :: settled.waiting }

/-- Applies all operators of the innermost group and ends it. -/
def leaveGroup (s : Stacks) (pos : Nat) : Except Failure Stacks := do
  let settled ← settle (fun _ => true) s.operands s.waiting
  match settled.waiting with
  | .group _ :: outer => return ⟨settled.operands, outer⟩
  | _ => throw (.unmatchedClose pos)

/-- Carries out a move. -/
def step (s : Stacks) (move : Located Move) : Except Failure Stacks :=
  match move.val with
  | .value v => .ok { s with operands := v :: s.operands }
  | .enter => .ok { s with waiting := .group move.pos :: s.waiting }
  | .leave => s.leaveGroup move.pos
  | .operator op => s.await op move.pos
  -- A sign stands where nothing waits that would take the factor away from it, so
  -- its product goes on top without a look at what is below.
  | .factor sign => .ok ⟨sign :: s.operands, .operator .mul move.pos :: s.waiting⟩
  | .refuse failure => .error failure

/-- The stacks after moves that start from empty ones. -/
def ofMoves (moves : List (Located Move)) : Except Failure Stacks :=
  moves.foldlM step {}

/-- Applies all operators that wait. No group may be open any more. -/
def settleAll (operands : List Float) : List Waiting → Except Failure (List Float)
  | [] => .ok operands
  | .group pos :: _ => .error (.unclosedGroup pos)
  | .operator op pos :: waiting => do settleAll (← applyLatest op pos operands) waiting

/-- The result at the end: the one operand that is left. -/
def result (s : Stacks) : Except Failure Float := do
  match ← settleAll s.operands s.waiting with
  | [value] => return value
  | operands => throw (.residual operands.length)

end Stacks

/-- The value of a formula, in the arithmetic of doubles. -/
def Formula.evaluate (f : Formula) : Except Failure Float := do
  (← Stacks.ofMoves f.moves).result

end Reckoner
