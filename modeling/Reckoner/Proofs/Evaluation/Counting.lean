import Reckoner.Proofs.Evaluation.Settling

/-!
# `Reckoner.Proofs.Evaluation.Counting`: what settling keeps

To apply an operator is to take two operands and to leave one. So settling keeps the number
of operands less the number of operators, and it keeps the open groups, whatever is on the
stacks. With more operands than operators no operand can be missing, and what is left to
fail is the arithmetic.

* `Stacks.settledFrom_of_settle_eq_ok`: what is kept when settling succeeds.
* `Stacks.isArithmetic_of_settle_eq_error`: how it fails when no operand can be missing.
* `Stacks.cases_settle`: both, for stacks with one operand more than operators.
-/

set_option autoImplicit false

namespace Reckoner

/-- Whether a failure is one of the arithmetic: a division by zero or a power that is
undefined. -/
def Failure.isArithmetic : Failure → Bool
  | divisionByZero _ | undefinedPower _ _ _ => true
  | malformed _ | missingOperand _ _ | unmatchedClose _ | unclosedGroup _ | residual _
  | unusableRange _ _ => false

/-- An operator with its two operands fails in the arithmetic or not at all. -/
theorem Operator.isArithmetic_of_apply_eq_error {op : Operator} {a b : Float} {pos : Nat}
    {e : Failure} (h : op.apply a b pos = .error e) : e.isArithmetic = true := by
  cases op with
  | add => cases h
  | sub => cases h
  | mul => cases h
  | div =>
      rw [apply] at h
      split at h
      · cases h
        rfl
      · cases h
  | pow =>
      rw [apply] at h
      split at h
      · cases h
      · cases h
        rfl

namespace Stacks

/-- How many operators wait. -/
def operatorCount : List Waiting → Nat
  | [] => 0
  | .group _ :: waiting => operatorCount waiting
  | .operator _ _ :: waiting => operatorCount waiting + 1

/-- Where the open groups were opened, the innermost first. -/
def groupPlaces : List Waiting → List Nat
  | [] => []
  | .group pos :: waiting => pos :: groupPlaces waiting
  | .operator _ _ :: waiting => groupPlaces waiting

/-! ### One operator -/

/-- An operator puts its value in the place of two operands. -/
theorem length_of_applyLatest_eq_ok {op : Operator} {pos : Nat} {operands left : List Float}
    (h : applyLatest op pos operands = .ok left) : left.length + 1 = operands.length := by
  -- With less than two operands there is no value.
  rcases operands with _ | ⟨b, _ | ⟨a, rest⟩⟩
  · cases h
  · cases h
  · obtain ⟨v, _, hv⟩ := bind_eq_ok h
    cases hv
    rfl

/-- With two operands at hand only the arithmetic can fail. -/
theorem isArithmetic_of_applyLatest_eq_error {op : Operator} {pos : Nat}
    {operands : List Float} {e : Failure} (h : applyLatest op pos operands = .error e)
    (hlength : 2 ≤ operands.length) : e.isArithmetic = true := by
  rcases operands with _ | ⟨b, _ | ⟨a, rest⟩⟩
  · simp at hlength
  · simp at hlength
  · rcases bind_eq_error h with happly | ⟨v, _, hv⟩
    · exact Operator.isArithmetic_of_apply_eq_error happly
    · cases hv

/-! ### Settling -/

/-- What the stacks that come of settling have to do with those before: the open groups are
the same, as many operands are gone as operators, and no operator is due any more. -/
structure SettledFrom (due : Operator → Bool) (operands : List Float) (waiting : List Waiting)
    (s : Stacks) : Prop where
  groupPlaces_eq : groupPlaces s.waiting = groupPlaces waiting
  count : s.operands.length + operatorCount waiting = operands.length + operatorCount s.waiting
  not_due : ∀ op pos rest, s.waiting = .operator op pos :: rest → due op = false

/-- Settling keeps this, one operator after the other. -/
theorem settledFrom_of_settle_eq_ok {due : Operator → Bool} {operands : List Float}
    {waiting : List Waiting} {s : Stacks} (h : settle due operands waiting = .ok s) :
    SettledFrom due operands waiting s := by
  refine settle_induction ?_ ?_ h
  · intro operands waiting hnot
    exact ⟨rfl, rfl, hnot⟩
  · intro op pos operands left waiting s happly hs
    refine ⟨hs.groupPlaces_eq, ?_, hs.not_due⟩
    have hlength := length_of_applyLatest_eq_ok happly
    have hcount := hs.count
    rw [operatorCount]
    omega

/-- With more operands than operators, settling fails in the arithmetic or not at all. -/
theorem isArithmetic_of_settle_eq_error {due : Operator → Bool} {operands : List Float}
    {waiting : List Waiting} {e : Failure} (h : settle due operands waiting = .error e)
    (hlength : operatorCount waiting < operands.length) : e.isArithmetic = true := by
  induction waiting generalizing operands with
  | nil => cases h
  | cons w waiting ih =>
      cases w with
      | group pos => cases h
      | operator op pos =>
          rw [operatorCount] at hlength
          cases hdue : due op with
          | false =>
              rw [settle_of_not_due hdue] at h
              cases h
          | true =>
              rw [settle_of_due hdue] at h
              -- The operator on top fails, or one behind it, where the operands are still more
              -- than the operators.
              rcases bind_eq_error h with happly | ⟨left, happly, hrest⟩
              · have htwo : 2 ≤ operands.length := by omega
                exact isArithmetic_of_applyLatest_eq_error happly htwo
              · have hleft := length_of_applyLatest_eq_ok happly
                have hmore : operatorCount waiting < left.length := by omega
                exact ih hrest hmore

/-- Behind an operand there is one operand more than operators. Settling keeps it so, and
fails in the arithmetic or not at all. -/
theorem cases_settle (due : Operator → Bool) {s : Stacks}
    (hcount : s.operands.length = operatorCount s.waiting + 1) :
    (∃ e, settle due s.operands s.waiting = .error e ∧ e.isArithmetic = true) ∨
      ∃ s', settle due s.operands s.waiting = .ok s' ∧
        SettledFrom due s.operands s.waiting s' ∧
        s'.operands.length = operatorCount s'.waiting + 1 := by
  cases h : settle due s.operands s.waiting with
  | error e =>
      -- One operand more than operators is enough for all of them, so only the arithmetic
      -- can fail.
      have hmore : operatorCount s.waiting < s.operands.length := by omega
      exact .inl ⟨e, rfl, isArithmetic_of_settle_eq_error h hmore⟩
  | ok s' =>
      have hs := settledFrom_of_settle_eq_ok h
      have hcount' : s'.operands.length = operatorCount s'.waiting + 1 := by
        have hkept := hs.count
        omega
      exact .inr ⟨s', rfl, hs, hcount'⟩

/-- Stacks on which nothing is due have a group on top, or nothing. -/
theorem SettledFrom.waiting_eq {operands : List Float} {waiting : List Waiting} {s : Stacks}
    (h : SettledFrom (fun _ => true) operands waiting s) :
    (s.waiting = [] ∧ groupPlaces waiting = []) ∨
      ∃ pos rest, s.waiting = .group pos :: rest ∧
        groupPlaces waiting = pos :: groupPlaces rest := by
  have hplaces := h.groupPlaces_eq
  cases hw : s.waiting with
  | nil =>
      rw [hw] at hplaces
      exact .inl ⟨rfl, hplaces.symm⟩
  | cons w rest =>
      rw [hw] at hplaces
      cases w with
      | group pos => exact .inr ⟨pos, rest, rfl, hplaces.symm⟩
      | operator op pos => cases h.not_due op pos rest hw

end Stacks

end Reckoner
