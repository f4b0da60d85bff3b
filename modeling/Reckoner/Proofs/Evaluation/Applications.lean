import Reckoner.Proofs.Agreement
import Reckoner.Proofs.Arithmetic.NotANumber

/-!
# `Reckoner.Proofs.Evaluation.Applications`: the operators that an evaluation applies

What an evaluation does with its operands is to apply operators to pairs of them. Listed in order,
the applications say where a value can come from: it is a number that the formula holds, a sign in
front of one, or what an application has come to. The numbers and the signs are never NaN. So as
long as no application makes NaN out of two numbers, there is none on the stack, and none is the
value.

* `Stacks.applications`, `Formula.applications`: what is applied, in order.
* `Stacks.settle_numbers`, `Stacks.step_numbers`: what settling and a move keep.
* `Move.isNumeric_ofTokens`, `Token.isNumeric_ofMarks`: the moves and tokens of a formula.
* `Formula.exists_indeterminate`: where the value NaN has come from.
-/

set_option autoImplicit false

namespace Reckoner

open Arithmetic

/-- An operator with two operands that it is applied to. -/
structure Application where
  op : Operator
  left : Float
  right : Float
deriving DecidableEq, Repr

/-- Whether an operator makes NaN out of its two operands. -/
def Application.Indeterminate (x : Application) : Prop :=
  x.op.Indeterminate x.left x.right

/-- Which operators a move settles. -/
def Move.due : Move → Operator → Bool
  | .operator op, waiting => waiting.bindsBefore op
  | .leave, _ => true
  | .value _, _ | .enter, _ | .factor _, _ | .refuse _, _ => false

namespace Stacks

/-- The application of an operator to the two latest operands. -/
def latestApplication (op : Operator) : List Float → List Application
  | b :: a :: _ => [⟨op, a, b⟩]
  | _ => []

/-- What is applied in settling, up to a failure. -/
def settleApplications (due : Operator → Bool) (operands : List Float) :
    List Waiting → List Application
  | .operator op pos :: waiting =>
    if due op then
      latestApplication op operands ++
        match applyLatest op pos operands with
        | .ok left => settleApplications due left waiting
        | .error _ => []
    else []
  | _ => []

/-- What is applied in carrying out moves and in ending the evaluation behind them, up to a
failure. -/
def applications (s : Stacks) : List (Located Move) → List Application
  | [] => settleApplications (fun _ => true) s.operands s.waiting
  | move :: moves =>
    settleApplications move.val.due s.operands s.waiting ++
      match s.step move with
      | .ok s' => s'.applications moves
      | .error _ => []

end Stacks

/-- What an evaluation applies, in order. -/
def Formula.applications (f : Formula) : List Application :=
  Stacks.applications {} f.moves

/-! ### Settling -/

namespace Stacks

/-- No operand is NaN. -/
def Numbers (operands : List Float) : Prop :=
  ∀ v ∈ operands, v.isNaN = false

/-- Operands are numbers when the latest is one and the others are. -/
theorem numbers_cons_iff {v : Float} {operands : List Float} :
    Numbers (v :: operands) ↔ v.isNaN = false ∧ Numbers operands :=
  List.forall_mem_cons

/-- An operator that has been applied took two operands and left its value. -/
theorem exists_of_applyLatest_eq_ok {op : Operator} {pos : Nat} {operands left : List Float}
    (h : applyLatest op pos operands = .ok left) :
    ∃ a b rest v, operands = b :: a :: rest ∧ op.apply a b pos = .ok v ∧ left = v :: rest := by
  rcases operands with _ | ⟨b, _ | ⟨a, rest⟩⟩
  · cases h
  · cases h
  · obtain ⟨v, hv, hleft⟩ := bind_eq_ok h
    cases hleft
    exact ⟨a, b, rest, v, rfl, hv, rfl⟩

/-- An operator makes a number of numbers unless it is indeterminate. This is where
`Operator.isNaN_apply_iff` comes in. -/
theorem applyLatest_numbers {op : Operator} {pos : Nat} {operands left : List Float}
    (h : applyLatest op pos operands = .ok left) (hnumbers : Numbers operands)
    (hdetermined : ∀ x ∈ latestApplication op operands, ¬ x.Indeterminate) : Numbers left := by
  obtain ⟨a, b, rest, v, rfl, hv, rfl⟩ := exists_of_applyLatest_eq_ok h
  obtain ⟨hb, hnumbers⟩ := numbers_cons_iff.1 hnumbers
  obtain ⟨ha, hrest⟩ := numbers_cons_iff.1 hnumbers
  refine numbers_cons_iff.2 ⟨?_, hrest⟩
  rw [← Bool.not_eq_true, Operator.isNaN_apply_iff ha hb hv]
  exact hdetermined ⟨op, a, b⟩ List.mem_cons_self

/-- Settling makes no NaN without an application that does. -/
theorem settle_numbers {due : Operator → Bool} {operands : List Float} {waiting : List Waiting}
    {s : Stacks} (h : settle due operands waiting = .ok s) (hnumbers : Numbers operands)
    (hdetermined : ∀ x ∈ settleApplications due operands waiting, ¬ x.Indeterminate) :
    Numbers s.operands := by
  -- Along the operators as they are settled, over the operands that each of them leaves.
  induction waiting generalizing operands with
  | nil =>
      cases h
      exact hnumbers
  | cons w waiting ih =>
      cases w with
      | group pos =>
          cases h
          exact hnumbers
      | operator op pos =>
          cases hdue : due op with
          | false =>
              rw [settle_of_not_due hdue] at h
              cases h
              exact hnumbers
          | true =>
              rw [settle_of_due hdue] at h
              obtain ⟨left, hleft, hrest⟩ := bind_eq_ok h
              rw [settleApplications, if_pos hdue, hleft, List.forall_mem_append] at hdetermined
              exact ih hrest (applyLatest_numbers hleft hnumbers hdetermined.1) hdetermined.2

end Stacks

/-! ### Moves -/

/-- A move that puts nothing on the stack or a number. -/
def Move.IsNumeric : Move → Prop
  | .value v => v.isNaN = false
  | .factor sign => sign.isNaN = false
  | .enter | .leave | .operator _ | .refuse _ => True

namespace Stacks

/-- One move keeps the operands numbers, when all that it applies is determinate and the number
that it brings is one. -/
theorem step_numbers {s s' : Stacks} {move : Located Move} (h : s.step move = .ok s')
    (hmove : move.val.IsNumeric) (hnumbers : Numbers s.operands)
    (hdetermined : ∀ x ∈ settleApplications move.val.due s.operands s.waiting,
      ¬ x.Indeterminate) : Numbers s'.operands := by
  obtain ⟨pos, move⟩ := move
  cases move with
  | value v =>
      cases h
      exact numbers_cons_iff.2 ⟨hmove, hnumbers⟩
  | enter =>
      cases h
      exact hnumbers
  | leave =>
      change s.leaveGroup pos = .ok s' at h
      -- To leave a group is to settle it, and what is settled are numbers.
      rw [leaveGroup_eq] at h
      obtain ⟨settled, hsettle, hclosed⟩ := bind_eq_ok h
      have hsettled := settle_numbers hsettle hnumbers hdetermined
      unfold closed at hclosed
      split at hclosed
      · cases hclosed
        exact hsettled
      · cases hclosed
  | operator op =>
      obtain ⟨settled, hsettle, hawait⟩ := bind_eq_ok h
      have hsettled := settle_numbers hsettle hnumbers hdetermined
      cases hawait
      exact hsettled
  | factor sign =>
      cases h
      exact numbers_cons_iff.2 ⟨hmove, hnumbers⟩
  | refuse failure => cases h

/-- An evaluation from stacks without NaN comes to a number unless an application makes NaN. -/
theorem finish_number {moves : List (Located Move)} {s : Stacks} {v : Float}
    (h : s.finish moves = .ok v) (hmoves : ∀ move ∈ moves, move.val.IsNumeric)
    (hnumbers : Numbers s.operands) (hdetermined : ∀ x ∈ s.applications moves, ¬ x.Indeterminate) :
    v.isNaN = false := by
  -- What carries the induction is that all operands are numbers (`step_numbers`).
  induction moves generalizing s with
  | nil =>
      have hresult : s.result = .ok v := h
      rw [result_eq] at hresult
      obtain ⟨settled, hsettle, houtcome⟩ := bind_eq_ok hresult
      have hsettled := settle_numbers hsettle hnumbers hdetermined
      unfold outcome at houtcome
      split at houtcome
      · cases houtcome
      · next hoperands _ =>
          cases houtcome
          exact hsettled v (hoperands ▸ List.mem_cons_self)
      · cases houtcome
  | cons move moves ih =>
      rw [finish_cons] at h
      obtain ⟨s', hstep, hrest⟩ := bind_eq_ok h
      obtain ⟨hmove, hmoves⟩ := List.forall_mem_cons.1 hmoves
      rw [applications, hstep, List.forall_mem_append] at hdetermined
      exact ih hrest hmoves (step_numbers hstep hmove hnumbers hdetermined.1) hdetermined.2

end Stacks

/-! ### Numbers and signs -/

namespace Token

/-- A token that is no number, or one that is not NaN. -/
def IsNumeric : Token → Prop
  | .number v => v.isNaN = false
  | .operator _ | .opening | .closing | .foreign _ => True

/-- The digits are numbers, and no infinities. -/
theorem isNaN_digitValue : ∀ d : Fin 10,
    (digitValue d).isNaN = false ∧ (digitValue d).isInf = false := by
  decide +kernel

/-- The number that digits write is never NaN, however many digits there are. -/
theorem isNaN_decimal (first : Fin 10) (others : List (Fin 10)) :
    (decimal first others).isNaN = false := by
  have hten : (10 : Float).isNaN = false ∧ (10 : Float).isInf = false ∧
      ((10 : Float) == 0) = false := by
    decide +kernel
  unfold decimal
  -- The induction is on the further digits, over what has been read so far: a number, maybe an
  -- infinity.
  generalize hstart : digitValue first = start
  have hnumber : start.isNaN = false := hstart ▸ (isNaN_digitValue first).1
  clear hstart
  induction others generalizing start with
  | nil => exact hnumber
  | cons d others ih =>
      refine ih _ ?_
      have hproduct : (start * 10).isNaN = false := by
        rw [← Bool.not_eq_true, isNaN_mul_iff hnumber hten.1]
        simp [hten.2.1, hten.2.2]
      rw [← Bool.not_eq_true, isNaN_add_iff hproduct (isNaN_digitValue d).1]
      simp [(isNaN_digitValue d).2]

/-- All numbers of a formula are numbers. Long ones may be infinite, which is no NaN. -/
theorem isNumeric_ofMarks (marks : List (Located Mark)) :
    ∀ t ∈ ofMarks marks, t.val.IsNumeric := by
  fun_induction ofMarks marks with
  | case1 => simp
  | case2 pos d marks ih => exact List.forall_mem_cons.2 ⟨isNaN_decimal d _, ih⟩
  | case3 pos op marks ih => exact List.forall_mem_cons.2 ⟨trivial, ih⟩
  | case4 pos marks ih => exact List.forall_mem_cons.2 ⟨trivial, ih⟩
  | case5 pos marks ih => exact List.forall_mem_cons.2 ⟨trivial, ih⟩
  | case6 pos c marks ih => exact List.forall_mem_cons.2 ⟨trivial, ih⟩

end Token

/-- The factors of signs are 1 and -1. -/
theorem Operator.isNaN_signFactor (op : Operator) : op.signFactor.isNaN = false := by
  cases op <;> decide +kernel

/-- A number with a sign is a number, since 1 and -1 are neither zero nor infinite. -/
theorem Operator.isNaN_signFactor_mul (op : Operator) {v : Float} (h : v.isNaN = false) :
    (op.signFactor * v).isNaN = false := by
  have hfactor : op.signFactor.isInf = false ∧ (op.signFactor == 0) = false := by
    cases op <;> decide +kernel
  rw [← Bool.not_eq_true, isNaN_mul_iff op.isNaN_signFactor h]
  simp [hfactor.1, hfactor.2]

namespace Move

/-- So moves bring numbers only. The induction has the cases of the recursion, and in each the
first token and the others are taken apart. -/
theorem isNumeric_ofTokens (ctx : Context) {tokens : List (Located Token)}
    (h : ∀ t ∈ tokens, t.val.IsNumeric) : ∀ move ∈ ofTokens ctx tokens, move.val.IsNumeric := by
  fun_induction ofTokens ctx tokens with
  | case1 op pos place tokens ih =>
      exact List.forall_mem_cons.2 ⟨op.isNaN_signFactor, List.forall_mem_cons.2
        ⟨trivial, ih (List.forall_mem_cons.1 h).2⟩⟩
  | case2 op pos place v tokens hraised ih =>
      exact List.forall_mem_cons.2 ⟨op.isNaN_signFactor, List.forall_mem_cons.2
        ⟨(List.forall_mem_cons.1 h).1, ih (List.forall_mem_cons.1 h).2⟩⟩
  | case3 op pos place v tokens hraised ih =>
      exact List.forall_mem_cons.2
        ⟨op.isNaN_signFactor_mul (List.forall_mem_cons.1 h).1, ih (List.forall_mem_cons.1 h).2⟩
  | case4 ctx pos c tokens => exact List.forall_mem_singleton.2 trivial
  | case5 tokens op pos => exact List.forall_mem_singleton.2 trivial
  | case6 ctx => simp
  | case7 ctx pos v tokens hctx ih =>
      exact List.forall_mem_cons.2 ⟨(List.forall_mem_cons.1 h).1, ih (List.forall_mem_cons.1 h).2⟩
  | case8 ctx pos tokens hctx ih =>
      exact List.forall_mem_cons.2 ⟨trivial, ih (List.forall_mem_cons.1 h).2⟩
  | case9 ctx pos tokens hctx ih =>
      exact List.forall_mem_cons.2 ⟨trivial, ih (List.forall_mem_cons.1 h).2⟩
  | case10 pos op tokens hop ih => exact ih (List.forall_mem_cons.1 h).2
  | case11 pos op tokens hop ih =>
      exact List.forall_mem_cons.2 ⟨trivial, ih (List.forall_mem_cons.1 h).2⟩
  | case12 pos op tokens ih =>
      exact List.forall_mem_cons.2 ⟨trivial, ih (List.forall_mem_cons.1 h).2⟩

end Move

/-- A formula whose value is NaN has applied an operator to numbers of which it makes NaN. -/
theorem Formula.exists_indeterminate {f : Formula} {v : Float} (h : f.evaluate = .ok v)
    (hv : v.isNaN = true) : ∃ x ∈ f.applications, x.Indeterminate := by
  -- Without such an application the operands stay numbers to the end.
  by_contra hnone
  have hmoves : ∀ move ∈ f.moves, move.val.IsNumeric :=
    Move.isNumeric_ofTokens .start (Token.isNumeric_ofMarks f.marks)
  have hnumber := Stacks.finish_number (s := {}) h hmoves (by simp [Stacks.Numbers])
    (fun x hx hindeterminate => hnone ⟨x, hx, hindeterminate⟩)
  cases hv.symm.trans hnumber

end Reckoner
