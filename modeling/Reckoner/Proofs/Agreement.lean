import Reckoner.Proofs.Check.Step
import Reckoner.Proofs.Evaluation.Counting

/-!
# `Reckoner.Proofs.Agreement`: a check and an evaluation go over a formula in step

A check reads the marks of a formula and keeps the last symbol and the open groups. An
evaluation reads its tokens, settles its signs, and keeps two stacks. Neither knows of the
other. This file runs them side by side over the same marks and shows that they agree.

What ties them together is `InStep`. The groups open on both sides are the same. There are
as many operands as waiting operators, and one more behind an operand. What stands in front
of the next token (`Move.Context`) fits the last symbol of the check.

As long as the check takes marks in, the evaluation stays in step or fails in its
arithmetic. Where the check stops, the evaluation either stops at the same place or has
nothing to say about the fault (`Fault.seenUnchecked?`).

* `agrees_of_inStep`: the statement, by induction on the marks as they become tokens.
* `evaluate_of_checkText_eq_error`: what a check finds and an evaluation can see, an
  evaluation finds too.
-/

set_option autoImplicit false

namespace Reckoner

open Move (Context)

/-- The failure that an evaluation without a check comes to at a fault. Most faults show
only in what an evaluation makes of them, and three have a failure of their own. -/
def Fault.seenUnchecked? : Fault → Option Failure
  | foreignChar c pos => some (.malformed (.foreignChar c pos))
  | unmatchedClose pos => some (.unmatchedClose pos)
  | unclosedGroup pos => some (.unclosedGroup pos)
  | empty | numberBeforeGroup _ | numberAfterGroup _ | adjacentGroups _ | numberTooLong _ _
  | missingLeftOperand _ _ | missingRightOperand _ _ | emptyGroup _ => none

/-- A verdict and a value agree when the arithmetic fails, when both are good, or when the
value fails at the fault of the verdict, if it can see that fault. -/
def Agrees (verdict : Except Fault Unit) (value : Except Failure Float) : Prop :=
  (∃ e, value = .error e ∧ e.isArithmetic = true) ∨
    match verdict with
    | .ok _ => ∃ v, value = .ok v
    | .error fault => ∀ failure, fault.seenUnchecked? = some failure → value = .error failure

/-- Nothing is asked of a value at a fault that it cannot see. -/
theorem agrees_of_unseen {fault : Fault} (h : fault.seenUnchecked? = none)
    (value : Except Failure Float) : Agrees (.error fault) value := by
  right
  intro failure hf
  cases h.symm.trans hf

/-! ### The rest of a run -/

/-- What a check says of the marks behind those that it knows of. -/
def Check.finish (limit : UInt8) (k : Check) (marks : List (Located Mark)) :
    Except Fault Unit := do
  (← marks.foldlM (Check.read limit) k).conclude

/-- What comes of the stacks when moves are carried out on them. -/
def Stacks.finish (s : Stacks) (moves : List (Located Move)) : Except Failure Float := do
  (← moves.foldlM Stacks.step s).result

/-- The rest of a check is the next mark and the rest behind it. -/
theorem Check.finish_cons (limit : UInt8) (k : Check) (x : Located Mark)
    (marks : List (Located Mark)) :
    k.finish limit (x :: marks) = (k.read limit x >>= fun k => k.finish limit marks) := by
  simp only [Check.finish, List.foldlM_cons, bind_assoc]

/-- The rest of an evaluation is the next move and the rest behind it. -/
theorem Stacks.finish_cons (s : Stacks) (move : Located Move) (moves : List (Located Move)) :
    s.finish (move :: moves) = (s.step move >>= fun s => s.finish moves) := by
  simp only [Stacks.finish, List.foldlM_cons, bind_assoc]

/-- Some moves can be carried out first, and the others on the stacks that they leave. -/
theorem Stacks.finish_append (s : Stacks) (front back : List (Located Move)) :
    s.finish (front ++ back) = (front.foldlM step s >>= fun s => s.finish back) := by
  simp only [Stacks.finish, List.foldlM_append, bind_assoc]

/-- A number adds an operand, with a sign in front of it or not. A sign that becomes a
factor adds one more, and an operator with it. -/
theorem Stacks.exists_finish_number (s : Stacks) (ctx : Context) (pos : Nat) (v : Float)
    (tokens : List (Located Token)) :
    ∃ s' : Stacks, s.finish (Move.ofTokens ctx (⟨pos, .number v⟩ :: tokens))
        = s'.finish (Move.ofTokens .inside tokens) ∧
      groupPlaces s'.waiting = groupPlaces s.waiting ∧
      s'.operands.length + operatorCount s.waiting
        = s.operands.length + 1 + operatorCount s'.waiting := by
  -- A number behind a sign becomes the base of a power, with the sign as a factor in front, or it
  -- takes the sign in.
  cases ctx with
  | start => exact ⟨⟨v :: s.operands, s.waiting⟩, s.finish_cons _ _, rfl, rfl⟩
  | inside => exact ⟨⟨v :: s.operands, s.waiting⟩, s.finish_cons _ _, rfl, rfl⟩
  | sign op place =>
      rw [Move.ofTokens]
      split
      · refine ⟨⟨v :: op.signFactor :: s.operands, .operator .mul place :: s.waiting⟩, ?_,
          rfl, ?_⟩
        · rw [finish_cons, step, ok_bind, finish_cons, step, ok_bind]
        · simp only [List.length_cons, operatorCount]
          omega
      · exact ⟨⟨op.signFactor * v :: s.operands, s.waiting⟩, s.finish_cons _ _, rfl, rfl⟩

/-- A `(` opens a group, with a sign in front of it or not. -/
theorem Stacks.exists_finish_opening (s : Stacks) (ctx : Context) (pos : Nat)
    (tokens : List (Located Token)) :
    ∃ s' : Stacks, s.finish (Move.ofTokens ctx (⟨pos, .opening⟩ :: tokens))
        = s'.finish (Move.ofTokens .start tokens) ∧
      (∃ rest, s'.waiting = .group pos :: rest) ∧
      groupPlaces s'.waiting = pos :: groupPlaces s.waiting ∧
      s'.operands.length + operatorCount s.waiting
        = s.operands.length + operatorCount s'.waiting := by
  cases ctx with
  | start =>
      exact ⟨⟨s.operands, .group pos :: s.waiting⟩, s.finish_cons _ _, ⟨_, rfl⟩, rfl, rfl⟩
  | inside =>
      exact ⟨⟨s.operands, .group pos :: s.waiting⟩, s.finish_cons _ _, ⟨_, rfl⟩, rfl, rfl⟩
  | sign op place =>
      refine ⟨⟨op.signFactor :: s.operands, .group pos :: .operator .mul place :: s.waiting⟩,
        ?_, ⟨_, rfl⟩, rfl, ?_⟩
      · rw [Move.ofTokens, finish_cons, step, ok_bind, finish_cons, step, ok_bind]
      · simp only [List.length_cons, operatorCount]
        omega

/-! ### What a check refuses unseen -/

namespace Check

variable {limit : UInt8} {k : Check}

/-- A symbol other than `)` is refused only for faults that an evaluation cannot see. -/
theorem seenUnchecked?_of_read_eq_error {pos : Nat} {s : Symbol} {e : Fault}
    (h : k.read limit ⟨pos, .symbol s⟩ = .error e) (hs : s ≠ .closing) :
    e.seenUnchecked? = none := by
  cases refuses_of_read_eq_error h with
  | missingRightOperand => rfl
  | numberAfterGroup => rfl
  | numberTooLong => rfl
  | missingLeftOperand => rfl
  | numberBeforeGroup => rfl
  | adjacentGroups => rfl
  | unmatchedClose => exact absurd rfl hs
  | emptyGroup => exact absurd rfl hs

/-- Behind a digit a check reads the rest of the number, or finds a fault in it that an
evaluation cannot see. -/
theorem finish_digits (marks : List (Located Mark)) (k : Check)
    (hlast : k.last.any (·.val.isDigit) = true) :
    (∃ e, k.finish limit marks = .error e ∧ e.seenUnchecked? = none) ∨
      ∃ k' : Check, k.finish limit marks = k'.finish limit (Token.afterDigits marks) ∧
        k'.last.any (·.val.isDigit) = true ∧
        k'.opened.map Located.pos = k.opened.map Located.pos := by
  -- Along the digits, as the tokens skip them. `k` changes with every digit that is taken in.
  fun_induction Token.afterDigits marks generalizing k with
  | case1 pos d marks ih =>
      rw [finish_cons]
      cases hread : k.read limit ⟨pos, .symbol (.digit d)⟩ with
      | error e => exact .inl ⟨e, rfl, seenUnchecked?_of_read_eq_error hread (by simp)⟩
      | ok k₁ =>
          obtain ⟨-, -, rfl⟩ := read_digit_eq_ok_iff.1 hread
          rcases ih ⟨some ⟨pos, .digit d⟩, k.digits + 1, noteDigit k.opened⟩ rfl
            with hfault | ⟨k', hrun, hlast', hopened⟩
          · exact .inl hfault
          · exact .inr ⟨k', hrun, hlast', hopened.trans (map_pos_noteDigit _)⟩
  | case2 marks => exact .inr ⟨k, rfl, hlast, rfl⟩

end Check

/-! ### In step -/

/-- What stands in front of the marks to come, as a check and as an evaluation has it. -/
inductive Behind : Check → Context → Prop where
  /-- Nothing. -/
  | start : Behind {} .start
  /-- The `(` of a group, in which no digit has been seen. -/
  | opening (pos : Nat) (outer : List (Located Bool)) :
      Behind ⟨some ⟨pos, .opening⟩, 0, ⟨pos, false⟩ :: outer⟩ .start
  /-- A sign. -/
  | sign (pos : Nat) (op : Operator) (opened : List (Located Bool)) :
      Behind ⟨some ⟨pos, .operator op⟩, 0, opened⟩ (.sign op pos)
  /-- An operator behind an operand. -/
  | operator (pos : Nat) (op : Operator) (opened : List (Located Bool)) :
      Behind ⟨some ⟨pos, .operator op⟩, 0, opened⟩ .inside
  /-- An operand. -/
  | operand {k : Check} (h : k.endsOperand = true) : Behind k .inside

/-- A check and an evaluation that have come equally far. -/
structure InStep (k : Check) (ctx : Context) (s : Stacks) : Prop where
  /-- They have read the same. -/
  behind : Behind k ctx
  /-- The same groups are open. -/
  groups : Stacks.groupPlaces s.waiting = k.opened.map Located.pos
  /-- Every operator has its left operand, and the last operand is not taken yet. -/
  count : s.operands.length = Stacks.operatorCount s.waiting + k.endsOperand.toNat
  /-- At the start of a sum there is nothing to settle. -/
  top : ctx = .start → ∀ op pos rest, s.waiting ≠ .operator op pos :: rest

/-- At the start nothing has been read, and nothing is on the stacks. -/
theorem inStep_start : InStep {} .start {} := by
  refine ⟨.start, rfl, rfl, ?_⟩
  intro _ op pos rest hrest
  cases hrest

section Step

variable {limit : UInt8} {k : Check} {ctx : Context} {s : Stacks} {pos : Nat}
  {marks : List (Located Mark)} {tokens : List (Located Token)}

/-- Behind an operand both sides know that there is one. -/
theorem inStep_of_operand (hends : k.endsOperand = true)
    (hgroups : Stacks.groupPlaces s.waiting = k.opened.map Located.pos)
    (hcount : s.operands.length = Stacks.operatorCount s.waiting + 1) :
    InStep k .inside s := by
  refine ⟨.operand hends, hgroups, ?_, ?_⟩
  · rw [hcount, hends]
    rfl
  · intro hstart
    cases hstart

/-- A foreign character is found at once on both sides, also behind a sign. -/
theorem agrees_foreign (c : Char) :
    Agrees (k.finish limit (⟨pos, .foreign c⟩ :: marks))
      (s.finish (Move.ofTokens ctx (⟨pos, .foreign c⟩ :: tokens))) := by
  have hmoves : Move.ofTokens ctx (⟨pos, .foreign c⟩ :: tokens)
      = [⟨pos, .refuse (.malformed (.foreignChar c pos))⟩] := by
    cases ctx with
    | start => rfl
    | inside => rfl
    | sign op place => rfl
  right
  intro failure hf
  cases hf
  rw [hmoves, Stacks.finish_cons]
  rfl

/-- A number. The check reads it digit by digit and may find it too long. -/
theorem agrees_number {d : Fin 10} {v : Float} (h : InStep k ctx s)
    (hlast : k.last.any (·.val.isDigit) = false)
    (ih : ∀ (k' : Check) (s' : Stacks), InStep k' .inside s' →
      Agrees (k'.finish limit (Token.afterDigits marks))
        (s'.finish (Move.ofTokens .inside tokens))) :
    Agrees (k.finish limit (⟨pos, .symbol (.digit d)⟩ :: marks))
      (s.finish (Move.ofTokens ctx (⟨pos, .number v⟩ :: tokens))) := by
  rw [Check.finish_cons]
  cases hread : k.read limit ⟨pos, .symbol (.digit d)⟩ with
  | error e =>
      exact agrees_of_unseen (Check.seenUnchecked?_of_read_eq_error hread (by simp)) _
  | ok k₁ =>
      -- Neither a digit nor a `)` is in front, so the number is a new operand.
      obtain ⟨hclosing, -, rfl⟩ := Check.read_digit_eq_ok_iff.1 hread
      have hawaits : k.endsOperand = false := by
        rw [Check.endsOperand_eq, hlast, hclosing]
        rfl
      rcases Check.finish_digits marks
        ⟨some ⟨pos, .digit d⟩, k.digits + 1, Check.noteDigit k.opened⟩ rfl
        with ⟨e, hfault, hunseen⟩ | ⟨k₂, hrun, hdigit, hopened⟩
      · rw [ok_bind, hfault]
        exact agrees_of_unseen hunseen _
      · obtain ⟨s', hmoves, hgroups, hcount⟩ := s.exists_finish_number ctx pos v tokens
        rw [ok_bind, hrun, hmoves]
        have hends : k₂.endsOperand = true := by
          rw [Check.endsOperand_eq, hdigit]
          rfl
        have hbefore := h.count
        rw [hawaits] at hbefore
        refine ih k₂ s' (inStep_of_operand hends ?_ ?_)
        · rw [hgroups, h.groups, hopened, Check.map_pos_noteDigit]
        · simp only [Bool.toNat_false] at hbefore
          omega

/-- Where an evaluation is at the start of a sum, the check is too. -/
theorem InStep.atStart (h : InStep k .start s) : k.AtStart := by
  cases h.behind with
  | start => exact ⟨rfl, .inl rfl⟩
  | opening pos outer => exact ⟨rfl, .inr ⟨pos, rfl⟩⟩

/-- An operator behind an operand. The evaluation settles what the operator leaves to those
in front of it, and lets it wait. -/
theorem agrees_operator_of_operand {op : Operator} (h : InStep k .inside s)
    (hends : k.endsOperand = true)
    (ih : ∀ s' : Stacks, InStep ⟨some ⟨pos, .operator op⟩, 0, k.opened⟩ .inside s' →
      Agrees (Check.finish limit ⟨some ⟨pos, .operator op⟩, 0, k.opened⟩ marks)
        (s'.finish (Move.ofTokens .inside tokens))) :
    Agrees (Check.finish limit ⟨some ⟨pos, .operator op⟩, 0, k.opened⟩ marks)
      (s.finish (Move.ofTokens .inside (⟨pos, .operator op⟩ :: tokens))) := by
  have hcount : s.operands.length = Stacks.operatorCount s.waiting + 1 := by
    rw [h.count, hends]
    rfl
  have hmoves : s.finish (Move.ofTokens .inside (⟨pos, .operator op⟩ :: tokens))
      = (s.await op pos >>= fun s' => s'.finish (Move.ofTokens .inside tokens)) :=
    s.finish_cons _ _
  rw [hmoves, Stacks.await]
  rcases Stacks.cases_settle (·.bindsBefore op) hcount
    with ⟨e, he, harith⟩ | ⟨s', hs', hfrom, hcount'⟩
  · rw [he]
    exact .inl ⟨e, rfl, harith⟩
  · rw [hs']
    refine ih ⟨s'.operands, .operator op pos :: s'.waiting⟩
      ⟨.operator pos op _, ?_, hcount', ?_⟩
    · exact hfrom.groupPlaces_eq.trans h.groups
    · intro hstart
      cases hstart

/-- An operator. Where no operand is in front of it, it has to be a sign, and the stacks
wait for what it belongs to. -/
theorem agrees_operator {op : Operator} (h : InStep k ctx s)
    (ih : ∀ (k' : Check) (ctx' : Context) (s' : Stacks), InStep k' ctx' s' →
      k'.last.any (·.val.isDigit) = false →
      Agrees (k'.finish limit marks) (s'.finish (Move.ofTokens ctx' tokens))) :
    Agrees (k.finish limit (⟨pos, .symbol (.operator op)⟩ :: marks))
      (s.finish (Move.ofTokens ctx (⟨pos, .operator op⟩ :: tokens))) := by
  rw [Check.finish_cons]
  cases hread : k.read limit ⟨pos, .symbol (.operator op)⟩ with
  | error e =>
      exact agrees_of_unseen (Check.seenUnchecked?_of_read_eq_error hread (by simp)) _
  | ok k₁ =>
      obtain ⟨hleft, rfl⟩ := Check.read_operator_eq_ok_iff.1 hread
      rw [ok_bind]
      cases ctx with
      | start =>
          -- The sign waits outside of the stacks, so they stay as they are.
          have hsign : op.isSign = true := (h.atStart.hasLeftOperand_eq op).symm.trans hleft
          have hmoves : Move.ofTokens .start (⟨pos, .operator op⟩ :: tokens)
              = Move.ofTokens (.sign op pos) tokens := if_pos hsign
          have hcount := h.count
          rw [h.atStart.awaitsOperand.endsOperand] at hcount
          rw [hmoves]
          refine ih _ _ s ⟨.sign pos op _, h.groups, hcount, ?_⟩ rfl
          intro hstart
          cases hstart
      | inside =>
          cases h.behind with
          -- The check refuses an operator behind an operator.
          | operator => cases hleft
          | operand hends =>
              refine agrees_operator_of_operand h hends ?_
              intro s' hs'
              exact ih _ _ s' hs' rfl
      | sign op' place =>
          cases h.behind with
          | sign => cases hleft

/-- A `(`. -/
theorem agrees_opening (h : InStep k ctx s)
    (ih : ∀ (k' : Check) (s' : Stacks), InStep k' .start s' →
      k'.last.any (·.val.isDigit) = false →
      Agrees (k'.finish limit marks) (s'.finish (Move.ofTokens .start tokens))) :
    Agrees (k.finish limit (⟨pos, .symbol .opening⟩ :: marks))
      (s.finish (Move.ofTokens ctx (⟨pos, .opening⟩ :: tokens))) := by
  rw [Check.finish_cons]
  cases hread : k.read limit ⟨pos, .symbol .opening⟩ with
  | error e =>
      exact agrees_of_unseen (Check.seenUnchecked?_of_read_eq_error hread (by simp)) _
  | ok k₁ =>
      -- The operands and operators stay in balance: a factor comes with its operator.
      obtain ⟨hawaits, rfl⟩ := Check.read_opening_eq_ok_iff.1 hread
      obtain ⟨s', hmoves, ⟨rest, hrest⟩, hgroups, hcount⟩ :=
        s.exists_finish_opening ctx pos tokens
      have hbefore := h.count
      rw [hawaits] at hbefore
      rw [ok_bind, hmoves]
      refine ih _ s' ⟨.opening pos _, ?_, ?_, ?_⟩ rfl
      · rw [hgroups, h.groups]
        rfl
      · show s'.operands.length = Stacks.operatorCount s'.waiting + 0
        simp only [Bool.toNat_false] at hbefore
        omega
      · intro _ op place rest' hrest'
        cases hrest.symm.trans hrest'

/-! ### Where a group or the text may end

At the start of a sum and behind an operand no operator waits for an operand that is still
to come. All of them can be settled. -/

/-- At the start of a sum and behind an operand, what was read last is no operator. -/
theorem InStep.last_ne_operator (h : InStep k ctx s) (hctx : ctx = .start ∨ k.endsOperand = true)
    (place : Nat) (op : Operator) : k.last ≠ some ⟨place, .operator op⟩ := by
  rcases hctx with rfl | hends
  · exact h.atStart.last_ne_operator place op
  · exact Check.last_ne_operator_of_endsOperand hends place op

/-- Where a group or the text may end, settling never runs out of operands: it fails in the
arithmetic only, and otherwise the operands and the operators that wait are still in balance. -/
theorem InStep.cases_settle (h : InStep k ctx s) (hctx : ctx = .start ∨ k.endsOperand = true) :
    (∃ e, Stacks.settle (fun _ => true) s.operands s.waiting = .error e ∧
        e.isArithmetic = true) ∨
      ∃ s', Stacks.settle (fun _ => true) s.operands s.waiting = .ok s' ∧
        Stacks.SettledFrom (fun _ => true) s.operands s.waiting s' ∧
        s'.operands.length = Stacks.operatorCount s'.waiting + k.endsOperand.toNat := by
  rcases hctx with rfl | hends
  · -- At the start of a sum no operator waits above the group, so settling does nothing.
    have hsettled := Stacks.settle_of_no_operator (h.top rfl) (fun _ => true) s.operands
    exact .inr ⟨s, hsettled, Stacks.settledFrom_of_settle_eq_ok hsettled, h.count⟩
  · have hcount := h.count
    rw [hends] at hcount ⊢
    exact Stacks.cases_settle _ hcount

/-- A group that has a digit in it does not end at its start. -/
theorem InStep.endsOperand_of_opened (h : InStep k ctx s)
    (hctx : ctx = .start ∨ k.endsOperand = true) {place : Nat} {outer : List (Located Bool)}
    (hopened : k.opened = ⟨place, true⟩ :: outer) : k.endsOperand = true := by
  rcases hctx with rfl | hends
  · cases h.behind with
    | start => cases hopened
    | opening => cases hopened
  · exact hends

/-- A `)` where a group may end. -/
theorem agrees_closing_of_end (h : InStep k ctx s) (hctx : ctx = .start ∨ k.endsOperand = true)
    (ih : ∀ (k' : Check) (s' : Stacks), InStep k' .inside s' →
      k'.last.any (·.val.isDigit) = false →
      Agrees (k'.finish limit marks) (s'.finish (Move.ofTokens .inside tokens))) :
    Agrees (k.closing pos >>= fun k' => k'.finish limit marks)
      (s.leaveGroup pos >>= fun s' => s'.finish (Move.ofTokens .inside tokens)) := by
  -- Both sides ask for an open group: the evaluation once it has settled, the check at once.
  rw [Stacks.leaveGroup_eq, Check.closing]
  rcases h.cases_settle hctx with ⟨e, he, harith⟩ | ⟨s', hs', hfrom, hcount⟩
  · rw [he]
    exact .inl ⟨e, rfl, harith⟩
  · rw [hs', ok_bind, Stacks.closed]
    rcases hfrom.waiting_eq with ⟨hw, hplaces⟩ | ⟨place, rest, hw, hplaces⟩
    · -- No group is open on either side.
      have hnone : k.opened = [] := List.map_eq_nil_iff.1 (h.groups.symm.trans hplaces)
      rw [hw, hnone]
      right
      intro failure hf
      cases hf
      rfl
    · -- Both close the same group, the innermost.
      obtain ⟨⟨place', flag⟩, outer, hopened, hplace, houter⟩ :=
        List.map_eq_cons_iff.1 (h.groups.symm.trans hplaces)
      rw [hw, hopened]
      cases flag with
      | false =>
          -- The evaluation takes no notice of an empty group.
          exact agrees_of_unseen rfl _
      | true =>
          have hends := h.endsOperand_of_opened hctx hopened
          rw [hends, hw] at hcount
          refine ih ⟨some ⟨pos, .closing⟩, 0, Check.noteDigit outer⟩ ⟨s'.operands, rest⟩
            (inStep_of_operand rfl ?_ hcount) rfl
          rw [Check.map_pos_noteDigit, houter]

/-- A `)`. -/
theorem agrees_closing (h : InStep k ctx s)
    (ih : ∀ (k' : Check) (s' : Stacks), InStep k' .inside s' →
      k'.last.any (·.val.isDigit) = false →
      Agrees (k'.finish limit marks) (s'.finish (Move.ofTokens .inside tokens))) :
    Agrees (k.finish limit (⟨pos, .symbol .closing⟩ :: marks))
      (s.finish (Move.ofTokens ctx (⟨pos, .closing⟩ :: tokens))) := by
  rw [Check.finish_cons]
  -- The three places where a group may end go the same way, whatever is in front.
  have ends : ctx = .start ∨ k.endsOperand = true →
      s.finish (Move.ofTokens ctx (⟨pos, .closing⟩ :: tokens))
        = (s.leaveGroup pos >>= fun s' => s'.finish (Move.ofTokens .inside tokens)) →
      Agrees (k.read limit ⟨pos, .symbol .closing⟩ >>= fun k' => k'.finish limit marks)
        (s.finish (Move.ofTokens ctx (⟨pos, .closing⟩ :: tokens))) := by
    intro hctx hmoves
    rw [Check.read_closing (h.last_ne_operator hctx), hmoves]
    exact agrees_closing_of_end h hctx ih
  cases h.behind with
  | start => exact ends (.inl rfl) (s.finish_cons _ _)
  | opening place outer => exact ends (.inl rfl) (s.finish_cons _ _)
  -- An operator in front of a `)` has no right operand, and the check says so.
  | sign place op opened => exact agrees_of_unseen rfl _
  | operator place op opened => exact agrees_of_unseen rfl _
  | operand hends => exact ends (.inr hends) (s.finish_cons _ _)

/-- The end of the text in an open group. -/
theorem InStep.result_of_opened (h : InStep k ctx s) (hctx : ctx = .start ∨ k.endsOperand = true)
    {group : Located Bool} {outer : List (Located Bool)} (hopened : k.opened = group :: outer) :
    Agrees (.error (.unclosedGroup group.pos)) s.result := by
  rw [Stacks.result_eq]
  rcases h.cases_settle hctx with ⟨e, he, harith⟩ | ⟨s', hs', hfrom, -⟩
  · rw [he]
    exact .inl ⟨e, rfl, harith⟩
  · have hgroups := h.groups
    rw [hopened, List.map_cons] at hgroups
    rcases hfrom.waiting_eq with ⟨-, hplaces⟩ | ⟨place, rest, hw, hplaces⟩
    · cases hgroups.symm.trans hplaces
    · -- The innermost open group is the same on both sides.
      obtain ⟨rfl, -⟩ := List.cons.inj (hgroups.symm.trans hplaces)
      right
      intro failure hf
      cases hf
      rw [hs', ok_bind, Stacks.outcome, hw]

/-- The end of the text behind an operand, with no group open. -/
theorem InStep.result_of_none_opened (h : InStep k ctx s) (hends : k.endsOperand = true)
    (hopened : k.opened = []) : Agrees (.ok ()) s.result := by
  rw [Stacks.result_eq]
  rcases h.cases_settle (.inr hends) with ⟨e, he, harith⟩ | ⟨s', hs', hfrom, hcount⟩
  · rw [he]
    exact .inl ⟨e, rfl, harith⟩
  · have hgroups := h.groups
    rw [hopened] at hgroups
    rcases hfrom.waiting_eq with ⟨hw, -⟩ | ⟨place, rest, -, hplaces⟩
    · rw [hends, hw] at hcount
      -- Without operators, one operand is left.
      obtain ⟨v, hv⟩ := List.length_eq_one_iff.1 hcount
      have hvalue : (Except.ok s' >>= Stacks.outcome) = (.ok v : Except Failure Float) := by
        rw [ok_bind, Stacks.outcome, hw, hv]
      rw [hs']
      exact .inr ⟨v, hvalue⟩
    · -- A group on the stack would be open for the check, too.
      cases hgroups.symm.trans hplaces

/-- The end. -/
theorem agrees_end (h : InStep k ctx s) :
    Agrees k.conclude (s.finish (Move.ofTokens ctx [])) := by
  cases h.behind with
  | start => exact agrees_of_unseen rfl _
  | opening place outer => exact h.result_of_opened (.inl rfl) rfl
  | sign place op opened => exact agrees_of_unseen rfl _
  | operator place op opened => exact agrees_of_unseen rfl _
  | operand hends =>
      rw [Check.conclude_of_endsOperand hends]
      cases hopened : k.opened with
      | nil => exact h.result_of_none_opened hends hopened
      | cons group outer => exact h.result_of_opened (.inr hends) hopened

end Step

/-! ### The run -/

/-- A check and an evaluation that have come equally far agree in the end. No number is
broken off: behind a digit no digit is to come. -/
theorem agrees_of_inStep {limit : UInt8} (marks : List (Located Mark)) :
    ∀ (k : Check) (ctx : Context) (s : Stacks), InStep k ctx s →
      (k.last.any (·.val.isDigit) = true → Token.leadingDigits marks = []) →
      Agrees (k.finish limit marks) (s.finish (Move.ofTokens ctx (Token.ofMarks marks))) := by
  -- Along the marks as they become tokens, since a number is one step of the evaluation and many
  -- of the check.
  fun_induction Token.ofMarks marks with
  | case1 =>
      intro k ctx s h _
      exact agrees_end h
  | case2 pos d marks ih =>
      intro k ctx s h hnumber
      have hlast : k.last.any (·.val.isDigit) = false := by
        cases hdigit : k.last.any (·.val.isDigit) with
        | false => rfl
        | true => cases hnumber hdigit
      refine agrees_number h hlast ?_
      intro k' s' hs'
      exact ih k' .inside s' hs' fun _ => Token.leadingDigits_afterDigits marks
  | case3 pos op marks ih =>
      intro k ctx s h _
      refine agrees_operator h ?_
      intro k' ctx' s' hs' hlast
      exact ih k' ctx' s' hs' fun hdigit => absurd (hlast.symm.trans hdigit) Bool.false_ne_true
  | case4 pos marks ih =>
      intro k ctx s h _
      refine agrees_opening h ?_
      intro k' s' hs' hlast
      exact ih k' .start s' hs' fun hdigit => absurd (hlast.symm.trans hdigit) Bool.false_ne_true
  | case5 pos marks ih =>
      intro k ctx s h _
      refine agrees_closing h ?_
      intro k' s' hs' hlast
      exact ih k' .inside s' hs' fun hdigit => absurd (hlast.symm.trans hdigit) Bool.false_ne_true
  | case6 pos c marks ih =>
      intro k ctx s _ _
      exact agrees_foreign c

/-- What a check says of a formula agrees with its value. -/
theorem Formula.agrees_check_evaluate (limit : UInt8) (f : Formula) :
    Agrees (f.check limit) f.evaluate := by
  refine agrees_of_inStep f.marks {} .start {} inStep_start ?_
  intro hdigit
  cases hdigit

/-! ### Faults that both can see -/

/-- **A check and an evaluation blame the same character.** A foreign character, a `)` that
closes nothing and a `(` that is not closed are found by an evaluation without a check too,
and at the same place, unless its arithmetic fails first. -/
theorem evaluate_of_checkText_eq_error {limit : UInt8} {text : String} {fault : Fault}
    {failure : Failure} (h : checkText limit text = .error fault)
    (hseen : fault.seenUnchecked? = some failure) :
    ∃ f, Formula.ofText text = .ok f ∧
      (f.evaluate = .error failure ∨ ∃ e, f.evaluate = .error e ∧ e.isArithmetic = true) := by
  rcases bind_eq_error h with hempty | ⟨f, hf, hcheck⟩
  · obtain ⟨rfl, -⟩ := Formula.ofText_eq_error_iff.1 hempty
    cases hseen
  · refine ⟨f, hf, ?_⟩
    have hagrees := f.agrees_check_evaluate limit
    rw [hcheck] at hagrees
    rcases hagrees with harith | hfailure
    · exact .inr harith
    · exact .inl (hfailure failure hseen)

/-- A foreign character behind a sign, which waits for what it belongs to. -/
theorem evaluate_of_foreign_behind_sign :
    checkText 8 "3*( -é)" = .error (.foreignChar 'é' 5) ∧
      ∃ f, Formula.ofText "3*( -é)" = .ok f ∧
        (f.evaluate = .error (.malformed (.foreignChar 'é' 5)) ∨
          ∃ e, f.evaluate = .error e ∧ e.isArithmetic = true) := by
  have hfault : checkText 8 "3*( -é)" = .error (.foreignChar 'é' 5) := by decide +kernel
  exact ⟨hfault, evaluate_of_checkText_eq_error hfault rfl⟩

end Reckoner
