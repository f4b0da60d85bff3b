import Reckoner.Calculation
import Reckoner.Proofs.Result

/-!
# `Reckoner.Proofs.Relocation`: no step looks at a place

Places are carried along: a check and an evaluation hand them on from the marks of a formula
to what they remember and to their errors, and decide nothing by them. So when the marks are put
to other places, in any way whatever, all that follows is the same at those places. This file
says so of every step, with `relocate f` for a change of all places by `f`.

* `Check.ofMarks_relocate`: the whole check.
* `Token.ofMarks_relocate`, `Move.ofTokens_relocate`: the tokens and the moves.
* `Stacks.ofMoves_relocate`: the whole evaluation.
-/

set_option autoImplicit false

namespace Reckoner

/-! ### Things at other places -/

/-- The same at another place. -/
def Located.relocate {α : Type} (f : Nat → Nat) (x : Located α) : Located α :=
  ⟨f x.pos, x.val⟩

/-- A fault of a text whose places have changed. -/
def Fault.relocate (f : Nat → Nat) : Fault → Fault
  | empty => empty
  | foreignChar c pos => foreignChar c (f pos)
  | numberBeforeGroup pos => numberBeforeGroup (f pos)
  | numberAfterGroup pos => numberAfterGroup (f pos)
  | adjacentGroups pos => adjacentGroups (f pos)
  | numberTooLong limit pos => numberTooLong limit (f pos)
  | missingLeftOperand op pos => missingLeftOperand op (f pos)
  | missingRightOperand op pos => missingRightOperand op (f pos)
  | unmatchedClose pos => unmatchedClose (f pos)
  | unclosedGroup pos => unclosedGroup (f pos)
  | emptyGroup pos => emptyGroup (f pos)

/-- A failure of a calculation whose places have changed. A failure of the whole has none. -/
def Failure.relocate (f : Nat → Nat) : Failure → Failure
  | malformed fault => malformed (fault.relocate f)
  | divisionByZero pos => divisionByZero (f pos)
  | undefinedPower base exponent pos => undefinedPower base exponent (f pos)
  | missingOperand op pos => missingOperand op (f pos)
  | unmatchedClose pos => unmatchedClose (f pos)
  | unclosedGroup pos => unclosedGroup (f pos)
  | residual count => residual count
  | unusableRange min max => unusableRange min max

/-- What a check remembers of marks whose places have changed: the last symbol and the open groups
have places, the run of digits is only counted. -/
def Check.relocate (f : Nat → Nat) (k : Check) : Check :=
  ⟨k.last.map (Located.relocate f), k.digits, k.opened.map (Located.relocate f)⟩

/-- A move says where it stands only when it refuses to go on. -/
def Move.relocate (f : Nat → Nat) : Move → Move
  | refuse failure => refuse (failure.relocate f)
  | move => move

/-- What stands in front of a token has a place only if it is a sign, which is kept for its
own error. -/
def Move.Context.relocate (f : Nat → Nat) : Move.Context → Move.Context
  | sign op pos => sign op (f pos)
  | ctx => ctx

/-- Waiting work keeps the place of its operator or its group. -/
def Waiting.relocate (f : Nat → Nat) : Waiting → Waiting
  | group pos => group (f pos)
  | operator op pos => operator op (f pos)

/-- The operands are numbers and have no places, the work that waits for them has. -/
def Stacks.relocate (f : Nat → Nat) (s : Stacks) : Stacks :=
  ⟨s.operands, s.waiting.map (Waiting.relocate f)⟩

/-- A move at another place. -/
def Move.relocateAt (f : Nat → Nat) (x : Located Move) : Located Move :=
  ⟨f x.pos, x.val.relocate f⟩

namespace Check

variable (f : Nat → Nat) (limit : UInt8) (k : Check)

/-- That a digit was seen in the innermost group is noted without a look at where the group
opens. -/
theorem noteDigit_map_relocate (opened : List (Located Bool)) :
    noteDigit (opened.map (Located.relocate f)) = (noteDigit opened).map (Located.relocate f) := by
  cases opened with
  | nil => rfl
  | cons group outer => rfl

/-- Whether a symbol may follow the last one hangs on the two symbols. The fault that says it may
not is at the place of the last one. -/
theorem startsOperand_relocate (s : Symbol) :
    onBoth (Fault.relocate f) id (k.startsOperand s) = (k.relocate f).startsOperand s := by
  obtain ⟨last, digits, opened⟩ := k
  rcases last with _ | ⟨pos, t⟩
  · rfl
  · cases t with
    | operator op =>
        cases s <;> rfl
    | digit d => rfl
    | opening => rfl
    | closing => rfl

/-- What is asked of the last symbol is asked of the symbol alone. -/
theorem last_any_relocate (p : Symbol → Bool) :
    (k.relocate f).last.any (fun x => p x.val) = k.last.any (fun x => p x.val) := by
  rw [relocate, Option.any_map]
  rfl

/-- A digit is refused behind a `)` and where the run is too long, both of which are known without
places; else it is counted. -/
theorem digit_relocate (pos : Nat) (d : Fin 10) :
    onBoth (Fault.relocate f) (relocate f) (k.digit limit pos d)
      = (k.relocate f).digit limit (f pos) d := by
  rw [digit, digit, last_any_relocate]
  -- Both checks ask for symbols and counts, so they come out the same on both sides.
  split
  · rfl
  · split
    · rw [if_pos ‹_›]
      rfl
    · rw [if_neg ‹_›]
      simp [relocate, Located.relocate, noteDigit_map_relocate]

/-- Whether an operator has a left operand hangs on the symbol in front of it. -/
theorem hasLeftOperand_relocate (op : Operator) :
    (k.relocate f).hasLeftOperand op = k.hasLeftOperand op := by
  rw [hasLeftOperand, relocate, Option.map_map]
  rfl

/-- An operator is refused for want of a left operand or remembered, and its place goes along
with it. -/
theorem operator_relocate (pos : Nat) (op : Operator) :
    onBoth (Fault.relocate f) (relocate f) (k.operator pos op)
      = (k.relocate f).operator (f pos) op := by
  rw [operator, operator, hasLeftOperand_relocate]
  split
  · rfl
  · rfl

/-- A `(` is refused behind a digit or a `)`, and else its place is remembered for as long as it
is open. -/
theorem opening_relocate (pos : Nat) :
    onBoth (Fault.relocate f) (relocate f) (k.opening pos) = (k.relocate f).opening (f pos) := by
  rw [opening, opening, last_any_relocate, last_any_relocate]
  split
  · rfl
  · split
    · rfl
    · rfl

/-- A `)` drops the innermost place that is remembered. It is refused when there is none, or when
no digit was noted behind it. -/
theorem closing_relocate (pos : Nat) :
    onBoth (Fault.relocate f) (relocate f) (k.closing pos) = (k.relocate f).closing (f pos) := by
  obtain ⟨last, digits, opened⟩ := k
  cases opened with
  | nil => rfl
  | cons group outer =>
      -- Only a group with a digit in it may be closed, and then the group around it has one too.
      obtain ⟨place, seen⟩ := group
      cases seen with
      | false => rfl
      | true => simp [closing, relocate, Located.relocate, noteDigit_map_relocate]

/-- One step of the check, put together from the steps for the kinds of symbols. -/
theorem read_relocate (x : Located Mark) :
    onBoth (Fault.relocate f) (relocate f) (k.read limit x)
      = (k.relocate f).read limit (x.relocate f) := by
  obtain ⟨pos, m⟩ := x
  cases m with
  | foreign c => rfl
  | symbol s =>
      -- Every symbol is first held against the one before it, and then read for what it is.
      refine onBoth_bind (k.startsOperand_relocate f s) fun _ => ?_
      cases s with
      | digit d => exact k.digit_relocate f limit pos d
      | operator op => exact k.operator_relocate f pos op
      | opening => exact k.opening_relocate f pos
      | closing => exact k.closing_relocate f pos

/-- The end of a text is judged by the last symbol and the innermost open group, and the fault
takes its place from them. -/
theorem conclude_relocate :
    onBoth (Fault.relocate f) id k.conclude = (k.relocate f).conclude := by
  obtain ⟨last, digits, opened⟩ := k
  rcases last with _ | ⟨pos, s⟩
  · rfl
  · cases s with
    | operator op => rfl
    | digit d => cases opened <;> rfl
    | opening => cases opened <;> rfl
    | closing => cases opened <;> rfl

/-- A check does not look at places. -/
theorem ofMarks_relocate (marks : List (Located Mark)) :
    onBoth (Fault.relocate f) id (ofMarks limit marks >>= conclude)
      = (ofMarks limit (marks.map (Located.relocate f)) >>= conclude) :=
  onBoth_bind (onBoth_foldlM (read_relocate f limit) marks {}) (conclude_relocate f)

end Check

namespace Token

variable (f : Nat → Nat)

/-- The digits of a run are digits wherever they stand. -/
theorem leadingDigits_relocate (marks : List (Located Mark)) :
    leadingDigits (marks.map (Located.relocate f)) = leadingDigits marks := by
  induction marks with
  | nil => rfl
  | cons x marks ih =>
      rcases x with ⟨pos, s | c⟩
      · cases s with
        | digit d => exact congrArg (d :: ·) ih
        | operator op => rfl
        | opening => rfl
        | closing => rfl
      · rfl

/-- Behind a run come the same marks, at the places that they have been put to. -/
theorem afterDigits_relocate (marks : List (Located Mark)) :
    afterDigits (marks.map (Located.relocate f)) = (afterDigits marks).map (Located.relocate f) := by
  induction marks with
  | nil => rfl
  | cons x marks ih =>
      rcases x with ⟨pos, s | c⟩
      · cases s with
        | digit d => exact ih
        | operator op => rfl
        | opening => rfl
        | closing => rfl
      · rfl

/-- Tokens are made of the same marks, and each takes the place of its first mark. -/
theorem ofMarks_relocate (marks : List (Located Mark)) :
    ofMarks (marks.map (Located.relocate f)) = (ofMarks marks).map (Located.relocate f) := by
  fun_induction ofMarks marks with
  | case1 => exact ofMarks.eq_1
  | case2 pos d marks ih =>
      rw [List.map_cons, List.map_cons, ← ih, ← afterDigits_relocate, ← leadingDigits_relocate f]
      exact ofMarks.eq_2 _ _ _
  | case3 pos op marks ih =>
      rw [List.map_cons, List.map_cons, ← ih]
      exact ofMarks.eq_3 _ _ _
  | case4 pos marks ih =>
      rw [List.map_cons, List.map_cons, ← ih]
      exact ofMarks.eq_4 _ _
  | case5 pos marks ih =>
      rw [List.map_cons, List.map_cons, ← ih]
      exact ofMarks.eq_5 _ _
  | case6 pos c marks ih =>
      rw [List.map_cons, List.map_cons, ← ih]
      exact ofMarks.eq_6 _ _ _

end Token

namespace Move

variable (f : Nat → Nat)

/-- Whether a power follows is seen from the next token alone. -/
theorem raised_relocate (tokens : List (Located Token)) :
    raised (tokens.map (Located.relocate f)) = raised tokens := by
  rcases tokens with _ | ⟨⟨pos, t⟩, tokens⟩
  · rfl
  · cases t with
    | operator op => cases op <;> rfl
    | _ => rfl

/-- A refusal keeps the place that it is about, so it is put elsewhere along with the move. The
induction is over the tokens for any context, as the context is what the moves behind a token hang
on. -/
theorem ofTokens_relocate (ctx : Context) (tokens : List (Located Token)) :
    ofTokens (ctx.relocate f) (tokens.map (Located.relocate f))
      = (ofTokens ctx tokens).map (relocateAt f) := by
  induction tokens generalizing ctx with
  | nil => cases ctx <;> rfl
  | cons x tokens ih =>
      obtain ⟨pos, t⟩ := x
      cases t with
      | number v =>
          have hvalue := congrArg (List.cons ⟨f pos, value v⟩) (ih .inside)
          cases ctx with
          | start => exact hvalue
          | inside => exact hvalue
          | sign op place =>
              -- Whether a power follows hangs on the token behind the number, not on its place.
              have hraised := raised_relocate f tokens
              simp only [Context.relocate, List.map_cons, Located.relocate, ofTokens]
              rw [hraised]
              split
              · exact congrArg (List.cons ⟨f place, factor op.signFactor⟩) hvalue
              · exact congrArg (List.cons ⟨f place, value (op.signFactor * v)⟩) (ih .inside)
      | operator op =>
          have hoperator := congrArg (List.cons ⟨f pos, operator op⟩) (ih .inside)
          cases ctx with
          | start =>
              show (if op.isSign then _ else _) = List.map _ (if op.isSign then _ else _)
              split
              · exact ih (.sign op pos)
              · exact hoperator
          | inside => exact hoperator
          | sign other place => rfl
      | opening =>
          have henter := congrArg (List.cons ⟨f pos, enter⟩) (ih .start)
          cases ctx with
          | start => exact henter
          | inside => exact henter
          | sign op place => exact congrArg (List.cons ⟨f place, factor op.signFactor⟩) henter
      | closing =>
          have hleave := congrArg (List.cons ⟨f pos, leave⟩) (ih .inside)
          cases ctx with
          | start => exact hleave
          | inside => exact hleave
          | sign op place => rfl
      | foreign c => cases ctx <;> rfl

end Move

/-- An operator is handed its place for its errors and has no other use for it. -/
theorem Operator.apply_relocate (f : Nat → Nat) (op : Operator) (a b : Float) (pos : Nat) :
    onBoth (Failure.relocate f) id (op.apply a b pos) = op.apply a b (f pos) := by
  cases op with
  | add => rfl
  | sub => rfl
  | mul => rfl
  | div =>
      rw [apply, apply]
      split
      · rfl
      · rfl
  | pow =>
      rw [apply, apply]
      cases Arithmetic.power a b with
      | none => rfl
      | some v => rfl

namespace Stacks

variable (f : Nat → Nat)

/-- For an operator that finds too few operands the place is that of its error too. -/
theorem applyLatest_relocate (op : Operator) (pos : Nat) (operands : List Float) :
    onBoth (Failure.relocate f) id (applyLatest op pos operands)
      = applyLatest op (f pos) operands := by
  rcases operands with _ | ⟨b, _ | ⟨a, operands⟩⟩
  · rfl
  · rfl
  · exact onBoth_bind (op.apply_relocate f a b pos) fun _ => rfl

/-- How far operators are applied is decided by `due`, which sees no place. -/
theorem settle_relocate (due : Operator → Bool) (operands : List Float)
    (waiting : List Waiting) :
    onBoth (Failure.relocate f) (relocate f) (settle due operands waiting)
      = settle due operands (waiting.map (Waiting.relocate f)) := by
  induction waiting generalizing operands with
  | nil => rfl
  | cons w waiting ih =>
      cases w with
      | group pos => rfl
      | operator op pos =>
          -- Both sides ask the same question of the operator, so one split serves both.
          show onBoth _ _ (if due op then _ else _) = if due op then _ else _
          split
          · exact onBoth_bind (applyLatest_relocate f op pos operands) ih
          · rfl

/-- At the end all operators are applied up to the first open group, which is then the error. -/
theorem settleAll_relocate (operands : List Float) (waiting : List Waiting) :
    onBoth (Failure.relocate f) id (settleAll operands waiting)
      = settleAll operands (waiting.map (Waiting.relocate f)) := by
  induction waiting generalizing operands with
  | nil => rfl
  | cons w waiting ih =>
      cases w with
      | group pos => rfl
      | operator op pos => exact onBoth_bind (applyLatest_relocate f op pos operands) ih

/-- One move of an evaluation. -/
theorem step_relocate (s : Stacks) (move : Located Move) :
    onBoth (Failure.relocate f) (relocate f) (s.step move)
      = (s.relocate f).step (Move.relocateAt f move) := by
  obtain ⟨pos, m⟩ := move
  cases m with
  | value v => rfl
  | enter => rfl
  | leave =>
      -- What is left when the group's operators are applied is the group itself, if there is one.
      refine onBoth_bind (settle_relocate f _ s.operands s.waiting) fun settled => ?_
      obtain ⟨operands, waiting⟩ := settled
      rcases waiting with _ | ⟨w, waiting⟩
      · rfl
      · cases w <;> rfl
  | operator op => exact onBoth_bind (settle_relocate f _ s.operands s.waiting) fun _ => rfl
  | factor sign => rfl
  | refuse failure => rfl

/-- The end of an evaluation. That operands are left over is an error without a place. -/
theorem result_relocate (s : Stacks) :
    onBoth (Failure.relocate f) id s.result = (s.relocate f).result := by
  refine onBoth_bind (settleAll_relocate f s.operands s.waiting) fun operands => ?_
  rcases operands with _ | ⟨a, _ | ⟨b, rest⟩⟩
  · rfl
  · rfl
  · rfl

/-- An evaluation does not look at places. -/
theorem ofMoves_relocate (moves : List (Located Move)) :
    onBoth (Failure.relocate f) id (ofMoves moves >>= result)
      = (ofMoves (moves.map (Move.relocateAt f)) >>= result) :=
  onBoth_bind (onBoth_foldlM (step_relocate f) moves {}) (result_relocate f)

end Stacks

end Reckoner
