import Reckoner.Formula

/-!
# `Reckoner.Validity`: checking a formula against the grammar

One pass over the marks of a formula, from left to right, that stops at the
first rule broken. The rules, on the text without its spacing:

- every character is a digit, an operator or a parenthesis;
- a digit does not stand directly before `(`, nor directly after `)`, and `(`
  does not stand directly after `)`;
- no number has more digits than the limit;
- `+` and `-` follow nothing, a digit, `(` or `)`, and the other operators follow
  a digit or `)`;
- every operator is followed by a digit or `(`;
- every `)` closes a group, every group is closed, and none is without a digit.

`Check` is what the pass knows of the marks behind it, `Check.read` takes in one
mark, `Check.conclude` looks at what is open when the text ends, and
`Formula.check` is the whole pass.
-/

set_option autoImplicit false

namespace Reckoner

/-- What a checking pass knows of the symbols behind it. -/
structure Check where
  /-- The last symbol, `none` at the start. -/
  last : Option (Located Symbol) := none
  /-- How many digits the text behind ends in. -/
  digits : Nat := 0
  /-- The groups that are open, the innermost first: where each was opened, and
  whether a digit has been seen in it or in a group inside it. -/
  opened : List (Located Bool) := []
deriving DecidableEq, Repr

namespace Check

/-- Notes in the innermost open group that a digit has been seen. -/
def noteDigit : List (Located Bool) → List (Located Bool)
  | [] => []
  | group :: outer => group.map (fun _ => true) :: outer

/-- Refuses to let an operator be followed by anything that starts no operand. -/
def startsOperand (k : Check) (next : Symbol) : Except Fault Unit :=
  match k.last with
  | some ⟨pos, .operator op⟩ =>
    if next.isDigit || next.isOpening then .ok () else .error (.missingRightOperand op pos)
  | _ => .ok ()

/-- Whether an operator may follow the last symbol. At the start of the text or
of a group it has to be a sign. -/
def hasLeftOperand (k : Check) (op : Operator) : Bool :=
  match k.last.map Located.val with
  | none | some .opening => op.isSign
  | some (.digit _) | some .closing => true
  | some (.operator _) => false

/-- Takes in a digit, of numbers with at most `limit` digits. -/
def digit (limit : UInt8) (k : Check) (pos : Nat) (d : Fin 10) : Except Fault Check :=
  if k.last.any (·.val.isClosing) then .error (.numberAfterGroup pos)
  -- The digit read here counts, so the fault lies at the first digit past the limit.
  else if limit.toNat < k.digits + 1 then .error (.numberTooLong limit pos)
  else .ok ⟨some ⟨pos, .digit d⟩, k.digits + 1, noteDigit k.opened⟩

/-- Takes in an operator. -/
def operator (k : Check) (pos : Nat) (op : Operator) : Except Fault Check :=
  if k.hasLeftOperand op then .ok ⟨some ⟨pos, .operator op⟩, 0, k.opened⟩
  else .error (.missingLeftOperand op pos)

/-- Takes in a `(`. -/
def opening (k : Check) (pos : Nat) : Except Fault Check :=
  if k.last.any (·.val.isDigit) then .error (.numberBeforeGroup pos)
  else if k.last.any (·.val.isClosing) then .error (.adjacentGroups pos)
  else .ok ⟨some ⟨pos, .opening⟩, 0, ⟨pos, false⟩ :: k.opened⟩

/-- Takes in a `)`. What has a digit in the group has one in the group around it. -/
def closing (k : Check) (pos : Nat) : Except Fault Check :=
  match k.opened with
  | [] => .error (.unmatchedClose pos)
  | group :: outer =>
    if group.val then .ok ⟨some ⟨pos, .closing⟩, 0, noteDigit outer⟩
    else .error (.emptyGroup pos)

/-- Takes in a symbol. -/
def symbol (limit : UInt8) (k : Check) (pos : Nat) (s : Symbol) : Except Fault Check := do
  -- An operator that still waits for its operand speaks before the symbol does.
  k.startsOperand s
  match s with
  | .digit d => k.digit limit pos d
  | .operator op => k.operator pos op
  | .opening => k.opening pos
  | .closing => k.closing pos

/-- Takes in a mark. -/
def read (limit : UInt8) (k : Check) (x : Located Mark) : Except Fault Check :=
  match x.val with
  | .symbol s => k.symbol limit x.pos s
  | .foreign c => .error (.foreignChar c x.pos)

/-- What is known behind a list of marks. -/
def ofMarks (limit : UInt8) (marks : List (Located Mark)) : Except Fault Check :=
  marks.foldlM (read limit) {}

/-- Ends the pass: nothing may be missing after the last symbol, and no group may
be open. -/
def conclude (k : Check) : Except Fault Unit :=
  match k.last with
  | none => .error .empty
  | some ⟨pos, .operator op⟩ => .error (.missingRightOperand op pos)
  | some _ =>
    match k.opened with
    | [] => .ok ()
    -- Of several open groups the innermost is the one to close next.
    | group :: _ => .error (.unclosedGroup group.pos)

end Check

/-- Checks a formula whose numbers may have at most `limit` digits. The fault is
the first rule that it breaks. -/
def Formula.check (limit : UInt8) (f : Formula) : Except Fault Unit := do
  (← Check.ofMarks limit f.marks).conclude

/-- Checks a text: it has to be a formula, and the formula has to keep the rules
of the grammar. -/
def checkText (limit : UInt8) (text : String) : Except Fault Unit := do
  (← Formula.ofText text).check limit

/-- Whether a text is a formula that keeps the rules of the grammar. -/
def isValid (limit : UInt8) (text : String) : Bool :=
  (checkText limit text).isOk

end Reckoner
