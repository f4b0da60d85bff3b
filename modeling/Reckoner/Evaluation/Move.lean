import Reckoner.Arithmetic.Operations
import Reckoner.Token

/-!
# `Reckoner.Evaluation.Move`: tokens with their signs settled

At the start of a formula and right after a `(` a `+` or `-` is a sign. What it
does hangs on the tokens behind it: it becomes part of a number, or, before a
group or before the base of a power, a factor that the whole group or power is
multiplied by. `Move.ofTokens` settles this once, with a look at no more than the
token behind the sign's operand. What is left is a list of moves that can be
carried out one by one.
-/

set_option autoImplicit false

namespace Reckoner

/-- One move of an evaluation. -/
inductive Move where
  /-- Takes a number as an operand. -/
  | value (v : Float)
  /-- Opens a group. -/
  | enter
  /-- Closes the innermost group. -/
  | leave
  /-- Puts an operator behind the operand at hand. -/
  | operator (op : Operator)
  /-- Multiplies the group or power that comes next by a sign. -/
  | factor (sign : Float)
  /-- Gives up. -/
  | refuse (failure : Failure)
deriving DecidableEq, Repr

namespace Move

/-- What stands in front of a token. -/
inductive Context where
  /-- Nothing, or the `(` of a group: a `+` or `-` here is a sign. -/
  | start
  /-- Anything else that is no sign. -/
  | inside
  /-- A sign and its place. -/
  | sign (op : Operator) (pos : Nat)
deriving DecidableEq, Repr

/-- Whether tokens start with a `^`. -/
def raised : List (Located Token) → Bool
  | ⟨_, .operator .pow⟩ :: _ => true
  | _ => false

/-- The moves that tokens ask for behind what stands in front of them. Nothing
follows a refusal. -/
def ofTokens : Context → List (Located Token) → List (Located Move)
  | .sign op pos, ⟨place, .opening⟩ :: tokens =>
    ⟨pos, factor op.signFactor⟩ :: ⟨place, enter⟩ :: ofTokens .start tokens
  | .sign op pos, ⟨place, .number v⟩ :: tokens =>
    -- The sign is outside of a power: `-2^2` is `-(2^2)`.
    if raised tokens then
      ⟨pos, factor op.signFactor⟩ :: ⟨place, value v⟩ :: ofTokens .inside tokens
    else ⟨pos, value (op.signFactor * v)⟩ :: ofTokens .inside tokens
  | _, ⟨pos, .foreign c⟩ :: _ => [⟨pos, refuse (.malformed (.foreignChar c pos))⟩]
  | .sign op pos, _ => [⟨pos, refuse (.missingOperand op pos)⟩]
  | _, [] => []
  | _, ⟨pos, .number v⟩ :: tokens => ⟨pos, value v⟩ :: ofTokens .inside tokens
  | _, ⟨pos, .opening⟩ :: tokens => ⟨pos, enter⟩ :: ofTokens .start tokens
  | _, ⟨pos, .closing⟩ :: tokens => ⟨pos, leave⟩ :: ofTokens .inside tokens
  | .start, ⟨pos, .operator op⟩ :: tokens =>
    if op.isSign then ofTokens (.sign op pos) tokens
    else ⟨pos, operator op⟩ :: ofTokens .inside tokens
  | .inside, ⟨pos, .operator op⟩ :: tokens => ⟨pos, operator op⟩ :: ofTokens .inside tokens

end Move

/-- The moves that a formula asks for. A sign may stand at its start. -/
def Formula.moves (f : Formula) : List (Located Move) :=
  Move.ofTokens .start f.tokens

end Reckoner
