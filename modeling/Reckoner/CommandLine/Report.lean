import Reckoner.Failure

/-!
# `Reckoner.CommandLine.Report`: what a user reads when there is no result

A failure with a place is reported with a label for the character at that place.
The place is shown as a line and a column, both counted from one. It is always on
the first line: a line break is a foreign character, and no failure lies behind
the first of those.
-/

set_option autoImplicit false

namespace Reckoner.CommandLine

/-- A report of something that went wrong. -/
inductive Report where
  /-- A failure of the formula as a whole. -/
  | overall (message : String)
  /-- A failure at a place of the formula, with a label for what stands there. -/
  | located (message : String) (pos : Nat) (label : String)
  /-- The end of the run. -/
  | fatal (message : String)
deriving DecidableEq, Repr

namespace Report

/-- A short label for the character that a fault points at. -/
def faultLabel : Fault → String
  | .foreignChar .. => "not allowed in a formula"
  | .numberBeforeGroup _ | .numberAfterGroup _ | .adjacentGroups _ => "an operator is needed here"
  | .numberTooLong .. => "too many digits"
  | .unmatchedClose _ => "never opened"
  | .unclosedGroup _ => "never closed"
  | .emptyGroup _ => "group has no number"
  | .empty | .missingLeftOperand .. | .missingRightOperand .. => "here"

/-- A short label for the character that a failure points at. -/
def label : Failure → String
  | .malformed fault => faultLabel fault
  | .unmatchedClose _ => "never opened"
  | .unclosedGroup _ => "never closed"
  | .divisionByZero _ => "divisor is zero"
  | .undefinedPower .. => "no real result"
  | .missingOperand .. | .residual _ | .unusableRange .. => "here"

/-- The report of a failure. -/
def ofFailure (failure : Failure) : Report :=
  match failure.pos? with
  | some pos => located failure.message pos (label failure)
  | none => overall failure.message

/-- The report of standard input that is no text. -/
def unreadable : Report :=
  fatal "Unable to read stdin: stream did not contain valid UTF-8"

/-- A place in the formula as a line and a column. -/
def placeText (pos : Nat) : String :=
  s!"formula:1:{pos + 1}"

end Report

end Reckoner.CommandLine
