import Reckoner.Calculation
import Reckoner.CommandLine.Lines
import Reckoner.CommandLine.Report

/-!
# `Reckoner.CommandLine.Job`: what a run does with formulas

The program answers every formula once: with a line on the standard output, its
value or that it is valid, or with a report on the standard error. There is one
formula, put together from its parts, or each line of the standard input that is
not blank is one.

A run carries a flag from formula to formula, which says whether all of them have
succeeded so far. It starts up, and an answer that reports something takes it down
for good. At the end it decides on the exit code. A line that is no text ends the
run at once and without success, whatever the flag says.
-/

set_option autoImplicit false

namespace Reckoner.CommandLine

/-- What a run of the program is to do with formulas. -/
structure Job where
  /-- How formulas are calculated. -/
  settings : Settings
  /-- Whether formulas are only checked. -/
  checkOnly : Bool
  /-- The parts of the formula, if there is one. Without any, each line of the
  standard input is a formula. -/
  parts : List String
deriving Repr

/-- What the program says to one formula. -/
inductive Answer where
  /-- A line on the standard output. -/
  | line (text : String)
  /-- A report on the standard error. -/
  | report (report : Report)
deriving DecidableEq, Repr

namespace Answer

/-- Whether the formula that is answered so has succeeded. -/
def succeeded : Answer → Bool
  | line _ => true
  | report _ => false

/-- What an answer adds to the standard output. -/
def output : Answer → String
  | line text => text ++ "\n"
  | report _ => ""

/-- What an answer adds to the standard error. -/
def reports : Answer → List Report
  | line _ => []
  | report r => [r]

end Answer

/-- What a run leaves behind. How its two outputs are interleaved is left out. -/
structure Outcome where
  /-- The exit code. -/
  code : UInt32
  /-- What is written to the standard output. -/
  output : String
  /-- What is reported on the standard error. -/
  reports : List Report
deriving DecidableEq, Repr

/-- How far a run has come. -/
structure Progress where
  /-- Whether all formulas so far have succeeded. -/
  ok : Bool := true
  /-- What has been written to the standard output. -/
  output : String := ""
  /-- What has been reported on the standard error. -/
  reports : List Report := []
deriving DecidableEq, Repr

namespace Progress

/-- Gives the answer to one more formula. -/
def answer (p : Progress) (a : Answer) : Progress where
  ok := p.ok && a.succeeded
  output := p.output ++ a.output
  reports := p.reports ++ a.reports

/-- Ends a run with what its flag says. -/
def finish (p : Progress) : Outcome where
  code := if p.ok then 0 else 1
  output := p.output
  reports := p.reports

/-- Ends a run that cannot read on. -/
def abort (p : Progress) : Outcome where
  code := 1
  output := p.output
  reports := p.reports ++ [.unreadable]

end Progress

/-- What a run leaves behind that gives a single answer. -/
def Answer.outcome (a : Answer) : Outcome :=
  (Progress.answer {} a).finish

namespace Job

/-- The line that a formula is answered with, or the failure that is reported. -/
def result (job : Job) (formula : String) : Except Failure String :=
  if job.checkOnly then
    (Failure.ofFault (checkText job.settings.maxDigits formula)).map fun _ => "valid"
  else (job.settings.calculate formula).map Decimal.positional

/-- The answer to a formula. -/
def answer (job : Job) (formula : String) : Answer :=
  match job.result formula with
  | .ok text => .line text
  | .error failure => .report (.ofFailure failure)

/-- Goes on with the lines of the standard input that are not read yet. -/
def runLines (job : Job) (p : Progress) : List (Option String) → Outcome
  | [] => p.finish
  | none :: _ => p.abort
  | some text :: texts =>
    if Text.isBlank text then job.runLines p texts
    else job.runLines (p.answer (job.answer text)) texts

/-- What a run leaves behind, given the bytes of its standard input. They are looked
at only when there is no part of a formula. -/
def run (job : Job) (input : List UInt8) : Outcome :=
  if job.parts.isEmpty then job.runLines {} (Lines.texts input)
  else (job.answer (" ".intercalate job.parts)).outcome

end Job

end Reckoner.CommandLine
