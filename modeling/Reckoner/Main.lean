import Reckoner.CommandLine.Run

/-!
# `Reckoner.Main`: the program

Hands the arguments and the standard input to `Request.run` and writes down what
comes of it. All that is decided here is the prompt. The standard input is read to
its end before anything is answered, so at a terminal the answers come together.
-/

set_option autoImplicit false

namespace Reckoner.CommandLine

/-- What a user is asked at a terminal who has given no formula. -/
def prompt : String := "Enter formula: "

/-- The bytes of a stream up to its end, behind `bytes`. -/
partial def readBytes (stream : IO.FS.Stream) (bytes : ByteArray) : IO ByteArray := do
  let chunk ← stream.read 65536
  if chunk.isEmpty then return bytes else readBytes stream (bytes ++ chunk)

/-- The standard input, as far as a request asks for it. A terminal gets a prompt
first; that it cannot be shown at once is no reason to stop. -/
def Request.readInput : Request → IO ByteArray
  | .job ⟨_, _, []⟩ => do
    let input ← IO.getStdin
    if ← input.isTty then
      IO.print prompt
      try (← IO.getStdout).flush catch _ => pure ()
    readBytes input ByteArray.empty
  | _ => return ByteArray.empty

/-- Writes a report to the standard error. -/
def Report.write : Report → IO Unit
  | .overall message => IO.eprintln s!"Error: {message}"
  | .located message pos label => IO.eprintln s!"Error: {message}\n  at {placeText pos}: {label}"
  | .fatal message => IO.eprintln message

/-- Runs the program on its arguments. -/
def runProgram (arguments : List String) : IO UInt32 := do
  match Request.ofArguments arguments with
  | .error refusal =>
    IO.eprintln s!"Error: {refusal.message}"
    return 2
  | .ok request =>
    let input ← request.readInput
    let outcome := request.run input.toList
    IO.print outcome.output
    outcome.reports.forM Report.write
    return outcome.code

end Reckoner.CommandLine

/-- Runs the program. -/
def main (arguments : List String) : IO UInt32 :=
  Reckoner.CommandLine.runProgram arguments
