import Reckoner.CommandLine.Job
import Reckoner.Decimal.Reading

/-!
# `Reckoner.CommandLine.Run`: what the arguments of a run ask for

The arguments ask for a job on formulas, or for a text that the program prints of
itself. `Request.ofArguments` reads them, `Request.run` does what they ask for. They
are a layer around the jobs, which know nothing of arguments.

Options stand in front of the formula. The first argument that is no option
starts the formula, and from there on every argument is a part of it, whatever it
looks like, so that a formula may be left unquoted and may start with a `-`. An
argument `--` in front of the formula says that no more options follow.

An option that takes a value takes the text behind its `=`, or the next argument,
whatever that looks like. The arguments are read from left to right, and the
first that cannot be read refuses them all; that options exclude each other is
found when all have been read.
-/

set_option autoImplicit false

namespace Reckoner.CommandLine

/-- An option without a value. -/
inductive Switch where
  /-- Results are not clamped. -/
  | unclamped
  /-- Formulas are evaluated unchecked. -/
  | skipValidation
  /-- Formulas are checked and not evaluated. -/
  | check
  /-- Accepted without an effect on the answers. -/
  | verbose
deriving DecidableEq, Repr

/-- An option with a value. -/
inductive Choice where
  /-- The lower bound of the results. -/
  | min
  /-- The upper bound of the results. -/
  | max
  /-- How many digits a number may have. -/
  | maxDigits
deriving DecidableEq, Repr

/-- What a single argument in front of the formula is. -/
inductive Argument where
  /-- Switches, and behind them a notice that ends the reading. -/
  | switches (switches : List Switch) (notice : Option String)
  /-- An option with a value, which may stand in the same argument. -/
  | choice (choice : Choice) (value : Option String)
  /-- A value behind an option that takes none. -/
  | overfull (name : String)
  /-- The end of the options. -/
  | separator
  /-- The first part of the formula. -/
  | part
deriving DecidableEq, Repr

/-- Why arguments are refused. -/
inductive Refusal where
  /-- There is no value for an option that takes one. -/
  | missingValue (choice : Choice)
  /-- The value of an option is none that it takes. -/
  | badValue (choice : Choice) (value : String)
  /-- A value stands behind an option that takes none. -/
  | needlessValue (name : String)
  /-- An option without a value stands there twice. -/
  | repeatedSwitch (switch : Switch)
  /-- An option with a value stands there twice. -/
  | repeatedChoice (choice : Choice)
  /-- Results cannot be left unclamped and be given a bound. -/
  | boundsWithoutClamping
deriving DecidableEq, Repr

namespace Switch

/-- The long name of a switch. -/
def name : Switch → String
  | unclamped => "unclamped"
  | skipValidation => "skip-validation"
  | check => "check"
  | verbose => "verbose"

end Switch

namespace Choice

/-- The long name of an option with a value. -/
def name : Choice → String
  | min => "min"
  | max => "max"
  | maxDigits => "max-digits"

end Choice

namespace Refusal

/-- What a user reads about refused arguments. -/
def message : Refusal → String
  | missingValue choice => s!"--{choice.name} needs a value"
  | badValue choice value => s!"--{choice.name} does not take the value {value}"
  | needlessValue name => s!"--{name} takes no value"
  | repeatedSwitch switch => s!"--{switch.name} cannot be used twice"
  | repeatedChoice choice => s!"--{choice.name} cannot be used twice"
  | boundsWithoutClamping => "--unclamped cannot be used with --min or --max"

end Refusal

/-- What the arguments ask for. -/
inductive Request where
  /-- To print a text of the program. -/
  | notice (text : String)
  /-- To work on formulas. -/
  | job (job : Job)
deriving Repr

/-- The options read so far. -/
structure Options where
  /-- The switches that were there. -/
  switches : List Switch := []
  /-- The lower bound, if there was one. -/
  min : Option Float := none
  /-- The upper bound, if there was one. -/
  max : Option Float := none
  /-- The limit of digits, if there was one. -/
  maxDigits : Option UInt8 := none
deriving Repr

namespace Options

/-- Takes in a switch. -/
def addSwitch (o : Options) (switch : Switch) : Except Refusal Options :=
  if switch ∈ o.switches then .error (.repeatedSwitch switch)
  else .ok { o with switches := switch :: o.switches }

/-- Reads a limit of digits, a whole number from 0 to 255. -/
def readLimit? (text : String) : Option UInt8 := do
  let n ← Decimal.readInt? text.toList
  if 0 ≤ n && n ≤ 255 then some n.toNat.toUInt8 else none

/-- What is known of an option after the text of a value that reads as `read`. A
value that does not read speaks before a repetition. -/
def fill {α : Type} (choice : Choice) (text : String) (known read : Option α) :
    Except Refusal (Option α) :=
  match read with
  | none => .error (.badValue choice text)
  | some x => if known.isSome then .error (.repeatedChoice choice) else .ok (some x)

/-- Takes in an option with the text of its value. -/
def addChoice (o : Options) (choice : Choice) (text : String) : Except Refusal Options :=
  match choice with
  | .min => do return { o with min := ← fill choice text o.min (Decimal.read? text) }
  | .max => do return { o with max := ← fill choice text o.max (Decimal.read? text) }
  | .maxDigits => do
    return { o with maxDigits := ← fill choice text o.maxDigits (readLimit? text) }

/-- The settings that the options choose. -/
def settings (o : Options) : Settings :=
  let range : Settings :=
    if .unclamped ∈ o.switches then .unclamped
    else
      { lower := o.min.getD ({} : Settings).lower
        upper := o.max.getD ({} : Settings).upper }
  { range with
    unchecked := .skipValidation ∈ o.switches
    maxDigits := o.maxDigits.getD range.maxDigits }

/-- Ends the options in front of the parts of a formula. -/
def finish (o : Options) (parts : List String) : Except Refusal Request :=
  if .unclamped ∈ o.switches ∧ (o.min.isSome || o.max.isSome) then .error .boundsWithoutClamping
  else .ok (.job ⟨o.settings, .check ∈ o.switches, parts⟩)

end Options

/-- The name and version that the program shows. -/
def versionText : String := "formula-calc 0.1.0\n"

/-- How the program is used. -/
def helpText : String :=
  "Calculates formulas made of digits, + - * / ^, parentheses and spaces.\n\n" ++
  "Usage: formula-calc [OPTIONS] [FORMULA]...\n\n" ++
  "Without a formula, every line of the standard input is one.\n\n" ++
  "Options:\n" ++
  "  --min F            Lower bound to clamp results to (-32768)\n" ++
  "  --max F            Upper bound to clamp results to (32767)\n" ++
  "  --unclamped        Do not clamp results\n" ++
  "  --skip-validation  Evaluate without validating first\n" ++
  "  --max-digits N     Maximum number of digits in a number (8)\n" ++
  "  --check            Only check whether formulas are valid\n" ++
  "  -v, --verbose      No effect on the answers\n" ++
  "  -h, --help         Show this help\n" ++
  "  -V, --version      Show the version\n"

namespace Argument

/-- The switch of a long name. -/
def switch? (name : String) : Option Switch :=
  [.unclamped, .skipValidation, .check, .verbose].find? (·.name == name)

/-- The option with a value of a long name. -/
def choice? (name : String) : Option Choice :=
  [.min, .max, .maxDigits].find? (·.name == name)

/-- The notice of a long name. -/
def notice? : String → Option String
  | "version" => some versionText
  | "help" => some helpText
  | _ => none

/-- What `--name` or `--name=value` is. -/
def ofLong (name : String) (value : Option String) : Argument :=
  match choice? name with
  | some c => choice c value
  | none =>
    match (switch? name).toList, notice? name with
    | [], none => part
    | known, asked => if value.isSome then overfull name else switches known asked

/-- What the letters behind a single `-` are. They are options only if all of them
are known. -/
def ofLetters (letters : List Char) : Argument :=
  if letters.isEmpty || !letters.all (· ∈ ['v', 'V', 'h']) then part
  else
    let silent := (letters.takeWhile (· == 'v')).map fun _ => Switch.verbose
    match letters.dropWhile (· == 'v') with
    | [] => switches silent none
    | c :: _ => switches silent (some (if c = 'V' then versionText else helpText))

/-- What an argument in front of the formula is. -/
def ofText (text : String) : Argument :=
  match text.toList with
  | ['-', '-'] => .separator
  | '-' :: '-' :: rest =>
    let name := rest.takeWhile (· ≠ '=')
    match rest.dropWhile (· ≠ '=') with
    | [] => ofLong (String.ofList name) none
    | _ :: value => ofLong (String.ofList name) (some (String.ofList value))
  | '-' :: letters => ofLetters letters
  | _ => .part

end Argument

/-- Reads the arguments behind the options `o`. -/
def readArguments (o : Options) : List String → Except Refusal Request
  | [] => o.finish []
  | text :: texts =>
    match Argument.ofText text with
    | .switches known none => do readArguments (← known.foldlM Options.addSwitch o) texts
    | .switches known (some notice) => do
      let _ ← known.foldlM Options.addSwitch o
      return .notice notice
    | .choice c (some value) => do readArguments (← o.addChoice c value) texts
    | .choice c none =>
      match texts with
      | [] => .error (.missingValue c)
      | value :: texts => do readArguments (← o.addChoice c value) texts
    | .overfull name => .error (.needlessValue name)
    | .separator => o.finish texts
    | .part => o.finish (text :: texts)

/-- What the arguments of a run ask for, or why they are refused. -/
def Request.ofArguments (arguments : List String) : Except Refusal Request :=
  readArguments {} arguments

/-- What a run leaves behind that is asked for something, with the bytes of its
standard input. -/
def Request.run (input : List UInt8) : Request → Outcome
  | .notice text => ⟨0, text, []⟩
  | .job j => j.run input

end Reckoner.CommandLine
