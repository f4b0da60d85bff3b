import Reckoner.Evaluation.Stacks
import Reckoner.Settings
import Reckoner.Validity

/-!
# `Reckoner.Calculation`: from a text to a number

A calculation takes a text for a formula, checks it unless the settings say not
to, evaluates it and clamps the value. `Settings.calculate` says why there is no
result; `Settings.calculateOrNaN` gives NaN instead.
-/

set_option autoImplicit false

namespace Reckoner

/-- A fault of a text is a failure of its calculation. -/
def Failure.ofFault {α : Type} : Except Fault α → Except Failure α :=
  Except.mapError malformed

namespace Settings

/-- The value of a text before it is clamped. -/
def evaluate (s : Settings) (text : String) : Except Failure Float := do
  let formula ← Failure.ofFault (Formula.ofText text)
  if !s.unchecked then
    Failure.ofFault (formula.check s.maxDigits)
  formula.evaluate

/-- The value of a text, or the first reason that there is none. -/
def calculate (s : Settings) (text : String) : Except Failure Float := do
  s.clamp (← s.evaluate text)

/-- The value of a text, or NaN when there is none. -/
def calculateOrNaN (s : Settings) (text : String) : Float :=
  match s.calculate text with
  | .ok value => value
  | .error _ => 0 / 0

end Settings

end Reckoner
