import Reckoner.Proofs.Clamping
import Reckoner.Proofs.CommandLine.Batch
import Reckoner.Proofs.Evaluation.Applications

/-!
# `Reckoner.Proofs.Indeterminate`: NaN with and without a failure

A calculation that fails is NaN for those who do not ask for the reason. The other way round there
can be NaN without a failure: an operator may make it out of infinities, and clamping lets it pass.
Nothing else does. The bounds are numbers when they enclose a range, so NaN is not brought in by
clamping, and what is evaluated comes to NaN only through such an operator.

* `Settings.exists_indeterminate`: a calculation with the value NaN.
* `CommandLine.Job.exists_of_answer_eq_nan`: a value that is written as NaN.
* `nan_only_from_failure_or_indeterminate`: calculations and the answers of the program.
-/

set_option autoImplicit false

namespace Reckoner

open Arithmetic CommandLine

/-! ### Calculations -/

/-- Whether the evaluation of a text applies an operator that makes NaN of its operands. -/
def IndeterminateText (text : String) : Prop :=
  ∃ f, Formula.ofText text = .ok f ∧ ∃ x ∈ f.applications, x.Indeterminate

namespace Settings

variable {s : Settings} {text : String}

/-- A value of a text is the value of its formula, whether the text was checked first or not. -/
theorem exists_formula_of_evaluate_eq_ok {v : Float} (h : s.evaluate text = .ok v) :
    ∃ f, Formula.ofText text = .ok f ∧ f.evaluate = .ok v := by
  obtain ⟨f, hf, hchecked⟩ := bind_eq_ok h
  refine ⟨f, Failure.eq_ok_of_ofFault hf, ?_⟩
  -- A check in front lets the text pass or ends the evaluation, and has no say in the value.
  split at hchecked
  · obtain ⟨u, -, hevaluate⟩ := bind_eq_ok hchecked
    exact hevaluate
  · exact hchecked

/-- Clamping makes no NaN. -/
theorem isNaN_of_clamp_eq_ok {x v : Float} (h : s.clamp x = .ok v) (hv : v.isNaN = true) :
    x.isNaN = true := by
  cases husable : s.usableRange with
  | false =>
      rw [clamp, husable] at h
      cases h
  | true =>
      have hrange := usableRange_iff.1 husable
      rw [clamp_eq_ok hrange] at h
      cases h
      rwa [isNaN_nearestInRange hrange] at hv

/-- Where the value NaN of a calculation has come from. -/
theorem exists_indeterminate {v : Float} (h : s.calculate text = .ok v) (hv : v.isNaN = true) :
    IndeterminateText text := by
  obtain ⟨x, hx, hclamp⟩ := bind_eq_ok h
  obtain ⟨f, hf, hevaluate⟩ := exists_formula_of_evaluate_eq_ok hx
  exact ⟨f, hf, Formula.exists_indeterminate hevaluate (isNaN_of_clamp_eq_ok hclamp hv)⟩

end Settings

/-! ### Answers -/

/-- The program writes NaN only for a calculation with that value. -/
theorem CommandLine.Job.exists_of_answer_eq_nan {job : Job} {text : String}
    (h : job.answer text = .line "NaN") :
    ∃ v, job.settings.calculate text = .ok v ∧ v.isNaN = true := by
  have hsays := Job.says_iff.2 h
  -- The line is any line here, so that it can be looked at for each thing an answer says.
  generalize hline : "NaN" = line at hsays
  cases hsays with
  | @value v hcheck hcalculate hone =>
      exact ⟨v, hcalculate, Decimal.positional_eq_nan_iff.1 hline.symm⟩
  | valid hcheck hvalid => exact absurd hline (by decide)

/-- **NaN is a failure or comes from an indeterminate operation.** A calculation that fails is NaN.
A calculation that is NaN fails, or its evaluation has applied an operator that makes NaN of two
numbers: it has taken an infinity from an infinity, multiplied one by zero or divided one by
another, or it has asked the library for a power that is NaN there. The same goes for a value that
is NaN, and for the program when it writes one. -/
theorem nan_only_from_failure_or_indeterminate (s : Settings) (text : String) :
    ((∃ e, s.calculate text = .error e) → (s.calculateOrNaN text).isNaN = true) ∧
      ((s.calculateOrNaN text).isNaN = true →
        (∃ e, s.calculate text = .error e) ∨ IndeterminateText text) ∧
      (∀ v, s.calculate text = .ok v → v.isNaN = true → IndeterminateText text) ∧
      ∀ job : Job, job.answer text = .line "NaN" → IndeterminateText text := by
  refine ⟨?_, ?_, fun v => Settings.exists_indeterminate, ?_⟩
  · rintro ⟨e, he⟩
    exact Settings.isNaN_calculateOrNaN_of_eq_error he
  · intro hnan
    cases hcalculate : s.calculate text with
    | error e => exact .inl ⟨e, rfl⟩
    | ok v =>
        rw [Settings.calculateOrNaN_of_eq_ok hcalculate] at hnan
        exact .inr (Settings.exists_indeterminate hcalculate hnan)
  · intro job hanswer
    obtain ⟨v, hcalculate, hv⟩ := Job.exists_of_answer_eq_nan hanswer
    exact Settings.exists_indeterminate hcalculate hv

/-- A division by zero, the difference of two infinities, and a product of zero and an infinity. -/
theorem nan_only_from_failure_or_indeterminate_infinities :
    let s : Settings := {}
    let job : Job := ⟨s, false, ["0*9^999"]⟩
    (∃ e, s.calculate "1/0" = .error e) ∧ (s.calculateOrNaN "1/0").isNaN = true ∧
      (s.calculateOrNaN "9^999-9^999").isNaN = true ∧
      ((∃ e, s.calculate "9^999-9^999" = .error e) ∨ IndeterminateText "9^999-9^999") ∧
      s.calculate "9^999-9^999" = .ok (0 / 0) ∧ IndeterminateText "9^999-9^999" ∧
      job.answer "0*9^999" = .line "NaN" ∧ IndeterminateText "0*9^999" := by
  intro s job
  have hdivision : s.calculate "1/0" = .error (.divisionByZero 1) := by decide +kernel
  have hnan : (s.calculateOrNaN "9^999-9^999").isNaN = true := by decide +kernel
  have hvalue : s.calculate "9^999-9^999" = .ok (0 / 0) := by decide +kernel
  have hanswer : job.answer "0*9^999" = .line "NaN" := by decide +kernel
  have hfailure := (nan_only_from_failure_or_indeterminate s "1/0").1 ⟨_, hdivision⟩
  obtain ⟨-, hcauses, hvalues, -⟩ := nan_only_from_failure_or_indeterminate s "9^999-9^999"
  obtain ⟨-, -, -, hanswers⟩ := nan_only_from_failure_or_indeterminate s "0*9^999"
  exact ⟨⟨_, hdivision⟩, hfailure, hnan, hcauses hnan, hvalue,
    hvalues _ hvalue (by decide +kernel), hanswer, hanswers job hanswer⟩

/-- The difference of two infinities is NaN, and no failure. -/
theorem calculate_difference_of_infinities :
    (({} : Settings).calculateOrNaN "9^999-9^999").isNaN = true ∧
      ¬ ∃ e, ({} : Settings).calculate "9^999-9^999" = .error e := by
  have hvalue : ({} : Settings).calculate "9^999-9^999" = .ok (0 / 0) := by decide +kernel
  refine ⟨by decide +kernel, ?_⟩
  rintro ⟨e, he⟩
  cases hvalue.symm.trans he

end Reckoner
