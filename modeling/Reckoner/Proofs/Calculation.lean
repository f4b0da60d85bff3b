import Reckoner.Calculation
import Reckoner.Proofs.Agreement

/-!
# `Reckoner.Proofs.Calculation`: what a checked calculation comes to

`Settings.calculate` checks a text, evaluates it and clamps the value. The check comes
first, and what it lets through agrees with the evaluation (`Formula.agrees_check_evaluate`).
So a failure behind the check is one of the arithmetic, or the bounds to clamp to enclose
nothing.

* `Settings.calculate_of_checkText_eq_error`: a fault of the check is the failure.
* `Settings.cases_calculate`: what there can be when the check finds no fault.
* `calculate_of_checked`: both, for all texts.
-/

set_option autoImplicit false

namespace Reckoner

namespace Settings

variable {s : Settings} {text : String}

/-- A fault that the check finds is the failure of a checked calculation. -/
theorem calculate_of_checkText_eq_error {fault : Fault} (hs : s.unchecked = false)
    (h : checkText s.maxDigits text = .error fault) :
    s.calculate text = .error (.malformed fault) := by
  simp only [calculate, evaluate, hs]
  rcases bind_eq_error h with hempty | ⟨f, hf, hcheck⟩
  · rw [hempty]
    rfl
  · rw [hf]
    show (do Failure.ofFault (f.check s.maxDigits); f.evaluate) >>= s.clamp = _
    rw [hcheck]
    rfl

/-- When the check finds no fault, a checked calculation goes on to the value. -/
theorem exists_calculate_eq {u : Unit} (hs : s.unchecked = false)
    (h : checkText s.maxDigits text = .ok u) :
    ∃ f, Formula.ofText text = .ok f ∧ f.check s.maxDigits = .ok u ∧
      s.calculate text = (f.evaluate >>= s.clamp) := by
  obtain ⟨f, hf, hcheck⟩ := bind_eq_ok h
  refine ⟨f, hf, hcheck, ?_⟩
  simp only [calculate, evaluate, hs, hf]
  show (do Failure.ofFault (f.check s.maxDigits); f.evaluate) >>= s.clamp = _
  rw [hcheck]
  rfl

/-- A formula that is not checked is evaluated, and its value is clamped. -/
theorem calculate_of_unchecked (hs : s.unchecked = true) (f : Formula) :
    s.calculate f.text = (f.evaluate >>= s.clamp) := by
  have hf : Formula.ofText f.text = .ok f := Formula.ofText_eq_ok_iff.2 rfl
  rw [calculate, evaluate, hf, hs]
  rfl

/-- A value is clamped unless the bounds enclose nothing. -/
theorem cases_clamp (s : Settings) (value : Float) :
    (∃ v, s.clamp value = .ok v) ∨
      s.clamp value = .error (.unusableRange s.lower s.upper) := by
  unfold clamp
  split
  · exact .inr rfl
  · split
    · exact .inl ⟨_, rfl⟩
    · split
      · exact .inl ⟨_, rfl⟩
      · exact .inl ⟨_, rfl⟩

/-- A calculation that gives a value gives the same value where failures are NaN. -/
theorem calculateOrNaN_of_eq_ok {v : Float} (h : s.calculate text = .ok v) :
    s.calculateOrNaN text = v := by
  rw [calculateOrNaN, h]

/-- A calculation that fails gives NaN there. -/
theorem isNaN_calculateOrNaN_of_eq_error {e : Failure} (h : s.calculate text = .error e) :
    (s.calculateOrNaN text).isNaN = true := by
  have hnan : (0 / 0 : Float).isNaN = true := by decide +kernel
  rw [calculateOrNaN, h]
  exact hnan

/-- Behind a check without a fault, only the arithmetic or the range can fail. -/
theorem cases_calculate (hs : s.unchecked = false)
    (h : checkText s.maxDigits text = .ok ()) :
    (∃ v, s.calculate text = .ok v) ∨
      ∃ e, s.calculate text = .error e ∧
        (e.isArithmetic = true ∨ e = .unusableRange s.lower s.upper) := by
  obtain ⟨f, -, hcheck, hcalculate⟩ := exists_calculate_eq hs h
  have hagrees := f.agrees_check_evaluate s.maxDigits
  rw [hcheck] at hagrees
  rw [hcalculate]
  rcases hagrees with ⟨e, he, harith⟩ | ⟨v, hv⟩
  · rw [he]
    exact .inr ⟨e, rfl, .inl harith⟩
  · rw [hv, ok_bind]
    rcases s.cases_clamp v with hclamped | hrange
    · exact .inl hclamped
    · exact .inr ⟨_, hrange, .inr rfl⟩

end Settings

/-- **A check leaves only the arithmetic to fail.** A checked calculation says that a text is
malformed exactly when the check does, with the same fault. When the check says nothing, the
calculation has a value, or its arithmetic or its range fails. -/
theorem calculate_of_checked (s : Settings) (hs : s.unchecked = false) (text : String) :
    (∀ fault, s.calculate text = .error (.malformed fault) ↔
        checkText s.maxDigits text = .error fault) ∧
      (checkText s.maxDigits text = .ok () →
        (∃ v, s.calculate text = .ok v) ∨
          ∃ e, s.calculate text = .error e ∧
            (e.isArithmetic = true ∨ e = .unusableRange s.lower s.upper)) := by
  refine ⟨fun fault => ⟨?_, Settings.calculate_of_checkText_eq_error hs⟩,
    Settings.cases_calculate hs⟩
  intro hmalformed
  cases hcheck : checkText s.maxDigits text with
  | error other =>
      have hother := Settings.calculate_of_checkText_eq_error hs hcheck
      cases hmalformed.symm.trans hother
      rfl
  | ok u =>
      -- A malformed text is no matter of the arithmetic or of the range.
      rcases Settings.cases_calculate hs hcheck with ⟨v, hv⟩ | ⟨e, he, hcause⟩
      · cases hmalformed.symm.trans hv
      · cases hmalformed.symm.trans he
        rcases hcause with harith | hrange
        · cases harith
        · cases hrange

/-- A formula that passes the check and divides by zero. -/
theorem calculate_of_checked_division :
    ({} : Settings).unchecked = false ∧ checkText 8 "-2 ^2*(8/ 0)" = .ok () ∧
      ((∃ v, ({} : Settings).calculate "-2 ^2*(8/ 0)" = .ok v) ∨
        ∃ e, ({} : Settings).calculate "-2 ^2*(8/ 0)" = .error e ∧
          (e.isArithmetic = true ∨ e = .unusableRange (-32768) 32767)) := by
  have hchecked : checkText 8 "-2 ^2*(8/ 0)" = .ok () := by decide +kernel
  exact ⟨rfl, hchecked, (calculate_of_checked {} rfl "-2 ^2*(8/ 0)").2 hchecked⟩

end Reckoner
