import Reckoner.Proofs.Arithmetic.Order
import Reckoner.Proofs.Calculation
import Reckoner.Proofs.Evaluation.Run

/-!
# `Reckoner.Proofs.Clamping`: clamping is a projection onto the range

The bounds of the settings enclose a range exactly when the lower one is at most the upper one, as
doubles are compared. Then clamping gives a double that is one of three, the value or a bound, and
its rank is the rank of the value brought between those of the bounds (`rank_nearestInRange`). What
clamping does to values follows from that equation and from the order of ranks. NaN has no rank, and
clamping leaves it alone. Without a range every calculation fails, in the clamping if not before.

* `Settings.evaluate_ne_unusableRange`: only clamping finds fault with the bounds.
* `Settings.usableRange_iff`: the bounds enclose a range when they are in order.
* `Settings.nearestInRange`, `Settings.clamp_eq_ok`: what clamping to a range gives.
* `Settings.rank_nearestInRange`: the rank of what clamping gives.
* `clamp_projects`: all of it, for a calculation from end to end.
-/

set_option autoImplicit false

namespace Reckoner

open Arithmetic

/-! ### Failures of the bounds -/

/-- Passing faults on as failures makes up no value. -/
theorem Failure.eq_ok_of_ofFault {α : Type} {x : Except Fault α} {a : α}
    (h : ofFault x = .ok a) : x = .ok a := by
  cases x with
  | ok b =>
      cases h
      rfl
  | error fault => cases h

/-- A failure that stands for a fault says that the text is malformed. -/
theorem Failure.exists_fault_of_ofFault {α : Type} {x : Except Fault α} {e : Failure}
    (h : ofFault x = .error e) : ∃ fault, e = .malformed fault := by
  cases x with
  | ok a => cases h
  | error fault =>
      cases h
      exact ⟨fault, rfl⟩

/-- No evaluation of a formula looks at the bounds. -/
theorem Formula.evaluate_ne_unusableRange (f : Formula) (lower upper : Float) :
    f.evaluate ≠ .error (.unusableRange lower upper) := by
  intro h
  -- An evaluation stops at a token or at the end, and neither has such a failure. An operator
  -- that is applied on the way fails for its arithmetic.
  rcases cases_of_evaluate_eq_error h with ⟨_, _, _, _, _, -, -, hstops⟩ | ⟨_, _, -, hends⟩
  · cases hstops with
    | settling hmem hfails => cases hfails
  · cases hends with
    | settling hmem hfails => cases hfails

namespace Settings

variable {s : Settings}

/-- What is done before clamping does not look at the bounds. -/
theorem evaluate_ne_unusableRange (s : Settings) (text : String) (lower upper : Float) :
    s.evaluate text ≠ .error (.unusableRange lower upper) := by
  intro h
  rcases bind_eq_error h with hempty | ⟨f, -, hchecked⟩
  · obtain ⟨fault, hfault⟩ := Failure.exists_fault_of_ofFault hempty
    cases hfault
  · -- With the check in front, and without it.
    split at hchecked
    · rcases bind_eq_error hchecked with hfault | ⟨_, -, hevaluate⟩
      · obtain ⟨fault, hfault⟩ := Failure.exists_fault_of_ofFault hfault
        cases hfault
      · exact f.evaluate_ne_unusableRange lower upper hevaluate
    · exact f.evaluate_ne_unusableRange lower upper hchecked

/-- A calculation fails for its bounds in the clamping, behind an evaluation with a value. -/
theorem calculate_of_not_usableRange (h : s.usableRange = false) (text : String) :
    ∃ e, s.calculate text = .error e ∧
      (e = .unusableRange s.lower s.upper ↔ ∃ v, s.evaluate text = .ok v) := by
  unfold calculate
  cases hevaluate : s.evaluate text with
  | error e =>
      refine ⟨e, rfl, ?_⟩
      have hne : e ≠ .unusableRange s.lower s.upper := by
        rintro rfl
        exact s.evaluate_ne_unusableRange text _ _ hevaluate
      simp [hne]
  | ok v =>
      refine ⟨.unusableRange s.lower s.upper, ?_, by simp⟩
      rw [ok_bind, clamp, h]
      rfl

/-! ### The range -/

/-- A range is unusable when a bound is NaN, or the upper bound lies below the lower one. -/
theorem usableRange_eq_false_iff :
    s.usableRange = false ↔ s.lower.isNaN = true ∨ s.upper.isNaN = true ∨ s.upper < s.lower := by
  rw [usableRange, Bool.not_eq_false', Bool.or_eq_true, Bool.or_eq_true, decide_eq_true_iff,
    or_assoc]

/-- The bounds enclose a range when they are in order. -/
theorem usableRange_iff : s.usableRange = true ↔ s.lower ≤ s.upper := by
  rw [← Bool.not_eq_false, usableRange_eq_false_iff, isNaN_iff_rank, isNaN_iff_rank, lt_iff_rank,
    le_iff_rank]
  -- NaN has no rank. Two numbers are in order or in reverse order.
  cases rank? (unpacked s.lower) with
  | none => simp
  | some l =>
      cases rank? (unpacked s.upper) with
      | none => simp
      | some u => simp

/-- The point of the range that is nearest to a value. -/
def nearestInRange (s : Settings) (value : Float) : Float :=
  if value < s.lower then s.lower else if s.upper < value then s.upper else value

/-- With usable bounds clamping gives a value, the nearest one in the range. -/
theorem clamp_eq_ok (h : s.lower ≤ s.upper) (value : Float) :
    s.clamp value = .ok (s.nearestInRange value) := by
  have husable : s.usableRange = true := usableRange_iff.2 h
  unfold clamp nearestInRange
  rw [husable]
  split
  · cases ‹_›
  · split
    · rfl
    · split
      · rfl
      · rfl

/-- NaN compares with nothing, so it is moved to neither bound. -/
theorem nearestInRange_of_isNaN {value : Float} (h : value.isNaN = true) :
    s.nearestInRange value = value := by
  rw [nearestInRange, if_neg (not_lt_of_isNaN (.inl h)), if_neg (not_lt_of_isNaN (.inr h))]

/-- Clamping brings the rank of a value between those of the bounds. -/
theorem rank_nearestInRange {l u : ℤ ×ₗ ℤ ×ₗ ℤ} (hl : rank? (unpacked s.lower) = some l)
    (hu : rank? (unpacked s.upper) = some u) (hlu : l ≤ u) (value : Float) :
    rank? (unpacked (s.nearestInRange value))
      = (rank? (unpacked value)).map fun r => max l (min u r) := by
  cases hr : rank? (unpacked value) with
  | none => rw [nearestInRange_of_isNaN (isNaN_iff_rank.2 hr), hr, Option.map_none]
  | some r =>
      unfold nearestInRange
      simp only [lt_iff_of_rank hr hl, lt_iff_of_rank hu hr, Option.map_some]
      -- Below the range, above it, or in it.
      rcases lt_or_ge r l with hbelow | hbelow
      · rw [if_pos hbelow, hl, max_eq_left ((min_le_right u r).trans hbelow.le)]
      · rw [if_neg hbelow.not_gt]
        rcases lt_or_ge u r with habove | habove
        · rw [if_pos habove, hu, min_eq_left habove.le, max_eq_right hlu]
        · rw [if_neg habove.not_gt, hr, min_eq_right habove, max_eq_right hbelow]

/-! ### Values of the range -/

section Range

variable {x y : Float}

/-- Ordered bounds have ranks in the order of the doubles, and the ranks are ordered as well. -/
theorem exists_ranks (h : s.lower ≤ s.upper) : ∃ l u, rank? (unpacked s.lower) = some l ∧
    rank? (unpacked s.upper) = some u ∧ l ≤ u := by
  obtain ⟨l, hl, u, hu, hlu⟩ := le_iff_rank.1 h
  exact ⟨l, u, hl, hu, hlu⟩

/-- A number is clamped to a number, and NaN to NaN. -/
theorem isNaN_nearestInRange (h : s.lower ≤ s.upper) (x : Float) :
    (s.nearestInRange x).isNaN = x.isNaN := by
  cases hx : x.isNaN with
  | true => rw [nearestInRange_of_isNaN hx, hx]
  | false =>
      obtain ⟨l, u, hl, hu, hlu⟩ := exists_ranks h
      obtain ⟨r, hr⟩ := isNaN_eq_false_iff_rank.1 hx
      rw [isNaN_eq_false_iff_rank, rank_nearestInRange hl hu hlu, hr]
      exact ⟨_, rfl⟩

/-- A number is clamped to a number of the range. -/
theorem nearestInRange_mem (h : s.lower ≤ s.upper) (hx : x.isNaN = false) :
    s.lower ≤ s.nearestInRange x ∧ s.nearestInRange x ≤ s.upper := by
  obtain ⟨l, u, hl, hu, hlu⟩ := exists_ranks h
  obtain ⟨r, hr⟩ := isNaN_eq_false_iff_rank.1 hx
  have hrank := rank_nearestInRange hl hu hlu x
  rw [hr] at hrank
  rw [le_iff_of_rank hl hrank, le_iff_of_rank hrank hu]
  exact ⟨le_max_left l _, max_le hlu (min_le_left u r)⟩

/-- A number of the range stays as it is. -/
theorem nearestInRange_of_mem (hlower : s.lower ≤ x) (hupper : x ≤ s.upper) :
    s.nearestInRange x = x := by
  obtain ⟨l, hl, r, hr, hlr⟩ := le_iff_rank.1 hlower
  obtain ⟨q, hq, u, hu, hru⟩ := le_iff_rank.1 hupper
  obtain rfl : r = q := Option.mem_unique hr hq
  rw [nearestInRange, if_neg, if_neg]
  · rw [lt_iff_of_rank hu hr]
    exact hru.not_gt
  · rw [lt_iff_of_rank hr hl]
    exact hlr.not_gt

/-- Moving a value into the range a second time changes nothing. -/
theorem nearestInRange_nearestInRange (h : s.lower ≤ s.upper) (x : Float) :
    s.nearestInRange (s.nearestInRange x) = s.nearestInRange x := by
  -- What is moved is in the range already, unless it is NaN.
  cases hx : x.isNaN with
  | true => rw [nearestInRange_of_isNaN hx, nearestInRange_of_isNaN hx]
  | false =>
      obtain ⟨hlower, hupper⟩ := nearestInRange_mem h hx
      exact nearestInRange_of_mem hlower hupper

/-- Moving into the range keeps the order of two values. -/
theorem nearestInRange_le (h : s.lower ≤ s.upper) (hxy : x ≤ y) :
    s.nearestInRange x ≤ s.nearestInRange y := by
  obtain ⟨l, u, hl, hu, hlu⟩ := exists_ranks h
  obtain ⟨r, hr, q, hq, hrq⟩ := le_iff_rank.1 hxy
  rw [le_iff_rank, rank_nearestInRange hl hu hlu, rank_nearestInRange hl hu hlu, hr, hq]
  exact ⟨_, rfl, _, rfl, max_le_max_left l (min_le_min_left u hrq)⟩

/-- Brought between two bounds, an element need not be brought between wider ones before. -/
theorem max_min_max_min {R : Type} [LinearOrder R] {a b l u : R} (ha : a ≤ l) (hb : u ≤ b) (r : R) :
    max l (min u (max a (min b r))) = max l (min u r) :=
  calc max l (min u (max a (min b r)))
      = min (max l u) (max l (max a (min b r))) := max_min_distrib_left l u _
    _ = min (max l u) (max l (min b r)) := by rw [← max_assoc, max_eq_left ha]
    _ = max l (min u (min b r)) := (max_min_distrib_left l u _).symm
    _ = max l (min u r) := by rw [← min_assoc, min_eq_left hb]

/-- Clamped to a wider range first, a number comes to the same, though not always to the same
zero. -/
theorem nearestInRange_wider {wide : Settings} (h : s.lower ≤ s.upper)
    (hlower : wide.lower ≤ s.lower) (hupper : s.upper ≤ wide.upper) (hx : x.isNaN = false) :
    s.nearestInRange (wide.nearestInRange x) == s.nearestInRange x := by
  obtain ⟨l, u, hl, hu, hlu⟩ := exists_ranks h
  obtain ⟨a, ha, l', hl', hal⟩ := le_iff_rank.1 hlower
  obtain ⟨u', hu', b, hb, hub⟩ := le_iff_rank.1 hupper
  -- The comparisons of the bounds give ranks of their own, but a double has one rank only.
  obtain rfl : l = l' := Option.mem_unique hl hl'
  obtain rfl : u = u' := Option.mem_unique hu hu'
  obtain ⟨r, hr⟩ := isNaN_eq_false_iff_rank.1 hx
  have hwide : a ≤ b := hal.trans (hlu.trans hub)
  rw [beq_iff_rank, rank_nearestInRange hl hu hlu, rank_nearestInRange hl hu hlu,
    rank_nearestInRange ha hb hwide, hr]
  exact ⟨_, rfl, _, rfl, max_min_max_min hal hub r⟩

end Range

/-- A calculation that comes to a number comes to one of the range. -/
theorem calculateOrNaN_mem (h : s.lower ≤ s.upper) {text : String}
    (hvalue : (s.calculateOrNaN text).isNaN = false) :
    s.lower ≤ s.calculateOrNaN text ∧ s.calculateOrNaN text ≤ s.upper := by
  cases hcalculate : s.calculate text with
  | error e => cases hvalue.symm.trans (isNaN_calculateOrNaN_of_eq_error hcalculate)
  | ok v =>
      rw [calculateOrNaN_of_eq_ok hcalculate] at hvalue ⊢
      obtain ⟨x, -, hx⟩ := bind_eq_ok hcalculate
      rw [clamp_eq_ok h] at hx
      cases hx
      rw [isNaN_nearestInRange h] at hvalue
      exact nearestInRange_mem h hvalue

end Settings

/-- **Clamping is a projection onto the range of the settings.** When one of the bounds is NaN or
the upper one is less than the lower one, every calculation fails, and its bounds are the reason
exactly when the evaluation had a value. Otherwise the bounds are in order, and every calculation
that comes to a number comes to one of the range. Then clamping always gives a value, which another
clamping leaves alone. It keeps the order of values, leaves the numbers of the range and NaN as they
are, and gives the same number whether or not a wider range comes first. NaN, which is not equal to
itself, stays NaN in both ways. -/
theorem clamp_projects (s : Settings) (text : String) :
    ((s.lower.isNaN = true ∨ s.upper.isNaN = true ∨ s.upper < s.lower) →
      ∃ e, s.calculate text = .error e ∧
        (e = .unusableRange s.lower s.upper ↔ ∃ v, s.evaluate text = .ok v)) ∧
    (¬ (s.lower.isNaN = true ∨ s.upper.isNaN = true ∨ s.upper < s.lower) →
      s.lower ≤ s.upper ∧
      ((s.calculateOrNaN text).isNaN = false →
        s.lower ≤ s.calculateOrNaN text ∧ s.calculateOrNaN text ≤ s.upper) ∧
      (∀ x, ∃ v, s.clamp x = .ok v ∧ s.clamp v = .ok v) ∧
      (∀ x y, x ≤ y → ∃ v w, s.clamp x = .ok v ∧ s.clamp y = .ok w ∧ v ≤ w) ∧
      (∀ x, s.lower ≤ x ∧ x ≤ s.upper ∨ x.isNaN = true → s.clamp x = .ok x) ∧
      ∀ wide : Settings, wide.lower ≤ s.lower → s.upper ≤ wide.upper →
        ∀ x, ∃ v w, (wide.clamp x >>= s.clamp) = .ok v ∧ s.clamp x = .ok w ∧
          (v == w ∨ x.isNaN = true ∧ v = x ∧ w = x)) := by
  rw [← Settings.usableRange_eq_false_iff]
  refine ⟨fun hfalse => Settings.calculate_of_not_usableRange hfalse text, fun htrue => ?_⟩
  have h : s.lower ≤ s.upper := Settings.usableRange_iff.1 (Bool.not_eq_false _ ▸ htrue)
  refine ⟨h, Settings.calculateOrNaN_mem h, ?_, ?_, ?_, ?_⟩
  · intro x
    refine ⟨s.nearestInRange x, Settings.clamp_eq_ok h x, ?_⟩
    rw [Settings.clamp_eq_ok h, Settings.nearestInRange_nearestInRange h]
  · intro x y hxy
    exact ⟨_, _, Settings.clamp_eq_ok h x, Settings.clamp_eq_ok h y,
      Settings.nearestInRange_le h hxy⟩
  · intro x hx
    rw [Settings.clamp_eq_ok h]
    rcases hx with ⟨hlower, hupper⟩ | hnan
    · rw [Settings.nearestInRange_of_mem hlower hupper]
    · rw [Settings.nearestInRange_of_isNaN hnan]
  · intro wide hlower hupper x
    have hwide : wide.lower ≤ wide.upper := le_of_le_of_le hlower (le_of_le_of_le h hupper)
    refine ⟨s.nearestInRange (wide.nearestInRange x), s.nearestInRange x, ?_,
      Settings.clamp_eq_ok h x, ?_⟩
    · rw [Settings.clamp_eq_ok hwide, ok_bind, Settings.clamp_eq_ok h]
    · cases hx : x.isNaN with
      | false => exact .inl (Settings.nearestInRange_wider h hlower hupper hx)
      | true =>
          refine .inr ⟨rfl, ?_, Settings.nearestInRange_of_isNaN hx⟩
          rw [Settings.nearestInRange_of_isNaN hx, Settings.nearestInRange_of_isNaN hx]

/-- A range that is the wrong way round, and one that is enclosed by all numbers. -/
theorem clamp_projects_defaults :
    let reversed : Settings := { lower := 1, upper := 0 }
    let s : Settings := {}
    (∃ e, reversed.calculate "2" = .error e ∧
      (e = .unusableRange 1 0 ↔ ∃ v, reversed.evaluate "2" = .ok v)) ∧
    s.lower ≤ s.calculateOrNaN "9^9" ∧ s.calculateOrNaN "9^9" ≤ s.upper ∧
    (∃ v w, s.clamp 2 = .ok v ∧ s.clamp 99999 = .ok w ∧ v ≤ w) ∧
    s.clamp 2 = .ok 2 ∧
    ∃ v w, (Settings.unclamped.clamp 99999 >>= s.clamp) = .ok v ∧ s.clamp 99999 = .ok w ∧
      (v == w ∨ (99999 : Float).isNaN = true ∧ v = 99999 ∧ w = 99999) := by
  intro reversed s
  obtain ⟨-, hcalculate, -, hmono, hinside, hwider⟩ :=
    (clamp_projects s "9^9").2 (by decide +kernel)
  obtain ⟨hlower, hupper⟩ := hcalculate (by decide +kernel)
  exact ⟨(clamp_projects reversed "2").1 (by decide +kernel), hlower, hupper,
    hmono 2 99999 (by decide +kernel), hinside 2 (by decide +kernel),
    hwider .unclamped (by decide +kernel) (by decide +kernel) 99999⟩

end Reckoner
