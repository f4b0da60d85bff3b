import Reckoner.Proofs.Check.Completion
import Reckoner.Proofs.Evaluation.Characters

/-!
# `Reckoner.Proofs.Check.DigitLimit`: what the limit on digits decides

A check has a limit on the digits of a number. Nothing else of a check hangs on it: a mark that
is no digit is read in the same way under any limit, and a digit under a smaller and a larger
one unless its number has become too long for the smaller (`Check.cases_read_of_le`). So two checks of
one text go together to the end, or the one with the smaller limit stops at a number that is too
long.

When it does is said of the text. `digitRuns` cuts a text, spacing left out, at all that is no
digit. A check has read a number to its end where it has read a run, and what it counts is the part of
the run that is behind it (`RunsWithin`).

* `Check.runsWithin_of_foldlM_eq_ok`: what a check takes in keeps its limit.
* `Check.not_runsWithin_of_foldlM_eq_error`: where a number is too long, a run is.
* `checkText_of_limit_le`: two limits on one text.
-/

set_option autoImplicit false

namespace Reckoner

/-! ### Runs of digits -/

/-- The runs of digits in characters: what stands between those that are no digits. Where two of
these stand side by side, the run between them is empty. -/
def runsIn (cs : List Char) : List (List Char) :=
  (cs.filter (· ≠ ' ')).splitOnP (!·.isDigit)

/-- The runs of digits in a text. Spacing does not end a run. -/
def digitRuns (text : String) : List (List Char) :=
  runsIn text.toList

/-- Spacing is left out before the runs are looked at, so it does not end one. -/
theorem runsIn_space (cs : List Char) : runsIn (' ' :: cs) = runsIn cs := rfl

/-- A digit comes to the front of the first run. -/
theorem runsIn_digit {c : Char} (h : c.isDigit = true) (cs : List Char) :
    runsIn (c :: cs) = (runsIn cs).modifyHead (c :: ·) := by
  have hspace : c ≠ ' ' := by
    rintro rfl
    cases h
  simp [runsIn, hspace, h, List.splitOnP_cons_eq_if_modifyHead]

/-- Any other character leaves an empty run in front of the runs behind it. -/
theorem runsIn_of_not_digit {c : Char} (h : c.isDigit = false) (hspace : c ≠ ' ')
    (cs : List Char) : runsIn (c :: cs) = [] :: runsIn cs := by
  simp [runsIn, hspace, h, List.splitOnP_cons_eq_if_modifyHead]

/-- Whether runs keep to a limit when the first of them goes on a run of which `already` digits
are behind. -/
def RunsWithin (limit already : Nat) : List (List Char) → Prop
  | [] => True
  | run :: runs => already + run.length ≤ limit ∧ ∀ other ∈ runs, other.length ≤ limit

/-- What is behind keeps to the limit as well. -/
theorem le_of_runsWithin_runsIn {limit already : Nat} {cs : List Char}
    (h : RunsWithin limit already (runsIn cs)) : already ≤ limit := by
  cases hruns : runsIn cs with
  | nil => exact absurd hruns (List.splitOnP_ne_nil _ _)
  | cons run runs =>
      rw [hruns] at h
      exact Nat.le_of_add_right_le h.1

/-- With nothing in front, the runs are within the limit when each of them is. -/
theorem runsWithin_zero_iff {limit : Nat} {runs : List (List Char)} :
    RunsWithin limit 0 runs ↔ ∀ run ∈ runs, run.length ≤ limit := by
  cases runs with
  | nil => simp [RunsWithin]
  | cons run runs => simp [RunsWithin]

/-- A digit in front of the first run counts like one that has been read already. -/
theorem runsWithin_modifyHead_iff {limit already : Nat} {c : Char} {runs : List (List Char)} :
    RunsWithin limit already (runs.modifyHead (c :: ·)) ↔ RunsWithin limit (already + 1) runs := by
  cases runs with
  | nil => simp [RunsWithin]
  | cons run runs =>
      simp only [List.modifyHead_cons, RunsWithin, List.length_cons]
      rw [show already + (run.length + 1) = already + 1 + run.length by omega]

/-- An empty run in front ends what has been read already. -/
theorem runsWithin_nil_cons_iff {limit already : Nat} {runs : List (List Char)} :
    RunsWithin limit already ([] :: runs) ↔ already ≤ limit ∧ RunsWithin limit 0 runs := by
  rw [runsWithin_zero_iff]
  rfl

/-! ### One mark -/

namespace Check

variable {limit limit' : UInt8} {k k' : Check} {x : Located Mark}

/-- Under two limits a mark is read in the same way, unless it is a digit too much for the
smaller one. -/
theorem cases_read_of_le (h : limit ≤ limit') (k : Check) (x : Located Mark) :
    k.read limit x = k.read limit' x ∨ ∃ pos, k.read limit x = .error (.numberTooLong limit pos) := by
  have hle : limit.toNat ≤ limit'.toNat := UInt8.le_iff_toNat_le.1 h
  obtain ⟨pos, m⟩ := x
  cases m with
  | foreign c => exact .inl rfl
  | symbol s =>
      cases s with
      | operator op => exact .inl rfl
      | opening => exact .inl rfl
      | closing => exact .inl rfl
      | digit d =>
          rw [read_digit, read_digit, digit, digit]
          cases hclosing : k.last.any (·.val.isClosing) with
          | true => exact .inl rfl
          | false =>
              by_cases hlong : limit.toNat < k.digits + 1
              · exact .inr ⟨pos, if_pos hlong⟩
              · -- What is short enough for the smaller limit is so for the larger one.
                have hlong' : ¬ limit'.toNat < k.digits + 1 := by omega
                left
                simp [hlong, hlong']

/-- Two checks that are at the same point go together to the end of the marks, or the one with
the smaller limit stops at a number. -/
theorem cases_foldlM_read_of_le (h : limit ≤ limit') (marks : List (Located Mark)) (k : Check) :
    marks.foldlM (read limit) k = marks.foldlM (read limit') k ∨
      ∃ pos, marks.foldlM (read limit) k = .error (.numberTooLong limit pos) := by
  induction marks generalizing k with
  | nil => exact .inl rfl
  | cons x marks ih =>
      rw [List.foldlM_cons, List.foldlM_cons]
      rcases cases_read_of_le h k x with hsame | ⟨pos, hlong⟩
      · rw [← hsame]
        cases hread : k.read limit x with
        | error fault => exact .inl rfl
        | ok k' =>
            rw [ok_bind, ok_bind]
            exact ih k'
      · rw [hlong]
        exact .inr ⟨pos, rfl⟩

/-! ### What a check counts -/

/-- A digit that is taken in is counted, and the limit allows for it. Anything else that is taken
in ends the number. -/
theorem digits_of_read (h : k.read limit x = .ok k') :
    if x.val.isDigit then k'.digits = k.digits + 1 ∧ k.digits + 1 ≤ limit.toNat
    else k'.digits = 0 := by
  obtain ⟨pos, m⟩ := x
  cases m with
  | foreign c => cases h
  | symbol s =>
      cases s with
      | digit d =>
          obtain ⟨-, hroom, rfl⟩ := read_digit_eq_ok_iff.1 h
          exact ⟨rfl, hroom⟩
      | operator op =>
          obtain ⟨-, rfl⟩ := read_operator_eq_ok_iff.1 h
          rfl
      | opening =>
          obtain ⟨-, rfl⟩ := read_opening_eq_ok_iff.1 h
          rfl
      | closing =>
          obtain ⟨-, opened, outer, -, rfl⟩ := read_closing_eq_ok_iff.1 h
          rfl

/-- Where a number is too long, it is a digit that makes it so. -/
theorem lt_of_read_eq_numberTooLong {most : UInt8} {pos : Nat}
    (h : k.read limit x = .error (.numberTooLong most pos)) :
    x.val.isDigit = true ∧ limit.toNat < k.digits + 1 := by
  cases refuses_of_read_eq_error h with
  | numberTooLong pos d hlong => exact ⟨rfl, hlong⟩

/-! ### A whole text -/

/-- A character that is taken in is counted as it counts in the runs of the text. -/
theorem runsWithin_cons_iff_of_read {c : Char} {start : Nat} (hspace : c ≠ ' ')
    (hk : k.digits ≤ limit.toNat) (h : k.read limit ⟨start, .ofChar c⟩ = .ok k') (cs : List Char) :
    k'.digits ≤ limit.toNat ∧ (RunsWithin limit.toNat k.digits (runsIn (c :: cs)) ↔
      RunsWithin limit.toNat k'.digits (runsIn cs)) := by
  have hdigits := digits_of_read h
  rw [Mark.isDigit_ofChar] at hdigits
  cases hdigit : c.isDigit with
  | true =>
      rw [hdigit, if_pos rfl] at hdigits
      rw [runsIn_digit hdigit, runsWithin_modifyHead_iff, hdigits.1]
      exact ⟨hdigits.2, Iff.rfl⟩
  | false =>
      rw [hdigit, if_neg Bool.false_ne_true] at hdigits
      rw [runsIn_of_not_digit hdigit hspace, runsWithin_nil_cons_iff, hdigits]
      exact ⟨Nat.zero_le _, and_iff_right hk⟩

/-- What a check takes in keeps its limit. -/
theorem runsWithin_of_foldlM_eq_ok (cs : List Char) :
    ∀ {start : Nat} {k : Check}, k.digits ≤ limit.toNat →
      (marksFrom start cs).foldlM (read limit) k = .ok k' →
        RunsWithin limit.toNat k.digits (runsIn cs) := by
  -- On the characters and not on the marks, since the runs are cut out of the characters. What
  -- carries the induction is that the digits counted so far are within the limit.
  induction cs with
  | nil =>
      intro start k hk _
      exact runsWithin_nil_cons_iff.2 ⟨hk, trivial⟩
  | cons c cs ih =>
      intro start k hk h
      by_cases hspace : c = ' '
      · subst hspace
        rw [runsIn_space]
        exact ih hk h
      · rw [marksFrom_cons hspace] at h
        obtain ⟨next, hread, hrest⟩ := exists_of_foldlM_cons_eq_ok h
        obtain ⟨hnext, hruns⟩ := runsWithin_cons_iff_of_read hspace hk hread cs
        exact hruns.2 (ih hnext hrest)

/-- Where a number is too long for a check, a run of digits is. -/
theorem not_runsWithin_of_foldlM_eq_error {most : UInt8} {pos : Nat} (cs : List Char) :
    ∀ {start : Nat} {k : Check}, k.digits ≤ limit.toNat →
      (marksFrom start cs).foldlM (read limit) k = .error (.numberTooLong most pos) →
        ¬ RunsWithin limit.toNat k.digits (runsIn cs) := by
  induction cs with
  | nil =>
      intro start k _ h
      cases h
  | cons c cs ih =>
      intro start k hk h
      by_cases hspace : c = ' '
      · subst hspace
        rw [runsIn_space]
        exact ih hk h
      · rw [marksFrom_cons hspace, List.foldlM_cons] at h
        -- The number is too long at this character, or further behind.
        rcases bind_eq_error h with hread | ⟨next, hread, hrest⟩
        · obtain ⟨hdigit, hlong⟩ := lt_of_read_eq_numberTooLong hread
          rw [Mark.isDigit_ofChar] at hdigit
          rw [runsIn_digit hdigit, runsWithin_modifyHead_iff]
          intro hwithin
          have hle := le_of_runsWithin_runsIn hwithin
          omega
        · obtain ⟨hnext, hruns⟩ := runsWithin_cons_iff_of_read hspace hk hread cs
          rw [hruns]
          exact ih hnext hrest

end Check

/-- **The digit limit acts through the runs of digits only.** A text that is accepted under a
limit is one that a larger limit accepts and in which no run of digits is longer than the
smaller one. Any fault but a number that is too long is the same under the larger limit. -/
theorem checkText_of_limit_le {limit limit' : UInt8} (h : limit ≤ limit') (text : String) :
    (checkText limit text = .ok () ↔
        checkText limit' text = .ok () ∧ ∀ run ∈ digitRuns text, run.length ≤ limit.toNat) ∧
      ∀ fault, checkText limit text = .error fault →
        (∀ most pos, fault ≠ .numberTooLong most pos) → checkText limit' text = .error fault := by
  simp only [checkText_eq_bind, Check.ofMarks]
  have hruns : (∀ run ∈ digitRuns text, run.length ≤ limit.toNat) ↔
      RunsWithin limit.toNat ({} : Check).digits (runsIn text.toList) := runsWithin_zero_iff.symm
  rw [hruns]
  -- Either both checks read the same, or the smaller limit has been passed.
  rcases Check.cases_foldlM_read_of_le h (marksFrom 0 text.toList) {} with hsame | ⟨pos, hlong⟩
  · rw [← hsame]
    refine ⟨⟨?_, And.left⟩, fun fault hfault _ => hfault⟩
    intro hok
    obtain ⟨k, hread, -⟩ := bind_eq_ok hok
    exact ⟨hok, Check.runsWithin_of_foldlM_eq_ok _ (Nat.zero_le _) hread⟩
  · have hnot := Check.not_runsWithin_of_foldlM_eq_error _ (Nat.zero_le _) hlong
    rw [hlong, error_bind]
    refine ⟨⟨?_, fun hok => absurd hok.2 hnot⟩, ?_⟩
    · intro hok
      cases hok
    · intro fault hfault hother
      cases hfault
      exact absurd rfl (hother limit pos)

/-- Spacing does not end a run: the limit of two digits is met by `1 2`, and not by `3 45`. -/
theorem checkText_of_limit_le_spaced :
    (2 : UInt8) ≤ 3 ∧ checkText 3 "1 2+(3 45)" = .ok () ∧ checkText 2 "1 2+(3 45)" ≠ .ok () := by
  have hlimit : (2 : UInt8) ≤ 3 := by decide
  have hok : checkText 3 "1 2+(3 45)" = .ok () := by decide +kernel
  refine ⟨hlimit, hok, ?_⟩
  intro htwo
  have hruns := ((checkText_of_limit_le hlimit "1 2+(3 45)").1.1 htwo).2
  exact absurd (hruns ['3', '4', '5'] (by decide +kernel)) (by decide)

end Reckoner
