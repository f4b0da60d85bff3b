import Reckoner.CommandLine.Job
import Reckoner.Proofs.CommandLine.Contents

/-!
# `Reckoner.Proofs.CommandLine.Batch`: lines of the standard input, one after the other

Without a formula of its own a run takes every line of the standard input for one. `Job.Batch`
says line by line what that leaves behind: a blank line nothing, another line what is said to the
formula in it, and a line that is no text a last report. It is about the lines of
`Lines.contents`, and so about bytes.

The run itself is a loop that carries what it has said so far, and a flag. Two things are proved
of the loop by induction over the lines. Its flag is up exactly as long as there is nothing to
report (`Progress.Faithful`), so the exit code tells whether there was. And what has been said so
far only comes in front (`Job.runLines_eq_append`), so the lines are answered independently.

* `newline_not_mem_positional`: a number as the program writes it is one line.
* `positional_eq_nan_iff`: nothing but NaN is written as NaN.
* `Job.says_iff`: the answer to a formula is what is said to it.
* `Job.code_run`: a run succeeds exactly when it has nothing to report.
* `Job.batch_iff`: lines leave behind what a run over their texts does, and nothing else.
* `batch_of_lines`: all this for runs of the program, with what it means for an input that is
  put together from two.
-/

set_option autoImplicit false

namespace Reckoner

/-! ### How numbers are written -/

namespace Decimal

/-- Decimal notation is made of digits and the decimal point only. -/
theorem Scientific.not_mem_positional {c : Char} (hdigit : c.isDigit = false) (hpoint : c ≠ '.')
    (s : Scientific) : c ∉ s.positional := by
  have hdigits : c ∉ Nat.toDigits 10 s.digits := by
    intro h
    cases hdigit.symm.trans (Nat.isDigit_of_mem_toDigits (by decide) (by decide) h)
  have hzero : c ≠ '0' := by
    rintro rfl
    cases hdigit
  -- The point falls behind the digits, among them, or in front of them.
  unfold positional
  dsimp only
  split
  · simp [hdigits, hzero, List.mem_replicate]
  · split
    · simp only [List.mem_append, List.mem_cons, not_or]
      exact ⟨fun h => hdigits (List.mem_of_mem_take h), hpoint,
        fun h => hdigits (List.mem_of_mem_drop h)⟩
    · simp [hdigits, hzero, hpoint, List.mem_replicate]

/-- A number is written with digits, a point and the letters of an infinity. -/
theorem not_mem_positional {c : Char} (hdigit : c.isDigit = false) (hpoint : c ≠ '.')
    (hother : c ∉ "-inf".toList) {x : Float} (hx : x.isNaN = false) :
    c ∉ (positional x).toList := by
  have hshortest := (shortest x.toBits).not_mem_positional hdigit hpoint
  have hzero : c ≠ '0' := by
    rintro rfl
    cases hdigit
  have hletters : c ≠ '-' ∧ c ≠ 'i' ∧ c ≠ 'n' ∧ c ≠ 'f' := by simpa using hother
  unfold positional
  rw [if_neg (Bool.eq_false_iff.1 hx)]
  -- A zero, an infinity or a decimal, each with a sign or without.
  dsimp only
  split
  · split <;> simp [hzero, hletters]
  · split
    · split <;> simp [hletters]
    · split <;> simp [hshortest, hletters]

/-- What is printed for a number never breaks the line. -/
theorem newline_not_mem_positional (x : Float) : '\n' ∉ (positional x).toList := by
  cases hx : x.isNaN with
  | true =>
      rw [positional, if_pos hx]
      decide
  | false => exact not_mem_positional rfl (by decide) (by decide) hx

/-- Nothing but NaN is written as NaN. -/
theorem positional_eq_nan_iff {x : Float} : positional x = "NaN" ↔ x.isNaN = true := by
  constructor
  · intro h
    cases hx : x.isNaN with
    | true => rfl
    | false =>
        have hnot := @not_mem_positional 'N' rfl (by decide) (by decide) x hx
        rw [h] at hnot
        exact absurd (by decide) hnot
  · intro h
    rw [positional, if_pos h]

end Decimal

namespace CommandLine

/-! ### What is said to a formula -/

/-- What the program says to a formula: its value, or that it is valid when it is only checked,
on one line; else one report. -/
inductive Job.Says (job : Job) (formula : String) : Answer → Prop where
  | value {value : Float} (hcheck : job.checkOnly = false)
      (h : job.settings.calculate formula = .ok value)
      (hline : '\n' ∉ (Decimal.positional value).toList) :
      Says job formula (.line (Decimal.positional value))
  | failure {failure : Failure} (hcheck : job.checkOnly = false)
      (h : job.settings.calculate formula = .error failure) :
      Says job formula (.report (.ofFailure failure))
  | valid (hcheck : job.checkOnly = true)
      (h : checkText job.settings.maxDigits formula = .ok ()) :
      Says job formula (.line "valid")
  | fault {fault : Fault} (hcheck : job.checkOnly = true)
      (h : checkText job.settings.maxDigits formula = .error fault) :
      Says job formula (.report (.ofFailure (.malformed fault)))

/-- What lines of the standard input leave behind. -/
inductive Job.Batch (job : Job) : List (List UInt8) → Outcome → Prop where
  /-- There is no line any more. -/
  | done : Batch job [] ⟨0, "", []⟩
  /-- A line of white space yields nothing. -/
  | blank {line : List UInt8} {lines : List (List UInt8)} {text : String} {rest : Outcome}
      (htext : Lines.decode? line = some text) (hblank : Text.isBlank text = true)
      (hrest : Batch job lines rest) : Batch job (line :: lines) rest
  /-- A line of the standard output. -/
  | line {line : List UInt8} {lines : List (List UInt8)} {text said : String} {rest : Outcome}
      (htext : Lines.decode? line = some text) (hblank : Text.isBlank text = false)
      (hsaid : job.Says text (.line said)) (hrest : Batch job lines rest) :
      Batch job (line :: lines) ⟨rest.code, said ++ "\n" ++ rest.output, rest.reports⟩
  /-- A report, so the run does not succeed any more. -/
  | report {line : List UInt8} {lines : List (List UInt8)} {text : String} {said : Report}
      {rest : Outcome} (htext : Lines.decode? line = some text)
      (hblank : Text.isBlank text = false) (hsaid : job.Says text (.report said))
      (hrest : Batch job lines rest) :
      Batch job (line :: lines) ⟨1, rest.output, said :: rest.reports⟩
  /-- A line that is no text ends the run. -/
  | unreadable {line : List UInt8} {lines : List (List UInt8)} (htext : Lines.decode? line = none) :
      Batch job (line :: lines) ⟨1, "", [.unreadable]⟩

/-! ### Outcomes, one after the other -/

namespace Outcome

/-- What two runs leave behind, one after the other: it succeeds if both do. -/
def append (first second : Outcome) : Outcome :=
  ⟨if first.code = 0 then second.code else first.code, first.output ++ second.output,
    first.reports ++ second.reports⟩

/-- Outcomes are put together in order, and how they are bracketed plays no part. The exit code
is that of the first run that does not succeed. -/
theorem append_assoc (first second third : Outcome) :
    (first.append second).append third = first.append (second.append third) := by
  unfold append
  dsimp only
  rw [String.append_assoc, List.append_assoc]
  by_cases h : first.code = 0
  · simp only [if_pos h]
  · simp only [if_neg h]

end Outcome

/-! ### The flag of a run -/

namespace Progress

/-- The flag of a run is up exactly as long as there is nothing to report. It is a field of its
own, so this is an invariant: nothing else makes the exit code match the reports. -/
def Faithful (p : Progress) : Prop :=
  p.ok = true ↔ p.reports = []

/-- At the start the flag is up and nothing is reported. -/
theorem faithful_start : Faithful {} :=
  iff_of_true rfl rfl

/-- An answer takes the flag down exactly when it reports something. -/
theorem Faithful.answer {p : Progress} (h : p.Faithful) (a : Answer) : (p.answer a).Faithful := by
  unfold Faithful Progress.answer at *
  cases a with
  | line text => simpa [Answer.succeeded, Answer.reports] using h
  | report r => simp [Answer.succeeded, Answer.reports]

/-- The exit code of a run that comes to its end says whether something was reported. -/
theorem Faithful.code_finish {p : Progress} (h : p.Faithful) :
    p.finish.code = 0 ↔ p.finish.reports = [] := by
  -- The code is read off the flag, and the invariant says what the flag stands for.
  have hflag : p.ok = true ↔ p.reports = [] := h
  show (if p.ok = true then (0 : UInt32) else 1) = 0 ↔ p.reports = []
  rw [← hflag]
  split
  · next hok => exact iff_of_true rfl hok
  · next hok => exact iff_of_false (by decide) hok

/-- A run that cannot read on does not succeed, and it says why. No invariant is needed: the flag
is not looked at. -/
theorem code_abort (p : Progress) : p.abort.code = 0 ↔ p.abort.reports = [] := by
  have hcode : ¬ (1 : UInt32) = 0 := by decide
  have hreports : p.reports ++ [Report.unreadable] ≠ [] := by simp
  exact iff_of_false hcode hreports

/-- What has been said before comes in front of what is said last. -/
theorem finish_answer (p : Progress) (a : Answer) :
    (p.answer a).finish = p.finish.append a.outcome := by
  unfold Answer.outcome Outcome.append finish answer
  cases hok : p.ok with
  | true => simp
  | false => simp

/-- The same goes for a run that cannot read on. -/
theorem abort_eq_append (p : Progress) : p.abort = p.finish.append (abort {}) := by
  unfold Outcome.append finish abort
  cases hok : p.ok with
  | true => simp
  | false => simp

end Progress

namespace Job

variable {job : Job}

/-! ### Answers to formulas -/

/-- The answer to a formula is what is said to it. -/
theorem says_iff {formula : String} {answer : Answer} :
    job.Says formula answer ↔ job.answer formula = answer := by
  unfold Job.answer result
  constructor
  · intro h
    cases h with
    | value hcheck h => rw [hcheck, h]; rfl
    | failure hcheck h => rw [hcheck, h]; rfl
    | valid hcheck h => rw [hcheck, h]; rfl
    | fault hcheck h => rw [hcheck, h]; rfl
  · -- By what the job is to do and how it ends, there is one rule for each of the four.
    rintro rfl
    cases hcheck : job.checkOnly with
    | false =>
        cases h : job.settings.calculate formula with
        | ok value => exact .value hcheck h (Decimal.newline_not_mem_positional value)
        | error failure => exact .failure hcheck h
    | true =>
        cases h : checkText job.settings.maxDigits formula with
        | ok u => exact .valid hcheck h
        | error fault => exact .fault hcheck h

/-! ### Lines -/

/-- The exit code says whether anything was reported, wherever a run with a faithful flag goes
on from. The induction is over the lines, the flag stays faithful from each to the next. -/
theorem code_runLines {p : Progress} (h : p.Faithful) (texts : List (Option String)) :
    (job.runLines p texts).code = 0 ↔ (job.runLines p texts).reports = [] := by
  induction texts generalizing p with
  | nil => exact h.code_finish
  | cons text texts ih =>
      cases text with
      | none => exact p.code_abort
      | some text =>
          rw [runLines]
          split
          · exact ih h
          · exact ih (h.answer _)

/-- A run succeeds exactly when it has nothing to report. -/
theorem code_run (job : Job) (input : List UInt8) :
    (job.run input).code = 0 ↔ (job.run input).reports = [] := by
  unfold run
  split
  · exact code_runLines Progress.faithful_start _
  · exact (Progress.faithful_start.answer _).code_finish

/-- What a run has said so far has no influence on what it says to the lines that follow. It
comes in front of it, and so does the exit code once the flag is down. -/
theorem runLines_eq_append (p : Progress) (texts : List (Option String)) :
    job.runLines p texts = p.finish.append (job.runLines {} texts) := by
  induction texts generalizing p with
  | nil => simp [runLines, Outcome.append, Progress.finish]
  | cons text texts ih =>
      cases text with
      | none => exact p.abort_eq_append
      | some text =>
          simp only [runLines]
          split
          · exact ih p
          · -- Both sides go on from the answer, so both are put together from what was before,
            -- the answer and the rest.
            rw [ih (p.answer _), ih (Progress.answer {} _), p.finish_answer, Outcome.append_assoc]
            rfl

/-- The first line is answered in front of the others, unless it is blank. -/
theorem runLines_some_cons (text : String) (texts : List (Option String)) :
    job.runLines {} (some text :: texts)
      = if Text.isBlank text then job.runLines {} texts
        else (job.answer text).outcome.append (job.runLines {} texts) := by
  rw [runLines]
  split
  · rfl
  · exact runLines_eq_append _ _

/-- Behind a line that is no text, nothing is answered. -/
theorem runLines_append (texts more : List (Option String)) :
    job.runLines {} (texts ++ more)
      = if texts.all Option.isSome then (job.runLines {} texts).append (job.runLines {} more)
        else job.runLines {} texts := by
  -- On the lines in front, which are answered one by one until one of them is no text.
  induction texts with
  | nil => exact runLines_eq_append {} more
  | cons text texts ih =>
      cases text with
      | none => rfl
      | some text =>
          simp only [List.cons_append, runLines_some_cons, ih, List.all_cons, Option.isSome_some,
            Bool.true_and]
          split
          · rfl
          · split
            · rw [Outcome.append_assoc]
            · rfl

/-- Lines leave behind what a run over their texts does, and nothing else. -/
theorem batch_iff {lines : List (List UInt8)} {outcome : Outcome} :
    job.Batch lines outcome ↔ job.runLines {} (lines.map Lines.decode?) = outcome := by
  constructor
  · intro h
    -- One rule for each kind of line, and the run goes through the lines in the same order.
    induction h with
    | done => rfl
    | blank htext hblank _ ih =>
        rw [List.map_cons, htext, runLines_some_cons, if_pos hblank, ih]
    | line htext hblank hsaid _ ih =>
        rw [List.map_cons, htext, runLines_some_cons, if_neg (Bool.not_eq_true _ ▸ hblank),
          says_iff.1 hsaid, ih]
        rfl
    | report htext hblank hsaid _ ih =>
        rw [List.map_cons, htext, runLines_some_cons, if_neg (Bool.not_eq_true _ ▸ hblank),
          says_iff.1 hsaid, ih]
        rfl
    | unreadable htext =>
        rw [List.map_cons, htext]
        rfl
  · rintro rfl
    induction lines with
    | nil => exact .done
    | cons line lines ih =>
        rw [List.map_cons]
        cases htext : Lines.decode? line with
        | none => exact .unreadable htext
        | some text =>
            rw [runLines_some_cons]
            split
            · next hblank => exact .blank htext hblank ih
            · next hblank =>
                have hblank := Bool.not_eq_true _ ▸ hblank
                have hsaid := says_iff.2 (Eq.refl (job.answer text))
                -- An answer is a line or a report, and each has its own rule.
                cases hanswer : job.answer text with
                | line said => exact .line htext hblank (hanswer ▸ hsaid) ih
                | report said => exact .report htext hblank (hanswer ▸ hsaid) ih

end Job

/-- **Lines of the standard input are answered one after the other.** A run without a formula
of its own leaves behind what its lines do, up to the first that is no text, and succeeds exactly
when it has nothing to report. So what follows a line feed is answered as if it stood alone,
unless a line in front of it is no text. -/
theorem batch_of_lines (settings : Settings) (checkOnly : Bool) :
    let job : Job := ⟨settings, checkOnly, []⟩
    (∀ input outcome, job.Batch (Lines.contents input) outcome ↔ job.run input = outcome) ∧
      (∀ input, (job.run input).code = 0 ↔ (job.run input).reports = []) ∧
      ∀ front behind,
        let first := front ++ [Lines.lineFeed]
        job.run (first ++ behind)
          = if (Lines.contents first).all fun line => (Lines.decode? line).isSome then
              (job.run first).append (job.run behind)
            else job.run first := by
  intro job
  -- Each statement is one about a run over the texts of the lines.
  have hrun : ∀ input, job.run input = job.runLines {} (Lines.texts input) := by
    intro input
    rfl
  refine ⟨fun input outcome => ?_, job.code_run, ?_⟩
  · rw [hrun, Lines.texts_eq, Job.batch_iff]
  · intro front behind first
    have htexts : Lines.texts (first ++ behind) = Lines.texts first ++ Lines.texts behind := by
      rw [Lines.texts, Lines.cut_append, List.map_append]
      rfl
    rw [hrun, hrun, hrun, htexts, Job.runLines_append, Lines.texts_eq first, List.all_map]
    rfl

/-- A formula, a blank line, a line that is no text, and one that nobody reads. -/
example :
    Job.run ⟨{}, false, []⟩ [49, 43, 49, 13, 10, 32, 10, 255, 10, 50, 10]
      = ⟨1, "2\n", [.unreadable]⟩ := by
  decide +kernel

end CommandLine

end Reckoner
