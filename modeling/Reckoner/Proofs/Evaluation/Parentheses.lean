import Reckoner.Proofs.Evaluation.Characters
import Reckoner.Proofs.Evaluation.Run

/-!
# `Reckoner.Proofs.Evaluation.Parentheses`: an evaluation accounts for the parentheses

An evaluation does not check a formula, but it does not lose a parenthesis either. Whatever the
operators in between do to the operands, the open groups on the stack are the `(` that nothing
has closed so far, the innermost on top (`Stacks.Reaches.nested`). So a `)` that finds no group is
the first one too many, a group that is left at the end is the last `(` that nothing closes, and
without one or the other all parentheses have their partners.

The invariant is about tokens. Among the characters there are digits besides, which say nothing
about parentheses (`closesNone_filter_iff`, `unclosed?_filter`).

* `Nested.closesNone`: groups that are open one in another leave no `)` unmatched.
* `Stacks.Reaches.nested`: the open groups at any point of an evaluation.
* `parentheses_accounted`: what each outcome says about the parentheses of the text.
-/

set_option autoImplicit false

namespace Reckoner

open Move (Context)

/-- Whether all parentheses among characters have their partners: no `)` comes too early, and
there are as many of the ones as of the others. -/
def Balanced (cs : List (Located Char)) : Prop :=
  ClosesNone cs ∧ occurrences '(' cs = occurrences ')' cs

/-! ### Closing none -/

section ClosesNone

variable {cs ds : List (Located Char)}

/-- The condition asks for cuts within the characters, and holds at all cuts. -/
theorem ClosesNone.take_le (h : ClosesNone cs) (n : Nat) :
    occurrences ')' (cs.take n) ≤ occurrences '(' (cs.take n) := by
  -- A cut behind the end is a cut at the end.
  by_cases hn : n ≤ cs.length
  · exact h n hn
  · have hall := h cs.length (Nat.le_refl _)
    rw [List.take_of_length_le (by omega)]
    rwa [List.take_length] at hall

/-- Two parts that close nothing in front of them make up such a part. -/
theorem ClosesNone.append (h : ClosesNone cs) (h' : ClosesNone ds) : ClosesNone (cs ++ ds) := by
  intro n _
  rw [List.take_append, occurrences_append, occurrences_append]
  exact Nat.add_le_add (h.take_le n) (h'.take_le _)

/-- A `(` closes nothing. -/
theorem closesNone_opening (pos : Nat) : ClosesNone [⟨pos, '('⟩] := by
  intro n hn
  -- The cuts in front of the `(` and behind it; there are no others.
  rcases n with _ | _ | n
  · simp [occurrences]
  · simp [occurrences]
  · simp at hn

/-- Groups that are open one in another leave no `)` unmatched. -/
theorem Nested.closesNone {opened : List (Located Bool)} (h : Nested opened cs) :
    ClosesNone cs := by
  induction h with
  | outermost hpaired => exact hpaired.closesNone
  | @group outer group before inside _ hinside ih =>
      exact ih.append ((closesNone_opening group.pos).append hinside.closesNone)

/-! ### Without the digits -/

/-- The condition by cuts in two parts, which go along with leaving out characters where indices
do not. -/
theorem closesNone_iff_of_append :
    ClosesNone cs ↔ ∀ before after, cs = before ++ after →
      occurrences ')' before ≤ occurrences '(' before := by
  constructor
  · rintro h before after rfl
    have hbefore := h.take_le before.length
    rwa [List.take_left] at hbefore
  · intro h n _
    exact h _ _ (List.take_append_drop n cs).symm

/-- Leaving out the digits changes no count but theirs. -/
theorem occurrences_filter {c : Char} (hc : c.isDigit = false) (cs : List (Located Char)) :
    occurrences c (cs.filter (!·.val.isDigit)) = occurrences c cs := by
  rw [occurrences, List.countP_filter, occurrences]
  refine List.countP_congr ?_
  intro x _
  by_cases hx : x.val = c
  · simp [hx, hc]
  · simp [hx]

/-- Whether something in front is closed is not up to the digits. -/
theorem closesNone_filter_iff (cs : List (Located Char)) :
    ClosesNone (cs.filter (!·.val.isDigit)) ↔ ClosesNone cs := by
  rw [closesNone_iff_of_append, closesNone_iff_of_append]
  constructor
  · rintro h before after rfl
    have hbefore := h _ _ (List.filter_append before after)
    rwa [occurrences_filter rfl, occurrences_filter rfl] at hbefore
  · intro h before after heq
    -- A cut of the filtered characters comes from a cut of all of them.
    obtain ⟨front, back, hcs, rfl, rfl⟩ := List.filter_eq_append_iff.1 heq
    rw [occurrences_filter rfl, occurrences_filter rfl]
    exact h front back hcs

/-- Neither is which `(` nothing closes. -/
theorem unclosed?_filter (cs : List (Located Char)) :
    unclosed? (cs.filter (!·.val.isDigit)) = unclosed? cs := by
  induction cs with
  | nil => rfl
  | cons x cs ih =>
      cases hdigit : x.val.isDigit with
      | true =>
          have hx : x.val ≠ '(' := by
            intro hopening
            rw [hopening] at hdigit
            cases hdigit
          rw [List.filter_cons_of_neg (by simp [hdigit]), ih, unclosed?]
          simp [hx]
      | false =>
          rw [List.filter_cons_of_pos (by simp [hdigit]), unclosed?, unclosed?, ih]
          simp only [closesNone_filter_iff]

/-- So the parentheses can be judged on the characters that tokens are written with, among which
there are no digits. -/
theorem balanced_filter_iff (cs : List (Located Char)) :
    Balanced (cs.filter (!·.val.isDigit)) ↔ Balanced cs := by
  rw [Balanced, closesNone_filter_iff, occurrences_filter rfl, occurrences_filter rfl, Balanced]

end ClosesNone

/-! ### The open groups -/

namespace Stacks

variable {before : List (Located Token)} {ctx : Context} {s : Stacks}

/-- The open groups on the stack, the innermost first. Nothing is kept of what is in them. -/
def openGroups (waiting : List Waiting) : List (Located Bool) :=
  (groupPlaces waiting).map (⟨·, false⟩)

/-- An operator is no parenthesis. -/
theorem paired_operator (pos : Nat) (op : Operator) : Paired [⟨pos, op.toChar⟩] := by
  have ho : (Symbol.operator op).toChar ≠ '(' := by simp
  have hc : (Symbol.operator op).toChar ≠ ')' := by simp
  exact paired_singleton ho hc

/-- The open groups are the `(` that nothing has closed, whatever is between them. -/
theorem Reaches.nested (h : Reaches before ctx s) :
    Nested (openGroups s.waiting) (Token.written before) := by
  induction h with
  | start => exact .outermost paired_nil
  | @step before ctx ctx' s s' t hreaches htakes ih =>
      rw [Token.written_append]
      -- Numbers are not written here, so only parentheses and operators change what is nested.
      -- Settling leaves the groups alone.
      cases htakes with
      | number pos v => exact ih.append paired_nil
      | signedNumber op place pos v => exact ih.append paired_nil
      | signedBase op place pos v => exact ih.append paired_nil
      | opening pos => exact ih.opening pos false
      | signedOpening op place pos => exact ih.opening pos false
      | closing pos place _ hsettle hw =>
          have hplaces := (settledFrom_of_settle_eq_ok hsettle).groupPlaces_eq
          rw [hw] at hplaces
          rw [openGroups, ← hplaces] at ih
          exact ih.closing pos
      | sign pos hop => exact ih.append (paired_operator pos _)
      | operator pos hctx hsettle =>
          have hplaces := (settledFrom_of_settle_eq_ok hsettle).groupPlaces_eq
          rw [openGroups, ← hplaces] at ih
          exact ih.append (paired_operator pos _)

/-- Where no group is left, all parentheses have their partners. -/
theorem Reaches.balanced (h : Reaches before ctx s) {settled : Stacks}
    (hsettle : settle (fun _ => true) s.operands s.waiting = .ok settled)
    (hnone : ∀ place outer, settled.waiting ≠ .group place :: outer) :
    Balanced (Token.written before) := by
  have hnested := h.nested
  rcases (settledFrom_of_settle_eq_ok hsettle).waiting_eq with
    ⟨-, hplaces⟩ | ⟨place, outer, hw, -⟩
  · rw [openGroups, hplaces] at hnested
    exact ⟨hnested.closesNone, hnested.occurrences_eq⟩
  · exact absurd hw (hnone place outer)

end Stacks

/-! ### The outcomes -/

namespace Formula

variable {f : Formula} {pos : Nat}

/-- At the end of the tokens, without a group on the stack. -/
theorem balanced_chars {ctx : Context} {s : Stacks} (h : Stacks.Reaches f.tokens ctx s)
    {operands : List Float}
    (hsettle : Stacks.settle (fun _ => true) s.operands s.waiting = .ok ⟨operands, []⟩) :
    Balanced f.chars := by
  have hbalanced := h.balanced hsettle (by simp)
  rwa [f.written_tokens, balanced_filter_iff] at hbalanced

/-- A formula with a value has all its parentheses in pairs. -/
theorem balanced_of_evaluate_eq_ok {v : Float} (h : f.evaluate = .ok v) : Balanced f.chars := by
  obtain ⟨ctx, s, hreaches, hsettle⟩ := exists_settle_of_evaluate_eq_ok h
  exact balanced_chars hreaches hsettle

/-- So has one that leaves values over. -/
theorem balanced_of_evaluate_eq_residual {n : Nat} (h : f.evaluate = .error (.residual n)) :
    Balanced f.chars := by
  obtain ⟨ctx, s, operands, hreaches, hsettle, -, -⟩ := exists_settle_of_evaluate_eq_residual h
  exact balanced_chars hreaches hsettle

/-- A token that is no number splits the characters where it splits the tokens. -/
theorem exists_chars_eq_append {before after : List (Located Token)} {t : Located Token} {c : Char}
    (h : f.tokens = before ++ t :: after) (hc : t.val.char? = some c) :
    ∃ front back, f.chars = front ++ ⟨t.pos, c⟩ :: back ∧
      front.filter (!·.val.isDigit) = Token.written before := by
  have hwritten := f.written_tokens
  rw [h, Token.written_append, Token.written_cons_of_some hc] at hwritten
  -- First where the written tokens in front end, then behind the digits of a number in front.
  obtain ⟨front, rest, hchars, hfront, hrest⟩ := List.filter_eq_append_iff.1 hwritten.symm
  obtain ⟨digits, back, rfl, hdigits, -, -⟩ := List.filter_eq_cons_iff.1 hrest
  refine ⟨front ++ digits, back, by simp [hchars], ?_⟩
  rw [List.filter_append, hfront, List.filter_eq_nil_iff.2 hdigits, List.append_nil]

/-- The `)` that closes nothing is the first to do so: the parentheses in front of it are in
pairs. -/
theorem exists_of_evaluate_eq_unmatchedClose (h : f.evaluate = .error (.unmatchedClose pos)) :
    ∃ before after, f.chars = before ++ ⟨pos, ')'⟩ :: after ∧ Balanced before := by
  rcases cases_of_evaluate_eq_error h with
    ⟨before, t, after, ctx, s, htokens, hreaches, hstops⟩ | ⟨ctx, s, -, hends⟩
  · -- Of all ways to stop, only a `)` without a group has this failure.
    cases hstops with
    | settling hmem hfails => cases hfails
    | unmatched pos hsettle hnone =>
        obtain ⟨front, back, hchars, hfront⟩ := exists_chars_eq_append htokens rfl
        have hbalanced := hreaches.balanced hsettle hnone
        rw [← hfront, balanced_filter_iff] at hbalanced
        exact ⟨front, back, hchars, hbalanced⟩
  · cases hends with
    | settling hmem hfails => cases hfails

/-- The `(` that is reported as never closed is the last that nothing closes, and nowhere is a
group closed that was not opened. -/
theorem unclosed_of_evaluate_eq_unclosedGroup (h : f.evaluate = .error (.unclosedGroup pos)) :
    ClosesNone f.chars ∧ occurrences ')' f.chars < occurrences '(' f.chars ∧
      unclosed? f.chars = some pos := by
  rcases cases_of_evaluate_eq_error h with ⟨_, _, _, _, _, -, -, hstops⟩ | ⟨ctx, s, hreaches, hends⟩
  · cases hstops with
    | settling hmem hfails => cases hfails
  · cases hends with
    | settling hmem hfails => cases hfails
    | @unclosed _ _ settled outer _ hsettle hw =>
        -- Settling takes no group away, so the innermost open group is on top when it is done.
        have hplaces := (Stacks.settledFrom_of_settle_eq_ok hsettle).groupPlaces_eq
        have hnested := hreaches.nested
        rw [hw] at hplaces
        rw [Stacks.openGroups, ← hplaces, f.written_tokens] at hnested
        have hcount := hnested.occurrences_eq
        have hunclosed := hnested.unclosed?_eq
        rw [occurrences_filter rfl, occurrences_filter rfl] at hcount
        rw [unclosed?_filter] at hunclosed
        refine ⟨(closesNone_filter_iff _).1 hnested.closesNone, ?_, hunclosed⟩
        rw [hcount, Stacks.groupPlaces, List.map_cons, List.length_cons]
        omega

end Formula

/-- **An evaluation accounts for the parentheses.** When it comes to a value, or to several or
none, all parentheses of the text have their partners. An unmatched `)` is the first that is one
too many: in front of it all have their partners. A group that is not closed is the last `(` that
nothing closes, in a text with more `(` than `)` and with no `)` too early. -/
theorem parentheses_accounted (f : Formula) :
    (∀ v, f.evaluate = .ok v → Balanced f.chars) ∧
      (∀ n, f.evaluate = .error (.residual n) → Balanced f.chars) ∧
      (∀ pos, f.evaluate = .error (.unmatchedClose pos) →
        ∃ before after, f.chars = before ++ ⟨pos, ')'⟩ :: after ∧ Balanced before) ∧
      ∀ pos, f.evaluate = .error (.unclosedGroup pos) →
        ClosesNone f.chars ∧ occurrences ')' f.chars < occurrences '(' f.chars ∧
          unclosed? f.chars = some pos := by
  refine ⟨?_, ?_, ?_, ?_⟩
  · intro v hv
    exact Formula.balanced_of_evaluate_eq_ok hv
  · intro n hn
    exact Formula.balanced_of_evaluate_eq_residual hn
  · intro pos hpos
    exact Formula.exists_of_evaluate_eq_unmatchedClose hpos
  · intro pos hpos
    exact Formula.unclosed_of_evaluate_eq_unclosedGroup hpos

/-- Two groups are open, and a third one that is closed lies in the inner one. -/
theorem parentheses_accounted_twoOpen :
    ∃ f : Formula, f.text = "(1)+(2*(-(3)" ∧ f.evaluate = .error (.unclosedGroup 7) ∧
      ClosesNone f.chars ∧ occurrences ')' f.chars < occurrences '(' f.chars ∧
        unclosed? f.chars = some 7 := by
  have hunclosed : (Formula.mk "(1)+(2*(-(3)" ⟨'(', by decide⟩).evaluate
      = .error (.unclosedGroup 7) := by decide +kernel
  exact ⟨_, rfl, hunclosed, (parentheses_accounted _).2.2.2 7 hunclosed⟩

end Reckoner
