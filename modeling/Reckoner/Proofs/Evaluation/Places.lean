import Reckoner.Proofs.Evaluation.Characters
import Reckoner.Proofs.Evaluation.LeadingSign

/-!
# `Reckoner.Proofs.Evaluation.Places`: where the failures of an evaluation point

A failure comes with the place of what caused it, and it names a character (`character?`): the
`/` of a division by zero, the operator without an operand. Often it comes up long after that
character has been read, out of an operator or a group that has been waiting since, and in a
formula that keeps no rules what it is applied to may be from anywhere. So the places of all that
waits are followed through the evaluation, each back to the token that it has come from.

One thing that waits has no token of its own: the product that a leading sign becomes in front of
a group or a power. It has the place of the sign. When it misses an operand, as in `-()`, the
failure names a `*` where the text has a `-` (`missingOperand_of_leadingSign`).

* `Stacks.ComesFrom`: what waits, and the token or the leading sign that it has come from.
* `Stacks.Reaches.sourced`: all that waits at any point of an evaluation has come from one.
* `Failure.StandsIn`: what a failure points at, among the tokens.
* `place_of_failure`: every failure with a place points at the character that it names, that of
  a leading sign's product excepted.
-/

set_option autoImplicit false

namespace Reckoner

open Move (Context)

/-- The character that a failure with a place names there. -/
def Failure.character? : Failure → Option Char
  | malformed (.foreignChar c _) => some c
  | malformed _ => none
  | divisionByZero _ => some '/'
  | undefinedPower _ _ _ => some '^'
  | missingOperand op _ => some op.toChar
  | unmatchedClose _ => some ')'
  | unclosedGroup _ => some '('
  | residual _ | unusableRange _ _ => none

variable {tokens : List (Located Token)}

/-- Every operator that is listed is a token. -/
theorem Token.mem_of_mem_operators {leading start : Bool} {x : Located Operator}
    (h : x ∈ operators leading start tokens) : ⟨x.pos, .operator x.val⟩ ∈ tokens := by
  fun_induction operators leading start tokens with
  | case1 => cases h
  | case2 start pos op tokens hleading ih =>
      rcases List.mem_cons.1 h with rfl | htail
      · exact List.mem_cons_self
      · exact List.mem_cons_of_mem _ (ih htail)
  | case3 start pos op tokens hleading ih => exact List.mem_cons_of_mem _ (ih h)
  | case4 start t tokens hnot ih => exact List.mem_cons_of_mem _ (ih h)

/-! ### Where what waits has come from -/

/-- What waits has come from tokens: a group from its `(`, an operator from itself, and a product
also from a leading sign. -/
inductive Stacks.ComesFrom (tokens : List (Located Token)) : Waiting → Prop where
  | opening {pos : Nat} : ⟨pos, .opening⟩ ∈ tokens → ComesFrom tokens (.group pos)
  | operator {op : Operator} {pos : Nat} : ⟨pos, .operator op⟩ ∈ tokens →
      ComesFrom tokens (.operator op pos)
  | leadingSign {sign : Operator} {pos : Nat} : ⟨pos, sign⟩ ∈ Token.operators true true tokens →
      ComesFrom tokens (.operator .mul pos)

namespace Stacks

/-- Waiting work comes from the tokens read so far, and so from all of them. -/
theorem ComesFrom.append {w : Waiting} (h : ComesFrom tokens w) (after : List (Located Token)) :
    ComesFrom (tokens ++ after) w := by
  cases h with
  | opening hmem => exact .opening (List.mem_append_left after hmem)
  | operator hmem => exact .operator (List.mem_append_left after hmem)
  | @leadingSign sign pos hmem =>
      refine @ComesFrom.leadingSign _ sign _ ?_
      rw [Token.operators_append]
      exact List.mem_append_left _ hmem

/-- Settling takes entries away and adds none. -/
theorem subset_of_settle_eq_ok {due : Operator → Bool} {operands : List Float}
    {waiting : List Waiting} {s : Stacks} (h : settle due operands waiting = .ok s) :
    s.waiting ⊆ waiting := by
  -- The motive leaves out the operands, which have no places.
  refine settle_induction (P := fun _ waiting s => s.waiting ⊆ waiting) ?_ ?_ h
  · intro operands waiting _
    exact List.Subset.refl waiting
  · intro op pos operands left waiting s _ hs
    exact List.subset_cons_of_subset _ hs

/-- Everything that waits at a point of an evaluation has come from the tokens in front of it,
and so has a sign that waits for what it belongs to. -/
structure Sourced (before : List (Located Token)) (ctx : Context) (s : Stacks) : Prop where
  waiting : ∀ w ∈ s.waiting, ComesFrom before w
  sign : ∀ op pos, ctx = .sign op pos → ⟨pos, op⟩ ∈ Token.operators true true before

variable {before : List (Located Token)} {ctx : Context} {s : Stacks}

/-- The invariant holds of every evaluation, one token after the other. What a token puts on
the stack is the token itself or the product of the sign in front of it, and settling only
takes away. -/
theorem Reaches.sourced (h : Reaches before ctx s) : Sourced before ctx s := by
  induction h with
  | start => exact ⟨by simp, by simp⟩
  | @step before ctx ctx' s s' t hreaches htakes ih =>
      -- What waits still comes from the tokens when there is one more of them.
      have hkept : ∀ w ∈ s.waiting, ComesFrom (before ++ [t]) w :=
        fun w hw => (ih.waiting w hw).append [t]
      have hmem : t ∈ before ++ [t] := by simp
      have hsign : ∀ op pos, ctx = .sign op pos → ComesFrom (before ++ [t]) (.operator .mul pos) :=
        fun op pos hctx => ComesFrom.append (.leadingSign (ih.sign op pos hctx)) [t]
      cases htakes with
      | number pos v => exact ⟨hkept, by simp⟩
      | signedNumber op place pos v => exact ⟨hkept, by simp⟩
      | signedBase op place pos v =>
          exact ⟨List.forall_mem_cons.2 ⟨hsign op place rfl, hkept⟩, by simp⟩
      | opening pos => exact ⟨List.forall_mem_cons.2 ⟨.opening hmem, hkept⟩, by simp⟩
      | signedOpening op place pos =>
          have hfactor := List.forall_mem_cons.2 ⟨hsign op place rfl, hkept⟩
          exact ⟨List.forall_mem_cons.2 ⟨.opening hmem, hfactor⟩, by simp⟩
      | closing pos place _ hsettle hw =>
          refine ⟨?_, by simp⟩
          intro w houter
          have hsettled := List.mem_cons_of_mem (.group place) houter
          -- What is left outside of the group waited in front of it, and so before the group was
          -- settled.
          rw [← hw] at hsettled
          exact hkept w (subset_of_settle_eq_ok hsettle hsettled)
      | sign pos hop =>
          refine ⟨hkept, ?_⟩
          intro op place hctx
          cases hctx
          rw [Token.operators_append, hreaches.allowsSign_eq]
          simp [Token.operators, hop]
      | operator pos hctx hsettle =>
          refine ⟨List.forall_mem_cons.2 ⟨.operator hmem, ?_⟩, by simp⟩
          intro w hw
          exact hkept w (subset_of_settle_eq_ok hsettle hw)

end Stacks

/-! ### Failures -/

/-- What a failure points at, among tokens: a token with the character that it names, or a leading
sign whose product misses an operand. -/
inductive Failure.StandsIn (tokens : List (Located Token)) : Failure → Prop where
  | placeless {e : Failure} : e.pos? = none → StandsIn tokens e
  | token {e : Failure} {t : Located Token} : t ∈ tokens → e.pos? = some t.pos →
      e.character? = t.val.char? → e.character?.isSome = true → StandsIn tokens e
  | leadingSign {sign : Operator} {pos : Nat} : ⟨pos, sign⟩ ∈ Token.operators true true tokens →
      StandsIn tokens (.missingOperand .mul pos)

namespace Stacks

/-- An operator that fails points at what it has come from. -/
theorem ComesFrom.standsIn {op : Operator} {pos : Nat} {e : Failure}
    (h : ComesFrom tokens (.operator op pos)) (hfails : op.FailsWith pos e) :
    e.StandsIn tokens := by
  cases h with
  | operator hmem =>
      cases hfails with
      | missing => exact .token hmem rfl rfl rfl
      | division hop =>
          subst hop
          exact .token hmem rfl rfl rfl
      | power base exponent hop =>
          subst hop
          exact .token hmem rfl rfl rfl
  | leadingSign hmem =>
      cases hfails with
      | missing => exact .leadingSign hmem
      | division hop => cases hop
      | power base exponent hop => cases hop

/-- A sign without what it belongs to points at itself. -/
theorem Sourced.standsIn_missingOperand {before : List (Located Token)} {s : Stacks}
    {op : Operator} {pos : Nat} (h : Sourced before (.sign op pos) s)
    (after : List (Located Token)) :
    (Failure.missingOperand op pos).StandsIn (before ++ after) := by
  have hmem := Token.mem_of_mem_operators (h.sign op pos rfl)
  exact .token (List.mem_append_left after hmem) rfl rfl rfl

end Stacks

/-- A failure that has a place takes it from a token of the formula, and says of the token what it
is. The cause is a token that stops the evaluation or waiting work at a token or at the end. -/
theorem Formula.standsIn_of_evaluate_eq_error {f : Formula} {e : Failure}
    (h : f.evaluate = .error e) : e.StandsIn f.tokens := by
  rcases cases_of_evaluate_eq_error h with
    ⟨before, t, after, ctx, s, htokens, hreaches, hstops⟩ | ⟨ctx, s, hreaches, hends⟩
  · have hsourced := hreaches.sourced
    have hmem : t ∈ f.tokens := by simp [htokens]
    cases hstops with
    | foreign pos c => exact .token hmem rfl rfl rfl
    | missing op place =>
        rw [htokens]
        exact hsourced.standsIn_missingOperand (t :: after)
    | settling hw hfails =>
        rw [htokens]
        exact ((hsourced.waiting _ hw).append (t :: after)).standsIn hfails
    | unmatched pos hsettle hnone => exact .token hmem rfl rfl rfl
  · have hsourced := hreaches.sourced
    cases hends with
    | missing op place =>
        rw [← List.append_nil f.tokens]
        exact hsourced.standsIn_missingOperand []
    | settling hw hfails => exact (hsourced.waiting _ hw).standsIn hfails
    | @unclosed _ _ settled outer pos hsettle hw =>
        have htop : .group pos ∈ settled.waiting := by simp [hw]
        have hgroup := Stacks.subset_of_settle_eq_ok hsettle htop
        cases hsourced.waiting _ hgroup with
        | opening hmem => exact .token hmem rfl rfl rfl
    | residual hsettle hne => exact .placeless rfl

/-- **A failure points at the character that it names.** A failure of an evaluation that has a
place points at a character of the text, and not at spacing. The character is the one that it
names, or it is a leading sign, of whose product an operand is missing. -/
theorem place_of_failure {f : Formula} {e : Failure} {p : Nat} (h : f.evaluate = .error e)
    (hp : e.pos? = some p) :
    ∃ c, c ≠ ' ' ∧ f.text.toList[p]? = some c ∧
      (e.character? = some c ∨
        e = .missingOperand .mul p ∧ ∃ sign, ⟨p, sign⟩ ∈ f.leadingSigns ∧ c = sign.toChar) := by
  cases Formula.standsIn_of_evaluate_eq_error h with
  | placeless hnone => cases hnone.symm.trans hp
  | @token _ t hmem hpos hcharacter hsome =>
      -- The token has one character, so it is no number and stands in the text at its place.
      obtain ⟨c, hc⟩ := Option.isSome_iff_exists.1 hsome
      cases hpos.symm.trans hp
      obtain ⟨hspace, hplace⟩ := Formula.getElem?_of_mem_tokens hmem (hcharacter ▸ hc)
      exact ⟨c, hspace, hplace, .inl hc⟩
  | @leadingSign sign pos hmem =>
      cases hp
      obtain ⟨hspace, hplace⟩ :=
        Formula.getElem?_of_mem_tokens (Token.mem_of_mem_operators hmem) rfl
      exact ⟨sign.toChar, hspace, hplace, .inr ⟨rfl, sign, hmem, rfl⟩⟩

/-- The operator in the group takes the operand in front of the group, and the operator there
misses it. -/
theorem place_of_failure_starved :
    ∃ f : Formula, f.text = "2 + (3 *)" ∧ f.evaluate = .error (.missingOperand .add 2) ∧
      ∃ c, c ≠ ' ' ∧ f.text.toList[2]? = some c ∧
        ((Failure.missingOperand .add 2).character? = some c ∨
          Failure.missingOperand .add 2 = .missingOperand .mul 2 ∧
            ∃ sign, ⟨2, sign⟩ ∈ f.leadingSigns ∧ c = sign.toChar) := by
  have hmissing : (Formula.mk "2 + (3 *)" ⟨'2', by decide⟩).evaluate
      = .error (.missingOperand .add 2) := by decide +kernel
  exact ⟨_, rfl, hmissing, place_of_failure hmissing rfl⟩

/-- The product of a leading sign names its own character, which is not the one of the sign. -/
theorem missingOperand_of_leadingSign :
    ∃ f : Formula, f.text = "-()" ∧ f.evaluate = .error (.missingOperand .mul 0) ∧
      (Failure.missingOperand .mul 0).character? = some '*' ∧ f.text.toList[0]? = some '-' := by
  have hmissing : (Formula.mk "-()" ⟨'(', by decide⟩).evaluate
      = .error (.missingOperand .mul 0) := by decide +kernel
  exact ⟨_, rfl, hmissing, rfl, by decide⟩

end Reckoner
