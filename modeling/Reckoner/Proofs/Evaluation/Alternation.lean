import Reckoner.Proofs.Evaluation.Grouping

/-!
# `Reckoner.Proofs.Evaluation.Alternation`: operands with an operator between them

Where no operand stands directly behind another one, an evaluation has no operand to spare: each
one but the last has been taken, or there is an operator that waits for what is behind it. So the
operands are at most one more than the operators that wait. A check lets no two operands stand
side by side, neither in a text that it accepts nor in front of a fault, and where there are no
parentheses there can be none.

* `Token.Alternates`: no operand directly behind another.
* `Check.alternates_of_foldlM_eq_ok`: the tokens of marks that a check takes in.
* `Stacks.Reaches.operands_le`: the operands at any point of an evaluation.
-/

set_option autoImplicit false

namespace Reckoner

open Move (Context)

/-! ### Operands side by side -/

namespace Token

/-- Whether a token ends an operand. -/
def endsOperand : Token → Bool
  | number _ | closing => true
  | operator _ | opening | foreign _ => false

/-- Whether a token starts an operand. -/
def startsOperand : Token → Bool
  | number _ | opening => true
  | operator _ | closing | foreign _ => false

/-- Whether no operand among tokens stands directly behind another one. -/
def Alternates (tokens : List (Located Token)) : Prop :=
  tokens.IsChain fun t next => t.val.endsOperand = true → next.val.startsOperand = false

/-- The start of tokens alternates if all of them do. -/
theorem Alternates.of_append {before after : List (Located Token)}
    (h : Alternates (before ++ after)) : Alternates before :=
  (List.isChain_append.1 h).1

/-- Numbers are not neighbours, so only a group can stand directly beside an operand. -/
theorem alternates_ofMarks {marks : List (Located Mark)}
    (hflat : ∀ t ∈ ofMarks marks, t.val ≠ .opening ∧ t.val ≠ .closing) :
    Alternates (ofMarks marks) := by
  refine (isChain_ofMarks marks).imp_of_mem_imp ?_
  rintro ⟨pos, t⟩ ⟨place, next⟩ ht hnext hnumbers hends
  -- The only neighbours in question are two numbers, as there are no parentheses.
  cases t with
  | number v =>
      cases next with
      | number w => exact absurd ⟨rfl, rfl⟩ hnumbers
      | opening => exact absurd rfl (hflat _ hnext).1
      | operator op => rfl
      | closing => rfl
      | foreign c => rfl
  | closing => exact absurd rfl (hflat _ ht).2
  | operator op => cases hends
  | opening => cases hends
  | foreign c => cases hends

end Token

/-! ### What a check takes in -/

namespace Check

variable {limit : UInt8}

/-- Behind a digit a check goes on to the end of the number, and knows that a digit is the last
symbol. -/
theorem exists_foldlM_afterDigits (marks : List (Located Mark)) :
    ∀ {k k' : Check}, k.last.any (·.val.isDigit) = true →
      marks.foldlM (read limit) k = .ok k' →
        ∃ mid : Check, mid.last.any (·.val.isDigit) = true ∧
          (Token.afterDigits marks).foldlM (read limit) mid = .ok k' := by
  fun_induction Token.afterDigits marks with
  | case1 pos d marks ih =>
      intro k k' _ h
      obtain ⟨next, hread, hrest⟩ := exists_of_foldlM_cons_eq_ok h
      obtain ⟨-, -, rfl⟩ := read_digit_eq_ok_iff.1 hread
      exact ih rfl hrest
  | case2 marks =>
      intro k k' hlast h
      exact ⟨k, hlast, h⟩

/-- The tokens of marks that a check takes in alternate, and go on from an operand with what
starts none. No number is broken off: behind a digit no digit is to come. -/
theorem alternates_of_foldlM_eq_ok (marks : List (Located Mark)) :
    ∀ {k k' : Check}, marks.foldlM (read limit) k = .ok k' →
      (k.last.any (·.val.isDigit) = true → Token.leadingDigits marks = []) →
        Token.Alternates (Token.ofMarks marks) ∧
          (k.endsOperand = true →
            ∀ t ∈ (Token.ofMarks marks).head?, t.val.startsOperand = false) := by
  -- The induction is on the tokens, which take a number as a whole. A check reads its digits.
  fun_induction Token.ofMarks marks with
  | case1 =>
      intro k k' _ _
      exact ⟨.nil, by simp⟩
  | case2 pos d marks ih =>
      intro k k' h hnumber
      obtain ⟨next, hread, hrest⟩ := exists_of_foldlM_cons_eq_ok h
      obtain ⟨hclosing, -, rfl⟩ := read_digit_eq_ok_iff.1 hread
      obtain ⟨mid, hmid, hafter⟩ := exists_foldlM_afterDigits marks rfl hrest
      obtain ⟨hchain, hhead⟩ := ih hafter fun _ => Token.leadingDigits_afterDigits marks
      refine ⟨List.isChain_cons.2 ⟨fun t ht _ => ?_, hchain⟩, ?_⟩
      · refine hhead ?_ t ht
        rw [endsOperand_eq, hmid]
        rfl
      · intro hends
        -- Neither a digit nor a `)` can be in front of a number.
        have hdigit : k.last.any (·.val.isDigit) = true := by
          rwa [endsOperand_eq, hclosing, Bool.or_false] at hends
        cases hnumber hdigit
  | case3 pos op marks ih =>
      intro k k' h _
      obtain ⟨next, hread, hrest⟩ := exists_of_foldlM_cons_eq_ok h
      obtain ⟨-, rfl⟩ := read_operator_eq_ok_iff.1 hread
      obtain ⟨hchain, -⟩ := ih hrest (by simp [Symbol.isDigit])
      exact ⟨List.isChain_cons.2 ⟨by simp [Token.endsOperand], hchain⟩, by
        simp [Token.startsOperand]⟩
  | case4 pos marks ih =>
      intro k k' h _
      obtain ⟨next, hread, hrest⟩ := exists_of_foldlM_cons_eq_ok h
      obtain ⟨hends, rfl⟩ := read_opening_eq_ok_iff.1 hread
      obtain ⟨hchain, -⟩ := ih hrest (by simp [Symbol.isDigit])
      exact ⟨List.isChain_cons.2 ⟨by simp [Token.endsOperand], hchain⟩, by simp [hends]⟩
  | case5 pos marks ih =>
      intro k k' h _
      obtain ⟨next, hread, hrest⟩ := exists_of_foldlM_cons_eq_ok h
      obtain ⟨-, opened, outer, -, rfl⟩ := read_closing_eq_ok_iff.1 hread
      obtain ⟨hchain, hhead⟩ := ih hrest (by simp [Symbol.isDigit])
      exact ⟨List.isChain_cons.2 ⟨fun t ht _ => hhead rfl t ht, hchain⟩, by
        simp [Token.startsOperand]⟩
  | case6 pos c marks ih =>
      intro k k' h _
      cases h

/-- The tokens of a text that a check takes in alternate. -/
theorem alternates_of_ofMarks_eq_ok {marks : List (Located Mark)} {k : Check}
    (h : ofMarks limit marks = .ok k) : Token.Alternates (Token.ofMarks marks) :=
  (alternates_of_foldlM_eq_ok marks h (by simp)).1

end Check

/-! ### The operands of an evaluation -/

namespace Stacks

variable {before : List (Located Token)} {ctx : Context} {s : Stacks}

/-- Whether tokens end in an operand. -/
def endsInOperand (tokens : List (Located Token)) : Bool :=
  tokens.getLast?.any (·.val.endsOperand)

/-- Tokens end in an operand when the last of them ends one. -/
@[simp] theorem endsInOperand_append_singleton (tokens : List (Located Token))
    (t : Located Token) : endsInOperand (tokens ++ [t]) = t.val.endsOperand := by
  simp [endsInOperand]

/-- Where a sum starts, no operand is in front. -/
theorem Reaches.endsInOperand_of_start (h : Reaches before .start s) :
    endsInOperand before = false := by
  cases h with
  | start => rfl
  | step _ htakes =>
      rw [endsInOperand_append_singleton]
      cases htakes <;> rfl

/-- What starts an operand has none in front of it. -/
theorem endsInOperand_eq_false {t : Located Token} (h : Token.Alternates (before ++ [t]))
    (hstarts : t.val.startsOperand = true) : endsInOperand before = false := by
  have hlast := (List.isChain_append.1 h).2.2
  rw [endsInOperand, Option.any_eq_false]
  intro last hmem
  cases hends : last.val.endsOperand with
  | false => simp
  | true =>
      have hnot := hlast last hmem t (by simp) hends
      cases hstarts.symm.trans hnot

/-- At any point of an evaluation there are no more operands than operators that wait, and one
more behind an operand. -/
theorem Reaches.operands_le (h : Reaches before ctx s) (halt : Token.Alternates before) :
    s.operands.length ≤ operatorCount s.waiting + (endsInOperand before).toNat := by
  induction h with
  | start => exact Nat.zero_le _
  | @step before ctx ctx' s s' t hreaches htakes ih =>
      have hbefore := ih halt.of_append
      have hfree := endsInOperand_eq_false halt
      rw [endsInOperand_append_singleton]
      -- An operand is new only where none is in front, which is what alternation says.
      cases htakes with
      | number pos v =>
          rw [hfree rfl] at hbefore
          simpa [Token.endsOperand] using hbefore
      | signedNumber op place pos v =>
          rw [hfree rfl] at hbefore
          simpa [Token.endsOperand] using hbefore
      | signedBase op place pos v =>
          rw [hfree rfl] at hbefore
          simpa [Token.endsOperand, operatorCount] using hbefore
      | opening pos =>
          rw [hfree rfl] at hbefore
          simpa [Token.endsOperand, operatorCount] using hbefore
      | signedOpening op place pos =>
          rw [hfree rfl] at hbefore
          simpa [Token.endsOperand, operatorCount] using hbefore
      | closing pos place _ hsettle hw =>
          -- For each operator that is settled there is one operand less.
          have hsettled := (settledFrom_of_settle_eq_ok hsettle).count
          have hone := Bool.toNat_le (endsInOperand before)
          rw [hw, operatorCount] at hsettled
          simp only [Token.endsOperand, Bool.toNat_true]
          omega
      | sign pos hop =>
          rw [hreaches.endsInOperand_of_start] at hbefore
          exact hbefore
      | operator pos _ hsettle =>
          have hsettled := (settledFrom_of_settle_eq_ok hsettle).count
          have hone := Bool.toNat_le (endsInOperand before)
          simp only [Token.endsOperand, Bool.toNat_false, operatorCount]
          omega

/-- The operands are at most one more than the operators that wait. -/
theorem Reaches.operands_le_add_one (h : Reaches before ctx s) (halt : Token.Alternates before) :
    s.operands.length ≤ operatorCount s.waiting + 1 := by
  have hoperands := h.operands_le halt
  have hone := Bool.toNat_le (endsInOperand before)
  omega

end Stacks

end Reckoner
