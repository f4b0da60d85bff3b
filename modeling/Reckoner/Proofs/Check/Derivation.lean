import Reckoner.Proofs.Check.Step
import Reckoner.Proofs.Tree.Words

/-!
# `Reckoner.Proofs.Check.Derivation`: a check takes in every derivation

The checking pass has eleven ways to refuse a text. None of them comes up on the marks of
a derivation whose numbers are short enough. The induction is on the derivation, over all
that may be known of the text in front of it: a derivation can stand behind anything that
awaits an operand (`Check.AwaitsOperand`), and one that may start with a sign only where a
sum starts (`Check.AtStart`). Behind it the text ends in an operand, and the innermost open
group has a digit in it.

* `Check.Takes`: the statement that goes through by induction.
* `Check.takes_of_derives`: it holds of every derivation.
* `Formula.check_eq_ok`: a formula with the marks of a sum is accepted.
-/

set_option autoImplicit false

namespace Reckoner

namespace Check

variable {limit : UInt8}

/-- The marks of a tree are taken in wherever a tree of a kind may stand. -/
def Takes (limit : UInt8) (c : Category) (t : Tree) : Prop :=
  ∀ k : Check, k.AwaitsOperand → (c.takesSign = true → k.AtStart) →
    ∃ k', t.marks.foldlM (read limit) k = .ok k' ∧ k'.endsOperand = true ∧
      k'.opened = noteDigit k.opened

/-- What no sign may start can stand wherever what one may start can. -/
theorem Takes.mono {c d : Category} {t : Tree} (h : Takes limit c t)
    (hc : c.takesSign = false) : Takes limit d t := by
  intro k hk _
  exact h k hk (fun hsign => absurd (hc.symm.trans hsign) Bool.false_ne_true)

/-! ### Numbers -/

/-- Behind a digit, more digits are taken in as long as the number is not too long. -/
theorem foldlM_read_digitMarks (digits : List (Located (Fin 10))) :
    ∀ k : Check, (∃ pos d, k.last = some ⟨pos, .digit d⟩) → noteDigit k.opened = k.opened →
      k.digits + digits.length ≤ limit.toNat →
      ∃ k', (Tree.digitMarks digits).foldlM (read limit) k = .ok k' ∧ k'.endsOperand = true ∧
        k'.opened = k.opened := by
  induction digits with
  | nil =>
      rintro k ⟨pos, d, hlast⟩ _ _
      refine ⟨k, rfl, ?_, rfl⟩
      rw [endsOperand, hlast]
      rfl
  | cons d digits ih =>
      rintro k ⟨pos, d', hlast⟩ hnoted hshort
      rw [List.length_cons] at hshort
      have hstep : k.read limit ⟨d.pos, .symbol (.digit d.val)⟩
          = .ok ⟨some ⟨d.pos, .digit d.val⟩, k.digits + 1, noteDigit k.opened⟩ := by
        have hclosing : k.last.any (·.val.isClosing) = false := by
          rw [hlast]
          rfl
        exact read_digit_eq_ok_iff.2 ⟨hclosing, by omega, rfl⟩
      have hroom : k.digits + 1 + digits.length ≤ limit.toNat := by omega
      obtain ⟨k', hrun, hends, hopened⟩ :=
        ih ⟨some ⟨d.pos, .digit d.val⟩, k.digits + 1, noteDigit k.opened⟩ ⟨_, _, rfl⟩
          (noteDigit_noteDigit _) hroom
      refine ⟨k', ?_, hends, hopened.trans hnoted⟩
      show (k.read limit ⟨d.pos, .symbol (.digit d.val)⟩ >>= _) = _
      rw [hstep, ok_bind]
      exact hrun

/-- A number within the limit is taken in digit by digit. The first digit stands where an operand
may begin, and the others stand behind a digit. -/
theorem takes_number (first : Located (Fin 10)) (others : List (Located (Fin 10)))
    (hshort : others.length + 1 ≤ limit.toNat) :
    Takes limit .atom (.number first others) := by
  intro k hk _
  have hstep : k.read limit ⟨first.pos, .symbol (.digit first.val)⟩
      = .ok ⟨some ⟨first.pos, .digit first.val⟩, k.digits + 1, noteDigit k.opened⟩ := by
    have hnone := hk.digits
    exact read_digit_eq_ok_iff.2 ⟨hk.not_closing, by omega, rfl⟩
  -- The first digit counts too, so there is room for the others behind it.
  have hroom : k.digits + 1 + others.length ≤ limit.toNat := by
    have hnone := hk.digits
    omega
  obtain ⟨k', hrun, hends, hopened⟩ := foldlM_read_digitMarks others
    ⟨some ⟨first.pos, .digit first.val⟩, k.digits + 1, noteDigit k.opened⟩ ⟨_, _, rfl⟩
    (noteDigit_noteDigit _) hroom
  refine ⟨k', ?_, hends, hopened⟩
  rw [Tree.marks_number, List.foldlM_cons, hstep, ok_bind]
  exact hrun

/-! ### Groups, signs and chains -/

/-- A group is taken in where an operand may begin, since its inside is at a start of its own. It
leaves the groups around it as they were, with a digit noted. -/
theorem takes_group {body : Tree} (opened closed : Nat) (hb : Takes limit .sum body) :
    Takes limit .atom (.group opened body closed) := by
  intro k hk _
  have hopening : k.read limit ⟨opened, .symbol .opening⟩
      = .ok ⟨some ⟨opened, .opening⟩, 0, ⟨opened, false⟩ :: k.opened⟩ :=
    read_opening_eq_ok_iff.2 ⟨hk.endsOperand, rfl⟩
  have hstart : AtStart ⟨some ⟨opened, .opening⟩, 0, ⟨opened, false⟩ :: k.opened⟩ :=
    ⟨rfl, .inr ⟨opened, rfl⟩⟩
  obtain ⟨inner, hrun, hends, hinner⟩ := hb _ hstart.awaitsOperand fun _ => hstart
  have hclosing : inner.read limit ⟨closed, .symbol .closing⟩
      = .ok ⟨some ⟨closed, .closing⟩, 0, noteDigit k.opened⟩ :=
    read_closing_eq_ok_iff.2
      ⟨last_ne_operator_of_endsOperand hends, opened, k.opened, hinner, rfl⟩
  -- The digit in the group counts for the group around it, which is open again.
  refine ⟨⟨some ⟨closed, .closing⟩, 0, noteDigit k.opened⟩, ?_, rfl, rfl⟩
  rw [Tree.marks_group, List.cons_append, List.foldlM_cons, hopening, ok_bind,
    List.foldlM_append, hrun, ok_bind, List.foldlM_cons, hclosing]
  rfl

/-- A sign is taken in at a start, and behind it the operand has an operator in front of it, where
no further sign may stand. -/
theorem takes_signed {operand : Tree} (sign : Located Operator) (hs : sign.val.isSign = true)
    (hp : Takes limit .power operand) : Takes limit .first (.signed sign operand) := by
  intro k _ hstart
  have hleft : k.hasLeftOperand sign.val = true :=
    ((hstart rfl).hasLeftOperand_eq sign.val).trans hs
  have hsign : k.read limit ⟨sign.pos, .symbol (.operator sign.val)⟩
      = .ok ⟨some ⟨sign.pos, .operator sign.val⟩, 0, k.opened⟩ :=
    read_operator_eq_ok_iff.2 ⟨hleft, rfl⟩
  -- The kind of the operand has no signs, so nothing is asked about a start.
  obtain ⟨k', hrun, hend⟩ := hp ⟨some ⟨sign.pos, .operator sign.val⟩, 0, k.opened⟩
    ⟨rfl, rfl⟩ (fun h => absurd h Bool.false_ne_true)
  refine ⟨k', ?_, hend⟩
  rw [Tree.marks_signed, List.foldlM_cons, hsign, ok_bind, hrun]

/-- A chain is taken in where its left operand is. The right one stands behind an operator,
so it must not be one that may start with a sign. -/
theorem takes_binary {c l r : Category} {left right : Tree} (op : Located Operator)
    (hl : Takes limit l left) (hr : Takes limit r right)
    (hcl : l.takesSign = c.takesSign) (hcr : r.takesSign = false) :
    Takes limit c (.binary left op right) := by
  intro k hk hstart
  -- Behind the left operand the operator has one, and behind the operator an operand is due.
  obtain ⟨k₁, hleft, hends₁, hopened₁⟩ := hl k hk (hcl ▸ hstart)
  have hop : k₁.read limit ⟨op.pos, .symbol (.operator op.val)⟩
      = .ok ⟨some ⟨op.pos, .operator op.val⟩, 0, k₁.opened⟩ :=
    read_operator_eq_ok_iff.2 ⟨hasLeftOperand_of_endsOperand hends₁ _, rfl⟩
  obtain ⟨k₂, hright, hends₂, hopened₂⟩ := hr ⟨some ⟨op.pos, .operator op.val⟩, 0, k₁.opened⟩
    ⟨rfl, rfl⟩ (fun h => absurd (hcr.symm.trans h) Bool.false_ne_true)
  refine ⟨k₂, ?_, hends₂, ?_⟩
  · rw [Tree.marks_binary, List.foldlM_append, hleft, ok_bind, List.foldlM_cons, hop, ok_bind,
      hright]
  · rw [hopened₂, hopened₁, noteDigit_noteDigit]

/-! ### The induction -/

/-- The check takes in every derivation whose numbers are short enough. -/
theorem takes_of_derives {c : Category} {t : Tree} (h : Derives c t)
    (hshort : t.mostDigits ≤ limit.toNat) : Takes limit c t := by
  -- One case for each rule. A chain is short enough when both of its operands are.
  induction h with
  | number first others => exact takes_number first others hshort
  | group opened closed _ ih => exact takes_group opened closed (ih hshort)
  | powerAtom _ ih => exact (ih hshort).mono rfl
  | powerChain pos _ _ ihb ihe =>
      obtain ⟨hb, he⟩ := Nat.max_le.1 hshort
      exact takes_binary _ (ihb hb) (ihe he) rfl rfl
  | termPower _ ih => exact (ih hshort).mono rfl
  | termChain op _ _ _ ihl ihr =>
      obtain ⟨hl, hr⟩ := Nat.max_le.1 hshort
      exact takes_binary op (ihl hl) (ihr hr) rfl rfl
  | firstPower _ ih => exact (ih hshort).mono rfl
  | firstSigned sign hs _ ih => exact takes_signed sign hs (ih hshort)
  | firstChain op _ _ _ ihl ihr =>
      obtain ⟨hl, hr⟩ := Nat.max_le.1 hshort
      exact takes_binary op (ihl hl) (ihr hr) rfl rfl
  | sumFirst _ ih => exact ih hshort
  | sumChain op _ _ _ ihl ihr =>
      obtain ⟨hl, hr⟩ := Nat.max_le.1 hshort
      exact takes_binary op (ihl hl) (ihr hr) rfl rfl

end Check

/-- A formula with the marks of a sum is accepted when no number in it is too long. -/
theorem Formula.check_eq_ok {limit : UInt8} {f : Formula} {t : Tree} (h : Derives .sum t)
    (hf : f.marks = t.marks) (hshort : t.mostDigits ≤ limit.toNat) :
    f.check limit = .ok () := by
  have hstart : Check.AtStart {} := ⟨rfl, .inl rfl⟩
  -- No group is open in the end, as none was at the start.
  obtain ⟨k, hrun, hends, hopened⟩ :=
    Check.takes_of_derives h hshort {} hstart.awaitsOperand fun _ => hstart
  have hrun' : Check.ofMarks limit f.marks = .ok k := by rw [hf]; exact hrun
  rw [Formula.check, hrun', ok_bind, Check.conclude_of_endsOperand hends, hopened]
  rfl

end Reckoner
