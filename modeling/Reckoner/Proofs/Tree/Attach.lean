import Reckoner.Grammar

/-!
# `Reckoner.Proofs.Tree.Attach`: a tree that its text goes on behind

When an operator and an atom follow a text that is read as a tree, the new text is read
as the old tree with the new operator in it. `Tree.attach` finds the place: it goes down
on the right for as long as the new operator takes the value away from the one that is
there. That is the rule for two operators around a value, `Operator.bindsBefore`, and no
other.

* `Tree.spell_attach`, `Tree.mostDigits_attach`: the new tree says what the old one and
  the atom say.
* `Derives.attach`: the new tree is of the old one's kind, if trees of that kind can hold
  the operator outside of parentheses.
-/

set_option autoImplicit false

namespace Reckoner

namespace Tree

/-- A tree with an operator and an operand behind it. -/
def attach (t : Tree) (op : Located Operator) (operand : Tree) : Tree :=
  match t with
  | binary left o right =>
    if o.val.bindsBefore op.val then binary (binary left o right) op operand
    else binary left o (right.attach op operand)
  | signed sign t =>
    -- A sign multiplies.
    if Operator.mul.bindsBefore op.val then binary (signed sign t) op operand
    else signed sign (t.attach op operand)
  | t => binary t op operand

/-- How tightly the outermost operator of a tree binds. -/
def outerPrecedence : Tree → Nat
  | number _ _ | group _ _ _ => 4
  | signed _ _ => Operator.mul.precedence
  | binary _ op _ => op.val.precedence

/-- Attaching an operator and its operand writes both behind the text of the tree. -/
theorem spell_attach (t : Tree) (op : Located Operator) (operand : Tree) :
    (t.attach op operand).spell = t.spell ++ op.map .operator :: operand.spell := by
  -- Along the right edge of the tree, where the operand goes down.
  induction t with
  | number => rfl
  | group => rfl
  | signed sign t ih =>
      rw [attach]
      split
      · rfl
      · rw [spell, ih]
        rfl
  | binary left o right _ ih =>
      rw [attach]
      split
      · rfl
      · rw [spell, ih, spell, List.append_assoc]
        rfl

/-- The longest number of the new tree is the longest one of either part. -/
theorem mostDigits_attach (t : Tree) (op : Located Operator) (operand : Tree) :
    (t.attach op operand).mostDigits = max t.mostDigits operand.mostDigits := by
  induction t with
  | number => rfl
  | group => rfl
  | signed sign t ih =>
      rw [attach]
      split
      · rfl
      · exact ih
  | binary left o right _ ih =>
      rw [attach]
      split
      · rfl
      · rw [mostDigits, ih, mostDigits, Nat.max_assoc]

/-- An operator that leaves the whole tree to the outermost operator goes around it. -/
theorem attach_eq_binary {t : Tree} {op : Located Operator} {n : Nat}
    (hop : n = op.val.precedence) (hn : n < 3) (h : n ≤ t.outerPrecedence) (operand : Tree) :
    t.attach op operand = binary t op operand := by
  subst hop
  cases t with
  | number => rfl
  | group => rfl
  | signed sign t => exact if_pos (Operator.bindsBefore_of_le h hn)
  | binary left o right => exact if_pos (Operator.bindsBefore_of_le h hn)

/-- A tighter operator goes into the right operand. -/
theorem attach_binary_of_lt {left right : Tree} {o op : Located Operator}
    (h : o.val.precedence < op.val.precedence) (operand : Tree) :
    (binary left o right).attach op operand = binary left o (right.attach op operand) := by
  have hnot : ¬ o.val.bindsBefore op.val = true := by
    simp [Operator.bindsBefore_of_lt h]
  exact if_neg hnot

/-- A `^` goes into the operand of a sign. -/
theorem attach_signed_of_lt {sign op : Located Operator} {t : Tree}
    (h : Operator.mul.precedence < op.val.precedence) (operand : Tree) :
    (signed sign t).attach op operand = signed sign (t.attach op operand) := by
  have hnot : ¬ Operator.mul.bindsBefore op.val = true := by
    simp [Operator.bindsBefore_of_lt h]
  exact if_neg hnot

end Tree

/-- A tree of a kind holds only operators that are tight enough for the kind. -/
theorem Derives.tightness_le {c : Category} {t : Tree} (h : Derives c t) :
    c.tightness ≤ t.outerPrecedence := by
  induction h with
  | number => exact Nat.le_refl _
  | group => exact Nat.le_refl _
  | powerAtom _ ih => exact Nat.le_of_succ_le ih
  | powerChain => exact Nat.le_refl _
  | termPower _ ih => exact Nat.le_of_succ_le ih
  | termChain _ hop => exact Nat.le_of_eq hop.symm
  | firstPower _ ih => exact Nat.le_of_succ_le ih
  | firstSigned => exact Nat.le_refl _
  | firstChain _ hop => exact Nat.le_of_eq hop.symm
  | sumFirst _ ih => exact Nat.le_of_succ_le ih
  | sumChain _ hop => exact Nat.le_of_eq hop.symm

/-- Around a tree an operator makes a chain of the tree's kind, when it is the loosest that
the kind can hold. -/
theorem Derives.attach_whole {c : Category} {t operand : Tree} {op : Located Operator}
    (h : Derives c t) (hop : c.tightness = op.val.precedence) (hc : c.tightness < 3)
    (hchain : Derives c (.binary t op operand)) : Derives c (t.attach op operand) := by
  rw [Tree.attach_eq_binary hop hc h.tightness_le]
  exact hchain

/-- What a text says that goes on behind a derivation is a derivation of the same kind. -/
theorem Derives.attach {c : Category} {t operand : Tree} {op : Located Operator}
    (h : Derives c t) (ha : Derives .atom operand) (hop : c.tightness ≤ op.val.precedence) :
    Derives c (t.attach op operand) := by
  have hpower : Derives .power operand := .powerAtom ha
  -- No operator is as tight as an atom asks for.
  have hloose : ¬ 4 ≤ op.val.precedence := Nat.not_le.2 (Nat.lt_succ_of_le op.val.precedence_le)
  induction h with
  | number => exact absurd hop hloose
  | group => exact absurd hop hloose
  | powerAtom hb =>
      obtain ⟨pos, op⟩ := op
      cases Operator.eq_pow_of_le hop
      cases hb with
      | number first others => exact .powerChain pos (.number _ _) hpower
      | group opened closed hbody => exact .powerChain pos (.group _ _ hbody) hpower
  | powerChain place hb he _ ih =>
      -- The `^` behind a chain of `^` goes on with the exponent.
      obtain ⟨pos, op⟩ := op
      cases Operator.eq_pow_of_le hop
      exact .powerChain place hb (ih hop)
  | termPower hp ih =>
      have ht : Derives .term _ := .termPower hp
      rcases Nat.eq_or_lt_of_le hop with heq | hlt
      · exact ht.attach_whole heq (by decide) (.termChain _ heq.symm ht hpower)
      · exact .termPower (ih hlt)
  | termChain o ho hl hr _ ih =>
      have ht : Derives .term _ := .termChain o ho hl hr
      rcases Nat.eq_or_lt_of_le hop with heq | hlt
      · exact ht.attach_whole heq (by decide) (.termChain _ heq.symm ht hpower)
      · rw [Tree.attach_binary_of_lt (ho ▸ hlt)]
        exact .termChain o ho hl (ih hlt)
  | firstPower hp ih =>
      have ht : Derives .first _ := .firstPower hp
      rcases Nat.eq_or_lt_of_le hop with heq | hlt
      · exact ht.attach_whole heq (by decide) (.firstChain _ heq.symm ht hpower)
      · exact .firstPower (ih hlt)
  | firstSigned sign hs hp ih =>
      have ht : Derives .first _ := .firstSigned sign hs hp
      rcases Nat.eq_or_lt_of_le hop with heq | hlt
      · exact ht.attach_whole heq (by decide) (.firstChain _ heq.symm ht hpower)
      · rw [Tree.attach_signed_of_lt hlt]
        exact .firstSigned sign hs (ih hlt)
  | firstChain o ho hl hr _ ih =>
      have ht : Derives .first _ := .firstChain o ho hl hr
      rcases Nat.eq_or_lt_of_le hop with heq | hlt
      · exact ht.attach_whole heq (by decide) (.firstChain _ heq.symm ht hpower)
      · rw [Tree.attach_binary_of_lt (ho ▸ hlt)]
        exact .firstChain o ho hl (ih hlt)
  | sumFirst hf ih =>
      have ht : Derives .sum _ := .sumFirst hf
      rcases Nat.eq_or_lt_of_le hop with heq | hlt
      · exact ht.attach_whole heq (by decide) (.sumChain _ heq.symm ht (.termPower hpower))
      · exact .sumFirst (ih hlt)
  | sumChain o ho hl hr _ ih =>
      have ht : Derives .sum _ := .sumChain o ho hl hr
      rcases Nat.eq_or_lt_of_le hop with heq | hlt
      · exact ht.attach_whole heq (by decide) (.sumChain _ heq.symm ht (.termPower hpower))
      · rw [Tree.attach_binary_of_lt (ho ▸ hlt)]
        exact .sumChain o ho hl (ih hlt)

end Reckoner
