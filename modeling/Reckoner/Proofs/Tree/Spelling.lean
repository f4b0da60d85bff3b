import Reckoner.Grammar

/-!
# `Reckoner.Proofs.Tree.Spelling`: the texts that spell a tree

A text spells a tree when its characters, the spaces left out, are those that write the
tree's symbols. The tree knows the places of its symbols, and a text has its characters
at places, so there are two readings of this.

* `Tree.SpelledBy`: the characters stand at the places that the tree says.
* `Tree.chars`: the characters alone. `Derives.exists_spelledBy` shows that the places
  are no restriction: a derivation whose characters a text has can be put at the places
  of the text.
* `exists_ofText_marks_eq`: a text that spells a tree is a formula, and its marks are
  those of the tree.
-/

set_option autoImplicit false

namespace Reckoner

namespace Tree

/-- The marks that the symbols of a tree leave in a text. -/
def marks (t : Tree) : List (Located Mark) :=
  t.spell.map (Located.map Mark.symbol)

/-- The characters that a tree is written with. -/
def chars (t : Tree) : List Char :=
  t.spell.map fun s => s.val.toChar

/-- A text spells a tree when its characters other than spaces are those that the tree is
written with, each at the place that the tree says. -/
def SpelledBy (t : Tree) (text : String) : Prop :=
  unspaced 0 text.toList = t.spell.map (Located.map Symbol.toChar)

/-- No tree is spelled by the empty text. -/
theorem spell_ne_nil (t : Tree) : t.spell ≠ [] := by
  cases t with
  | number first others => exact List.cons_ne_nil _ _
  | group opened body closed => exact List.cons_ne_nil _ _
  | signed sign operand => exact List.cons_ne_nil _ _
  | binary left op right => simp [spell]

end Tree

/-! ### Texts and their characters -/

/-- What is read of a text, places aside, is the text without its spaces. -/
theorem map_val_unspaced (start : Nat) (text : List Char) :
    (unspaced start text).map Located.val = text.filter (· ≠ ' ') := by
  induction text generalizing start with
  | nil => rfl
  | cons c text ih =>
      by_cases h : c = ' '
      · rw [unspaced_cons, if_pos h, ih]
        simp [h]
      · rw [unspaced_cons, if_neg h, List.map_cons, ih]
        simp [h]

/-- The marks of a formula are those of a tree exactly when its text spells the tree. -/
theorem marks_eq_iff {f : Formula} {t : Tree} : f.marks = t.marks ↔ t.SpelledBy f.text := by
  constructor
  · intro h
    have hchars : f.marks.map (Located.map Mark.toChar) = f.chars := by
      simp [Formula.marks, Located.map, Function.comp_def]
    show f.chars = _
    rw [← hchars, h, Tree.marks, List.map_map]
    rfl
  · intro h
    have hmark : ∀ s : Symbol, Mark.ofChar s.toChar = .symbol s := by
      intro s
      exact Mark.ofChar_eq_symbol_iff.2 rfl
    show (unspaced 0 f.text.toList).map _ = _
    rw [h, Tree.marks, List.map_map]
    simp [Located.map, hmark, Function.comp_def]

/-- A text that spells a tree is a formula with the tree's marks. -/
theorem exists_ofText_marks_eq {text : String} {t : Tree} (h : t.SpelledBy text) :
    ∃ f, Formula.ofText text = .ok f ∧ f.marks = t.marks := by
  cases hf : Formula.ofText text with
  | ok f =>
      have htext := Formula.ofText_eq_ok_iff.1 hf
      exact ⟨f, rfl, marks_eq_iff.2 (htext ▸ h)⟩
  | error e =>
      -- Only spaces leave no character, and a tree has one.
      have hspaces := (Formula.ofText_eq_error_iff.1 hf).2
      have hnone : (unspaced 0 text.toList).length = 0 := by
        rw [Formula.length_unspaced, List.countP_eq_zero]
        intro c hc
        simp [hspaces c hc]
      rw [h, List.length_map, List.length_eq_zero_iff] at hnone
      exact absurd hnone t.spell_ne_nil

/-! ### Places

A derivation stays one of its kind wherever its symbols are put. The induction is over the
kinds, so the statement is about all places that its symbols could have. -/

/-- Things can be put at other places. Where they stand plays no part in what `f` makes of
them. -/
theorem exists_moved {α β : Type} (f : α → β) (xs : List (Located α)) :
    ∀ ys : List (Located β), ys.map Located.val = (xs.map (Located.map f)).map Located.val →
      ∃ moved : List (Located α), moved.map (Located.map f) = ys ∧
        moved.map Located.val = xs.map Located.val := by
  induction xs with
  | nil =>
      intro ys h
      exact ⟨[], (List.map_eq_nil_iff.1 h).symm, rfl⟩
  | cons x xs ih =>
      intro ys h
      obtain ⟨⟨pos, y⟩, rest, rfl, hy, hrest⟩ := List.map_eq_cons_iff.1 h
      obtain ⟨moved, rfl, hvals⟩ := ih rest hrest
      subst hy
      have hvals' : (⟨pos, x.val⟩ :: moved : List (Located α)).map Located.val
          = (x :: xs).map Located.val := by
        rw [List.map_cons, List.map_cons, hvals]
      exact ⟨⟨pos, x.val⟩ :: moved, rfl, hvals'⟩

/-- Wherever the symbols of a tree are put, they spell a derivation of a kind whose numbers
are no longer than those of the tree. -/
def Tree.MovesWithin (c : Category) (t : Tree) : Prop :=
  ∀ symbols : List (Located Symbol), symbols.map Located.val = t.spell.map Located.val →
    ∃ t', Derives c t' ∧ t'.spell = symbols ∧ t'.mostDigits = t.mostDigits

/-- A number can be moved to other places, digit by digit. -/
theorem movesWithin_number (first : Located (Fin 10)) (others : List (Located (Fin 10))) :
    Tree.MovesWithin .atom (.number first others) := by
  intro symbols h
  obtain ⟨⟨pos, s⟩, rest, rfl, hs, hrest⟩ := List.map_eq_cons_iff.1 h
  obtain ⟨moved, rfl, hvals⟩ := exists_moved Symbol.digit others rest hrest
  subst hs
  have hlength : moved.length = others.length := by
    simpa using congrArg List.length hvals
  refine ⟨.number ⟨pos, first.val⟩ moved, .number _ _, rfl, ?_⟩
  rw [Tree.mostDigits, Tree.mostDigits, hlength]

/-- A group can be moved where its body can. -/
theorem movesWithin_group {body : Tree} (opened closed : Nat)
    (hb : body.MovesWithin .sum) : Tree.MovesWithin .atom (.group opened body closed) := by
  intro symbols h
  rw [Tree.spell, List.map_append, List.map_cons, List.cons_append] at h
  obtain ⟨⟨opos, o⟩, rest, rfl, ho, hrest⟩ := List.map_eq_cons_iff.1 h
  obtain ⟨inner, last, rfl, hinner, hlast⟩ := List.map_eq_append_iff.1 hrest
  obtain ⟨⟨epos, e⟩, none, rfl, he, hnone⟩ := List.map_eq_cons_iff.1 hlast
  obtain ⟨body', hbody', rfl, hmost⟩ := hb inner hinner
  subst ho he
  refine ⟨.group opos body' epos, .group _ _ hbody', ?_, hmost⟩
  rw [List.map_eq_nil_iff.1 hnone]
  rfl

/-- A signed operand can be moved where the operand can. -/
theorem movesWithin_signed {operand : Tree} (sign : Located Operator)
    (hs : sign.val.isSign = true) (hp : operand.MovesWithin .power) :
    Tree.MovesWithin .first (.signed sign operand) := by
  intro symbols h
  obtain ⟨⟨pos, s⟩, rest, rfl, hval, hrest⟩ := List.map_eq_cons_iff.1 h
  obtain ⟨operand', hoperand', rfl, hmost⟩ := hp rest hrest
  subst hval
  have hmoved : Derives .first (.signed ⟨pos, sign.val⟩ operand') :=
    .firstSigned ⟨pos, sign.val⟩ hs hoperand'
  exact ⟨.signed ⟨pos, sign.val⟩ operand', hmoved, rfl, hmost⟩

/-- Chains move part by part. The kinds of chains differ only in the rule that puts the
moved parts together. -/
theorem movesWithin_binary {c l r : Category} {left right : Tree} {op : Located Operator}
    (hl : left.MovesWithin l) (hr : right.MovesWithin r)
    (build : ∀ (left right : Tree) (pos : Nat), Derives l left → Derives r right →
      Derives c (.binary left ⟨pos, op.val⟩ right)) :
    Tree.MovesWithin c (.binary left op right) := by
  intro symbols h
  rw [Tree.spell, List.map_append, List.map_cons] at h
  obtain ⟨xs, tail, rfl, hxs, htail⟩ := List.map_eq_append_iff.1 h
  obtain ⟨⟨pos, s⟩, ys, rfl, hs, hys⟩ := List.map_eq_cons_iff.1 htail
  obtain ⟨left', hleft', rfl, hlmost⟩ := hl xs hxs
  obtain ⟨right', hright', rfl, hrmost⟩ := hr ys hys
  subst hs
  refine ⟨.binary left' ⟨pos, op.val⟩ right', build left' right' pos hleft' hright', rfl, ?_⟩
  rw [Tree.mostDigits, Tree.mostDigits, hlmost, hrmost]

/-- What is moved within one category is moved within every category that contains it. -/
theorem Tree.MovesWithin.imp {c d : Category} {t : Tree} (h : t.MovesWithin c)
    (hcd : ∀ t, Derives c t → Derives d t) : t.MovesWithin d := by
  intro symbols hs
  obtain ⟨t', ht', heq⟩ := h symbols hs
  exact ⟨t', hcd t' ht', heq⟩

/-- Every derived tree can be moved to other places without leaving its category. -/
theorem movesWithin_of_derives {c : Category} {t : Tree} (h : Derives c t) :
    t.MovesWithin c := by
  -- One case for each rule; what is left of a case is which rule puts the moved parts together.
  induction h with
  | number first others => exact movesWithin_number first others
  | group opened closed _ ih => exact movesWithin_group opened closed ih
  | powerAtom _ ih => exact ih.imp fun _ => .powerAtom
  | powerChain _ _ _ ihb ihe =>
      exact movesWithin_binary ihb ihe fun _ _ pos => .powerChain pos
  | termPower _ ih => exact ih.imp fun _ => .termPower
  | termChain _ hop _ _ ihl ihr =>
      exact movesWithin_binary ihl ihr fun _ _ pos => .termChain ⟨pos, _⟩ hop
  | firstPower _ ih => exact ih.imp fun _ => .firstPower
  | firstSigned sign hs _ ih => exact movesWithin_signed sign hs ih
  | firstChain _ hop _ _ ihl ihr =>
      exact movesWithin_binary ihl ihr fun _ _ pos => .firstChain ⟨pos, _⟩ hop
  | sumFirst _ ih => exact ih.imp fun _ => .sumFirst
  | sumChain _ hop _ _ ihl ihr =>
      exact movesWithin_binary ihl ihr fun _ _ pos => .sumChain ⟨pos, _⟩ hop

/-- A text that has the characters of a derivation spells a derivation of the same kind,
with numbers as long. -/
theorem Derives.exists_spelledBy {c : Category} {t : Tree} (h : Derives c t) {text : String}
    (ht : t.chars = text.toList.filter (· ≠ ' ')) :
    ∃ t', Derives c t' ∧ t'.SpelledBy text ∧ t'.mostDigits = t.mostDigits := by
  have hchars : (unspaced 0 text.toList).map Located.val
      = (t.spell.map (Located.map Symbol.toChar)).map Located.val := by
    rw [map_val_unspaced, ← ht, List.map_map]
    rfl
  obtain ⟨symbols, hsymbols, hvals⟩ := exists_moved Symbol.toChar t.spell _ hchars
  obtain ⟨t', ht', hspell, hmost⟩ := movesWithin_of_derives h symbols hvals
  refine ⟨t', ht', ?_, hmost⟩
  rw [Tree.SpelledBy, hspell, hsymbols]

/-- The characters of a tree are those of a text that spells it, without the spaces. -/
theorem Tree.SpelledBy.chars_eq {t : Tree} {text : String} (h : t.SpelledBy text) :
    t.chars = text.toList.filter (· ≠ ' ') := by
  rw [← map_val_unspaced 0, h, List.map_map]
  rfl

end Reckoner
