import Reckoner.Proofs.Check.Derivation
import Reckoner.Proofs.Tree.Attach

/-!
# `Reckoner.Proofs.Check.Prefix`: what a check has read is the start of a sum

A check keeps the last symbol, a count of digits and a flag for each open group. That is
little, and yet it refuses everything that no sum starts with. This file says why: the
marks that it has taken in are always the start of a sum (`Prefix`), which is built up
along with the check and fixes what the check knows.

In front of the innermost open group there may be finished parts of the groups around it.
What is in such a part is a `Lead`: nothing, a sign, or a sum and an operator. A `(` turns
the lead at hand into that of an open group, and a `)` puts the group it closes behind the
lead of its group (`Lead.join`), where `Tree.attach` finds its place in the tree.

* `Prefix.exists_read`: one mark that is taken in.
* `Prefix.exists_ofMarks`: all marks that are.
* `checkText_eq_ok_iff`: a text is accepted exactly when a sum spells it whose numbers are
  not too long.
-/

set_option autoImplicit false

namespace Reckoner

/-! ### The start of a sum -/

/-- A sum of the grammar whose numbers have at most `limit` digits. -/
structure BoundedSum (limit : Nat) where
  tree : Tree
  derives : Derives .sum tree
  mostDigits_le : tree.mostDigits ≤ limit

/-- What stands in a text, or in a group, in front of an operand that is due. -/
inductive Lead (limit : Nat) where
  /-- Nothing. -/
  | start
  /-- A sign. -/
  | sign (op : Located Operator) (isSign : op.val.isSign = true)
  /-- A sum and an operator behind it. -/
  | chain (left : BoundedSum limit) (op : Located Operator)

/-- What has been read of the innermost open group, or of the text when none is open. -/
inductive Reading (limit : Nat) where
  /-- An operand is due. -/
  | due (lead : Lead limit)
  /-- The text ends in a number, to which more digits may come. -/
  | number (lead : Lead limit) (first : Located (Fin 10)) (others : List (Located (Fin 10)))
      (short : others.length + 1 ≤ limit)
  /-- The text ends in the `)` at a place. -/
  | closed (sum : BoundedSum limit) (pos : Nat)

/-- The start of a sum: the open groups, the innermost first, each with what stands in front
of its `(`, and what has been read of the innermost one. -/
structure Prefix (limit : Nat) where
  opened : List (Located (Lead limit))
  reading : Reading limit

variable {limit : Nat}

namespace Lead

/-- The symbols of a lead. -/
def spell : Lead limit → List (Located Symbol)
  | start => []
  | sign op _ => [op.map .operator]
  | chain left op => left.tree.spell ++ [op.map .operator]

/-- The last symbol of a lead, the operator that an operand is due behind. -/
def last : Lead limit → Option (Located Symbol)
  | start => none
  | sign op _ => some (op.map .operator)
  | chain _ op => some (op.map .operator)

/-- Whether there is a digit in a lead. -/
def hasDigit : Lead limit → Bool
  | start | sign _ _ => false
  | chain _ _ => true

/-- A lead with the operand that is due. -/
def join : Lead limit → Tree → Tree
  | start, operand => operand
  | sign op _, operand => .signed op operand
  | chain left op, operand => left.tree.attach op operand

/-- The operand comes behind the lead, wherever in the tree it is put. -/
theorem spell_join (lead : Lead limit) (operand : Tree) :
    (lead.join operand).spell = lead.spell ++ operand.spell := by
  cases lead with
  | start => rfl
  | sign op _ => rfl
  | chain left op =>
      show (left.tree.attach op operand).spell = _
      rw [Tree.spell_attach, spell, List.append_assoc]
      rfl

/-- The operand that is due makes a lead a sum. -/
theorem exists_sum_join (lead : Lead limit) {operand : Tree} (h : Derives .atom operand)
    (hshort : operand.mostDigits ≤ limit) :
    ∃ sum : BoundedSum limit, sum.tree = lead.join operand := by
  cases lead with
  | start =>
      have hsum : Derives .sum operand := .sumFirst (.firstPower (.powerAtom h))
      exact ⟨⟨operand, hsum, hshort⟩, rfl⟩
  | sign op hs =>
      have hsum : Derives .sum (.signed op operand) :=
        .sumFirst (.firstSigned op hs (.powerAtom h))
      exact ⟨⟨.signed op operand, hsum, hshort⟩, rfl⟩
  | chain left op =>
      -- Attaching needs an operator that a sum may take, and every operator is one.
      have htight : Category.sum.tightness ≤ op.val.precedence := by
        cases op.val <;> decide
      have hmost : (left.tree.attach op operand).mostDigits ≤ limit := by
        rw [Tree.mostDigits_attach]
        exact Nat.max_le.2 ⟨left.mostDigits_le, hshort⟩
      exact ⟨⟨left.tree.attach op operand, left.derives.attach h htight, hmost⟩, rfl⟩

end Lead

/-! A reading has the symbols of its group, and so it knows what the check knows of them. -/

namespace Reading

/-- The symbols that have been read of the innermost open group. -/
def spell : Reading limit → List (Located Symbol)
  | due lead => lead.spell
  | number lead first others _ => lead.spell ++ (Tree.number first others).spell
  | closed sum _ => sum.tree.spell

/-- Whether a digit has been read in a group. -/
def hasDigit : Reading limit → Bool
  | due lead => lead.hasDigit
  | number _ _ _ _ | closed _ _ => true

/-- How many digits the text ends in, as the check counts them. -/
def digits : Reading limit → Nat
  | number _ _ others _ => others.length + 1
  | due _ | closed _ _ => 0

/-- The symbol that has been read last. -/
def last : Reading limit → Option (Located Symbol)
  | due lead => lead.last
  | number _ first others _ => some ((others.getLastD first).map .digit)
  | closed _ pos => some ⟨pos, .closing⟩

/-- Where no operand is due, a sum has been read. -/
theorem exists_sum (reading : Reading limit) (h : ∀ lead, reading ≠ .due lead) :
    ∃ sum : BoundedSum limit, sum.tree.spell = reading.spell := by
  cases reading with
  | due lead => exact absurd rfl (h lead)
  | number lead first others short =>
      obtain ⟨sum, hsum⟩ := lead.exists_sum_join (.number first others) short
      refine ⟨sum, ?_⟩
      rw [hsum, Lead.spell_join]
      rfl
  | closed sum pos => exact ⟨sum, rfl⟩

end Reading

namespace Prefix

/-- The symbols of open groups, up to the innermost `(`. -/
def spellOpened : List (Located (Lead limit)) → List (Located Symbol)
  | [] => []
  | group :: outer => spellOpened outer ++ group.val.spell ++ [⟨group.pos, .opening⟩]

/-- The symbols that have been read of the whole text. -/
def spell (p : Prefix limit) : List (Located Symbol) :=
  spellOpened p.opened ++ p.reading.spell

/-- The open groups, with a digit in the innermost one or not. What is in front of a `(`
belongs to the group around it. -/
def flags : Bool → List (Located (Lead limit)) → List (Located Bool)
  | _, [] => []
  | hasDigit, group :: outer => ⟨group.pos, hasDigit⟩ :: flags group.val.hasDigit outer

/-- What a check knows behind the start of a sum. -/
def check (p : Prefix limit) : Check where
  last := p.reading.last.or (p.opened.head?.map fun group => ⟨group.pos, .opening⟩)
  digits := p.reading.digits
  opened := flags p.reading.hasDigit p.opened

/-- Nothing has been read, and an operand is due. -/
def empty : Prefix limit := ⟨[], .due .start⟩

/-- What a check notes of a digit is what the flags of a start say that has one. -/
theorem noteDigit_flags (hasDigit : Bool) (opened : List (Located (Lead limit))) :
    Check.noteDigit (flags hasDigit opened) = flags true opened := by
  cases opened with
  | nil => rfl
  | cons group outer => rfl

/-! ### One mark -/

section Read

variable {limit : UInt8}

/-- A digit starts the operand that is due, or it is one more of a number. -/
theorem exists_read_digit (p : Prefix limit.toNat) {pos : Nat} {d : Fin 10} {k : Check}
    (h : p.check.read limit ⟨pos, .symbol (.digit d)⟩ = .ok k) :
    ∃ p' : Prefix limit.toNat, p'.check = k ∧ p'.spell = p.spell ++ [⟨pos, .digit d⟩] := by
  obtain ⟨opened, reading⟩ := p
  obtain ⟨hclosing, hroom, rfl⟩ := Check.read_digit_eq_ok_iff.1 h
  have hnoted : ∀ seen, flags true opened = Check.noteDigit (flags seen opened) := by
    intro seen
    rw [noteDigit_flags]
  cases reading with
  | due lead =>
      refine ⟨⟨opened, .number lead ⟨pos, d⟩ [] hroom⟩, ?_, ?_⟩
      · show Check.mk (some ⟨pos, .digit d⟩) 1 (flags true opened) = _
        rw [hnoted lead.hasDigit]
        rfl
      · show spellOpened opened ++ (lead.spell ++ [⟨pos, .digit d⟩]) = _
        rw [← List.append_assoc]
        rfl
  | number lead first others short =>
      have hshort : (others ++ [(⟨pos, d⟩ : Located (Fin 10))]).length + 1 ≤ limit.toNat := by
        rw [List.length_append]
        exact hroom
      refine ⟨⟨opened, .number lead first (others ++ [⟨pos, d⟩]) hshort⟩, ?_, ?_⟩
      · simp [check, Reading.last, Reading.digits, Reading.hasDigit, Located.map, ← hnoted]
      · simp [spell, Reading.spell, Tree.spell, Located.map]
  | closed sum place => cases hclosing

/-- An operator is a sign at the start, and goes behind a sum anywhere else. -/
theorem exists_read_operator (p : Prefix limit.toNat) {pos : Nat} {op : Operator} {k : Check}
    (h : p.check.read limit ⟨pos, .symbol (.operator op)⟩ = .ok k) :
    ∃ p' : Prefix limit.toNat, p'.check = k ∧ p'.spell = p.spell ++ [⟨pos, .operator op⟩] := by
  obtain ⟨opened, reading⟩ := p
  obtain ⟨hleft, rfl⟩ := Check.read_operator_eq_ok_iff.1 h
  -- Where a sum has been read, it becomes the left operand.
  have behind : ∀ sum : BoundedSum limit.toNat, sum.tree.spell = reading.spell →
      reading.hasDigit = true → ∃ p' : Prefix limit.toNat,
        p'.check = ⟨some ⟨pos, .operator op⟩, 0, flags reading.hasDigit opened⟩ ∧
          p'.spell = spell ⟨opened, reading⟩ ++ [⟨pos, .operator op⟩] := by
    intro sum hsum hdigit
    refine ⟨⟨opened, .due (.chain sum ⟨pos, op⟩)⟩, ?_, ?_⟩
    · show Check.mk (some ⟨pos, .operator op⟩) 0 (flags true opened) = _
      rw [hdigit]
    · rw [spell, spell, List.append_assoc, ← hsum]
      rfl
  cases reading with
  | due lead =>
      cases lead with
      | start =>
          -- Nothing or a `(` is in front, and behind both there may only be a sign.
          have hsign : op.isSign = true := by
            cases opened with
            | nil => exact hleft
            | cons group outer => exact hleft
          refine ⟨⟨opened, .due (.sign ⟨pos, op⟩ hsign)⟩, rfl, ?_⟩
          rw [spell, spell, List.append_assoc]
          rfl
      -- Behind an operator there is no left operand.
      | sign => cases hleft
      | chain => cases hleft
  | number lead first others short =>
      obtain ⟨sum, hsum⟩ := Reading.exists_sum (.number lead first others short) (by simp)
      exact behind sum hsum rfl
  | closed sum place => exact behind sum rfl rfl

/-- A `(` opens a group where an operand is due. -/
theorem exists_read_opening (p : Prefix limit.toNat) {pos : Nat} {k : Check}
    (h : p.check.read limit ⟨pos, .symbol .opening⟩ = .ok k) :
    ∃ p' : Prefix limit.toNat, p'.check = k ∧ p'.spell = p.spell ++ [⟨pos, .opening⟩] := by
  obtain ⟨opened, reading⟩ := p
  obtain ⟨hends, rfl⟩ := Check.read_opening_eq_ok_iff.1 h
  cases reading with
  | due lead =>
      -- What was in front of the operand is now in front of the `(`.
      refine ⟨⟨⟨pos, lead⟩ :: opened, .due .start⟩, rfl, ?_⟩
      show spellOpened opened ++ lead.spell ++ [⟨pos, .opening⟩] ++ [] = _
      rw [List.append_nil]
      rfl
  | number lead first others short => cases hends
  | closed sum place => cases hends

/-- A `)` makes the sum of a group an operand of the group around it. -/
theorem exists_read_closing (p : Prefix limit.toNat) {pos : Nat} {k : Check}
    (h : p.check.read limit ⟨pos, .symbol .closing⟩ = .ok k) :
    ∃ p' : Prefix limit.toNat, p'.check = k ∧ p'.spell = p.spell ++ [⟨pos, .closing⟩] := by
  obtain ⟨opened, reading⟩ := p
  obtain ⟨hop, place, flagged, hopened, rfl⟩ := Check.read_closing_eq_ok_iff.1 h
  cases opened with
  | nil => cases hopened
  | cons group outer =>
      obtain ⟨⟨-, hdigit⟩, rfl⟩ :
          (group.pos = place ∧ reading.hasDigit = true) ∧
            flags group.val.hasDigit outer = flagged := by
        simpa [check, flags] using hopened
      -- A group with a digit in it that does not end in an operator has been read as a sum.
      have hdue : ∀ lead, reading ≠ .due lead := by
        rintro lead rfl
        cases lead with
        | start => cases hdigit
        | sign => cases hdigit
        | chain left op => exact hop _ _ rfl
      obtain ⟨sum, hsum⟩ := reading.exists_sum hdue
      -- The closed group is an atom, and so the operand that is due around it.
      obtain ⟨whole, hwhole⟩ := group.val.exists_sum_join
        (.group group.pos pos sum.derives) sum.mostDigits_le
      refine ⟨⟨outer, .closed whole pos⟩, ?_, ?_⟩
      · show Check.mk (some ⟨pos, .closing⟩) 0 (flags true outer) = _
        rw [noteDigit_flags]
      · show spellOpened outer ++ whole.tree.spell = _
        rw [hwhole, Lead.spell_join, Tree.spell, hsum]
        simp [spell, spellOpened]

/-- A mark that is taken in goes on with the start of a sum. -/
theorem exists_read (p : Prefix limit.toNat) {x : Located Mark} {k : Check}
    (h : p.check.read limit x = .ok k) :
    ∃ p' : Prefix limit.toNat, p'.check = k ∧
      p'.spell.map (Located.map Mark.symbol) = p.spell.map (Located.map Mark.symbol) ++ [x] := by
  obtain ⟨pos, m⟩ := x
  cases m with
  | foreign c => cases h
  | symbol s =>
      obtain ⟨p', hcheck, hspell⟩ : ∃ p' : Prefix limit.toNat,
          p'.check = k ∧ p'.spell = p.spell ++ [⟨pos, s⟩] := by
        cases s with
        | digit d => exact p.exists_read_digit h
        | operator op => exact p.exists_read_operator h
        | opening => exact p.exists_read_opening h
        | closing => exact p.exists_read_closing h
      refine ⟨p', hcheck, ?_⟩
      rw [hspell, List.map_append]
      rfl

/-! ### All marks -/

/-- Marks that are taken in go on with the start of a sum. -/
theorem exists_foldlM_read (marks : List (Located Mark)) :
    ∀ (p : Prefix limit.toNat) (k : Check), marks.foldlM (Check.read limit) p.check = .ok k →
      ∃ p' : Prefix limit.toNat, p'.check = k ∧
        p'.spell.map (Located.map Mark.symbol)
          = p.spell.map (Located.map Mark.symbol) ++ marks := by
  -- From mark to mark: a check behind a start of a sum goes on to be one behind a start.
  induction marks with
  | nil =>
      intro p k h
      cases h
      exact ⟨p, rfl, (List.append_nil _).symm⟩
  | cons x marks ih =>
      intro p k h
      obtain ⟨k₁, hread, hrest⟩ := exists_of_foldlM_cons_eq_ok h
      obtain ⟨p₁, rfl, hspell₁⟩ := p.exists_read hread
      obtain ⟨p₂, hcheck, hspell₂⟩ := ih p₁ k hrest
      refine ⟨p₂, hcheck, ?_⟩
      rw [hspell₂, hspell₁, List.append_assoc]
      rfl

/-- What a check has taken in is the start of a sum. -/
theorem exists_ofMarks {marks : List (Located Mark)} {k : Check}
    (h : Check.ofMarks limit marks = .ok k) :
    ∃ p : Prefix limit.toNat, p.check = k ∧ p.spell.map (Located.map Mark.symbol) = marks :=
  exists_foldlM_read marks empty k h

/-- Where a text may end, the start of a sum is a sum. -/
theorem exists_sum_of_conclude (p : Prefix limit.toNat) (h : p.check.conclude = .ok ()) :
    ∃ sum : BoundedSum limit.toNat, sum.tree.spell = p.spell := by
  obtain ⟨opened, reading⟩ := p
  -- The text may not end where an operand is due.
  have hdue : ∀ lead, reading ≠ .due lead := by
    rintro lead rfl
    cases lead with
    | start =>
        cases opened with
        | nil => cases h
        | cons group outer => cases h
    | sign => cases h
    | chain => cases h
  have hends : (check ⟨opened, reading⟩).endsOperand = true := by
    cases reading with
    | due lead => exact absurd rfl (hdue lead)
    | number => rfl
    | closed => rfl
  rw [Check.conclude_of_endsOperand hends] at h
  -- With no group open, all symbols are those of the reading.
  cases opened with
  | nil => exact reading.exists_sum hdue
  | cons group outer => cases h

end Read

end Prefix

/-- An accepted formula has the marks of a sum whose numbers are not too long. -/
theorem Formula.exists_marks_eq {limit : UInt8} {f : Formula} (h : f.check limit = .ok ()) :
    ∃ t : Tree, Derives .sum t ∧ f.marks = t.marks ∧ t.mostDigits ≤ limit.toNat := by
  obtain ⟨k, hread, hend⟩ := bind_eq_ok h
  obtain ⟨p, rfl, hmarks⟩ := Prefix.exists_ofMarks hread
  obtain ⟨sum, hsum⟩ := p.exists_sum_of_conclude hend
  refine ⟨sum.tree, sum.derives, ?_, sum.mostDigits_le⟩
  rw [← hmarks, ← hsum]
  rfl

/-- **A text is accepted exactly when a sum of the grammar spells it** whose numbers have at
most `limit` digits. -/
theorem checkText_eq_ok_iff (limit : UInt8) (text : String) :
    checkText limit text = .ok () ↔
      ∃ t : Tree, Derives .sum t ∧ t.chars = text.toList.filter (· ≠ ' ') ∧
        t.mostDigits ≤ limit.toNat := by
  constructor
  · intro h
    obtain ⟨f, hf, hcheck⟩ := bind_eq_ok h
    obtain ⟨t, ht, hmarks, hshort⟩ := f.exists_marks_eq hcheck
    have htext := Formula.ofText_eq_ok_iff.1 hf
    exact ⟨t, ht, htext ▸ (marks_eq_iff.1 hmarks).chars_eq, hshort⟩
  · -- The places of the tree are moved to where the text has them, and then the check takes
    -- it in.
    rintro ⟨t, ht, hchars, hshort⟩
    obtain ⟨t', ht', hspelled, hmost⟩ := ht.exists_spelledBy hchars
    obtain ⟨f, hf, hmarks⟩ := exists_ofText_marks_eq hspelled
    rw [checkText, hf, ok_bind]
    exact f.check_eq_ok ht' hmarks (hmost ▸ hshort)

end Reckoner
