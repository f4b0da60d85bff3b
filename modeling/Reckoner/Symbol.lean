import Reckoner.Operator

/-!
# `Reckoner.Symbol`: what a character of a text is to a formula

A formula is written with the digits, the operators and the two parentheses
(`Symbol`). A character of a text is spacing, which leaves no mark, or it leaves
a `Mark`: the symbol that it writes, or itself when it writes none. Only the
space U+0020 is spacing; a tab or a line feed is as foreign as a letter.

`Mark.toChar_ofChar` says that a mark keeps its character, so nothing but
spacing is lost between a text and its marks.
-/

set_option autoImplicit false

namespace Reckoner

/-- A symbol that formulas are written with. -/
inductive Symbol where
  /-- A decimal digit. -/
  | digit (value : Fin 10)
  /-- An operator, between two values or as a sign. -/
  | operator (op : Operator)
  /-- The parenthesis `(`. -/
  | opening
  /-- The parenthesis `)`. -/
  | closing
deriving DecidableEq, Repr, Inhabited

namespace Symbol

/-- Whether the symbol is a digit. -/
def isDigit : Symbol → Bool
  | digit _ => true
  | _ => false

/-- Whether the symbol is `(`. -/
def isOpening : Symbol → Bool
  | opening => true
  | _ => false

/-- Whether the symbol is `)`. -/
def isClosing : Symbol → Bool
  | closing => true
  | _ => false

/-- The character that writes a symbol. -/
def toChar : Symbol → Char
  | digit d => Char.ofNat (48 + d.val)
  | operator op => op.toChar
  | opening => '('
  | closing => ')'

/-- The digit that a character writes. Only the ten digits of ASCII count. -/
def digit? : Char → Option (Fin 10)
  | '0' => some 0
  | '1' => some 1
  | '2' => some 2
  | '3' => some 3
  | '4' => some 4
  | '5' => some 5
  | '6' => some 6
  | '7' => some 7
  | '8' => some 8
  | '9' => some 9
  | _ => none

/-- The symbol that a character writes. -/
def ofChar? (c : Char) : Option Symbol :=
  if c = '(' then some opening
  else if c = ')' then some closing
  else ((Operator.ofChar? c).map operator).or ((digit? c).map digit)

/-- A symbol is read back from its character. -/
@[simp] theorem ofChar?_toChar (s : Symbol) : ofChar? s.toChar = some s := by
  cases s with
  | digit d => revert d; decide
  | operator op => cases op <;> rfl
  | opening => rfl
  | closing => rfl

/-- A digit is written by the character that it is read from. -/
theorem toChar_of_digit? {c : Char} {d : Fin 10} (h : digit? c = some d) :
    (digit d).toChar = c := by
  unfold digit? at h
  split at h <;> simp_all <;> subst h <;> rfl

/-- A character writes a symbol exactly when it is the one that the symbol is
shown with. -/
theorem ofChar?_eq_some_iff {c : Char} {s : Symbol} : ofChar? c = some s ↔ c = s.toChar := by
  constructor
  · intro h
    unfold ofChar? at h
    split at h
    · next hc => cases h; exact hc
    · split at h
      · next hc => cases h; exact hc
      · cases hop : Operator.ofChar? c with
        | some op =>
          simp only [hop, Option.map_some, Option.some_or, Option.some.injEq] at h
          subst h
          exact Operator.ofChar?_eq_some_iff.1 hop
        | none =>
          simp only [hop, Option.map_none, Option.none_or, Option.map_eq_some_iff] at h
          obtain ⟨d, hd, rfl⟩ := h
          exact (toChar_of_digit? hd).symm
  · rintro rfl
    exact ofChar?_toChar s

end Symbol

/-- What a character of a text is to a formula. Spacing leaves no mark. -/
inductive Mark where
  /-- A symbol that formulas are written with. -/
  | symbol (s : Symbol)
  /-- A character that no formula may hold. -/
  | foreign (c : Char)
deriving DecidableEq, Repr, Inhabited

namespace Mark

/-- The mark that a character leaves which is not spacing. -/
def ofChar (c : Char) : Mark :=
  match Symbol.ofChar? c with
  | some s => symbol s
  | none => foreign c

/-- The mark that a character leaves, `none` for spacing. -/
def ofChar? (c : Char) : Option Mark :=
  if c = ' ' then none else some (ofChar c)

/-- The character that left a mark. -/
def toChar : Mark → Char
  | symbol s => s.toChar
  | foreign c => c

/-- Only a space leaves no mark. -/
@[simp] theorem ofChar?_eq_none_iff {c : Char} : ofChar? c = none ↔ c = ' ' := by
  simp [ofChar?]

/-- Every other character leaves the mark that it has. -/
theorem ofChar?_eq_some_iff {c : Char} {m : Mark} :
    ofChar? c = some m ↔ c ≠ ' ' ∧ ofChar c = m := by
  unfold ofChar?
  split <;> simp_all

/-- A mark keeps the character that left it. -/
@[simp] theorem toChar_ofChar (c : Char) : (ofChar c).toChar = c := by
  unfold ofChar
  split
  · next s hs => exact (Symbol.ofChar?_eq_some_iff.1 hs).symm
  · rfl

/-- A symbol's mark is left by the character that writes it, and by no other. -/
theorem ofChar_eq_symbol_iff {c : Char} {s : Symbol} : ofChar c = symbol s ↔ c = s.toChar := by
  constructor
  · intro h
    rw [← toChar_ofChar c, h]
    rfl
  · rintro rfl
    simp [ofChar]

/-- A foreign mark keeps a character that writes no symbol. -/
theorem ofChar_eq_foreign_iff {c d : Char} :
    ofChar c = foreign d ↔ c = d ∧ Symbol.ofChar? c = none := by
  unfold ofChar
  split <;> simp_all

end Mark

end Reckoner
