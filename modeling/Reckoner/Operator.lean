/-!
# `Reckoner.Operator`: the five operators

An operator is known by its character, by how strongly it binds (`precedence`)
and by the side on which chains of equal strength group (`associativity`).
`bindsBefore` joins the two: it says which of two operators around a value
takes that value (`bindsBefore_of_lt`, `bindsBefore_of_le`). `ofChar?_eq_some_iff`
shows that the characters name the operators one to one.
-/

set_option autoImplicit false

namespace Reckoner

/-- The side on which a chain of equally strong operators groups. -/
inductive Associativity where
  /-- `a - b - c` is `(a - b) - c`. -/
  | left
  /-- `a ^ b ^ c` is `a ^ (b ^ c)`. -/
  | right
deriving DecidableEq, Repr, Inhabited

/-- An arithmetic operator between two values. `add` and `sub` may also stand
as a sign in front of one. -/
inductive Operator where
  /-- The sum, `+`. -/
  | add
  /-- The difference, `-`. -/
  | sub
  /-- The product, `*`. -/
  | mul
  /-- The quotient, `/`. -/
  | div
  /-- The power, `^`. -/
  | pow
deriving DecidableEq, Repr, Inhabited

namespace Operator

/-- How strongly an operator binds. The higher binds tighter. -/
def precedence : Operator → Nat
  | add | sub => 1
  | mul | div => 2
  | pow => 3

/-- Powers group to the right, all others to the left. -/
def associativity : Operator → Associativity
  | pow => .right
  | add | sub | mul | div => .left

/-- Only `+` and `-` may stand as a sign. -/
def isSign : Operator → Bool
  | add | sub => true
  | mul | div | pow => false

/-- In `a first b second c`, whether `b` belongs to `first`. The tighter operator
takes it, and of two equally tight ones the first does when they group to the
left. -/
def bindsBefore (first second : Operator) : Bool :=
  second.precedence < first.precedence ||
    (first.precedence == second.precedence && second.associativity == .left)

/-- The character that writes an operator. -/
def toChar : Operator → Char
  | add => '+'
  | sub => '-'
  | mul => '*'
  | div => '/'
  | pow => '^'

/-- The operator that a character writes. -/
def ofChar? : Char → Option Operator
  | '+' => some add
  | '-' => some sub
  | '*' => some mul
  | '/' => some div
  | '^' => some pow
  | _ => none

/-- An operator is read back from its character. -/
@[simp] theorem ofChar?_toChar (op : Operator) : ofChar? op.toChar = some op := by
  cases op <;> rfl

/-- A character names an operator exactly when it is the one that writes it. -/
theorem ofChar?_eq_some_iff {c : Char} {op : Operator} : ofChar? c = some op ↔ c = op.toChar := by
  constructor
  · intro h
    unfold ofChar? at h
    split at h <;> simp_all [toChar] <;> subst h <;> rfl
  · rintro rfl
    exact ofChar?_toChar op

/-- Of two operators the tighter one takes the value between them. -/
theorem bindsBefore_of_lt {first second : Operator} (h : first.precedence < second.precedence) :
    first.bindsBefore second = false := by
  simp only [bindsBefore, Bool.or_eq_false_iff, decide_eq_false_iff_not,
    Bool.and_eq_false_iff, beq_eq_false_iff_ne]
  omega

/-- An operator that is no `^` leaves the value in front of it to one that is as tight. -/
theorem bindsBefore_of_le {first second : Operator} (h : second.precedence ≤ first.precedence)
    (hsecond : second.precedence < 3) : first.bindsBefore second = true := by
  have hassoc : second.associativity = .left := by
    cases second with
    | pow => exact absurd hsecond (by decide)
    | add => rfl
    | sub => rfl
    | mul => rfl
    | div => rfl
  simp only [bindsBefore, hassoc, Bool.or_eq_true, decide_eq_true_eq, Bool.and_eq_true,
    beq_iff_eq, beq_self_eq_true, and_true]
  omega

/-- Only `^` is as tight as `^`. -/
theorem eq_pow_of_le {op : Operator} (h : 3 ≤ op.precedence) : op = .pow := by
  cases op with
  | pow => rfl
  | add => exact absurd h (by decide)
  | sub => exact absurd h (by decide)
  | mul => exact absurd h (by decide)
  | div => exact absurd h (by decide)

/-- No operator binds tighter than `^`. -/
theorem precedence_le (op : Operator) : op.precedence ≤ 3 := by
  cases op <;> decide

end Operator

end Reckoner
