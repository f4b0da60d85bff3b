import Reckoner.Arithmetic.Operations
import Reckoner.Token

/-!
# `Reckoner.Grammar`: formulas as trees

The grammar of formulas, with `n` for a run of digits:

    sum   ::= first | sum ('+' | '-') term
    first ::= power | ('+' | '-') power | first ('*' | '/') power
    term  ::= power | term ('*' | '/') power
    power ::= atom | atom '^' power
    atom  ::= n | '(' sum ')'

A `Tree` is what a formula says when it is read by these rules. `Tree.spell` writes
it down, symbol by symbol, each at its place, and `Tree.value` is its meaning.
`Derives` says which trees the grammar has, and of which of its five kinds they
are: chains of `+ -` and of `* /` lean to the left and chains of `^` to the right,
and a sign takes in the whole power behind it but not the product around that.

Neither the checking pass nor the evaluation goes through trees; they are what the
two are measured against.
-/

set_option autoImplicit false

namespace Reckoner

/-- A formula read as a tree. Every symbol keeps its place in the text. -/
inductive Tree where
  /-- A run of digits. -/
  | number (first : Located (Fin 10)) (others : List (Located (Fin 10)))
  /-- A tree in parentheses, which stand at `opened` and `closed`. -/
  | group (opened : Nat) (body : Tree) (closed : Nat)
  /-- A sign in front of a tree. -/
  | signed (sign : Located Operator) (operand : Tree)
  /-- An operator between two trees. -/
  | binary (left : Tree) (op : Located Operator) (right : Tree)
deriving DecidableEq, Repr

namespace Tree

/-- The symbols that a tree is written with. -/
def spell : Tree → List (Located Symbol)
  | number first others => first.map .digit :: others.map (Located.map .digit)
  | group opened body closed => ⟨opened, .opening⟩ :: body.spell ++ [⟨closed, .closing⟩]
  | signed sign operand => sign.map .operator :: operand.spell
  | binary left op right => left.spell ++ op.map .operator :: right.spell

/-- The meaning of a tree. The left operand is looked at before the right one, and
both before the operator; a sign multiplies. -/
def value : Tree → Except Failure Float
  | number first others => .ok (Token.decimal first.val (others.map Located.val))
  | group _ body _ => body.value
  | signed sign operand => do
    Operator.mul.apply sign.val.signFactor (← operand.value) sign.pos
  | binary left op right => do
    let a ← left.value
    let b ← right.value
    op.val.apply a b op.pos

/-- The most digits that a number in a tree has. -/
def mostDigits : Tree → Nat
  | number _ others => others.length + 1
  | group _ body _ => body.mostDigits
  | signed _ operand => operand.mostDigits
  | binary left _ right => max left.mostDigits right.mostDigits

end Tree

/-- The kinds of trees that the grammar tells apart. -/
inductive Category where
  /-- A number or a group. -/
  | atom
  /-- A chain of `^`. -/
  | power
  /-- A chain of `*` and `/`. -/
  | term
  /-- A chain of `*` and `/` that a sign may stand in front of. -/
  | first
  /-- A chain of `+` and `-`. -/
  | sum
deriving DecidableEq, Repr

/-- How tightly the operators bind that a tree of a kind can hold outside of parentheses:
at least this tightly. An atom holds none. -/
def Category.tightness : Category → Nat
  | .atom => 4
  | .power => 3
  | .term | .first => 2
  | .sum => 1

/-- Whether a sign may stand in front of the trees of a kind. -/
def Category.takesSign : Category → Bool
  | .first | .sum => true
  | .atom | .power | .term => false

/-- The trees that the grammar has, by kind. -/
inductive Derives : Category → Tree → Prop where
  | number (first : Located (Fin 10)) (others : List (Located (Fin 10))) :
      Derives .atom (.number first others)
  | group {body : Tree} (opened closed : Nat) :
      Derives .sum body → Derives .atom (.group opened body closed)
  | powerAtom {t : Tree} : Derives .atom t → Derives .power t
  | powerChain {base exponent : Tree} (pos : Nat) :
      Derives .atom base → Derives .power exponent →
      Derives .power (.binary base ⟨pos, .pow⟩ exponent)
  | termPower {t : Tree} : Derives .power t → Derives .term t
  | termChain {left right : Tree} (op : Located Operator) :
      op.val.precedence = 2 → Derives .term left → Derives .power right →
      Derives .term (.binary left op right)
  | firstPower {t : Tree} : Derives .power t → Derives .first t
  | firstSigned {operand : Tree} (sign : Located Operator) :
      sign.val.isSign → Derives .power operand → Derives .first (.signed sign operand)
  | firstChain {left right : Tree} (op : Located Operator) :
      op.val.precedence = 2 → Derives .first left → Derives .power right →
      Derives .first (.binary left op right)
  | sumFirst {t : Tree} : Derives .first t → Derives .sum t
  | sumChain {left right : Tree} (op : Located Operator) :
      op.val.precedence = 1 → Derives .sum left → Derives .term right →
      Derives .sum (.binary left op right)

end Reckoner
