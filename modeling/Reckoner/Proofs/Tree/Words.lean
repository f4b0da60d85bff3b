import Reckoner.Evaluation.Move
import Reckoner.Proofs.Tree.Spelling

/-!
# `Reckoner.Proofs.Tree.Words`: the tokens and the moves of a tree

A formula's marks become tokens, and its tokens become moves. Both passes look
ahead: a number takes all the digits that follow, and a sign looks at the tokens
behind it. This file says what they make of the symbols of a tree.

* `Tree.tokens`, `Tree.moves`: the tokens and the moves of a tree, read off the
  tree and not off its text.
* `Token.ofMarks_marks_append`: the marks of a tree make up its tokens, whatever
  follows, as long as no digit follows.
* `Move.ofTokens_tokens_append`: the tokens of a derivation ask for its moves. The
  grammar is needed here. It says where a sign may stand, and that the `^` behind a
  number with a sign belongs to the number's power.
-/

set_option autoImplicit false

namespace Reckoner

/-! ### The tokens of a tree -/

namespace Tree

/-- The tokens that a tree is written with. -/
def tokens : Tree → List (Located Token)
  | number first others =>
    [⟨first.pos, .number (Token.decimal first.val (others.map Located.val))⟩]
  | group opened body closed => ⟨opened, .opening⟩ :: body.tokens ++ [⟨closed, .closing⟩]
  | signed sign operand => sign.map .operator :: operand.tokens
  | binary left op right => left.tokens ++ op.map .operator :: right.tokens

/-- The marks of a row of digits. -/
def digitMarks (digits : List (Located (Fin 10))) : List (Located Mark) :=
  digits.map (Located.map fun d => .symbol (.digit d))

/-- The marks of a number: its first digit, then the others. -/
@[simp] theorem marks_number (first : Located (Fin 10)) (others : List (Located (Fin 10))) :
    (number first others).marks
      = ⟨first.pos, .symbol (.digit first.val)⟩ :: digitMarks others := by
  simp [marks, spell, digitMarks, Located.map, Function.comp_def]

/-- The marks of a group: its body between the parentheses. -/
@[simp] theorem marks_group (opened closed : Nat) (body : Tree) :
    (group opened body closed).marks
      = ⟨opened, .symbol .opening⟩ :: body.marks ++ [⟨closed, .symbol .closing⟩] := by
  simp [marks, spell, Located.map]

/-- The marks of a signed operand: the sign, then the operand. -/
@[simp] theorem marks_signed (sign : Located Operator) (operand : Tree) :
    (signed sign operand).marks
      = ⟨sign.pos, .symbol (.operator sign.val)⟩ :: operand.marks := by
  simp [marks, spell, Located.map]

/-- The marks of an operator between two operands. -/
@[simp] theorem marks_binary (left right : Tree) (op : Located Operator) :
    (binary left op right).marks
      = left.marks ++ ⟨op.pos, .symbol (.operator op.val)⟩ :: right.marks := by
  simp [marks, spell, Located.map]

end Tree

namespace Token

/-- Digits in front of marks are among the digits that the marks start with. -/
theorem leadingDigits_digitMarks_append (digits : List (Located (Fin 10)))
    (rest : List (Located Mark)) :
    leadingDigits (Tree.digitMarks digits ++ rest)
      = digits.map Located.val ++ leadingDigits rest := by
  induction digits with
  | nil => rfl
  | cons d digits ih =>
      show d.val :: leadingDigits (Tree.digitMarks digits ++ rest) = _
      rw [ih]
      rfl

/-- Skipping the leading digits skips a row of digits in front. -/
theorem afterDigits_digitMarks_append (digits : List (Located (Fin 10)))
    (rest : List (Located Mark)) :
    afterDigits (Tree.digitMarks digits ++ rest) = afterDigits rest := by
  induction digits with
  | nil => rfl
  | cons d digits ih => exact ih

/-- Where no digit leads, nothing is skipped. -/
theorem afterDigits_of_leadingDigits_eq_nil {marks : List (Located Mark)}
    (h : leadingDigits marks = []) : afterDigits marks = marks := by
  fun_cases afterDigits marks with
  | case1 pos d marks => cases h
  | case2 => rfl

/-- The marks of a tree make up its tokens. No digit may follow, as it would belong to
a number that the tree ends in. -/
theorem ofMarks_marks_append (t : Tree) (rest : List (Located Mark))
    (h : leadingDigits rest = []) :
    ofMarks (t.marks ++ rest) = t.tokens ++ ofMarks rest := by
  induction t generalizing rest with
  | number first others =>
      rw [Tree.marks_number, List.cons_append, ofMarks, leadingDigits_digitMarks_append,
        afterDigits_digitMarks_append, h, List.append_nil,
        afterDigits_of_leadingDigits_eq_nil h]
      rfl
  | group opened body closed ih =>
      rw [Tree.marks_group, List.cons_append, List.cons_append, ofMarks, List.append_assoc,
        ih _ (by rfl)]
      -- Behind the body stands a `)`, which is no digit.
      simp [ofMarks, Tree.tokens]
  | signed sign operand ih =>
      rw [Tree.marks_signed, List.cons_append, ofMarks, ih rest h]
      rfl
  | binary left op right ihl ihr =>
      rw [Tree.marks_binary, List.append_assoc, ihl _ (by rfl), List.cons_append, ofMarks,
        ihr rest h]
      simp [Tree.tokens, Located.map]

end Token

/-! ### The moves of a tree -/

namespace Tree

/-- The moves that a tree asks for. A sign becomes part of a number that stands alone
and a factor in front of anything else. -/
def moves : Tree → List (Located Move)
  | number first others =>
    [⟨first.pos, .value (Token.decimal first.val (others.map Located.val))⟩]
  | group opened body closed => ⟨opened, .enter⟩ :: body.moves ++ [⟨closed, .leave⟩]
  | signed sign (number first others) =>
    [⟨sign.pos, .value (sign.val.signFactor *
      Token.decimal first.val (others.map Located.val))⟩]
  | signed sign operand => ⟨sign.pos, .factor sign.val.signFactor⟩ :: operand.moves
  | binary left op right => left.moves ++ op.map .operator :: right.moves

/-- Whether the tree is a number and nothing else. -/
def isNumber : Tree → Bool
  | number _ _ => true
  | _ => false

/-- A sign in front of anything but a number is a factor in front of its moves. -/
theorem moves_signed_of_not_isNumber (sign : Located Operator) {operand : Tree}
    (h : operand.isNumber = false) :
    (signed sign operand).moves
      = ⟨sign.pos, .factor sign.val.signFactor⟩ :: operand.moves := by
  cases operand with
  | number => cases h
  | group => rfl
  | signed => rfl
  | binary => rfl

end Tree

namespace Move

/-- A sign in front of a power is a factor, unless the power is a number alone. The two
tokens that the sign looks at are the same in both readings. -/
theorem ofTokens_sign_tokens_append {operand : Tree} (h : Derives .power operand)
    (hn : operand.isNumber = false) (op : Operator) (pos : Nat)
    (rest : List (Located Token)) :
    ofTokens (.sign op pos) (operand.tokens ++ rest)
      = ⟨pos, .factor op.signFactor⟩ :: ofTokens .inside (operand.tokens ++ rest) := by
  -- The first token is that of the leading atom, and a `^` can only be the second.
  cases h with
  | powerAtom ha =>
      cases ha with
      | number => cases hn
      | group => rfl
  | powerChain place ha he =>
      cases ha with
      | number => rfl
      | group => rfl

/-- The tokens of two trees around an operator ask for the moves of the whole when those
of each tree ask for the moves of that tree. -/
theorem ofTokens_binary_tokens_append {left right : Tree} {op : Located Operator}
    {ctx : Context} {rest : List (Located Token)}
    (hl : ofTokens ctx (left.tokens ++ op.map .operator :: (right.tokens ++ rest))
      = left.moves ++ ofTokens .inside (op.map .operator :: (right.tokens ++ rest)))
    (hr : ofTokens .inside (right.tokens ++ rest)
      = right.moves ++ ofTokens .inside rest) :
    ofTokens ctx ((Tree.binary left op right).tokens ++ rest)
      = (Tree.binary left op right).moves ++ ofTokens .inside rest := by
  have hop : ofTokens .inside (op.map .operator :: (right.tokens ++ rest))
      = op.map .operator :: ofTokens .inside (right.tokens ++ rest) := rfl
  rw [Tree.tokens, List.append_assoc, List.cons_append, hl, hop, hr, Tree.moves,
    List.append_assoc, List.cons_append]

/-- A number in front of an operator other than `^` is not raised to a power. -/
theorem raised_operator_cons {op : Located Operator} (h : op.val ≠ .pow)
    (rest : List (Located Token)) : raised (op.map .operator :: rest) = false := by
  obtain ⟨pos, op⟩ := op
  cases op with
  | pow => exact absurd rfl h
  | add => rfl
  | sub => rfl
  | mul => rfl
  | div => rfl

/-- The tokens of a derivation ask for its moves. They may stand behind anything if no
sign can be in front of them. The tokens behind them start with no `^` if one can be, as
the sign would not be outside of that power. -/
theorem ofTokens_tokens_append {c : Category} {t : Tree} (h : Derives c t) :
    ∀ (ctx : Context) (rest : List (Located Token)),
      ctx = .start ∨ ctx = .inside ∧ c.takesSign = false →
      (c.takesSign = true → raised rest = false) →
      ofTokens ctx (t.tokens ++ rest) = t.moves ++ ofTokens .inside rest := by
  -- No sign is in front of a category that takes none.
  have unsigned : ∀ {p : Prop}, false = true → p := by
    intro p h
    cases h
  have not_pow : ∀ {op : Operator} {n : Nat}, op.precedence = n → n < 3 → op ≠ .pow := by
    rintro op n h hn rfl
    exact absurd h (by simp only [Operator.precedence]; omega)
  -- On the derivation, over what is in front and what is behind. The hypotheses on these pass to
  -- the first and to the last part of a tree.
  induction h with
  | number first others =>
      rintro ctx rest (rfl | ⟨rfl, -⟩) -
      · rfl
      · rfl
  | group opened closed hb ih =>
      intro ctx rest hctx _
      have hbody := ih .start (⟨closed, .closing⟩ :: rest) (.inl rfl) (fun _ => rfl)
      rcases hctx with rfl | ⟨rfl, -⟩
      · simpa [Tree.tokens, Tree.moves, ofTokens] using hbody
      · simpa [Tree.tokens, Tree.moves, ofTokens] using hbody
  | powerAtom _ ih => exact ih
  | powerChain pos _ _ ihb ihe =>
      intro ctx rest hctx hrest
      exact ofTokens_binary_tokens_append (ihb _ _ hctx unsigned)
        (ihe _ _ (.inr ⟨rfl, rfl⟩) hrest)
  | termPower _ ih => exact ih
  | termChain op _ _ _ ihl ihr =>
      intro ctx rest hctx hrest
      exact ofTokens_binary_tokens_append (ihl _ _ hctx unsigned)
        (ihr _ _ (.inr ⟨rfl, rfl⟩) hrest)
  | firstPower _ ih =>
      intro ctx rest hctx _
      exact ih ctx rest (hctx.imp_right fun h => ⟨h.1, rfl⟩) unsigned
  | @firstSigned operand sign hs hp ih =>
      rintro ctx rest (rfl | ⟨-, hc⟩) hrest
      · have hsign : ofTokens .start ((Tree.signed sign operand).tokens ++ rest)
            = ofTokens (.sign sign.val sign.pos) (operand.tokens ++ rest) := if_pos hs
        rw [hsign]
        cases hn : operand.isNumber with
        | false =>
            rw [ofTokens_sign_tokens_append hp hn, ih _ _ (.inr ⟨rfl, rfl⟩) unsigned,
              Tree.moves_signed_of_not_isNumber sign hn]
            rfl
        | true =>
            -- Without a `^` behind it, the number takes the sign in.
            cases operand with
            | number first others =>
                have hraised : ¬ raised rest = true := by simp [hrest rfl]
                exact if_neg hraised
            | group => cases hn
            | signed => cases hn
            | binary => cases hn
      · cases hc
  | firstChain op hop _ _ ihl ihr =>
      -- A sign may be in front of the left operand, and what is behind it is no `^`.
      intro ctx rest hctx _
      have hraised := raised_operator_cons (not_pow hop (by decide))
      exact ofTokens_binary_tokens_append (ihl _ _ hctx fun _ => hraised _)
        (ihr _ _ (.inr ⟨rfl, rfl⟩) unsigned)
  | sumFirst _ ih => exact ih
  | sumChain op hop _ _ ihl ihr =>
      intro ctx rest hctx _
      have hraised := raised_operator_cons (not_pow hop (by decide))
      exact ofTokens_binary_tokens_append (ihl _ _ hctx fun _ => hraised _)
        (ihr _ _ (.inr ⟨rfl, rfl⟩) unsigned)

end Move

/-- A formula with the marks of a sum asks for its moves. -/
theorem Formula.moves_eq {f : Formula} {t : Tree} (h : Derives .sum t)
    (hf : f.marks = t.marks) : f.moves = t.moves := by
  have htokens : f.tokens = t.tokens := by
    have happend := Token.ofMarks_marks_append t [] rfl
    rw [Formula.tokens, hf]
    simpa [Token.ofMarks] using happend
  have hmoves := Move.ofTokens_tokens_append h .start [] (.inl rfl) fun _ => rfl
  rw [Formula.moves, htokens]
  simpa [Move.ofTokens] using hmoves

end Reckoner
