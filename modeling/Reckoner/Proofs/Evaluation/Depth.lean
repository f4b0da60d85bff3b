import Reckoner.Proofs.Check.Completion
import Reckoner.Proofs.Evaluation.Alternation
import Reckoner.Proofs.Evaluation.Order
import Reckoner.Proofs.Evaluation.Places

/-!
# `Reckoner.Proofs.Evaluation.Depth`: the stacks stay shallow

How deep the stacks of an evaluation are does not hang on the length of its formula, but on the
groups that are open and the `^` that wait. What waits is in order (`Order`), and where operands
alternate with operators no operand is left over (`Alternation`). Both are known between two
tokens. An evaluation makes its moves one by one, though, and the product of a leading sign is
there before what it multiplies. So the states behind some of the moves are traced back to the
tokens first (`Stacks.AsksFor` says what a part of the moves of a token leads to).

* `Stacks.exists_reaches_of_moves`: where moves lead.
* `stacks_stay_shallow`: the depth of the stacks at any point of an evaluation.
-/

set_option autoImplicit false

namespace Reckoner

open Move (Context)

/-! ### From move to move -/

namespace Stacks

variable {ctx : Context} {s : Stacks}

/-- The end of the tokens asks for no move that can be carried out. -/
theorem eq_of_foldlM_ofTokens_nil {moves : List (Located Move)} {s' : Stacks}
    (hfront : moves <+: Move.ofTokens ctx []) (h : moves.foldlM step s = .ok s') : s' = s := by
  cases ctx with
  | start =>
      rw [List.prefix_nil.1 hfront] at h
      cases h
      rfl
  | inside =>
      rw [List.prefix_nil.1 hfront] at h
      cases h
      rfl
  | sign op pos =>
      rcases List.prefix_cons_iff.1 hfront with rfl | ⟨rest, rfl, -⟩
      · cases h
        rfl
      · cases h

/-- Where moves lead is where tokens lead, but for the product of a leading sign that is there
already. -/
theorem exists_reaches_of_moves (tokens : List (Located Token)) :
    ∀ {before : List (Located Token)} {ctx : Context} {s s' : Stacks} {moves : List (Located Move)},
      Reaches before ctx s → moves <+: Move.ofTokens ctx tokens → moves.foldlM step s = .ok s' →
        ∃ front ctx' r, front <+: before ++ tokens ∧ Reaches front ctx' r ∧
          (s' = r ∨ ∃ op pos, ctx' = .sign op pos ∧ s' = r.withFactor op pos) := by
  -- On the tokens, whose moves are all of a token's own and then those of the others.
  induction tokens with
  | nil =>
      intro before ctx s s' moves hreaches hfront h
      exact ⟨before, ctx, s, List.prefix_append before [], hreaches,
        .inl (eq_of_foldlM_ofTokens_nil hfront h)⟩
  | cons t tokens ih =>
      intro before ctx s s' moves hreaches hfront h
      obtain ⟨own, later, hasks⟩ := exists_asksFor ctx s t tokens
      rw [hasks.moves_eq] at hfront
      -- The moves end among those of the token, or they have all of them.
      rcases List.prefix_or_prefix_of_prefix hfront (List.prefix_append own later) with
        hwithin | ⟨rest, rfl⟩
      · rcases hasks.within hwithin h with rfl | rfl | hfactor
        · obtain ⟨ctx', htake, -⟩ := hasks.takesIn h
          refine ⟨before ++ [t], ctx', s', ?_, .step hreaches htake, .inl rfl⟩
          exact ⟨tokens, by simp⟩
        · exact ⟨before, ctx, s', List.prefix_append _ _, hreaches, .inl rfl⟩
        · exact ⟨before, ctx, s, List.prefix_append _ _, hreaches, .inr hfactor⟩
      · rw [List.foldlM_append] at h
        obtain ⟨mid, hown, hrest⟩ := bind_eq_ok h
        obtain ⟨ctx', htake, rfl⟩ := hasks.takesIn hown
        have hbehind := ih (.step hreaches htake) ((List.prefix_append_right_inj own).1 hfront) hrest
        rwa [List.append_assoc, List.singleton_append] at hbehind

end Stacks

/-- The stacks that an evaluation passes: those that it has behind some of its moves. -/
def Formula.Passes (f : Formula) (s : Stacks) : Prop :=
  ∃ moves, moves <+: f.moves ∧ Stacks.ofMoves moves = .ok s

/-! ### What can wait -/

section Waiting

variable {waiting : List Waiting}

/-- Without a group among the waiting work no place of a group is in it. -/
theorem groupPlaces_eq_nil (h : ∀ pos, .group pos ∉ waiting) :
    Stacks.groupPlaces waiting = [] := by
  induction waiting with
  | nil => rfl
  | cons w waiting ih =>
      cases w with
      | group pos => exact absurd List.mem_cons_self (h pos)
      | operator op pos => exact ih fun place hmem => h place (List.mem_cons_of_mem _ hmem)

/-- Without a `^` among the waiting work none is counted. -/
theorem powerCount_eq_zero (h : ∀ pos, .operator .pow pos ∉ waiting) : powerCount waiting = 0 := by
  induction waiting with
  | nil => rfl
  | cons w waiting ih =>
      have hrest := ih fun place hmem => h place (List.mem_cons_of_mem _ hmem)
      cases w with
      | group pos => exact hrest
      | operator op pos =>
          have hop : op ≠ .pow := by
            rintro rfl
            exact h pos List.mem_cons_self
          rw [powerCount, hrest, if_neg hop]

/-- Operators are part of the waiting work, so there are no more of them. -/
theorem operatorCount_le_length (waiting : List Waiting) :
    Stacks.operatorCount waiting ≤ waiting.length := by
  induction waiting with
  | nil => exact Nat.le_refl 0
  | cons w waiting ih =>
      cases w with
      | group pos => exact Nat.le_succ_of_le ih
      | operator op pos => exact Nat.succ_le_succ ih

end Waiting

/-! ### Stacks that an evaluation passes -/

namespace Formula

variable {f : Formula} {s : Stacks}

/-- Behind some of the moves of a formula the stacks are those that some of its tokens reach, or
they hold the factor of a sign besides, whose operand has not been read yet. -/
theorem Passes.exists_reaches (h : f.Passes s) : ∃ front ctx r, front <+: f.tokens ∧
    Stacks.Reaches front ctx r ∧ (s = r ∨ ∃ op pos, ctx = .sign op pos ∧ s = r.withFactor op pos) := by
  obtain ⟨moves, hfront, hmoves⟩ := h
  exact Stacks.exists_reaches_of_moves f.tokens .start hfront hmoves

/-- Behind any moves the levels of the waiting operators rise. The factor of a sign is a product
at the start of a level, so it is in order there. -/
theorem Passes.ordered (h : f.Passes s) : Ordered s.waiting := by
  obtain ⟨front, ctx, r, -, hreaches, rfl | ⟨op, pos, rfl, rfl⟩⟩ := h.exists_reaches
  · exact hreaches.inOrder.ordered
  · exact hreaches.inOrder.factor

/-- Behind any moves there is at most one operand more than there are operators, where the tokens
alternate. The factor of a sign brings an operator along. -/
theorem Passes.operands_le (h : f.Passes s) (halt : Token.Alternates f.tokens) :
    s.operands.length ≤ Stacks.operatorCount s.waiting + 1 := by
  obtain ⟨front, ctx, r, ⟨rest, htokens⟩, hreaches, hs⟩ := h.exists_reaches
  -- Tokens in front of others alternate when all of them do.
  rw [← htokens] at halt
  have hoperands := hreaches.operands_le_add_one halt.of_append
  rcases hs with rfl | ⟨op, pos, rfl, rfl⟩
  · exact hoperands
  · exact Nat.succ_le_succ hoperands

/-- What waits, the product of a leading sign apart, is found in the text. -/
theorem Passes.comesFrom (h : f.Passes s) :
    ∀ w ∈ s.waiting, (∃ pos, w = .operator .mul pos) ∨ Stacks.ComesFrom f.tokens w := by
  obtain ⟨front, ctx, r, ⟨rest, htokens⟩, hreaches, hs⟩ := h.exists_reaches
  have hwaiting : ∀ w ∈ r.waiting, Stacks.ComesFrom f.tokens w := by
    intro w hw
    rw [← htokens]
    exact (hreaches.sourced.waiting w hw).append rest
  rcases hs with rfl | ⟨op, pos, rfl, rfl⟩
  · exact fun w hw => .inr (hwaiting w hw)
  · exact List.forall_mem_cons.2 ⟨.inl ⟨pos, rfl⟩, fun w hw => .inr (hwaiting w hw)⟩

/-- The character of a token is in the text. -/
theorem mem_of_mem_tokens {t : Located Token} {c : Char} (ht : t ∈ f.tokens)
    (hc : t.val.char? = some c) : c ∈ f.text.toList :=
  List.mem_of_getElem? (getElem?_of_mem_tokens ht hc).2

/-- A formula without a `(` opens no group. -/
theorem Passes.groupPlaces_eq_nil (h : f.Passes s) (hflat : '(' ∉ f.text.toList) :
    Stacks.groupPlaces s.waiting = [] := by
  refine Reckoner.groupPlaces_eq_nil ?_
  intro pos hmem
  rcases h.comesFrom _ hmem with ⟨place, hmul⟩ | hfrom
  · cases hmul
  · cases hfrom with
    | opening hopening => exact hflat (mem_of_mem_tokens hopening rfl)

/-- In a formula without a `^` no power waits. -/
theorem Passes.powerCount_eq_zero (h : f.Passes s) (hflat : '^' ∉ f.text.toList) :
    powerCount s.waiting = 0 := by
  refine Reckoner.powerCount_eq_zero ?_
  intro pos hmem
  -- Waiting work is the product of a sign or stands in the text.
  rcases h.comesFrom _ hmem with ⟨place, hmul⟩ | hfrom
  · cases hmul
  · cases hfrom with
    | operator hpow => exact hflat (mem_of_mem_tokens hpow rfl)

/-- Without parentheses, operands alternate with operators whether a check accepts them or not. -/
theorem alternates_of_flat (hopening : '(' ∉ f.text.toList) (hclosing : ')' ∉ f.text.toList) :
    Token.Alternates f.tokens := by
  refine Token.alternates_ofMarks ?_
  rintro ⟨pos, t⟩ ht
  constructor
  · rintro rfl
    exact hopening (mem_of_mem_tokens ht rfl)
  · rintro rfl
    exact hclosing (mem_of_mem_tokens ht rfl)

/-- In front of what a check accepts, operands alternate with operators. -/
theorem alternates_of_checkText_append {limit : UInt8} {rest : String}
    (h : checkText limit (f.text ++ rest) = .ok ()) : Token.Alternates f.tokens := by
  rw [checkText_append] at h
  obtain ⟨k, hread, -⟩ := bind_eq_ok h
  exact Check.alternates_of_ofMarks_eq_ok hread

end Formula

/-- **The stacks stay shallow.** At any point of an evaluation, whether its formula keeps the rules
of the grammar or not, the operators that wait in one group bind tighter and tighter upwards, but
for `^` on `^`: at most one of `+ -`, at most one of `* /`, and then only `^`. So with `d` open
groups and `k` waiting `^` no more than `3 * d + 2 + k` entries wait. In front of what a check
accepts the operands are at most one more than the waiting operators. A text with neither
parentheses nor `^` never needs more than two operators and three operands. -/
theorem stacks_stay_shallow {f : Formula} {s : Stacks} (h : f.Passes s) :
    (∀ level ∈ levels s.waiting, Rising level ∧
        ∃ (sum product : Option Operator) (powers : Nat),
          level = sum.toList ++ product.toList ++ List.replicate powers .pow ∧
            (∀ op ∈ sum, op.precedence = 1) ∧ ∀ op ∈ product, op.precedence = 2) ∧
      s.waiting.length
        ≤ 3 * (Stacks.groupPlaces s.waiting).length + 2 + powerCount s.waiting ∧
      (∀ limit rest, checkText limit (f.text ++ rest) = .ok () →
        s.operands.length ≤ Stacks.operatorCount s.waiting + 1) ∧
      ('(' ∉ f.text.toList → ')' ∉ f.text.toList → '^' ∉ f.text.toList →
        s.waiting.length ≤ 2 ∧ s.operands.length ≤ 3) := by
  have hwaiting := h.ordered.length_le
  refine ⟨?_, hwaiting, ?_, ?_⟩
  · intro level hlevel
    have hrising := h.ordered level hlevel
    exact ⟨hrising, hrising.exists_eq⟩
  · intro limit rest haccepted
    exact h.operands_le (Formula.alternates_of_checkText_append haccepted)
  · intro hopening hclosing hpow
    -- Without groups and powers two operators are all that can wait.
    have hoperands := h.operands_le (Formula.alternates_of_flat hopening hclosing)
    have hoperators := operatorCount_le_length s.waiting
    rw [h.groupPlaces_eq_nil hopening, h.powerCount_eq_zero hpow, List.length_nil] at hwaiting
    omega

/-- The bound is met: one group is open, two `^` wait, and seven entries are on the stack. -/
theorem stacks_stay_shallow_seven :
    ∃ (f : Formula) (s : Stacks), f.text = "1+2*(3+4*5^6^7" ∧ f.Passes s ∧
      s.waiting.length = 7 ∧ 3 * (Stacks.groupPlaces s.waiting).length + 2 + powerCount s.waiting = 7 ∧
      s.waiting.length
        ≤ 3 * (Stacks.groupPlaces s.waiting).length + 2 + powerCount s.waiting := by
  have hmoves : Stacks.ofMoves (Formula.mk "1+2*(3+4*5^6^7" ⟨'1', by decide⟩).moves
      = .ok ⟨[7, 6, 5, 4, 3, 2, 1],
          [.operator .pow 12, .operator .pow 10, .operator .mul 8, .operator .add 6, .group 4,
            .operator .mul 3, .operator .add 1]⟩ := by decide +kernel
  have hpasses : (Formula.mk "1+2*(3+4*5^6^7" ⟨'1', by decide⟩).Passes _ :=
    ⟨_, List.prefix_rfl, hmoves⟩
  exact ⟨_, _, rfl, hpasses, rfl, rfl, (stacks_stay_shallow hpasses).2.1⟩

end Reckoner
