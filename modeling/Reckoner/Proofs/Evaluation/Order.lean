import Reckoner.Proofs.Evaluation.Run

/-!
# `Reckoner.Proofs.Evaluation.Order`: the operators that wait are in order

An operator waits because what follows it binds tighter, or as tight and to the right. So of two
operators that wait in one group the upper one binds tighter, or both are a `^`. This is so at any
point of an evaluation, also of a formula that keeps no rules: what is settled is taken from the
top, an operator is let wait only on those that are not due, and the product of a leading sign only
where no operator is on top.

The open groups cut the waiting work into levels (`levels`). A level that is in order has at most
one of `+ -`, on it at most one of `* /`, and nothing but `^` above, so it is short but for the
`^`.

* `Rising.exists_eq`, `Rising.countP_ne_pow_le`: what a level that is in order looks like.
* `Ordered.length_le`: how much can wait.
* `Stacks.Reaches.inOrder`: the order at any point of an evaluation.
-/

set_option autoImplicit false

namespace Reckoner

open Move (Context)

/-! ### Two operators -/

/-- Whether an operator can wait below another one. -/
def Operator.Below (lower upper : Operator) : Prop :=
  lower.precedence < upper.precedence ∨ lower = .pow ∧ upper = .pow

/-- There are three strengths, and 1 is the weakest. -/
theorem Operator.one_le_precedence (op : Operator) : 1 ≤ op.precedence := by
  cases op <;> decide

/-- An operator waits below one before which it is not due. -/
theorem Operator.below_of_bindsBefore {lower upper : Operator}
    (h : lower.bindsBefore upper = false) : lower.Below upper := by
  by_cases hlt : lower.precedence < upper.precedence
  · exact .inl hlt
  · have hle : upper.precedence ≤ lower.precedence := by omega
    -- What binds at least as tight is kept waiting by a `^` only.
    have hupper : 3 ≤ upper.precedence := by
      by_cases hthree : upper.precedence < 3
      · rw [bindsBefore_of_le hle hthree] at h
        cases h
      · omega
    exact .inr ⟨eq_pow_of_le (by omega), eq_pow_of_le hupper⟩

/-- What may wait below an operator may wait below those that may wait on it. Powers wait on
powers, so the order is not strict. -/
theorem Operator.Below.trans {a b c : Operator} (hab : a.Below b) (hbc : b.Below c) :
    a.Below c := by
  -- Below a weaker operator, or both are powers: each of the four combinations is one of these.
  rcases hab with hab | ⟨rfl, rfl⟩
  · rcases hbc with hbc | ⟨rfl, rfl⟩
    · exact .inl (Nat.lt_trans hab hbc)
    · exact .inl hab
  · exact hbc

/-! ### One level -/

/-- Whether operators, the lowest first, wait one below the other. -/
def Rising (level : List Operator) : Prop :=
  level.Pairwise Operator.Below

/-- A level has at most one of `+ -`, then at most one of `* /`, then only `^`. -/
theorem Rising.exists_eq {level : List Operator} (h : Rising level) :
    ∃ (sum product : Option Operator) (powers : Nat),
      level = sum.toList ++ product.toList ++ List.replicate powers .pow ∧
        (∀ op ∈ sum, op.precedence = 1) ∧ ∀ op ∈ product, op.precedence = 2 := by
  induction level with
  | nil => exact ⟨none, none, 0, rfl, by simp, by simp⟩
  | cons op level ih =>
      obtain ⟨hop, hlevel⟩ := List.pairwise_cons.1 h
      have hone := op.one_le_precedence
      obtain ⟨sum, product, powers, rfl, hsum, hproduct⟩ := ih hlevel
      -- What the upper part has must be above `op`, and so some of its places are free.
      have hnosum : sum = none := by
        cases sum with
        | none => rfl
        | some s =>
            have hs := hsum s rfl
            rcases hop s (by simp) with hlt | ⟨-, rfl⟩
            · omega
            · cases hs
      subst hnosum
      by_cases hsum : op.precedence = 1
      · exact ⟨some op, product, powers, rfl, by simpa using hsum, hproduct⟩
      · have hnoproduct : product = none := by
          cases product with
          | none => rfl
          | some p =>
              have hp := hproduct p rfl
              rcases hop p (by simp) with hlt | ⟨-, rfl⟩
              · omega
              · cases hp
        subst hnoproduct
        by_cases hproduct : op.precedence = 2
        · exact ⟨none, some op, powers, rfl, by simp, by simpa using hproduct⟩
        · obtain rfl := op.eq_pow_of_le (by omega)
          exact ⟨none, none, powers + 1, rfl, by simp, by simp⟩

/-- A level is short but for the `^`. -/
theorem Rising.countP_ne_pow_le {level : List Operator} (h : Rising level) :
    level.countP (· != .pow) ≤ 2 := by
  obtain ⟨sum, product, powers, rfl, -, -⟩ := h.exists_eq
  have hsum : sum.toList.countP (· != .pow) ≤ 1 :=
    Nat.le_trans List.countP_le_length (by cases sum <;> simp)
  have hproduct : product.toList.countP (· != .pow) ≤ 1 :=
    Nat.le_trans List.countP_le_length (by cases product <;> simp)
  simp only [List.countP_append, List.countP_replicate, bne_self_eq_false, Bool.false_eq_true,
    if_false]
  omega

/-! ### All levels -/

/-- The operators that wait, group by group, the innermost group first. In each level the lowest
operator comes first. -/
def levels : List Waiting → List (List Operator)
  | [] => [[]]
  | .group _ :: waiting => [] :: levels waiting
  | .operator op _ :: waiting => (levels waiting).modifyHead (· ++ [op])

/-- Whether the operators of each group wait one below the other. -/
def Ordered (waiting : List Waiting) : Prop :=
  ∀ level ∈ levels waiting, Rising level

/-- How many of the operators that wait are a `^`. -/
def powerCount : List Waiting → Nat
  | [] => 0
  | .group _ :: waiting => powerCount waiting
  | .operator op _ :: waiting => powerCount waiting + if op = .pow then 1 else 0

section Levels

variable {waiting : List Waiting} {op : Operator} {pos : Nat}

/-- There is always an innermost level, though it may be empty. -/
theorem exists_levels_eq (waiting : List Waiting) :
    ∃ level outer, levels waiting = level :: outer := by
  induction waiting with
  | nil => exact ⟨[], [], rfl⟩
  | cons w waiting ih =>
      obtain ⟨level, outer, hlevels⟩ := ih
      cases w with
      | group pos => exact ⟨[], _, rfl⟩
      | operator op pos =>
          refine ⟨level ++ [op], outer, ?_⟩
          rw [levels, hlevels]
          rfl

/-- Where nothing waits, there is one level with nothing on it. -/
theorem ordered_nil : Ordered [] := by
  simp [Ordered, levels, Rising]

/-- A group opens a level of its own, which is empty at first. -/
theorem ordered_group : Ordered (.group pos :: waiting) ↔ Ordered waiting := by
  simp [Ordered, levels, Rising]

/-- What is below an operator is in order without it. -/
theorem Ordered.of_operator (h : Ordered (.operator op pos :: waiting)) : Ordered waiting := by
  obtain ⟨level, outer, hlevels⟩ := exists_levels_eq waiting
  rw [Ordered, levels, hlevels, List.modifyHead_cons, List.forall_mem_cons] at h
  rw [Ordered, hlevels, List.forall_mem_cons]
  exact ⟨(List.pairwise_append.1 h.1).1, h.2⟩

/-- An operator can wait on top when the one that is on top so far can wait below it. -/
theorem Ordered.operator (h : Ordered waiting) (pos : Nat)
    (htop : ∀ lower place rest, waiting = .operator lower place :: rest → lower.Below op) :
    Ordered (.operator op pos :: waiting) := by
  obtain ⟨level, outer, hlevels⟩ := exists_levels_eq waiting
  have hbelow : ∀ lower ∈ level, lower.Below op := by
    cases waiting with
    | nil =>
        cases hlevels
        simp
    | cons w rest =>
        cases w with
        | group place =>
            cases hlevels
            simp
        | operator top place =>
            have hop := htop top place rest rfl
            obtain ⟨front, outer', hrest⟩ := exists_levels_eq rest
            rw [levels, hrest, List.modifyHead_cons] at hlevels
            obtain ⟨rfl, rfl⟩ := List.cons.inj hlevels
            -- The operators of the level are below the top, and the top is below `op`.
            have hrising := h _ (by rw [levels, hrest]; exact List.mem_cons_self)
            rw [Rising, List.pairwise_append] at hrising
            intro lower hlower
            rcases List.mem_append.1 hlower with hfront | htop'
            · exact (hrising.2.2 lower hfront top (by simp)).trans hop
            · rw [List.mem_singleton.1 htop']
              exact hop
  rw [Ordered, hlevels, List.forall_mem_cons] at h
  rw [Ordered, levels, hlevels, List.modifyHead_cons, List.forall_mem_cons]
  refine ⟨List.pairwise_append.2 ⟨h.1, List.pairwise_singleton _ _, ?_⟩, h.2⟩
  intro lower hlower upper hupper
  rw [List.mem_singleton.1 hupper]
  exact hbelow lower hlower

/-- What is left after settling is in order. -/
theorem Ordered.of_settle {due : Operator → Bool} {operands : List Float} {s : Stacks}
    (h : Ordered waiting) (hsettle : Stacks.settle due operands waiting = .ok s) :
    Ordered s.waiting := by
  refine Stacks.settle_induction (P := fun _ waiting s => Ordered waiting → Ordered s.waiting)
    ?_ ?_ hsettle h
  · intro operands waiting _ hordered
    exact hordered
  · intro op pos operands left waiting s _ ih hordered
    exact ih hordered.of_operator

/-- Every operator that waits adds to its level or is a `^`, and every group but the innermost
has at most two that are none. -/
theorem Ordered.length_le_of_levels_eq (h : Ordered waiting) {level : List Operator}
    {outer : List (List Operator)} (hlevels : levels waiting = level :: outer) :
    waiting.length ≤
      3 * (Stacks.groupPlaces waiting).length + level.countP (· != .pow) + powerCount waiting := by
  induction waiting generalizing level outer with
  | nil => exact Nat.zero_le _
  | cons w waiting ih =>
      obtain ⟨top, outer', htop⟩ := exists_levels_eq waiting
      cases w with
      | group pos =>
          have hwaiting := ordered_group.1 h
          have hrest := ih hwaiting htop
          -- The level below the group is counted in full from here on.
          have htwo := (hwaiting top (by rw [htop]; exact List.mem_cons_self)).countP_ne_pow_le
          simp only [Stacks.groupPlaces, powerCount, List.length_cons]
          omega
      | operator op pos =>
          have hrest := ih h.of_operator htop
          rw [levels, htop, List.modifyHead_cons] at hlevels
          obtain ⟨rfl, -⟩ := List.cons.inj hlevels
          simp only [Stacks.groupPlaces, powerCount, List.length_cons, List.countP_append,
            List.countP_singleton, bne_iff_ne]
          by_cases hop : op = .pow
          · simp [hop]
            omega
          · simp [hop]
            omega

/-- With `d` open groups and `k` waiting `^`, no more than `3 * d + 2 + k` entries wait. -/
theorem Ordered.length_le (h : Ordered waiting) :
    waiting.length ≤ 3 * (Stacks.groupPlaces waiting).length + 2 + powerCount waiting := by
  obtain ⟨level, outer, hlevels⟩ := exists_levels_eq waiting
  have hlength := h.length_le_of_levels_eq hlevels
  have htwo := (h level (by rw [hlevels]; exact List.mem_cons_self)).countP_ne_pow_le
  omega

end Levels

/-! ### At any point of an evaluation -/

namespace Stacks

variable {before : List (Located Token)} {ctx ctx' : Context} {s s' : Stacks} {t : Located Token}

/-- What waits is in order, and where a sum starts or a sign is in front, no operator is on top. -/
structure InOrder (ctx : Context) (s : Stacks) : Prop where
  ordered : Ordered s.waiting
  top : ctx ≠ .inside → ∀ op pos rest, s.waiting ≠ .operator op pos :: rest

/-- The product of a leading sign finds no operator below it. -/
theorem InOrder.factor {sign : Operator} {place : Nat} (h : InOrder (.sign sign place) s) :
    Ordered (.operator .mul place :: s.waiting) := by
  refine h.ordered.operator place ?_
  intro lower pos rest hrest
  exact absurd hrest (h.top (by simp) lower pos rest)

/-- One token. -/
theorem TakesIn.inOrder (htakes : TakesIn ctx s t ctx' s') (h : InOrder ctx s) :
    InOrder ctx' s' := by
  cases htakes with
  | number pos v => exact ⟨h.ordered, by simp⟩
  | signedNumber op place pos v => exact ⟨h.ordered, by simp⟩
  | signedBase op place pos v => exact ⟨h.factor, by simp⟩
  | opening pos => exact ⟨ordered_group.2 h.ordered, by simp⟩
  | signedOpening op place pos => exact ⟨ordered_group.2 h.factor, by simp⟩
  | closing pos place _ hsettle hw =>
      have hsettled := h.ordered.of_settle hsettle
      rw [hw] at hsettled
      exact ⟨ordered_group.1 hsettled, by simp⟩
  | sign pos hop => exact ⟨h.ordered, fun _ => h.top (by simp)⟩
  | operator pos _ hsettle =>
      have hnot := (settledFrom_of_settle_eq_ok hsettle).not_due
      refine ⟨(h.ordered.of_settle hsettle).operator pos ?_, by simp⟩
      intro lower place rest hrest
      exact Operator.below_of_bindsBefore (hnot lower place rest hrest)

/-- All tokens. -/
theorem Reaches.inOrder (h : Reaches before ctx s) : InOrder ctx s := by
  induction h with
  | start => exact ⟨ordered_nil, by simp⟩
  | step _ htakes ih => exact htakes.inOrder ih

end Stacks

end Reckoner
