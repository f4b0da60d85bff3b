import Reckoner.Proofs.Arithmetic.Negation

/-!
# `Reckoner.Proofs.Arithmetic.Order`: comparing doubles

The core library compares two doubles by their signs, then by their exponents and last by their
mantissas, and nothing is less than NaN, equal to it or greater. All this is one order: a double
that is a number has a rank, a triple of integers, and comparing two doubles is comparing their
ranks. Both zeros have the same rank. So facts about comparisons of doubles are facts about a linear
order, once NaN is out of the way.

* `rank?`: where a double stands among the numbers.
* `compare_eq_rank`: the comparison of the library is that of ranks.
* `lt_iff_rank`, `le_iff_rank`, `beq_iff_rank`: the same for doubles.
-/

set_option autoImplicit false

namespace Reckoner.Arithmetic

open Float.Model
open Float.Model.UnpackedFloat hiding pack unpack

/-! ### Ranks -/

/-- Where a double stands among the numbers: by its sign and kind, then by its exponent, then by its
mantissa. NaN stands nowhere. -/
def rank? : UnpackedFloat → Option (ℤ ×ₗ ℤ ×ₗ ℤ)
  | .infinity s => some (toLex (s.apply 2, toLex (0, 0)))
  | .finite s m e _ => some (toLex (s.apply 1, toLex (s.apply e, s.apply m)))
  | .zero _ => some (toLex (0, toLex (0, 0)))
  | .notANumber => none

/-- Of two ranks of one kind the exponents are compared, and then the mantissas. -/
theorem compare_rank (kind a b c d : ℤ) :
    compare (toLex (kind, toLex (a, b))) (toLex (kind, toLex (c, d)))
      = (compare a c).then (compare b d) := by
  have hkind : compare kind kind = .eq := compare_eq_iff_eq.2 rfl
  simp only [Prod.Lex.compare_def, compareLex, compareOn, ofLex_toLex, hkind]
  rfl

/-- Mantissas are natural numbers, and ranks hold them as integers. -/
theorem compare_cast (m n : ℕ) : compare (m : ℤ) n = compare m n := by
  rcases lt_trichotomy m n with h | rfl | h
  · rw [compare_lt_iff_lt.2 h, compare_lt_iff_lt.2 (Int.ofNat_lt.2 h)]
  · rw [compare_eq_iff_eq.2 rfl, compare_eq_iff_eq.2 rfl]
  · rw [compare_gt_iff_gt.2 h, compare_gt_iff_gt.2 (Int.ofNat_lt.2 h)]

/-- Below zero the order is turned around, which is why ranks hold exponents and mantissas with
the sign. -/
theorem compare_neg_neg (a b : ℤ) : compare (-a) (-b) = (compare a b).swap := by
  rcases lt_trichotomy a b with h | rfl | h
  · rw [compare_lt_iff_lt.2 h, compare_gt_iff_gt.2 (neg_lt_neg h)]
    rfl
  · rw [compare_eq_iff_eq.2 rfl, compare_eq_iff_eq.2 rfl]
    rfl
  · rw [compare_gt_iff_gt.2 h, compare_lt_iff_lt.2 (neg_lt_neg h)]
    rfl

/-- The library compares ranks. -/
theorem compare_eq_rank (u v : UnpackedFloat) :
    UnpackedFloat.compare u v
      = (rank? u).bind fun r => (rank? v).map fun q => compare r q := by
  -- The kinds of the two decide, and then their signs. Only for two finite doubles with the same
  -- sign is anything left to compare.
  cases u with
  | notANumber => rfl
  | infinity s =>
      cases v with
      | notANumber => cases s <;> rfl
      | infinity t => cases s <;> cases t <;> rfl
      | zero t => cases s <;> rfl
      | finite t m e hm => cases s <;> cases t <;> rfl
  | zero s =>
      cases v with
      | notANumber => rfl
      | infinity t => cases t <;> rfl
      | zero t => rfl
      | finite t m e hm => cases t <;> rfl
  | finite s m e hm =>
      cases v with
      | notANumber => cases s <;> rfl
      | infinity t => cases s <;> cases t <;> rfl
      | zero t => cases s <;> rfl
      | finite t n d hn =>
          -- Below zero the numbers with the greater exponents come first.
          cases s with
          | negative =>
              cases t with
              | negative =>
                  refine Eq.trans ?_ (congrArg some (compare_rank (-1) (-e) (-m) (-d) (-n)).symm)
                  rw [compare_neg_neg, compare_neg_neg, compare_cast, ← Ordering.swap_then]
                  rfl
              | positive => rfl
          | positive =>
              cases t with
              | negative => rfl
              | positive =>
                  refine Eq.trans ?_ (congrArg some (compare_rank 1 e m d n).symm)
                  rw [compare_cast]
                  rfl

/-! ### Doubles -/

/-- Two things that may have no rank compare in a certain way when both have one and the
ranks do. -/
theorem bind_compare_eq_some_iff {R : Type} [LinearOrder R] {a b : Option R} {o : Ordering} :
    (a.bind fun r => b.map fun q => compare r q) = some o ↔
      ∃ r ∈ a, ∃ q ∈ b, compare r q = o := by
  simp [Option.bind_eq_some_iff]

section Doubles

variable {x y : Float}

/-- NaN is what has no rank. -/
theorem isNaN_iff_rank : x.isNaN = true ↔ rank? (unpacked x) = none := by
  show (unpacked x).isNaN = true ↔ _
  cases unpacked x with
  | notANumber => simp [UnpackedFloat.isNaN, rank?]
  | infinity s => simp [UnpackedFloat.isNaN, rank?]
  | zero s => simp [UnpackedFloat.isNaN, rank?]
  | finite s m e hm => simp [UnpackedFloat.isNaN, rank?]

/-- What is not NaN is a number and has a rank. -/
theorem isNaN_eq_false_iff_rank : x.isNaN = false ↔ ∃ r, rank? (unpacked x) = some r := by
  rw [← Option.ne_none_iff_exists', Ne, ← isNaN_iff_rank, Bool.not_eq_true]

/-- Being less is one of the three results of the library's comparison. -/
theorem lt_iff_compare :
    x < y ↔ UnpackedFloat.compare (unpacked x) (unpacked y) = some .lt := by
  show decide (UnpackedFloat.lt (unpacked x) (unpacked y) = true) = true ↔ _
  simp [UnpackedFloat.lt]

/-- Being equal is another. -/
theorem beq_iff_compare :
    x == y ↔ UnpackedFloat.compare (unpacked x) (unpacked y) = some .eq := by
  show UnpackedFloat.beq (unpacked x) (unpacked y) = true ↔ _
  simp [UnpackedFloat.beq]

/-- `≤` holds when either of the two does. It is not the negation of `>`: with NaN neither
holds. -/
theorem le_iff_lt_or_beq : x ≤ y ↔ x < y ∨ x == y := by
  rw [lt_iff_compare, beq_iff_compare]
  show decide (UnpackedFloat.le (unpacked x) (unpacked y) = true) = true ↔ _
  rw [UnpackedFloat.le, decide_eq_true_eq]
  -- The library's `≤` accepts the results `.lt` and `.eq`, and refuses that there is none.
  cases UnpackedFloat.compare (unpacked x) (unpacked y) with
  | none => simp
  | some o => cases o <;> simp

/-- One double is less than another when both have a rank and that of the first is less. -/
theorem lt_iff_rank :
    x < y ↔ ∃ r ∈ rank? (unpacked x), ∃ q ∈ rank? (unpacked y), r < q := by
  simp only [lt_iff_compare, compare_eq_rank, bind_compare_eq_some_iff, compare_lt_iff_lt]

/-- Two doubles are equal when they have the same rank. So the zeros are, and NaN is equal to
nothing. -/
theorem beq_iff_rank :
    x == y ↔ ∃ r ∈ rank? (unpacked x), ∃ q ∈ rank? (unpacked y), r = q := by
  simp only [beq_iff_compare, compare_eq_rank, bind_compare_eq_some_iff, compare_eq_iff_eq]

/-- The same for `≤`. -/
theorem le_iff_rank :
    x ≤ y ↔ ∃ r ∈ rank? (unpacked x), ∃ q ∈ rank? (unpacked y), r ≤ q := by
  rw [le_iff_lt_or_beq, lt_iff_rank, beq_iff_rank]
  constructor
  · rintro (⟨r, hr, q, hq, h⟩ | ⟨r, hr, q, hq, h⟩)
    · exact ⟨r, hr, q, hq, le_of_lt h⟩
    · exact ⟨r, hr, q, hq, le_of_eq h⟩
  · rintro ⟨r, hr, q, hq, h⟩
    rcases lt_or_eq_of_le h with hlt | heq
    · exact .inl ⟨r, hr, q, hq, hlt⟩
    · exact .inr ⟨r, hr, q, hq, heq⟩

/-- Two numbers are compared by their ranks. -/
theorem lt_iff_of_rank {r q : ℤ ×ₗ ℤ ×ₗ ℤ} (hx : rank? (unpacked x) = some r)
    (hy : rank? (unpacked y) = some q) : x < y ↔ r < q := by
  simp [lt_iff_rank, hx, hy]

/-- For two numbers, equality is that of their ranks. -/
theorem beq_iff_of_rank {r q : ℤ ×ₗ ℤ ×ₗ ℤ} (hx : rank? (unpacked x) = some r)
    (hy : rank? (unpacked y) = some q) : x == y ↔ r = q := by
  simp only [beq_iff_rank, hx, hy, Option.mem_some_iff, exists_eq_left']

/-- For two numbers, `≤` is that of their ranks. -/
theorem le_iff_of_rank {r q : ℤ ×ₗ ℤ ×ₗ ℤ} (hx : rank? (unpacked x) = some r)
    (hy : rank? (unpacked y) = some q) : x ≤ y ↔ r ≤ q := by
  simp [le_iff_rank, hx, hy]

/-- `≤` is transitive without a word about NaN, since NaN has no part in it. -/
theorem le_of_le_of_le {z : Float} (hxy : x ≤ y) (hyz : y ≤ z) : x ≤ z := by
  obtain ⟨r, hr, q, hq, hrq⟩ := le_iff_rank.1 hxy
  obtain ⟨q', hq', p, hp, hqp⟩ := le_iff_rank.1 hyz
  -- The double in the middle has one rank, so the two inequalities meet there.
  obtain rfl : q = q' := Option.mem_unique hq hq'
  exact (le_iff_of_rank hr hp).2 (hrq.trans hqp)

/-- Two numbers can be compared. -/
theorem lt_or_beq_or_gt (hx : x.isNaN = false) (hy : y.isNaN = false) :
    x < y ∨ x == y ∨ y < x := by
  obtain ⟨r, hr⟩ := isNaN_eq_false_iff_rank.1 hx
  obtain ⟨q, hq⟩ := isNaN_eq_false_iff_rank.1 hy
  rw [lt_iff_of_rank hr hq, beq_iff_of_rank hr hq, lt_iff_of_rank hq hr]
  exact lt_trichotomy r q

/-- Of equal doubles neither is less. -/
theorem not_gt_of_beq (h : x == y) : ¬ y < x := by
  obtain ⟨r, hr, q, hq, rfl⟩ := beq_iff_rank.1 h
  rw [lt_iff_of_rank hq hr]
  exact lt_irrefl r

/-- NaN is not less than anything, and nothing is less than NaN. -/
theorem not_lt_of_isNaN (h : x.isNaN = true ∨ y.isNaN = true) : ¬ x < y := by
  rw [lt_iff_rank]
  rintro ⟨r, hr, q, hq, -⟩
  rcases h with hx | hy
  · exact Option.some_ne_none r (hr.symm.trans (isNaN_iff_rank.1 hx))
  · exact Option.some_ne_none q (hq.symm.trans (isNaN_iff_rank.1 hy))

end Doubles

end Reckoner.Arithmetic
