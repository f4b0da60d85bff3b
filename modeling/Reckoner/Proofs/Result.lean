/-!
# `Reckoner.Proofs.Result`: steps that can fail, one after the other

A pass that can fail is a chain of binds in `Except`. The lemmas here take such a chain
apart: a step that fails ends it, and a step that does not hands its value on.
`foldlM_induction` says that a chain keeps what each of its steps keeps, and
`exists_of_foldlM_eq_error` where a chain has failed.

`onBoth` changes what a result holds. `onBoth_bind` and `onBoth_foldlM` say that a chain whose
steps go along with the change goes along with it as a whole.
-/

set_option autoImplicit false

namespace Reckoner

variable {ε δ α β γ γ' : Type}

/-- After a value the computation goes on with it. -/
@[simp] theorem ok_bind (a : α) (f : α → Except ε β) : (Except.ok a >>= f) = f a := rfl

/-- After an error nothing more is done. -/
@[simp] theorem error_bind (e : ε) (f : α → Except ε β) :
    ((Except.error e : Except ε α) >>= f) = .error e := rfl

/-- A chain that succeeds has taken its first step, and the rest has succeeded behind it. -/
theorem bind_eq_ok {x : Except ε α} {f : α → Except ε β} {b : β} (h : (x >>= f) = .ok b) :
    ∃ a, x = .ok a ∧ f a = .ok b := by
  cases x with
  | ok a => exact ⟨a, rfl, h⟩
  | error e => cases h

/-- A chain that fails has failed in its first step or behind it. -/
theorem bind_eq_error {x : Except ε α} {f : α → Except ε β} {e : ε} (h : (x >>= f) = .error e) :
    x = .error e ∨ ∃ a, x = .ok a ∧ f a = .error e := by
  cases x with
  | ok a => exact .inr ⟨a, rfl, h⟩
  | error e' =>
      cases h
      exact .inl rfl

/-- A chain of steps that succeeds has taken the first of them, and then the others. -/
theorem exists_of_foldlM_cons_eq_ok {step : α → γ → Except ε α} {x : γ} {xs : List γ} {a b : α}
    (h : (x :: xs).foldlM step a = .ok b) : ∃ c, step a x = .ok c ∧ xs.foldlM step c = .ok b := by
  rw [List.foldlM_cons] at h
  exact bind_eq_ok h

/-- What each step keeps, a chain of steps keeps. -/
theorem foldlM_induction {step : α → γ → Except ε α} {P : α → Prop}
    (hstep : ∀ a x b, P a → step a x = .ok b → P b) (xs : List γ) {a b : α} (hstart : P a)
    (h : xs.foldlM step a = .ok b) : P b := by
  induction xs generalizing a with
  | nil =>
      cases h
      exact hstart
  | cons x xs ih =>
      obtain ⟨c, hx, hxs⟩ := exists_of_foldlM_cons_eq_ok h
      exact ih (hstep a x c hstart hx) hxs

/-- What each step asks of its element, a chain of steps asks of all elements. -/
theorem forall_of_foldlM_eq_ok {step : α → γ → Except ε α} {P : γ → Prop}
    (hstep : ∀ a x b, step a x = .ok b → P x) (xs : List γ) {a b : α}
    (h : xs.foldlM step a = .ok b) : ∀ x ∈ xs, P x := by
  induction xs generalizing a with
  | nil => simp
  | cons x xs ih =>
      obtain ⟨c, hx, hxs⟩ := exists_of_foldlM_cons_eq_ok h
      exact List.forall_mem_cons.2 ⟨hstep a x c hx, ih hxs⟩

/-- A chain of steps that fails has failed at one of the elements, and none in front of it has
failed. -/
theorem exists_of_foldlM_eq_error {step : α → γ → Except ε α} {e : ε} (xs : List γ) {a : α}
    (h : xs.foldlM step a = .error e) : ∃ front x back b, xs = front ++ x :: back ∧
      front.foldlM step a = .ok b ∧ step b x = .error e := by
  induction xs generalizing a with
  | nil => cases h
  | cons x xs ih =>
      rw [List.foldlM_cons] at h
      rcases bind_eq_error h with hx | ⟨c, hx, hxs⟩
      · exact ⟨[], x, xs, a, rfl, rfl, hx⟩
      · obtain ⟨front, y, back, b, rfl, hfront, hy⟩ := ih hxs
        refine ⟨x :: front, y, back, b, rfl, ?_, hy⟩
        rw [List.foldlM_cons, hx]
        exact hfront

/-- Results can be compared where what they hold can. -/
instance decidableEqResult [DecidableEq ε] [DecidableEq α] : DecidableEq (Except ε α)
  | .ok a, .ok b => decidable_of_iff (a = b) (by simp)
  | .error e, .error f => decidable_of_iff (e = f) (by simp)
  | .ok _, .error _ => isFalse (by simp)
  | .error _, .ok _ => isFalse (by simp)

/-! ### Results changed throughout -/

/-- Changes what a result holds, whether it is a value or an error. -/
def onBoth (g : ε → δ) (h : α → β) : Except ε α → Except δ β
  | .ok a => .ok (h a)
  | .error e => .error (g e)

/-- A value is changed by the one function. -/
@[simp] theorem onBoth_ok (g : ε → δ) (h : α → β) (a : α) :
    onBoth g h (.ok a) = .ok (h a) := rfl

/-- An error is changed by the other. -/
@[simp] theorem onBoth_error (g : ε → δ) (h : α → β) (e : ε) :
    onBoth g h (.error e) = .error (g e) := rfl

/-- A translation that respects the first part of a computation and whatever follows it respects
the whole. -/
theorem onBoth_bind {g : ε → δ} {h : α → β} {h' : γ → γ'} {x : Except ε α} {y : Except δ β}
    {next : α → Except ε γ} {next' : β → Except δ γ'} (hx : onBoth g h x = y)
    (hnext : ∀ a, onBoth g h' (next a) = next' (h a)) :
    onBoth g h' (x >>= next) = (y >>= next') := by
  subst hx
  cases x with
  | ok a => exact hnext a
  | error e => rfl

/-- A translation that respects one step of a fold respects the fold. -/
theorem onBoth_foldlM {step : α → γ → Except ε α} {step' : β → γ' → Except δ β} {g : ε → δ}
    {h : α → β} {m : γ → γ'} (hstep : ∀ a x, onBoth g h (step a x) = step' (h a) (m x))
    (xs : List γ) (a : α) :
    onBoth g h (xs.foldlM step a) = (xs.map m).foldlM step' (h a) := by
  induction xs generalizing a with
  | nil => rfl
  | cons x xs ih =>
      rw [List.map_cons, List.foldlM_cons, List.foldlM_cons]
      exact onBoth_bind (hstep a x) ih

end Reckoner
