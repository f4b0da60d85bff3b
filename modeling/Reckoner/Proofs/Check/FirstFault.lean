import Reckoner.Proofs.Check.Step

/-!
# `Reckoner.Proofs.Check.FirstFault`: a check finds the first fault

A check goes over a formula once and remembers little of it: the last symbol, how many digits
the text ends in, and for each open group whether a digit has been seen in it. This file puts
the rules without a memory, as conditions on a character and the characters in front of it
(`violation?`), and shows that a check stops at the first character that breaks one of them,
with the fault of the first rule that it breaks.

What a check remembers of the characters behind it is `Check.Tracks`. The open groups are the
ones that cut the text into parts in which every parenthesis has its partner (`Nested`). So
there are as many as there are `(` more than `)`, and the innermost is the last `(` that nothing
closes (`unclosed?`). A group whose flag is not set ends in its own `(` or in a sign behind that,
so a `)` can only find it empty directly behind the `(`.

* `Check.Tracks.read`: one character, which breaks a rule or is remembered.
* `Check.Tracks.finish`: the rest of the text.
* `checkText_eq_firstFault`: the whole check, on every text.
-/

set_option autoImplicit false

namespace Reckoner

/-! ### The rules, as conditions on characters -/

/-- A fault, if there is a cause for it. -/
def Fault.when (fault : Fault) (cause : Prop) [Decidable cause] : Option Fault :=
  if cause then some fault else none

/-- The characters that formulas are written with. -/
def formulaChars : List Char :=
  "0123456789+-*/^()".toList

/-- How often a character occurs. -/
def occurrences (c : Char) (cs : List (Located Char)) : Nat :=
  cs.countP (·.val = c)

/-- How many digits stand at the end. -/
def endingDigits (cs : List (Located Char)) : Nat :=
  (cs.reverse.takeWhile (·.val.isDigit)).length

/-- An operator at the end has no right operand there. -/
def missingRightOperand? (cs : List (Located Char)) : Option Fault :=
  cs.getLast?.bind fun x => (Operator.ofChar? x.val).map (.missingRightOperand · x.pos)

/-- The rule that a character breaks behind those in front of it. Of several the first counts. -/
def violation? (limit : UInt8) (before : List (Located Char)) (x : Located Char) :
    Option Fault :=
  let last := before.getLast?.map Located.val
  Option.or ((Fault.foreignChar x.val x.pos).when (x.val ∉ formulaChars)) <|
  Option.or (if x.val.isDigit ∨ x.val = '(' then none else missingRightOperand? before) <|
  Option.or ((Fault.numberAfterGroup x.pos).when (x.val.isDigit ∧ last = some ')')) <|
  Option.or ((Fault.numberTooLong limit x.pos).when
    (x.val.isDigit ∧ limit.toNat < endingDigits before + 1)) <|
  Option.or ((Operator.ofChar? x.val).bind fun op =>
    (Fault.missingLeftOperand op x.pos).when
      (op ∈ [.mul, .div, .pow] ∧ (last = none ∨ last = some '('))) <|
  Option.or ((Fault.numberBeforeGroup x.pos).when (x.val = '(' ∧ last.any Char.isDigit)) <|
  Option.or ((Fault.adjacentGroups x.pos).when (x.val = '(' ∧ last = some ')')) <|
  Option.or ((Fault.unmatchedClose x.pos).when
    (x.val = ')' ∧ occurrences ')' before = occurrences '(' before)) <|
  (Fault.emptyGroup x.pos).when (x.val = ')' ∧ last = some '(')

/-- The rule that is broken first, at the character with the least index. -/
def firstViolation? (limit : UInt8) (cs : List (Located Char)) : Option Fault :=
  (List.range cs.length).findSome? fun i => cs[i]?.bind (violation? limit (cs.take i))

/-- Whether no `)` among the characters closes a group that was opened before them. -/
def ClosesNone (cs : List (Located Char)) : Prop :=
  ∀ n ≤ cs.length, occurrences ')' (cs.take n) ≤ occurrences '(' (cs.take n)

/-- Only the prefixes of the characters are looked at, and there are finitely many. -/
instance decidableClosesNone (cs : List (Located Char)) : Decidable (ClosesNone cs) :=
  inferInstanceAs (Decidable (∀ n ≤ cs.length, _))

/-- The place of the last `(` that nothing behind it closes. -/
def unclosed? : List (Located Char) → Option Nat
  | [] => none
  | x :: cs => (unclosed? cs).or (if x.val = '(' ∧ ClosesNone cs then some x.pos else none)

/-- What is missing at the end of a text: an operand, or else a `)`. -/
def incompleteness? (cs : List (Located Char)) : Option Fault :=
  (missingRightOperand? cs).or ((unclosed? cs).map .unclosedGroup)

/-- What is wrong with a text, as its characters say that are not spacing. -/
def firstFault? (limit : UInt8) (cs : List (Located Char)) : Option Fault :=
  if cs = [] then some .empty else (firstViolation? limit cs).or (incompleteness? cs)

/-- The verdict on a text with a fault or without one. -/
def Fault.verdict : Option Fault → Except Fault Unit
  | some fault => .error fault
  | none => .ok ()

/-! ### Characters and symbols -/

namespace Fault

/-- A fault whose cause is there. -/
theorem when_pos {fault : Fault} {cause : Prop} [Decidable cause] (h : cause) :
    fault.when cause = some fault := if_pos h

/-- A fault whose cause is not there. -/
theorem when_neg {fault : Fault} {cause : Prop} [Decidable cause] (h : ¬ cause) :
    fault.when cause = none := if_neg h

end Fault

namespace Symbol

/-- No two symbols are written with one character, so a character of a formula can stand for its
symbol. -/
theorem toChar_injective {s t : Symbol} (h : s.toChar = t.toChar) : s = t := by
  have hs := ofChar?_toChar s
  rw [h, ofChar?_toChar] at hs
  cases hs
  rfl

/-- A `(` among the characters is one among the symbols. -/
@[simp] theorem toChar_eq_opening_iff {s : Symbol} : s.toChar = '(' ↔ s = .opening :=
  ⟨fun h => toChar_injective (t := .opening) h, fun h => h ▸ rfl⟩

/-- A `)` among the characters is one among the symbols. -/
@[simp] theorem toChar_eq_closing_iff {s : Symbol} : s.toChar = ')' ↔ s = .closing :=
  ⟨fun h => toChar_injective (t := .closing) h, fun h => h ▸ rfl⟩

/-- What the core library calls a digit are the ten digits that formulas are written with. -/
@[simp] theorem isDigit_toChar (s : Symbol) : s.toChar.isDigit = s.isDigit := by
  cases s with
  | digit d => revert d; decide
  | operator op => cases op <;> rfl
  | opening => rfl
  | closing => rfl

/-- The operator that a symbol is. -/
def operator? : Symbol → Option Operator
  | operator op => some op
  | _ => none

/-- The operator of a symbol says which symbol it is. -/
theorem operator?_eq_some_iff {s : Symbol} {op : Operator} :
    s.operator? = some op ↔ s = .operator op := by
  cases s <;> simp [operator?]

/-- The characters of operators are read as such, and those of other symbols are not. -/
@[simp] theorem ofChar?_toChar_eq (s : Symbol) : Operator.ofChar? s.toChar = s.operator? := by
  cases s with
  | digit d => revert d; decide
  | operator op => exact Operator.ofChar?_toChar op
  | opening => rfl
  | closing => rfl

end Symbol

/-- The seventeen characters of the rules are those that write a symbol. -/
theorem mem_formulaChars_iff {c : Char} : c ∈ formulaChars ↔ ∃ s : Symbol, c = s.toChar := by
  constructor
  · intro h
    -- There are finitely many, and each is read as some symbol.
    have hall : formulaChars.all (fun c => (Symbol.ofChar? c).isSome) = true := by decide
    obtain ⟨s, hs⟩ := Option.isSome_iff_exists.1 (List.all_eq_true.1 hall c h)
    exact ⟨s, Symbol.ofChar?_eq_some_iff.1 hs⟩
  · rintro ⟨s, rfl⟩
    cases s with
    | digit d => revert d; decide
    | operator op => cases op <;> decide
    | opening => decide
    | closing => decide

section Rules

variable {limit : UInt8} {before : List (Located Char)} {pos : Nat}

/-- The first of the rules: a character that writes no symbol breaks it whatever is in front
of it. -/
theorem violation?_foreign {c : Char} (h : Symbol.ofChar? c = none) :
    violation? limit before ⟨pos, c⟩ = some (.foreignChar c pos) := by
  have hc : c ∉ formulaChars := by
    intro hmem
    obtain ⟨s, rfl⟩ := mem_formulaChars_iff.1 hmem
    rw [Symbol.ofChar?_toChar] at h
    cases h
  simp [violation?, Fault.when_pos hc]

/-- No symbol breaks the first rule, so for symbols the rules go on from the second. -/
theorem toChar_mem_formulaChars (s : Symbol) : s.toChar ∈ formulaChars :=
  mem_formulaChars_iff.2 ⟨s, rfl⟩

/-- The two rules that a digit can break. What is in front of it may be an operator, which then
has its operand. -/
theorem violation?_digit (d : Fin 10) :
    violation? limit before ⟨pos, (Symbol.digit d).toChar⟩ =
      ((Fault.numberAfterGroup pos).when (before.getLast?.map Located.val = some ')')).or
        ((Fault.numberTooLong limit pos).when (limit.toNat < endingDigits before + 1)) := by
  simp [violation?, Symbol.isDigit, Symbol.operator?, Fault.when_neg, toChar_mem_formulaChars]

/-- The two rules that an operator can break: the operator in front of it has no operand, or it
has none to its left itself. -/
theorem violation?_operator (op : Operator) :
    violation? limit before ⟨pos, (Symbol.operator op).toChar⟩ =
      (missingRightOperand? before).or
        ((Fault.missingLeftOperand op pos).when (op ∈ [.mul, .div, .pow] ∧
          (before.getLast?.map Located.val = none
            ∨ before.getLast?.map Located.val = some '('))) := by
  simp [violation?, Symbol.isDigit, Symbol.operator?, Fault.when_neg, toChar_mem_formulaChars]

/-- The two rules that a `(` can break, both about a missing operator. -/
theorem violation?_opening :
    violation? limit before ⟨pos, Symbol.opening.toChar⟩ =
      ((Fault.numberBeforeGroup pos).when (before.getLast?.any (·.val.isDigit))).or
        ((Fault.adjacentGroups pos).when (before.getLast?.map Located.val = some ')')) := by
  simp [violation?, Symbol.isDigit, Symbol.operator?, Fault.when_neg, toChar_mem_formulaChars,
    Option.any_map]

/-- The three rules that a `)` can break. That nothing is open is seen by counting, and that the
group is empty by the character in front. -/
theorem violation?_closing :
    violation? limit before ⟨pos, Symbol.closing.toChar⟩ =
      (missingRightOperand? before).or
        (((Fault.unmatchedClose pos).when (occurrences ')' before = occurrences '(' before)).or
          ((Fault.emptyGroup pos).when (before.getLast?.map Located.val = some '('))) := by
  simp [violation?, Symbol.isDigit, Symbol.operator?, Fault.when_neg, toChar_mem_formulaChars]

end Rules

/-! ### Parentheses that have their partners -/

section Paired

variable {c : Char} {cs ds : List (Located Char)}

/-- How often a character occurs is counted part by part. -/
theorem occurrences_append (c : Char) (cs ds : List (Located Char)) :
    occurrences c (cs ++ ds) = occurrences c cs + occurrences c ds :=
  List.countP_append

/-- One character more is one occurrence more or none. -/
theorem occurrences_cons (c : Char) (x : Located Char) (cs : List (Located Char)) :
    occurrences c (x :: cs) = occurrences c cs + if x.val = c then 1 else 0 := by
  simp [occurrences, List.countP_cons]

/-- A cut anywhere divides the occurrences. -/
theorem occurrences_take_add_drop (c : Char) (n : Nat) (cs : List (Located Char)) :
    occurrences c (cs.take n) + occurrences c (cs.drop n) = occurrences c cs := by
  rw [← occurrences_append, List.take_append_drop]

/-- Every parenthesis in the characters has its partner there: as many are closed as are opened,
and none of those at the end is left open. -/
structure Paired (cs : List (Located Char)) : Prop where
  total : occurrences '(' cs = occurrences ')' cs
  drop_le : ∀ n, occurrences '(' (cs.drop n) ≤ occurrences ')' (cs.drop n)

/-- Nothing holds no parenthesis without a partner. -/
theorem paired_nil : Paired [] := ⟨rfl, fun n => by simp [occurrences]⟩

/-- Two parts whose parentheses have their partners make up such a part. The condition on the end
holds across the seam, as none of the first part's parentheses lacks a partner. -/
theorem Paired.append (h : Paired cs) (h' : Paired ds) : Paired (cs ++ ds) := by
  refine ⟨?_, fun n => ?_⟩
  · rw [occurrences_append, occurrences_append, h.total, h'.total]
  · rw [List.drop_append, occurrences_append, occurrences_append]
    exact Nat.add_le_add (h.drop_le n) (h'.drop_le _)

/-- A character that is no parenthesis. -/
theorem paired_singleton {x : Located Char} (ho : x.val ≠ '(') (hc : x.val ≠ ')') :
    Paired [x] := by
  refine ⟨by simp [occurrences, ho, hc], fun n => ?_⟩
  cases n with
  | zero => simp [occurrences, ho, hc]
  | succ n => simp [occurrences]

/-- Characters that have their partners have them in parentheses too. -/
theorem Paired.group (h : Paired cs) (opened closed : Nat) :
    Paired (⟨opened, '('⟩ :: cs ++ [⟨closed, ')'⟩]) := by
  have hcs := h.total
  refine ⟨?_, fun n => ?_⟩
  · simp only [List.cons_append, occurrences_cons, occurrences_append]
    simp [occurrences] at hcs ⊢
    omega
  · cases n with
    | zero =>
        simp only [List.cons_append, List.drop_zero, occurrences_cons, occurrences_append]
        simp [occurrences] at hcs ⊢
        omega
    | succ n =>
        have hdrop := h.drop_le n
        -- Cut behind the `(`, the rest is an end of the inside and then the `)`, or nothing.
        simp only [List.cons_append, List.drop_succ_cons, List.drop_append, occurrences_append]
        cases n - cs.length with
        | zero => simp [occurrences] at hdrop ⊢; omega
        | succ m => simp [occurrences] at hdrop ⊢; omega

/-- What has its partners inside closes nothing in front of it. This is the condition on the end,
seen from the other side of the cut. -/
theorem Paired.closesNone (h : Paired cs) : ClosesNone cs := by
  intro n _
  have hopened := occurrences_take_add_drop '(' n cs
  have hclosed := occurrences_take_add_drop ')' n cs
  have htotal := h.total
  have hdrop := h.drop_le n
  omega

/-- Where no `(` at the end is left open, every `(` is closed. -/
theorem unclosed?_eq_none_of_drop_le
    (h : ∀ n, occurrences '(' (cs.drop n) ≤ occurrences ')' (cs.drop n)) :
    unclosed? cs = none := by
  -- From the front, while the condition is on all ends of the text and so on those of the rest.
  induction cs with
  | nil => rfl
  | cons x cs ih =>
      rw [unclosed?, ih fun n => h (n + 1), Option.none_or]
      -- Were the first character a `(` that nothing closes, there would be too many of them.
      refine if_neg ?_
      rintro ⟨hx, hcloses⟩
      have hall := hcloses cs.length (Nat.le_refl _)
      have hwhole := h 0
      rw [List.drop_zero, occurrences_cons, occurrences_cons, hx] at hwhole
      rw [List.take_length] at hall
      simp at hwhole
      omega

/-- The last `(` that nothing closes is looked for from the end, so what is in front of it plays
no part. -/
theorem unclosed?_append_of_eq_some {pos : Nat} (before : List (Located Char))
    (h : unclosed? cs = some pos) : unclosed? (before ++ cs) = some pos := by
  -- On the characters in front: the search goes on to them only when nothing is found behind.
  induction before with
  | nil => exact h
  | cons x before ih => rw [List.cons_append, unclosed?, ih, Option.some_or]

end Paired

/-- The open groups of a text, the innermost first. Each is opened by a `(` of the text, and
between one and the next every parenthesis has its partner. -/
inductive Nested : List (Located Bool) → List (Located Char) → Prop where
  | outermost {cs : List (Located Char)} : Paired cs → Nested [] cs
  | group {outer : List (Located Bool)} {group : Located Bool}
      {before inside : List (Located Char)} :
      Nested outer before → Paired inside →
      Nested (group :: outer) (before ++ ⟨group.pos, '('⟩ :: inside)

namespace Nested

variable {opened : List (Located Bool)} {cs ds : List (Located Char)}

/-- What has its own partners comes into the innermost group and leaves the groups as they are. -/
theorem append (h : Nested opened cs) (hds : Paired ds) : Nested opened (cs ++ ds) := by
  cases h with
  | outermost hcs => exact .outermost (hcs.append hds)
  | group houter hinside =>
      rw [List.append_assoc, List.cons_append]
      exact .group houter (hinside.append hds)

/-- The flags of groups do not belong to the nesting. -/
theorem noteDigit (h : Nested opened cs) : Nested (Check.noteDigit opened) cs := by
  cases h with
  | outermost hcs => exact .outermost hcs
  | @group outer group before inside houter hinside =>
      exact @Nested.group _ (group.map fun _ => true) _ _ houter hinside

/-- A `(` opens a group, and there is nothing in it yet. -/
theorem opening (h : Nested opened cs) (pos : Nat) (seen : Bool) :
    Nested (⟨pos, seen⟩ :: opened) (cs ++ [⟨pos, '('⟩]) :=
  @Nested.group _ ⟨pos, seen⟩ _ _ h paired_nil

/-- A `)` gives the innermost group its partner, and all of it goes into the group around it. -/
theorem closing {group : Located Bool} (h : Nested (group :: opened) cs) (pos : Nat) :
    Nested opened (cs ++ [⟨pos, ')'⟩]) := by
  cases h with
  | group houter hinside =>
      rw [List.append_assoc]
      exact houter.append (hinside.group group.pos pos)

/-- There are as many open groups as there are more `(` than `)`. -/
theorem occurrences_eq (h : Nested opened cs) :
    occurrences '(' cs = occurrences ')' cs + opened.length := by
  -- On the nesting. Each group brings one `(` more, and what is in it is in balance.
  induction h with
  | outermost hcs => exact hcs.total
  | group houter hinside ih =>
      have htotal := hinside.total
      simp only [occurrences_append, occurrences_cons, List.length_cons]
      simp
      omega

/-- The innermost open group is the last `(` that nothing closes: behind it all have their
partners. -/
theorem unclosed?_eq (h : Nested opened cs) :
    unclosed? cs = opened.head?.map Located.pos := by
  cases h with
  | outermost hcs => exact unclosed?_eq_none_of_drop_le hcs.drop_le
  | @group outer group before inside houter hinside =>
      -- Behind the innermost `(` all have their partners, so nothing there is left open and
      -- nothing closes it.
      refine unclosed?_append_of_eq_some before ?_
      rw [unclosed?, unclosed?_eq_none_of_drop_le hinside.drop_le, Option.none_or]
      exact if_pos ⟨rfl, hinside.closesNone⟩

end Nested

/-! ### What a check remembers -/

namespace Check

/-- What a check remembers of the characters behind it. -/
structure Tracks (k : Check) (before : List (Located Char)) : Prop where
  last : before.getLast? = k.last.map (Located.map Symbol.toChar)
  digits : k.digits = endingDigits before
  nested : Nested k.opened before
  /-- In front of anything but an operator's operand, no digit has been seen in the innermost
  group only directly behind its `(`. -/
  unseen : ∀ group outer, k.opened = group :: outer →
    (∀ pos op, k.last ≠ some ⟨pos, .operator op⟩) →
      (group.val = false ↔ before.getLast?.map Located.val = some '(')

variable {limit : UInt8} {k : Check} {before : List (Located Char)} {pos : Nat}

namespace Tracks

/-- Nothing is remembered of nothing. -/
theorem empty : Tracks {} [] := by
  refine ⟨rfl, rfl, .outermost paired_nil, ?_⟩
  intro group outer h
  cases h

/-- The last character is that of the last symbol. -/
theorem last_val (h : k.Tracks before) :
    before.getLast?.map Located.val = k.last.map fun s => s.val.toChar := by
  rw [h.last, Option.map_map]
  rfl

/-- An operator that is remembered as the last symbol has no right operand yet. -/
theorem missingRightOperand?_of_operator (h : k.Tracks before) {place : Nat} {op : Operator}
    (hlast : k.last = some ⟨place, .operator op⟩) :
    missingRightOperand? before = some (.missingRightOperand op place) := by
  simp [missingRightOperand?, h.last, hlast, Located.map, Symbol.operator?]

/-- If the last symbol is no operator, nothing is missing to its right. -/
theorem missingRightOperand?_eq_none (h : k.Tracks before)
    (hlast : ∀ place op, k.last ≠ some ⟨place, .operator op⟩) :
    missingRightOperand? before = none := by
  rw [missingRightOperand?, h.last]
  -- The rule looks at the last character, which is the one of the last symbol, if there is one.
  rcases hk : k.last with _ | ⟨place, s⟩
  · rfl
  · cases s with
    | operator op => exact absurd hk (hlast place op)
    | digit d => simp [Located.map, Symbol.operator?]
    | opening => rfl
    | closing => rfl

/-- The last character is a `)` where the last symbol is. -/
theorem last_closing_iff (h : k.Tracks before) :
    before.getLast?.map Located.val = some ')' ↔ k.last.any (·.val.isClosing) = true := by
  rw [h.last_val]
  rcases k.last with _ | ⟨place, s⟩
  · simp
  · cases s <;> simp [Symbol.isClosing]

/-- The last character is a digit where the last symbol is one. -/
theorem last_digit (h : k.Tracks before) :
    before.getLast?.any (·.val.isDigit) = k.last.any (·.val.isDigit) := by
  rw [h.last]
  rcases k.last with _ | ⟨place, s⟩
  · rfl
  · exact Symbol.isDigit_toChar s

/-- A symbol that is no parenthesis changes nothing about the groups. -/
theorem nested_append (h : k.Tracks before) {s : Symbol} (pos : Nat) (ho : s ≠ .opening)
    (hc : s ≠ .closing) : Nested k.opened (before ++ [⟨pos, s.toChar⟩]) :=
  h.nested.append (paired_singleton (by simpa using ho) (by simpa using hc))

end Tracks

/-- A character with a fault is where a check stops, and one without is remembered. -/
def Heeds (limit : UInt8) (k : Check) (before : List (Located Char)) (pos : Nat) (s : Symbol) :
    Option Fault → Prop
  | some fault => k.read limit ⟨pos, .symbol s⟩ = .error fault
  | none => ∃ k' : Check, k.read limit ⟨pos, .symbol s⟩ = .ok k' ∧
      k'.Tracks (before ++ [⟨pos, s.toChar⟩])

/-- Where a digit has been noted, the innermost group has its flag set. -/
theorem val_eq_true_of_noteDigit {opened outer : List (Located Bool)} {group : Located Bool}
    (h : noteDigit opened = group :: outer) : group.val = true := by
  cases opened with
  | nil => cases h
  | cons g rest =>
      cases h
      rfl

/-- A digit makes the run at the end longer by one. -/
theorem endingDigits_append_digit (d : Fin 10) :
    endingDigits (before ++ [⟨pos, (Symbol.digit d).toChar⟩]) = endingDigits before + 1 := by
  simp [endingDigits, Symbol.isDigit]

/-- Any other symbol ends the run. -/
theorem endingDigits_append {s : Symbol} (hs : s.isDigit = false) :
    endingDigits (before ++ [⟨pos, s.toChar⟩]) = 0 := by
  simp [endingDigits, hs]

namespace Tracks

/-- A digit. -/
theorem heeds_digit (h : k.Tracks before) (d : Fin 10) :
    Heeds limit k before pos (.digit d)
      (violation? limit before ⟨pos, (Symbol.digit d).toChar⟩) := by
  rw [violation?_digit]
  -- The two rules are asked in the order in which a check asks, so each refusal is the first
  -- fault.
  by_cases hclosing : k.last.any (·.val.isClosing) = true
  · rw [Fault.when_pos (h.last_closing_iff.2 hclosing), Option.some_or]
    show k.read limit _ = _
    rw [Check.read_digit, digit, if_pos hclosing]
  · rw [Fault.when_neg (mt h.last_closing_iff.1 hclosing), Option.none_or]
    by_cases hlong : limit.toNat < endingDigits before + 1
    · rw [Fault.when_pos hlong]
      show k.read limit _ = _
      rw [Check.read_digit, digit, if_neg hclosing, h.digits, if_pos hlong]
    · rw [Fault.when_neg hlong]
      refine ⟨⟨some ⟨pos, .digit d⟩, k.digits + 1, noteDigit k.opened⟩, ?_, ?_⟩
      · rw [Check.read_digit, digit, if_neg hclosing, h.digits, if_neg hlong]
      · have hnested := h.nested_append pos (s := .digit d) (by simp) (by simp)
        refine ⟨by simp [Located.map], ?_, hnested.noteDigit, ?_⟩
        · rw [endingDigits_append_digit, h.digits]
        · -- The digit has been noted in the innermost group, and so the flag is set.
          intro group outer hopened _
          simp [val_eq_true_of_noteDigit hopened]

/-- Behind an operator, what starts no operand is not looked at. -/
theorem heeds_of_operator (h : k.Tracks before) {s : Symbol} {place : Nat} {op : Operator}
    (hs : (s.isDigit || s.isOpening) = false) (hlast : k.last = some ⟨place, .operator op⟩)
    (rest : Option Fault) : Heeds limit k before pos s ((missingRightOperand? before).or rest) := by
  rw [h.missingRightOperand?_of_operator hlast, Option.some_or]
  show (k.startsOperand s >>= fun _ => _) = _
  rw [startsOperand, hlast]
  simp [hs]

/-- An operator other than `+` and `-` is refused at the start of the text or of a group. A check
tells this by the last symbol, the rules by the last character. -/
theorem hasLeftOperand_eq_false_iff {op : Operator}
    (hlast : ∀ place o, k.last ≠ some ⟨place, .operator o⟩) :
    k.hasLeftOperand op = false ↔ op ∈ [.mul, .div, .pow] ∧
      ((k.last.map fun s => s.val.toChar) = none
        ∨ (k.last.map fun s => s.val.toChar) = some '(') := by
  have hsign : op.isSign = false ↔ op ∈ [.mul, .div, .pow] := by
    cases op <;> decide
  rw [← hsign, hasLeftOperand]
  rcases hk : k.last with _ | ⟨place, s⟩
  · simp
  · cases s with
    | operator o => exact absurd hk (hlast place o)
    | digit d => simp
    | opening => simp
    | closing => simp

/-- An operator. -/
theorem heeds_operator (h : k.Tracks before) (op : Operator) :
    Heeds limit k before pos (.operator op)
      (violation? limit before ⟨pos, (Symbol.operator op).toChar⟩) := by
  rw [violation?_operator]
  -- An operator behind an operator is refused for the sake of the one in front.
  by_cases hlast : ∀ place o, k.last ≠ some ⟨place, .operator o⟩
  · have hread : k.read limit ⟨pos, .symbol (.operator op)⟩ = k.operator pos op := by
      show (k.startsOperand (.operator op) >>= fun _ => k.operator pos op) = _
      rw [(startsOperand_eq_ok_iff rfl).2 hlast, ok_bind]
    rw [h.missingRightOperand?_eq_none hlast, Option.none_or, h.last_val]
    cases hleft : k.hasLeftOperand op with
    | false =>
        rw [Fault.when_pos ((hasLeftOperand_eq_false_iff hlast).1 hleft)]
        show k.read limit _ = _
        rw [hread, operator, hleft]
        rfl
    | true =>
        have hcause := mt (hasLeftOperand_eq_false_iff hlast).2 (ne_false_of_eq_true hleft)
        rw [Fault.when_neg hcause]
        refine ⟨⟨some ⟨pos, .operator op⟩, 0, k.opened⟩, ?_, ?_⟩
        · rw [hread, operator, hleft]
          rfl
        · refine ⟨by simp [Located.map], (endingDigits_append rfl).symm,
            h.nested_append pos (by simp) (by simp), ?_⟩
          intro group outer _ hnot
          exact absurd rfl (hnot pos op)
  · obtain ⟨place, o, hop⟩ : ∃ place o, k.last = some ⟨place, .operator o⟩ := by
      simpa using hlast
    exact h.heeds_of_operator rfl hop _

/-- A `(`. -/
theorem heeds_opening (h : k.Tracks before) :
    Heeds limit k before pos .opening
      (violation? limit before ⟨pos, Symbol.opening.toChar⟩) := by
  rw [violation?_opening, h.last_digit]
  -- Behind a digit and behind a `)` a `(` is refused, each with its own fault.
  by_cases hdigit : k.last.any (·.val.isDigit) = true
  · rw [Fault.when_pos hdigit, Option.some_or]
    show k.read limit _ = _
    rw [Check.read_opening, opening, if_pos hdigit]
  · rw [Fault.when_neg hdigit, Option.none_or]
    by_cases hclosing : k.last.any (·.val.isClosing) = true
    · rw [Fault.when_pos (h.last_closing_iff.2 hclosing)]
      show k.read limit _ = _
      rw [Check.read_opening, opening, if_neg hdigit, if_pos hclosing]
    · rw [Fault.when_neg (mt h.last_closing_iff.1 hclosing)]
      refine ⟨⟨some ⟨pos, .opening⟩, 0, ⟨pos, false⟩ :: k.opened⟩, ?_, ?_⟩
      · rw [Check.read_opening, opening, if_neg hdigit, if_neg hclosing]
      · refine ⟨by simp [Located.map], (endingDigits_append rfl).symm,
          h.nested.opening pos false, ?_⟩
        intro group outer hopened _
        cases hopened
        simp

/-- As many `)` as `(` are behind exactly where no group is open. -/
theorem occurrences_eq_iff (h : k.Tracks before) :
    occurrences ')' before = occurrences '(' before ↔ k.opened = [] := by
  rw [h.nested.occurrences_eq, ← List.length_eq_zero_iff]
  omega

/-- A `)`. -/
theorem heeds_closing (h : k.Tracks before) :
    Heeds limit k before pos .closing
      (violation? limit before ⟨pos, Symbol.closing.toChar⟩) := by
  rw [violation?_closing]
  -- In the order of the rules: an operand that is missing, then the group, then what is in it.
  by_cases hlast : ∀ place o, k.last ≠ some ⟨place, .operator o⟩
  · have hread := @Check.read_closing limit k pos hlast
    rw [h.missingRightOperand?_eq_none hlast, Option.none_or]
    cases hopened : k.opened with
    | nil =>
        rw [Fault.when_pos (h.occurrences_eq_iff.2 hopened), Option.some_or]
        show k.read limit _ = _
        rw [hread, closing, hopened]
    | cons group outer =>
        have hunmatched := mt h.occurrences_eq_iff.1 (by simp [hopened])
        rw [Fault.when_neg hunmatched, Option.none_or]
        -- The last symbol is no operator here, so an unset flag means that it is the `(`.
        have hempty := h.unseen group outer hopened hlast
        cases hseen : group.val with
        | false =>
            rw [Fault.when_pos (hempty.1 hseen)]
            show k.read limit _ = _
            rw [hread, closing, hopened]
            simp [hseen]
        | true =>
            rw [Fault.when_neg (mt hempty.2 (ne_false_of_eq_true hseen))]
            refine ⟨⟨some ⟨pos, .closing⟩, 0, noteDigit outer⟩, ?_, ?_⟩
            · rw [hread, closing, hopened]
              simp [hseen]
            · have hnested := h.nested
              rw [hopened] at hnested
              refine ⟨by simp [Located.map], (endingDigits_append rfl).symm,
                (hnested.closing pos).noteDigit, ?_⟩
              intro g rest hg _
              simp [val_eq_true_of_noteDigit hg, Symbol.toChar]
  · obtain ⟨place, o, hop⟩ : ∃ place o, k.last = some ⟨place, .operator o⟩ := by
      simpa using hlast
    exact h.heeds_of_operator rfl hop _

/-- Any character: it has a fault, or it is remembered. -/
theorem read (h : k.Tracks before) (x : Located Char) :
    (∃ fault, violation? limit before x = some fault ∧
        k.read limit (x.map Mark.ofChar) = .error fault) ∨
      ∃ k' : Check, violation? limit before x = none ∧
        k.read limit (x.map Mark.ofChar) = .ok k' ∧ k'.Tracks (before ++ [x]) := by
  obtain ⟨pos, c⟩ := x
  -- A foreign character is refused in any state, before the state is looked at.
  cases hc : Symbol.ofChar? c with
  | none =>
      refine .inl ⟨_, violation?_foreign hc, ?_⟩
      simp [Located.map, Mark.ofChar, hc, Check.read]
  | some s =>
      obtain rfl := Symbol.ofChar?_eq_some_iff.1 hc
      have hmark : (⟨pos, s.toChar⟩ : Located Char).map Mark.ofChar = ⟨pos, .symbol s⟩ := by
        simp [Located.map, Mark.ofChar]
      have hheeds : Heeds limit k before pos s (violation? limit before ⟨pos, s.toChar⟩) := by
        cases s with
        | digit d => exact h.heeds_digit d
        | operator op => exact h.heeds_operator op
        | opening => exact h.heeds_opening
        | closing => exact h.heeds_closing
      rw [hmark]
      cases hviolation : violation? limit before ⟨pos, s.toChar⟩ with
      | some fault =>
          rw [hviolation] at hheeds
          exact .inl ⟨fault, rfl, hheeds⟩
      | none =>
          rw [hviolation] at hheeds
          obtain ⟨k', hread, htracks⟩ := hheeds
          exact .inr ⟨k', rfl, hread, htracks⟩

/-! ### The whole text -/

/-- Behind anything but an operator, only a `)` may be missing. -/
theorem conclude_eq_of_last {place : Nat} {s : Symbol} (hlast : k.last = some ⟨place, s⟩)
    (hs : s.operator? = none) :
    k.conclude = Fault.verdict (k.opened.head?.map fun group => .unclosedGroup group.pos) := by
  obtain ⟨last, digits, opened⟩ := k
  cases hlast
  cases s with
  | operator op => cases hs
  | digit d => cases opened <;> rfl
  | opening => cases opened <;> rfl
  | closing => cases opened <;> rfl

/-- At the end, an operand or a `)` may be missing. -/
theorem conclude (h : k.Tracks before) (hbefore : before ≠ []) :
    k.conclude = Fault.verdict (incompleteness? before) := by
  rw [incompleteness?, h.nested.unclosed?_eq, Option.map_map]
  -- A formula has a last symbol. If it is an operator its operand is missing, else perhaps a `)`.
  rcases hlast : k.last with _ | ⟨place, s⟩
  · have hnone := h.last
    rw [hlast] at hnone
    exact absurd (List.getLast?_eq_none_iff.1 hnone) hbefore
  · cases hs : s.operator? with
    | some op =>
        obtain rfl := Symbol.operator?_eq_some_iff.1 hs
        rw [h.missingRightOperand?_of_operator hlast, Check.conclude, hlast]
        rfl
    | none =>
        have hoperator : ∀ p op, k.last ≠ some ⟨p, .operator op⟩ := by
          intro p op hop
          cases hlast.symm.trans hop
          cases hs
        rw [h.missingRightOperand?_eq_none hoperator, Option.none_or, conclude_eq_of_last hlast hs]
        rfl

/-- The rest of a text: the first character with a fault, or what is missing at the end. -/
theorem finish (rest : List (Located Char)) (h : k.Tracks before) (hne : before ++ rest ≠ []) :
      (((rest.map (Located.map Mark.ofChar)).foldlM (Check.read limit) k) >>= Check.conclude) =
        Fault.verdict (((List.range' before.length rest.length).findSome? fun i =>
          (before ++ rest)[i]?.bind (violation? limit ((before ++ rest).take i))).or
            (incompleteness? (before ++ rest))) := by
  -- With every step a character goes over from the rest to those behind the check.
  induction rest generalizing k before with
  | nil =>
      rw [List.append_nil] at hne ⊢
      exact h.conclude hne
  | cons x rest ih =>
      have hx : (before ++ x :: rest)[before.length]?.bind
          (violation? limit ((before ++ x :: rest).take before.length))
            = violation? limit before x := by
        simp
      rw [List.length_cons, List.range'_succ, List.findSome?_cons, hx, List.map_cons,
        List.foldlM_cons]
      have hcases := @Tracks.read limit k before h x
      rcases hcases with ⟨fault, hviolation, hread⟩ | ⟨k', hviolation, hread, htracks⟩
      · rw [hviolation, hread]
        rfl
      · rw [hviolation, hread, ok_bind, ih htracks (by simp)]
        simp

end Tracks
end Check

/-- What an operator lacks is not the whole text. -/
theorem missingRightOperand?_ne_empty (cs : List (Located Char)) :
    missingRightOperand? cs ≠ some .empty := by
  simp [missingRightOperand?, Option.bind_eq_some_iff]

/-- A rule that a character breaks is not that of the empty text. -/
theorem violation?_ne_empty (limit : UInt8) (before : List (Located Char)) (x : Located Char) :
    violation? limit before x ≠ some .empty := by
  simp [violation?, Option.or_eq_some_iff, Option.bind_eq_some_iff, Fault.when,
    missingRightOperand?_ne_empty]

/-- No character is left of spacing, and one of everything else. -/
theorem unspaced_eq_nil_iff {start : Nat} {text : List Char} :
    unspaced start text = [] ↔ text.all (· = ' ') := by
  rw [← List.length_eq_zero_iff, Formula.length_unspaced, List.countP_eq_zero]
  simp

/-- Emptiness is the fault of the empty text and of no other. -/
theorem firstFault?_eq_empty_iff {limit : UInt8} {cs : List (Located Char)} :
    firstFault? limit cs = some .empty ↔ cs = [] := by
  unfold firstFault?
  split
  · next hnil => simp [hnil]
  · -- A text with characters has a fault of one of its characters or of its end.
    next hne =>
      have hviolation : firstViolation? limit cs ≠ some .empty := by
        intro h
        obtain ⟨i, -, hi⟩ := List.exists_of_findSome?_eq_some h
        obtain ⟨x, -, hx⟩ := Option.bind_eq_some_iff.1 hi
        exact violation?_ne_empty _ _ _ hx
      have hincomplete : incompleteness? cs ≠ some .empty := by
        simp [incompleteness?, Option.or_eq_some_iff, missingRightOperand?_ne_empty]
      simp [Option.or_eq_some_iff, hne, hviolation, hincomplete]

/-- A formula has a character. -/
theorem Formula.chars_ne_nil (f : Formula) : f.chars ≠ [] := by
  obtain ⟨c, hc, hspace⟩ := f.exists_ne_space
  intro hnil
  have hall := unspaced_eq_nil_iff.1 hnil
  exact hspace (by simpa using List.all_eq_true.1 hall c hc)

/-- The verdict on a formula. -/
theorem Formula.check_eq_verdict (limit : UInt8) (f : Formula) :
    f.check limit = Fault.verdict (firstFault? limit f.chars) := by
  have hfinish := @Check.Tracks.finish limit {} [] f.chars .empty f.chars_ne_nil
  rw [List.nil_append, List.length_nil, ← List.range_eq_range'] at hfinish
  rw [firstFault?, if_neg f.chars_ne_nil]
  exact hfinish

/-- The verdict on a text. -/
theorem checkText_eq_verdict (limit : UInt8) (text : String) :
    checkText limit text = Fault.verdict (firstFault? limit (unspaced 0 text.toList)) := by
  rw [checkText]
  cases hf : Formula.ofText text with
  | error e =>
      obtain ⟨rfl, hall⟩ := Formula.ofText_eq_error_iff.1 hf
      have hnil : unspaced 0 text.toList = [] := unspaced_eq_nil_iff.2 (by simpa using hall)
      rw [hnil]
      rfl
  | ok f =>
      obtain rfl := Formula.ofText_eq_ok_iff.1 hf
      rw [ok_bind]
      exact f.check_eq_verdict limit

/-- **A check finds the first fault.** A text is empty when there is nothing but spacing in it.
Of any other the characters that are not spacing are looked at one by one, and the verdict is
the first rule that one of them breaks, or else what is missing at the end. -/
theorem checkText_eq_firstFault (limit : UInt8) (text : String) :
    (checkText limit text = .error .empty ↔ text.toList.all (· = ' ')) ∧
      checkText limit text = Fault.verdict (firstFault? limit (unspaced 0 text.toList)) := by
  refine ⟨?_, checkText_eq_verdict limit text⟩
  have hempty : text.toList.all (· = ' ') ↔
      firstFault? limit (unspaced 0 text.toList) = some .empty := by
    rw [firstFault?_eq_empty_iff, unspaced_eq_nil_iff]
  rw [checkText_eq_verdict, hempty]
  cases firstFault? limit (unspaced 0 text.toList) with
  | none => simp [Fault.verdict]
  | some fault => simp [Fault.verdict]

/-- A group with a sign and nothing else misses an operand before it can be empty. -/
example : checkText 8 "1 *( - )" = .error (.missingRightOperand .sub 5) := by decide +kernel

end Reckoner
