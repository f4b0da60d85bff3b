import Reckoner.Proofs.Result
import Reckoner.Validity

/-!
# `Reckoner.Proofs.Check.Step`: the marks that a check takes in

`Check.read` puts a mark to a row of rules and stops at the first one broken. This file
says of each kind of mark when none is broken, and what is known then. All of it hangs on
the last symbol, which is one of three kinds: it ends an operand (`Check.endsOperand`), it
is an operator, or there is none or a `(`.

* `read_digit_eq_ok_iff`, `read_operator_eq_ok_iff`, `read_opening_eq_ok_iff`,
  `read_closing_eq_ok_iff`: one step, for each kind of symbol.
* `Refuses`, `refuses_of_read_eq_error`: the marks that are not taken in, with their faults.
* `hasLeftOperand_of_endsOperand`, `conclude_of_endsOperand`: an operand lets any operator
  follow and lets the text end.
* `AwaitsOperand`, `AtStart`: an operand is due, as the first of a sum or not.
-/

set_option autoImplicit false

namespace Reckoner.Check

variable {limit : UInt8} {k k' : Check} {pos : Nat}

/-- Whether the last symbol ends an operand: it is a digit or a `)`. -/
def endsOperand (k : Check) : Bool :=
  k.last.any fun s => s.val.isDigit || s.val.isClosing

/-- A number ends in a digit and a group in a `)`. -/
theorem endsOperand_eq (k : Check) :
    k.endsOperand = (k.last.any (·.val.isDigit) || k.last.any (·.val.isClosing)) := by
  rw [endsOperand]
  cases k.last <;> rfl

/-! ### Behind an operand -/

/-- Behind an operand every operator may stand. -/
theorem hasLeftOperand_of_endsOperand {k : Check} (h : k.endsOperand = true) (op : Operator) :
    k.hasLeftOperand op = true := by
  obtain ⟨last, digits, opened⟩ := k
  rcases last with _ | ⟨pos, s⟩
  · cases h
  · cases s with
    | digit d => rfl
    | operator o => cases h
    | opening => cases h
    | closing => rfl

/-- Behind an operand no operator waits for one. -/
theorem last_ne_operator_of_endsOperand {k : Check} (h : k.endsOperand = true) (pos : Nat)
    (op : Operator) : k.last ≠ some ⟨pos, .operator op⟩ := by
  intro hlast
  rw [endsOperand, hlast] at h
  cases h

/-- Behind an operand, only an open group is missing something at the end. -/
theorem conclude_of_endsOperand {k : Check} (h : k.endsOperand = true) :
    k.conclude = match k.opened with
      | [] => .ok ()
      | group :: _ => .error (.unclosedGroup group.pos) := by
  obtain ⟨last, digits, opened⟩ := k
  rcases last with _ | ⟨pos, s⟩
  · cases h
  · cases s with
    | digit d => rfl
    | operator op => cases h
    | opening => cases h
    | closing => rfl

/-! ### Where an operand is due -/

/-- The text behind ends where an operand is due. -/
structure AwaitsOperand (k : Check) : Prop where
  digits : k.digits = 0
  endsOperand : k.endsOperand = false

/-- The text behind ends where a sum starts: there is none, or it ends in a `(`. -/
structure AtStart (k : Check) : Prop where
  digits : k.digits = 0
  last : k.last = none ∨ ∃ pos, k.last = some ⟨pos, .opening⟩

/-- At the start of a text or of a group an operand may begin. -/
theorem AtStart.awaitsOperand {k : Check} (h : k.AtStart) : k.AwaitsOperand := by
  refine ⟨h.digits, ?_⟩
  rcases h.last with hlast | ⟨pos, hlast⟩
  · rw [endsOperand, hlast]
    rfl
  · rw [endsOperand, hlast]
    rfl

/-- Where a sum starts, an operator has to be a sign. -/
theorem AtStart.hasLeftOperand_eq {k : Check} (h : k.AtStart) (op : Operator) :
    k.hasLeftOperand op = op.isSign := by
  rcases h.last with hlast | ⟨pos, hlast⟩
  · rw [hasLeftOperand, hlast]
    rfl
  · rw [hasLeftOperand, hlast]
    rfl

/-- At the start no operator waits for an operand. -/
theorem AtStart.last_ne_operator {k : Check} (h : k.AtStart) (pos : Nat) (op : Operator) :
    k.last ≠ some ⟨pos, .operator op⟩ := by
  intro hop
  rcases h.last with hlast | ⟨place, hlast⟩
  · cases hlast.symm.trans hop
  · cases hlast.symm.trans hop

/-- Where an operand may begin, no group has just ended. -/
theorem AwaitsOperand.not_closing {k : Check} (h : k.AwaitsOperand) :
    k.last.any (·.val.isClosing) = false := by
  have hends := h.endsOperand
  rw [endsOperand_eq, Bool.or_eq_false_iff] at hends
  exact hends.2

/-! ### Groups -/

/-- That a digit was seen is noted once. -/
@[simp] theorem noteDigit_noteDigit (opened : List (Located Bool)) :
    noteDigit (noteDigit opened) = noteDigit opened := by
  cases opened with
  | nil => rfl
  | cons group outer => rfl

/-- Noting a digit leaves the places of the groups. -/
theorem map_pos_noteDigit (opened : List (Located Bool)) :
    (noteDigit opened).map Located.pos = opened.map Located.pos := by
  cases opened with
  | nil => rfl
  | cons group outer => rfl

/-! ### The rule on operators

An operator has to be followed by what starts an operand. The rule comes first, so it has
to be out of the way before a symbol's own rules can be looked at. -/

/-- A digit or a `(` may follow anything as far as the last operator is concerned. -/
theorem startsOperand_eq_ok {s : Symbol} (hs : (s.isDigit || s.isOpening) = true) :
    k.startsOperand s = .ok () := by
  unfold startsOperand
  split
  · exact if_pos hs
  · rfl

/-- Any other symbol may follow only if no operator waits for its operand. -/
theorem startsOperand_eq_ok_iff {s : Symbol} (hs : (s.isDigit || s.isOpening) = false) :
    k.startsOperand s = .ok () ↔ ∀ pos op, k.last ≠ some ⟨pos, .operator op⟩ := by
  unfold startsOperand
  split
  · next pos op hlast => simp [hs, hlast]
  · next hlast => simpa using hlast

/-! ### One step

What starts an operand is put to its own rules only. -/

/-- A digit is an operand, so no operator in front of it refuses it. -/
theorem read_digit (d : Fin 10) :
    k.read limit ⟨pos, .symbol (.digit d)⟩ = k.digit limit pos d := by
  show (k.startsOperand (.digit d) >>= fun _ => k.digit limit pos d) = _
  rw [startsOperand_eq_ok rfl, ok_bind]

/-- Neither is a `(` refused by one. -/
theorem read_opening : k.read limit ⟨pos, .symbol .opening⟩ = k.opening pos := by
  show (k.startsOperand .opening >>= fun _ => k.opening pos) = _
  rw [startsOperand_eq_ok rfl, ok_bind]

/-- Behind anything but an operator, a `)` is put to its own rules only. -/
theorem read_closing (h : ∀ pos op, k.last ≠ some ⟨pos, .operator op⟩) :
    k.read limit ⟨pos, .symbol .closing⟩ = k.closing pos := by
  show (k.startsOperand .closing >>= fun _ => k.closing pos) = _
  rw [(startsOperand_eq_ok_iff rfl).2 h, ok_bind]

/-- A digit is taken in behind anything but a `)`, as long as its number is not too long. -/
theorem read_digit_eq_ok_iff {d : Fin 10} :
    k.read limit ⟨pos, .symbol (.digit d)⟩ = .ok k' ↔
      k.last.any (·.val.isClosing) = false ∧ k.digits < limit.toNat ∧
        k' = ⟨some ⟨pos, .digit d⟩, k.digits + 1, noteDigit k.opened⟩ := by
  rw [read_digit, digit]
  -- The rules in the order in which the check goes through them.
  split
  · next hclosing => simp [hclosing]
  · next hclosing =>
      split
      · next hlong =>
          simp only [reduceCtorEq, false_iff, not_and]
          omega
      · next hshort =>
          have hlt : k.digits < limit.toNat := by omega
          simp [hclosing, hlt, eq_comm]

/-- An operator is taken in behind an operand, and a sign also where there is none. -/
theorem read_operator_eq_ok_iff {op : Operator} :
    k.read limit ⟨pos, .symbol (.operator op)⟩ = .ok k' ↔
      k.hasLeftOperand op = true ∧ k' = ⟨some ⟨pos, .operator op⟩, 0, k.opened⟩ := by
  have hread : k.read limit ⟨pos, .symbol (.operator op)⟩
      = (k.startsOperand (.operator op) >>= fun _ => k.operator pos op) := rfl
  by_cases hlast : ∀ pos op, k.last ≠ some ⟨pos, .operator op⟩
  · rw [hread, (startsOperand_eq_ok_iff rfl).2 hlast, ok_bind, operator]
    split
    · next hleft => simp [hleft, eq_comm]
    · next hleft => simp [hleft]
  · -- The rule on operators refuses what `hasLeftOperand` would refuse too.
    obtain ⟨p, o, hlast⟩ : ∃ p o, k.last = some ⟨p, .operator o⟩ := by simpa using hlast
    rw [hread, startsOperand, hasLeftOperand, hlast]
    simp [Symbol.isDigit, Symbol.isOpening]

/-- A `(` is taken in behind anything but an operand. -/
theorem read_opening_eq_ok_iff :
    k.read limit ⟨pos, .symbol .opening⟩ = .ok k' ↔
      k.endsOperand = false ∧ k' = ⟨some ⟨pos, .opening⟩, 0, ⟨pos, false⟩ :: k.opened⟩ := by
  rw [read_opening, opening, endsOperand_eq]
  split
  · next hdigit => simp [hdigit]
  · next hdigit =>
      split
      · next hclosing => simp [hclosing]
      · next hclosing => simp [hdigit, hclosing, eq_comm]

/-- A `)` is taken in behind anything but an operator, when the innermost open group has a
digit in it. -/
theorem read_closing_eq_ok_iff :
    k.read limit ⟨pos, .symbol .closing⟩ = .ok k' ↔
      (∀ pos op, k.last ≠ some ⟨pos, .operator op⟩) ∧
        ∃ opened outer, k.opened = ⟨opened, true⟩ :: outer ∧
          k' = ⟨some ⟨pos, .closing⟩, 0, noteDigit outer⟩ := by
  by_cases hlast : ∀ pos op, k.last ≠ some ⟨pos, .operator op⟩
  · rw [read_closing hlast, closing]
    split
    · next hopened => simp [hopened]
    · next group outer hopened =>
        obtain ⟨opened, flag⟩ := group
        cases flag with
        | false => simp [hopened]
        | true =>
            simp only [if_true, Except.ok.injEq, hopened, List.cons.injEq, Located.mk.injEq,
              and_true]
            constructor
            · rintro rfl
              exact ⟨hlast, opened, outer, ⟨rfl, rfl⟩, rfl⟩
            · rintro ⟨-, _, _, ⟨rfl, rfl⟩, rfl⟩
              rfl
  · -- An operator in front refuses the `)` before its own rules are looked at.
    obtain ⟨p, o, hop⟩ : ∃ p o, k.last = some ⟨p, .operator o⟩ := by simpa using hlast
    have hread : k.read limit ⟨pos, .symbol .closing⟩
        = (k.startsOperand .closing >>= fun _ => k.closing pos) := rfl
    simp [hread, startsOperand, hop, Symbol.isDigit, Symbol.isOpening]

/-! ### Refusals -/

/-- A mark that is refused, and the fault that is found. -/
inductive Refuses (limit : UInt8) (k : Check) : Located Mark → Fault → Prop where
  | foreignChar (pos : Nat) (c : Char) :
      Refuses limit k ⟨pos, .foreign c⟩ (.foreignChar c pos)
  | missingRightOperand {s : Symbol} {place : Nat} {op : Operator} (pos : Nat) :
      k.last = some ⟨place, .operator op⟩ → (s.isDigit || s.isOpening) = false →
        Refuses limit k ⟨pos, .symbol s⟩ (.missingRightOperand op place)
  | numberAfterGroup (pos : Nat) (d : Fin 10) : k.last.any (·.val.isClosing) = true →
      Refuses limit k ⟨pos, .symbol (.digit d)⟩ (.numberAfterGroup pos)
  | numberTooLong (pos : Nat) (d : Fin 10) : limit.toNat < k.digits + 1 →
      Refuses limit k ⟨pos, .symbol (.digit d)⟩ (.numberTooLong limit pos)
  | missingLeftOperand {op : Operator} (pos : Nat) : k.hasLeftOperand op = false →
      Refuses limit k ⟨pos, .symbol (.operator op)⟩ (.missingLeftOperand op pos)
  | numberBeforeGroup (pos : Nat) : k.last.any (·.val.isDigit) = true →
      Refuses limit k ⟨pos, .symbol .opening⟩ (.numberBeforeGroup pos)
  | adjacentGroups (pos : Nat) : k.last.any (·.val.isClosing) = true →
      Refuses limit k ⟨pos, .symbol .opening⟩ (.adjacentGroups pos)
  | unmatchedClose (pos : Nat) : k.opened = [] →
      Refuses limit k ⟨pos, .symbol .closing⟩ (.unmatchedClose pos)
  | emptyGroup {group : Located Bool} {outer : List (Located Bool)} (pos : Nat) :
      k.opened = group :: outer → group.val = false →
        Refuses limit k ⟨pos, .symbol .closing⟩ (.emptyGroup pos)

/-- A symbol is refused for the operator in front of it, or by its own rules. -/
theorem refuses_of_read_eq_error {x : Located Mark} {fault : Fault}
    (h : k.read limit x = .error fault) : Refuses limit k x fault := by
  obtain ⟨pos, m⟩ := x
  cases m with
  | foreign c =>
      cases h
      exact .foreignChar pos c
  | symbol s =>
      -- The rule on operators goes first. Behind it, the rules of each symbol in their order.
      rcases bind_eq_error h with hstarts | ⟨_, -, hown⟩
      · unfold startsOperand at hstarts
        split at hstarts
        · next hlast =>
            split at hstarts
            · cases hstarts
            · next hs =>
                cases hstarts
                exact .missingRightOperand pos hlast (by simpa using hs)
        · cases hstarts
      · cases s with
        | digit d =>
            simp only [digit] at hown
            split at hown
            · next hclosing =>
                cases hown
                exact .numberAfterGroup pos d hclosing
            · split at hown
              · next hlong =>
                  cases hown
                  exact .numberTooLong pos d hlong
              · cases hown
        | operator op =>
            simp only [operator] at hown
            split at hown
            · cases hown
            · next hleft =>
                cases hown
                exact .missingLeftOperand pos (by simpa using hleft)
        | opening =>
            simp only [opening] at hown
            split at hown
            · next hdigit =>
                cases hown
                exact .numberBeforeGroup pos hdigit
            · split at hown
              · next hclosing =>
                  cases hown
                  exact .adjacentGroups pos hclosing
              · cases hown
        | closing =>
            simp only [closing] at hown
            split at hown
            · next hopened =>
                cases hown
                exact .unmatchedClose pos hopened
            · next group outer hopened =>
                split at hown
                · cases hown
                · next hseen =>
                    cases hown
                    exact .emptyGroup pos hopened (by simpa using hseen)

end Reckoner.Check
