import Reckoner.Proofs.Check.Step

/-!
# `Reckoner.Proofs.Check.Completion`: what a check lets through can be completed

A check goes over a text from left to right. Once it stops, nothing that follows is looked at,
so whatever is put behind the text, the fault is the same. As long as it does not stop, there
is a way to go on to a sum: an operand where one is due, and a `)` for each group that is open
(`Check.completion`). So a check stops at the first character that nothing behind it can mend.

That the `)` are taken in hangs on the flags of the open groups. Behind an operand the innermost
group has a digit in it, and a `)` hands that on to the group around it.

* `Check.Coherent`, `Check.coherent_ofMarks`: what holds of a check behind any marks.
* `Check.Coherent.exists_conclude_completion`: its completion is taken in to the end.
* `checkText_viable_or_doomed`: a text has a continuation that is accepted, or all its
  continuations have one fault.
-/

set_option autoImplicit false

namespace Reckoner

/-! ### Texts and their marks -/

/-- The marks that characters leave of which the first stands at `start`. -/
def marksFrom (start : Nat) (cs : List Char) : List (Located Mark) :=
  (unspaced start cs).map (Located.map Mark.ofChar)

/-- The characters of a text that is put together from two, the second at the places behind the
first. -/
theorem unspaced_append (start : Nat) (cs ds : List Char) :
    unspaced start (cs ++ ds) = unspaced start cs ++ unspaced (start + cs.length) ds := by
  simp [unspaced, List.zipIdx_append]

/-- The marks of a text that is put together from two. -/
theorem marksFrom_append (start : Nat) (cs ds : List Char) :
    marksFrom start (cs ++ ds) = marksFrom start cs ++ marksFrom (start + cs.length) ds := by
  rw [marksFrom, unspaced_append, List.map_append]
  rfl

/-- A character that is not spacing leaves its mark in front of those behind it. -/
theorem marksFrom_cons {c : Char} (h : c ≠ ' ') (start : Nat) (cs : List Char) :
    marksFrom start (c :: cs) = ⟨start, Mark.ofChar c⟩ :: marksFrom (start + 1) cs := by
  rw [marksFrom, unspaced_cons, if_neg h]
  rfl

/-- A check of a text reads the marks and looks at what is open in the end. Without a mark it
finds the text empty, as `Formula.ofText` does. -/
theorem checkText_eq_bind (limit : UInt8) (text : String) :
    checkText limit text = (Check.ofMarks limit (marksFrom 0 text.toList) >>= Check.conclude) := by
  rw [checkText]
  cases hf : Formula.ofText text with
  | ok f =>
      obtain rfl := Formula.ofText_eq_ok_iff.1 hf
      rfl
  | error e =>
      obtain ⟨rfl, hspaces⟩ := Formula.ofText_eq_error_iff.1 hf
      have hnone : unspaced 0 text.toList = [] := by
        rw [← List.length_eq_zero_iff, Formula.length_unspaced, List.countP_eq_zero]
        simpa using hspaces
      rw [marksFrom, hnone]
      rfl

namespace Check

variable {limit : UInt8} {k k' : Check}

/-! ### What holds behind any marks -/

/-- The count of digits and the flags of the groups fit the last symbol: where no operand ends
there are no digits to count, and behind an operand the innermost group has a digit in it. -/
structure Coherent (k : Check) : Prop where
  digits : k.endsOperand = false → k.digits = 0
  seen : k.endsOperand = true → noteDigit k.opened = k.opened

/-- At the start no group is open. -/
theorem coherent_empty : Coherent {} := by
  refine ⟨fun _ => rfl, ?_⟩
  intro h
  cases h

/-- One mark, whatever was known before it. -/
theorem coherent_of_read {x : Located Mark} (h : k.read limit x = .ok k') : k'.Coherent := by
  obtain ⟨pos, m⟩ := x
  cases m with
  | foreign c => cases h
  | symbol s =>
      cases s with
      -- Behind a digit the text ends in an operand, so nothing is asked about the count.
      | digit d =>
          obtain ⟨-, -, rfl⟩ := read_digit_eq_ok_iff.1 h
          refine ⟨?_, fun _ => noteDigit_noteDigit _⟩
          intro hends
          cases hends
      | operator op =>
          obtain ⟨-, rfl⟩ := read_operator_eq_ok_iff.1 h
          refine ⟨fun _ => rfl, ?_⟩
          intro hends
          cases hends
      | opening =>
          obtain ⟨-, rfl⟩ := read_opening_eq_ok_iff.1 h
          refine ⟨fun _ => rfl, ?_⟩
          intro hends
          cases hends
      | closing =>
          obtain ⟨-, opened, outer, -, rfl⟩ := read_closing_eq_ok_iff.1 h
          exact ⟨fun _ => rfl, fun _ => noteDigit_noteDigit _⟩

/-- All marks. -/
theorem coherent_ofMarks {marks : List (Located Mark)} (h : ofMarks limit marks = .ok k) :
    k.Coherent :=
  foldlM_induction (fun _ _ _ _ hread => coherent_of_read hread) marks coherent_empty h

/-! ### The completion -/

/-- What completes the text behind a check: an operand if one is due, and a `)` for every open
group. -/
def completion (k : Check) : List Char :=
  (if k.endsOperand then [] else ['1']) ++ List.replicate k.opened.length ')'

/-- Noting a digit opens and closes no group. -/
theorem length_noteDigit (opened : List (Located Bool)) :
    (noteDigit opened).length = opened.length := by
  cases opened <;> rfl

/-- Behind an operand, every open group can be closed. -/
theorem exists_conclude_closings (n : Nat) :
    ∀ (k : Check) (pos : Nat), k.endsOperand = true → noteDigit k.opened = k.opened →
      k.opened.length = n →
      ∃ k', (marksFrom pos (List.replicate n ')')).foldlM (read limit) k = .ok k' ∧
        k'.conclude = .ok () := by
  -- On the number of open groups: each `)` closes one and leaves an operand behind.
  induction n with
  | zero =>
      intro k pos hends _ hlength
      refine ⟨k, rfl, ?_⟩
      rw [conclude_of_endsOperand hends, List.length_eq_zero_iff.1 hlength]
  | succ n ih =>
      intro k pos hends hseen hlength
      obtain ⟨group, outer, hopened⟩ := List.exists_cons_of_length_eq_add_one hlength
      have hgroup : k.opened = ⟨group.pos, true⟩ :: outer := by
        rw [← hseen, hopened]
        rfl
      have hread : k.read limit ⟨pos, .symbol .closing⟩
          = .ok ⟨some ⟨pos, .closing⟩, 0, noteDigit outer⟩ :=
        read_closing_eq_ok_iff.2
          ⟨last_ne_operator_of_endsOperand hends, group.pos, outer, hgroup, rfl⟩
      -- The group around the closed one has its digit from it.
      have houter : (noteDigit outer).length = n := by
        rw [hopened, List.length_cons] at hlength
        rw [length_noteDigit]
        omega
      obtain ⟨k', hrun, hend⟩ := ih ⟨some ⟨pos, .closing⟩, 0, noteDigit outer⟩ (pos + 1) rfl
        (noteDigit_noteDigit outer) houter
      refine ⟨k', ?_, hend⟩
      rw [List.replicate_succ, marksFrom_cons (by decide), List.foldlM_cons]
      show (k.read limit ⟨pos, .symbol .closing⟩ >>= _) = _
      rw [hread, ok_bind]
      exact hrun

/-- With room for one digit, the completion is taken in and nothing is missing behind it. -/
theorem Coherent.exists_conclude_completion (hk : k.Coherent) (hlimit : 1 ≤ limit) (pos : Nat) :
    ∃ k', (marksFrom pos k.completion).foldlM (read limit) k = .ok k' ∧
      k'.conclude = .ok () := by
  cases hends : k.endsOperand with
  | true =>
      rw [completion, if_pos hends, List.nil_append]
      exact exists_conclude_closings _ k pos hends (hk.seen hends) rfl
  | false =>
      have hawaits : k.AwaitsOperand := ⟨hk.digits hends, hends⟩
      have hroom : k.digits < limit.toNat := by
        have hone : 1 ≤ limit.toNat := UInt8.le_iff_toNat_le.1 hlimit
        rw [hawaits.digits]
        omega
      have hread : k.read limit ⟨pos, .symbol (.digit 1)⟩
          = .ok ⟨some ⟨pos, .digit 1⟩, k.digits + 1, noteDigit k.opened⟩ :=
        read_digit_eq_ok_iff.2 ⟨hawaits.not_closing, hroom, rfl⟩
      obtain ⟨k', hrun, hend⟩ := exists_conclude_closings k.opened.length
        ⟨some ⟨pos, .digit 1⟩, k.digits + 1, noteDigit k.opened⟩ (pos + 1) rfl
        (noteDigit_noteDigit _) (length_noteDigit _)
      refine ⟨k', ?_, hend⟩
      rw [completion, hends, marksFrom_append]
      show (k.read limit ⟨pos, .symbol (.digit 1)⟩ >>= _) = _
      rw [hread, ok_bind]
      exact hrun

end Check

/-! ### Continuations of a text -/

section Continuations

variable {limit : UInt8} {text : String}

/-- A check of a continuation goes on from where the check of the text has come to. -/
theorem checkText_append (limit : UInt8) (text rest : String) :
    checkText limit (text ++ rest)
      = (Check.ofMarks limit (marksFrom 0 text.toList) >>= fun k =>
          (marksFrom text.toList.length rest.toList).foldlM (Check.read limit) k
            >>= Check.conclude) := by
  rw [checkText_eq_bind, String.toList_append, marksFrom_append, Nat.zero_add, Check.ofMarks,
    List.foldlM_append, bind_assoc]
  rfl

/-- A check that has stopped is not moved by anything that follows. -/
theorem checkText_append_of_error {fault : Fault}
    (h : Check.ofMarks limit (marksFrom 0 text.toList) = .error fault) (rest : String) :
    checkText limit (text ++ rest) = .error fault := by
  rw [checkText_append, h]
  rfl

/-- A check that has not stopped can be brought to a good end: what it remembers says how. -/
theorem checkText_append_completion {k : Check} (hlimit : 1 ≤ limit)
    (h : Check.ofMarks limit (marksFrom 0 text.toList) = .ok k) :
    checkText limit (text ++ String.ofList k.completion) = .ok () := by
  -- Places do not matter for the completion, so it may start where the text ends.
  obtain ⟨k', hrun, hend⟩ :=
    (Check.coherent_ofMarks h).exists_conclude_completion hlimit text.toList.length
  rw [checkText_append, h, ok_bind, String.toList_ofList, hrun, ok_bind]
  exact hend

end Continuations

/-- **A check rejects as early as can be, and no earlier.** Of every text exactly one holds: it
has a continuation that is accepted, or all its continuations have one and the same fault. The
second is the case exactly when the check stops within the text, with that fault. -/
theorem checkText_viable_or_doomed {limit : UInt8} (hlimit : 1 ≤ limit) (text : String) :
    ((∃ rest, checkText limit (text ++ rest) = .ok ()) ∨
        ∃ fault, ∀ rest, checkText limit (text ++ rest) = .error fault) ∧
      ¬ ((∃ rest, checkText limit (text ++ rest) = .ok ()) ∧
        ∃ fault, ∀ rest, checkText limit (text ++ rest) = .error fault) ∧
      ∀ fault, (∀ rest, checkText limit (text ++ rest) = .error fault) ↔
        Check.ofMarks limit (marksFrom 0 text.toList) = .error fault := by
  cases h : Check.ofMarks limit (marksFrom 0 text.toList) with
  | error fault =>
      have hdoomed := checkText_append_of_error h
      refine ⟨.inr ⟨fault, hdoomed⟩, ?_, ?_⟩
      · rintro ⟨⟨rest, hok⟩, -⟩
        cases (hdoomed rest).symm.trans hok
      · intro other
        constructor
        · intro hother
          cases (hdoomed "").symm.trans (hother "")
          rfl
        · intro heq
          cases heq
          exact hdoomed
  | ok k =>
      have hviable := checkText_append_completion hlimit h
      refine ⟨.inl ⟨_, hviable⟩, ?_, ?_⟩
      · rintro ⟨-, fault, hdoomed⟩
        cases hviable.symm.trans (hdoomed _)
      · intro fault
        constructor
        · intro hdoomed
          cases hviable.symm.trans (hdoomed _)
        · intro heq
          cases heq

/-- Nothing mends a `)` that closes no group. -/
theorem checkText_doomed_by_unmatched :
    (1 : UInt8) ≤ 2 ∧ ∀ rest, checkText 2 ("(12) )" ++ rest) = .error (.unmatchedClose 5) := by
  have hlimit : (1 : UInt8) ≤ 2 := by decide
  obtain ⟨-, -, hdoomed⟩ := checkText_viable_or_doomed hlimit "(12) )"
  exact ⟨hlimit, (hdoomed (.unmatchedClose 5)).2 (by decide +kernel)⟩

/-- An operand and three `)` complete a text with three open groups. -/
example : checkText 2 ("(-(12^(" ++ "1)))") = .ok () := by decide +kernel

end Reckoner
