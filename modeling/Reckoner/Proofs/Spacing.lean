import Reckoner.CommandLine.Job
import Reckoner.Proofs.Calculation
import Reckoner.Proofs.Relocation
import Reckoner.Proofs.Tree.Spelling

/-!
# `Reckoner.Proofs.Spacing`: spacing moves places and does nothing else

Two texts that have the same characters, spacing apart, have the same marks at other places.
No step looks at a place (`Reckoner.Proofs.Relocation`), so both texts come to one result, each
at its own places: put the marks to the places 0, 1, 2 and so on, and the result of that, moved
to the places of a text, is the result of the text.

That the place of an error is the place of a character takes an argument of its own: among
0, 1, 2 and so on the error goes along with a change that moves every place but those of the
marks, and does not move by it, since no mark does.

* `SameResult`: the same value, or the same error at places that belong together.
* `sameResult_of_relocate`: what goes along with every change of places has the same result
  on marks that differ only in their places.
* `Formula.sameResult_check`, `Formula.sameResult_evaluate`: a check and an evaluation do.
* `spacing_moves_places_only`: texts that are checked, evaluated, calculated, or split over the
  arguments of a run.
-/

set_option autoImplicit false

namespace Reckoner

/-! ### The same up to places -/

/-- Errors that may point at a place, and that can be put to another. -/
class Placed (ε : Type) where
  /-- The place that an error points at. -/
  place? : ε → Option Nat
  /-- The same error with its place changed. -/
  relocate : (Nat → Nat) → ε → ε
  place?_relocate (f : Nat → Nat) (e : ε) : place? (relocate f e) = (place? e).map f
  relocate_relocate (f g : Nat → Nat) (e : ε) : relocate g (relocate f e) = relocate (g ∘ f) e

instance placedFault : Placed Fault where
  place? := Fault.pos?
  relocate := Fault.relocate
  place?_relocate f e := by cases e <;> rfl
  relocate_relocate f g e := by cases e <;> rfl

instance placedFailure : Placed Failure where
  place? := Failure.pos?
  relocate := Failure.relocate
  place?_relocate f e := by
    cases e with
    | malformed fault => cases fault <;> rfl
    | _ => rfl
  relocate_relocate f g e := by
    cases e with
    | malformed fault => cases fault <;> rfl
    | _ => rfl

section Results

variable {ε α β : Type} [Placed ε] {R : Nat → Nat → Prop}

/-- The same error but for the place: of the same kind and with the same to say, and if one
points at a place, so does the other, at one that belongs to it. -/
def SameError (R : Nat → Nat → Prop) (e e' : ε) : Prop :=
  Placed.relocate (fun _ => 0) e = Placed.relocate (fun _ => 0) e' ∧
    Option.Rel R (Placed.place? e) (Placed.place? e')

/-- The same value, or the same error but for the place. -/
inductive SameResult (R : Nat → Nat → Prop) : Except ε α → Except ε α → Prop where
  | ok (a : α) : SameResult R (.ok a) (.ok a)
  | error {e e' : ε} : SameError R e e' → SameResult R (.error e) (.error e')

/-- An error that points nowhere is the same for all texts. -/
theorem sameError_refl {e : ε} (h : Placed.place? e = none) : SameError R e e := by
  refine ⟨rfl, ?_⟩
  rw [h]
  exact .none

/-- Results that are the same stay so when the same is done with their values. -/
theorem SameResult.bind {x y : Except ε α} {next next' : α → Except ε β}
    (h : SameResult R x y) (hnext : ∀ a, SameResult R (next a) (next' a)) :
    SameResult R (x >>= next) (y >>= next') := by
  cases h with
  | ok a => exact hnext a
  | error he => exact .error he

/-- A function applied to the values keeps two results the same. -/
theorem SameResult.map {x y : Except ε α} (h : SameResult R x y) (f : α → β) :
    SameResult R (x.map f) (y.map f) := by
  cases h with
  | ok a => exact .ok (f a)
  | error he => exact .error he

/-- A weaker relation holds of two places where the stronger one does. -/
theorem rel_imp {S : Nat → Nat → Prop} {a b : Option Nat} (hRS : ∀ p q, R p q → S p q)
    (h : Option.Rel R a b) : Option.Rel S a b := by
  cases h with
  | none => exact .none
  | some hpq => exact .some (hRS _ _ hpq)

/-- Results that are the same up to a relation of places are so up to every weaker relation. -/
theorem SameResult.imp {S : Nat → Nat → Prop} {x y : Except ε α} (h : SameResult R x y)
    (hRS : ∀ p q, R p q → S p q) : SameResult S x y := by
  cases h with
  | ok a => exact .ok a
  | error he =>
      obtain ⟨hsame, hplace⟩ := he
      exact .error ⟨hsame, rel_imp hRS hplace⟩

end Results

/-- A fault of both texts is a failure of both. -/
theorem SameResult.ofFault {α : Type} {R : Nat → Nat → Prop} {x y : Except Fault α}
    (h : SameResult R x y) : SameResult R (Failure.ofFault x) (Failure.ofFault y) := by
  cases h with
  | ok a => exact .ok a
  | error he =>
      obtain ⟨hsame, hplace⟩ := he
      exact .error ⟨congrArg Failure.malformed hsame, hplace⟩

/-! ### Marks at two sequences of places -/

section Places

variable {α : Type}

/-- The places of what has the same index in two lists. -/
def SameIndex (xs ys : List (Located α)) (p q : Nat) : Prop :=
  ∃ (k : Nat) (x y : Located α), xs[k]? = some x ∧ ys[k]? = some y ∧ x.pos = p ∧ y.pos = q

/-- Values at the places 0, 1, 2 and so on. -/
def indexed (vals : List α) : List (Located α) :=
  vals.mapIdx fun k a => ⟨k, a⟩

/-- The place of what has an index in a list. -/
def placeOf (xs : List (Located α)) (k : Nat) : Nat :=
  (xs[k]?.map Located.pos).getD 0

/-- Numbering the items of a list and then putting back their places gives the list. -/
theorem map_relocate_indexed (xs : List (Located α)) :
    (indexed (xs.map Located.val)).map (Located.relocate (placeOf xs)) = xs := by
  refine List.ext_getElem? fun k => ?_
  rw [indexed, List.getElem?_map, List.getElem?_mapIdx, List.getElem?_map]
  cases hk : xs[k]? with
  | none => rfl
  | some x => simp [Located.relocate, placeOf, hk]

/-- A change of places that no value has changes nothing. -/
theorem map_relocate_indexed_of_lt {f : Nat → Nat} {vals : List α}
    (hf : ∀ k < vals.length, f k = k) :
    (indexed vals).map (Located.relocate f) = indexed vals := by
  refine List.ext_getElem? fun k => ?_
  rw [indexed, List.getElem?_map, List.getElem?_mapIdx]
  cases hk : vals[k]? with
  | none => rfl
  | some a =>
      obtain ⟨hlt, -⟩ := List.getElem?_eq_some_iff.1 hk
      simp [Located.relocate, hf k hlt]

end Places

section Relocating

variable {ε α : Type} [Placed ε] {F : List (Located Mark) → Except ε α}

/-- The place of an error is the place of a mark. -/
theorem place_lt_of_relocate
    (hF : ∀ f marks, onBoth (Placed.relocate f) id (F marks) = F (marks.map (Located.relocate f)))
    {vals : List Mark} {e : ε} {k : Nat} (he : F (indexed vals) = .error e)
    (hk : Placed.place? e = some k) : k < vals.length := by
  -- This moves all places but those of the marks, so it must not move the error.
  let f : Nat → Nat := fun i => if i < vals.length then i else i + 1
  have hmarks : (indexed vals).map (Located.relocate f) = indexed vals :=
    map_relocate_indexed_of_lt fun i hi => if_pos hi
  have hstays := hF f (indexed vals)
  rw [hmarks, he] at hstays
  have hplace := Placed.place?_relocate f e
  rw [Except.error.inj hstays, hk] at hplace
  have hfk : f k = k := (Option.some.inj hplace).symm
  refine Nat.lt_of_not_le fun hout => ?_
  rw [show f k = k + 1 from if_neg (Nat.not_lt.2 hout)] at hfk
  exact absurd hfk (Nat.succ_ne_self k)

/-- What goes along with every change of places has the same result, up to places, on marks
that differ only in their places. -/
theorem sameResult_of_relocate
    (hF : ∀ f marks, onBoth (Placed.relocate f) id (F marks) = F (marks.map (Located.relocate f)))
    {xs ys : List (Located Mark)} (h : xs.map Located.val = ys.map Located.val) :
    SameResult (SameIndex xs ys) (F xs) (F ys) := by
  -- Both are the result at the places 0, 1, 2 and so on, put to the places of the marks.
  have hmoved : ∀ xs,
      onBoth (Placed.relocate (placeOf xs)) id (F (indexed (xs.map Located.val))) = F xs := by
    intro xs
    rw [hF, map_relocate_indexed]
  rw [← hmoved xs, ← hmoved ys, ← h]
  cases hresult : F (indexed (xs.map Located.val)) with
  | ok a => exact .ok a
  | error e =>
      refine .error ⟨?_, ?_⟩
      · rw [Placed.relocate_relocate, Placed.relocate_relocate]
        rfl
      · rw [Placed.place?_relocate, Placed.place?_relocate]
        cases hplace : Placed.place? e with
        | none => exact .none
        | some k =>
            have hlt := place_lt_of_relocate hF hresult hplace
            have hltx : k < xs.length := by simpa using hlt
            have hlty : k < ys.length := by
              have hlength := congrArg List.length h
              simp only [List.length_map] at hlength
              omega
            refine .some ⟨k, xs[k], ys[k], List.getElem?_eq_getElem hltx,
              List.getElem?_eq_getElem hlty, ?_, ?_⟩
            · simp [placeOf, hltx]
            · simp [placeOf, hlty]

end Relocating

/-! ### Characters at two sequences of places -/

/-- Whether a place of a text holds a character that is not spacing, with `k` of those in front
of it. -/
def StandsAt (text : String) (k p : Nat) : Prop :=
  (∃ c, text.toList[p]? = some c ∧ c ≠ ' ') ∧ (text.toList.take p).countP (· ≠ ' ') = k

/-- Whether two places hold the same character of two texts, as the spacing is not counted. -/
def SamePlace (s t : String) (p q : Nat) : Prop :=
  ∃ k, StandsAt s k p ∧ StandsAt t k q

/-- An item of the characters that are no space stands at its place in the text, and as many of
them stand in front of it as its index says. -/
theorem standsAt_of_getElem?_unspaced {start k : Nat} {cs : List Char} {x : Located Char}
    (h : (unspaced start cs)[k]? = some x) :
    ∃ p, x.pos = start + p ∧ cs[p]? = some x.val ∧ x.val ≠ ' ' ∧
      (cs.take p).countP (· ≠ ' ') = k := by
  induction cs generalizing start k with
  | nil => simp at h
  | cons c cs ih =>
      rw [unspaced_cons] at h
      by_cases hc : c = ' '
      · rw [if_pos hc] at h
        obtain ⟨p, hpos, hget, hne, hcount⟩ := ih h
        refine ⟨p + 1, by omega, hget, hne, ?_⟩
        simpa [hc] using hcount
      · rw [if_neg hc] at h
        cases k with
        | zero =>
            cases h
            exact ⟨0, rfl, rfl, hc, rfl⟩
        | succ k =>
            obtain ⟨p, hpos, hget, hne, hcount⟩ := ih h
            refine ⟨p + 1, by omega, hget, hne, ?_⟩
            simpa [hc] using hcount

/-- Marks with the same index in two formulas stand at corresponding places of the two texts. -/
theorem Formula.samePlace_of_sameIndex {f g : Formula} {p q : Nat}
    (h : SameIndex f.marks g.marks p q) : SamePlace f.text g.text p q := by
  obtain ⟨k, x, y, hx, hy, rfl, rfl⟩ := h
  have stands : ∀ (f : Formula) (x : Located Mark), f.marks[k]? = some x →
      StandsAt f.text k x.pos := by
    intro f x hx
    rw [Formula.marks, List.getElem?_map, Option.map_eq_some_iff] at hx
    obtain ⟨z, hz, rfl⟩ := hx
    obtain ⟨p, hpos, hget, hne, hcount⟩ := standsAt_of_getElem?_unspaced hz
    rw [Nat.zero_add] at hpos
    rw [Located.pos_map, hpos]
    exact ⟨⟨z.val, hget, hne⟩, hcount⟩
  exact ⟨k, stands f x hx, stands g y hy⟩

/-! ### Two formulas with the same characters -/

section Formulas

variable {f g : Formula}

/-- The marks of a formula, places aside, are the characters of its text without the spaces. -/
theorem Formula.map_val_marks (f : Formula) :
    f.marks.map Located.val = (f.text.toList.filter (· ≠ ' ')).map Mark.ofChar := by
  rw [marks, chars, ← map_val_unspaced 0, List.map_map, List.map_map]
  rfl

/-- Texts that differ in spaces only have the same marks, places aside. -/
theorem Formula.map_val_marks_eq
    (h : f.text.toList.filter (· ≠ ' ') = g.text.toList.filter (· ≠ ' ')) :
    f.marks.map Located.val = g.marks.map Located.val := by
  rw [map_val_marks, map_val_marks, h]

/-- Their checks agree, up to the place of the fault. -/
theorem Formula.sameResult_check (limit : UInt8)
    (h : f.text.toList.filter (· ≠ ' ') = g.text.toList.filter (· ≠ ' ')) :
    SameResult (SamePlace f.text g.text) (f.check limit) (g.check limit) := by
  have hsame := sameResult_of_relocate
    (fun move marks => Check.ofMarks_relocate move limit marks) (map_val_marks_eq h)
  exact hsame.imp fun _ _ => samePlace_of_sameIndex

/-- Their values agree, up to the place of the failure. -/
theorem Formula.sameResult_evaluate
    (h : f.text.toList.filter (· ≠ ' ') = g.text.toList.filter (· ≠ ' ')) :
    SameResult (SamePlace f.text g.text) f.evaluate g.evaluate := by
  -- An evaluation, as what it makes of marks.
  let value (marks : List (Located Mark)) : Except Failure Float :=
    Stacks.ofMoves (Move.ofTokens .start (Token.ofMarks marks)) >>= Stacks.result
  have hvalue : ∀ move marks,
      onBoth (Failure.relocate move) id (value marks)
        = value (marks.map (Located.relocate move)) := by
    intro move marks
    -- The context at the start has no place that could change.
    show _ = Stacks.ofMoves (Move.ofTokens (Move.Context.start.relocate move) _) >>= _
    rw [Token.ofMarks_relocate, Move.ofTokens_relocate]
    exact Stacks.ofMoves_relocate move _
  have hsame := sameResult_of_relocate hvalue (map_val_marks_eq h)
  exact hsame.imp fun _ _ => samePlace_of_sameIndex

/-- Spacing neither splits a number nor joins two. -/
theorem Formula.map_val_tokens_eq
    (h : f.text.toList.filter (· ≠ ' ') = g.text.toList.filter (· ≠ ' ')) :
    f.tokens.map Located.val = g.tokens.map Located.val := by
  have hval : ∀ f : Formula, f.tokens.map Located.val
      = (Token.ofMarks (indexed (f.marks.map Located.val))).map Located.val := by
    intro f
    have hmoved := Token.ofMarks_relocate (placeOf f.marks) (indexed (f.marks.map Located.val))
    rw [map_relocate_indexed] at hmoved
    rw [tokens, hmoved, List.map_map]
    rfl
  rw [hval f, hval g, map_val_marks_eq h]

end Formulas

/-! ### Two texts with the same characters -/

section Texts

variable {s t : String}

/-- A text with the characters of a formula is a formula. -/
theorem cases_ofText (h : s.toList.filter (· ≠ ' ') = t.toList.filter (· ≠ ' ')) :
    (∃ f g, Formula.ofText s = .ok f ∧ Formula.ofText t = .ok g ∧ f.text = s ∧ g.text = t) ∨
      Formula.ofText s = .error .empty ∧ Formula.ofText t = .error .empty := by
  have hempty : ∀ text : String, Formula.ofText text = .error .empty ↔
      text.toList.filter (· ≠ ' ') = [] := by
    intro text
    rw [Formula.ofText_eq_error_iff, List.filter_eq_nil_iff]
    simp
  cases hs : Formula.ofText s with
  | error e =>
      obtain rfl := (Formula.ofText_eq_error_iff.1 hs).1
      exact .inr ⟨rfl, (hempty t).2 (h ▸ (hempty s).1 hs)⟩
  | ok f =>
      cases ht : Formula.ofText t with
      | error e =>
          obtain rfl := (Formula.ofText_eq_error_iff.1 ht).1
          cases hs.symm.trans ((hempty s).2 (h.trans ((hempty t).1 ht)))
      | ok g =>
          exact .inl ⟨f, g, rfl, rfl, Formula.ofText_eq_ok_iff.1 hs, Formula.ofText_eq_ok_iff.1 ht⟩

/-- The same of the check of a text, where a text of spaces only has no formula. -/
theorem sameResult_checkText (limit : UInt8)
    (h : s.toList.filter (· ≠ ' ') = t.toList.filter (· ≠ ' ')) :
    SameResult (SamePlace s t) (checkText limit s) (checkText limit t) := by
  unfold checkText
  rcases cases_ofText h with ⟨f, g, hf, hg, rfl, rfl⟩ | ⟨hs, ht⟩
  · rw [hf, hg]
    exact Formula.sameResult_check limit h
  · rw [hs, ht]
    exact .error (sameError_refl rfl)

/-- Clamping a value names no place. -/
theorem Settings.sameResult_clamp {R : Nat → Nat → Prop} (settings : Settings) (value : Float) :
    SameResult R (settings.clamp value) (settings.clamp value) := by
  rcases settings.cases_clamp value with ⟨v, hv⟩ | hrange
  · rw [hv]
    exact .ok v
  · rw [hrange]
    exact .error (sameError_refl rfl)

/-- Calculations agree on texts that differ in spaces only, with any settings. -/
theorem Settings.sameResult_calculate (settings : Settings)
    (h : s.toList.filter (· ≠ ' ') = t.toList.filter (· ≠ ' ')) :
    SameResult (SamePlace s t) (settings.calculate s) (settings.calculate t) := by
  -- Clamping sees the value only, so it makes the same of the same.
  refine SameResult.bind ?_ settings.sameResult_clamp
  unfold evaluate
  rcases cases_ofText h with ⟨f, g, hf, hg, rfl, rfl⟩ | ⟨hs, ht⟩
  · rw [hf, hg]
    have hvalue := Formula.sameResult_evaluate h
    cases hchecked : settings.unchecked with
    | true => exact hvalue
    | false =>
        have hcheck := (Formula.sameResult_check settings.maxDigits h).ofFault
        exact hcheck.bind fun _ => hvalue
  · rw [hs, ht]
    exact .error (sameError_refl rfl)

end Texts

/-! ### Formulas among the arguments -/

namespace CommandLine

/-- The same line on the standard output, or reports of errors that differ only in places that
belong together. -/
inductive SameAnswer (R : Nat → Nat → Prop) : Answer → Answer → Prop where
  | line (text : String) : SameAnswer R (.line text) (.line text)
  | report {e e' : Failure} :
      SameError R e e' → SameAnswer R (.report (.ofFailure e)) (.report (.ofFailure e'))

/-- So do the answers of a job: the same line, or reports that differ in the place only. -/
theorem Job.sameAnswer (job : Job) {s t : String}
    (h : s.toList.filter (· ≠ ' ') = t.toList.filter (· ≠ ' ')) :
    SameAnswer (SamePlace s t) (job.answer s) (job.answer t) := by
  have hresult : SameResult (SamePlace s t) (job.result s) (job.result t) := by
    unfold result
    cases job.checkOnly with
    | true => exact (sameResult_checkText job.settings.maxDigits h).ofFault.map _
    | false => exact (job.settings.sameResult_calculate h).map _
  unfold answer
  generalize job.result s = x at hresult
  generalize job.result t = y at hresult
  cases hresult with
  | ok text => exact .line text
  | error he => exact .report he

/-- Between the parts of a formula there is spacing. -/
theorem filter_intercalate (parts : List String) :
    (" ".intercalate parts).toList.filter (· ≠ ' ')
      = (String.join parts).toList.filter (· ≠ ' ') := by
  rw [String.toList_intercalate, String.toList_join]
  induction parts with
  | nil => rfl
  | cons part parts ih =>
      cases parts with
      | nil => simp
      | cons next parts =>
          rw [List.map_cons, List.map_cons, List.intercalate_cons_cons, ← List.map_cons,
            List.flatMap_cons, List.filter_append, List.filter_append, List.filter_append, ih]
          simp

/-- A run that has parts of a formula gives one answer, and the standard input plays no part. -/
theorem Job.run_of_parts (job : Job) {parts : List String} (h : parts ≠ [])
    (input : List UInt8) :
    { job with parts := parts }.run input = (job.answer (" ".intercalate parts)).outcome := by
  cases parts with
  | nil => exact absurd rfl h
  | cons part parts => rfl

end CommandLine

/-- **Spacing moves places and does nothing else.** Two texts with the same characters, spacing
apart, are checked, evaluated and calculated with the same result: the same value, or the same
error at the places of the same character. Spacing in a number neither splits it nor makes it
longer. And a formula gets the same answer however it is split over the arguments. -/
theorem spacing_moves_places_only {s t : String}
    (h : s.toList.filter (· ≠ ' ') = t.toList.filter (· ≠ ' ')) :
    (∀ limit, SameResult (SamePlace s t) (checkText limit s) (checkText limit t)) ∧
      (∀ f, Formula.ofText s = .ok f → ∃ g, Formula.ofText t = .ok g ∧
        SameResult (SamePlace s t) f.evaluate g.evaluate ∧
        f.tokens.map Located.val = g.tokens.map Located.val) ∧
      (∀ settings : Settings,
        SameResult (SamePlace s t) (settings.calculate s) (settings.calculate t)) ∧
      ∀ (job : CommandLine.Job) (ps qs : List String) (input : List UInt8),
        ps ≠ [] → qs ≠ [] → String.join ps = s → String.join qs = t →
          ∃ x y : CommandLine.Answer, { job with parts := ps }.run input = x.outcome ∧
            { job with parts := qs }.run input = y.outcome ∧
            CommandLine.SameAnswer (SamePlace (" ".intercalate ps) (" ".intercalate qs)) x y := by
  refine ⟨fun limit => sameResult_checkText limit h, ?_, fun settings =>
    settings.sameResult_calculate h, ?_⟩
  · intro f hf
    rcases cases_ofText h with ⟨f', g, hf', hg, rfl, rfl⟩ | ⟨hs, -⟩
    · cases hf.symm.trans hf'
      exact ⟨g, hg, Formula.sameResult_evaluate h, Formula.map_val_tokens_eq h⟩
    · cases hf.symm.trans hs
  · intro job ps qs input hps hqs hs ht
    refine ⟨_, _, job.run_of_parts hps input, job.run_of_parts hqs input, job.sameAnswer ?_⟩
    rw [CommandLine.filter_intercalate, CommandLine.filter_intercalate, hs, ht, h]

/-- A number with spacing in it and a group that is never closed, in one argument and in three. -/
theorem spacing_moves_places_only_unclosed :
    "1 2+( 3".toList.filter (· ≠ ' ') = " 12 +(3 ".toList.filter (· ≠ ' ') ∧
      checkText 8 "1 2+( 3" = .error (.unclosedGroup 4) ∧
      checkText 8 " 12 +(3 " = .error (.unclosedGroup 5) ∧
      SameResult (SamePlace "1 2+( 3" " 12 +(3 ") (checkText 8 "1 2+( 3")
        (checkText 8 " 12 +(3 ") ∧
      ∃ x y : CommandLine.Answer,
        (⟨{}, false, ["1 2+( 3"]⟩ : CommandLine.Job).run [] = x.outcome ∧
        (⟨{}, false, [" 12", " +", "(3 "]⟩ : CommandLine.Job).run [] = y.outcome ∧
        CommandLine.SameAnswer (SamePlace "1 2+( 3" " 12  + (3 ") x y := by
  have h : "1 2+( 3".toList.filter (· ≠ ' ') = " 12 +(3 ".toList.filter (· ≠ ' ') := by
    decide +kernel
  obtain ⟨hcheck, -, -, hanswers⟩ := spacing_moves_places_only h
  refine ⟨h, by decide +kernel, by decide +kernel, hcheck 8, ?_⟩
  exact hanswers ⟨{}, false, []⟩ ["1 2+( 3"] [" 12", " +", "(3 "] [] (by decide) (by decide)
    (by decide +kernel) (by decide +kernel)

end Reckoner
