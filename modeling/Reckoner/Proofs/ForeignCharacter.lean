import Reckoner.Proofs.Calculation
import Reckoner.Proofs.Evaluation.Characters
import Reckoner.Proofs.Evaluation.Run

/-!
# `Reckoner.Proofs.ForeignCharacter`: a foreign character is never lost

A text with a character that no formula may hold has no value, however it is put together and
whether it is checked or not. The foreign characters of a text are foreign marks, and these are
foreign tokens (`foreigns_ofMarks`, `Formula.foreigns_marks`), so neither a check nor an evaluation
loses one. Neither of them takes one in, and both go from left to right. So when one of them
names a foreign character, the foreign characters in front of it are none.

* `Check.foreigns_of_foldlM_eq_ok`, `Stacks.Reaches.foreigns_eq_nil`: what is taken in has no
  foreign character.
* `isFirstForeign_of_chars`: the first foreign character among those that are not spacing is the
  first of the text.
* `foreign_never_evaluated_away`: check, evaluation and calculation of a text with a foreign
  character.
-/

set_option autoImplicit false

namespace Reckoner

open Move (Context)

/-- Whether no formula may hold a character: it is no spacing, and no symbol is written with it. -/
def IsForeign (c : Char) : Prop :=
  c ≠ ' ' ∧ c ∉ formulaChars

/-- Whether a character is the first foreign one of a text and stands at this index. -/
structure IsFirstForeign (text : String) (c : Char) (pos : Nat) : Prop where
  isForeign : IsForeign c
  getElem?_eq : text.toList[pos]? = some c
  not_before : ∀ i < pos, ∀ d, text.toList[i]? = some d → ¬ IsForeign d

/-! ### Foreign characters at their places -/

/-- The foreign characters among things that stand in a text. -/
def foreigns {α : Type} (foreign? : α → Option Char) (xs : List (Located α)) :
    List (Located Char) :=
  xs.filterMap fun x => (foreign? x.val).map (⟨x.pos, ·⟩)

/-- What is no foreign character does not count. -/
theorem foreigns_cons_of_none {α : Type} {foreign? : α → Option Char} {x : Located α}
    (h : foreign? x.val = none) (xs : List (Located α)) :
    foreigns foreign? (x :: xs) = foreigns foreign? xs := by
  simp [foreigns, h]

/-- A foreign character comes first among those of the rest. -/
theorem foreigns_cons_of_some {α : Type} {foreign? : α → Option Char} {x : Located α} {c : Char}
    (h : foreign? x.val = some c) (xs : List (Located α)) :
    foreigns foreign? (x :: xs) = ⟨x.pos, c⟩ :: foreigns foreign? xs := by
  simp [foreigns, h]

/-- The foreign characters of two parts stand in the order of the parts. -/
theorem foreigns_append {α : Type} (foreign? : α → Option Char) (xs ys : List (Located α)) :
    foreigns foreign? (xs ++ ys) = foreigns foreign? xs ++ foreigns foreign? ys :=
  List.filterMap_append

/-- Where every item is known, there are no foreign characters. -/
theorem foreigns_eq_nil {α : Type} {foreign? : α → Option Char} {xs : List (Located α)}
    (h : ∀ x ∈ xs, foreign? x.val = none) : foreigns foreign? xs = [] := by
  refine List.filterMap_eq_nil_iff.2 ?_
  intro x hx
  rw [h x hx]
  rfl

/-- The character of a foreign mark. -/
def Mark.foreign? : Mark → Option Char
  | symbol _ => none
  | foreign c => some c

/-- The character of a foreign token. -/
def Token.foreign? : Token → Option Char
  | number _ | operator _ | opening | closing => none
  | foreign c => some c

/-- Digits that make up a number are not foreign. -/
theorem foreigns_afterDigits (marks : List (Located Mark)) :
    foreigns Mark.foreign? (Token.afterDigits marks) = foreigns Mark.foreign? marks := by
  fun_induction Token.afterDigits marks with
  | case1 pos d marks ih => exact ih
  | case2 => rfl

/-- Marks and the tokens that they make up have the same foreign characters. -/
theorem foreigns_ofMarks (marks : List (Located Mark)) :
    foreigns Token.foreign? (Token.ofMarks marks) = foreigns Mark.foreign? marks := by
  fun_induction Token.ofMarks marks with
  | case1 => rfl
  | case2 pos d marks ih =>
      rw [foreigns_cons_of_none rfl, foreigns_cons_of_none rfl, ih, foreigns_afterDigits]
  | case3 pos op marks ih => exact ih
  | case4 pos marks ih => exact ih
  | case5 pos marks ih => exact ih
  | case6 pos c marks ih =>
      have htoken : Token.foreign? (.foreign c) = some c := rfl
      have hmark : Mark.foreign? (.foreign c) = some c := rfl
      rw [foreigns_cons_of_some htoken, foreigns_cons_of_some hmark, ih]

/-- The foreign marks of a formula are left by its characters that no symbol is written with. -/
theorem Formula.foreigns_marks (f : Formula) :
    foreigns Mark.foreign? f.marks = f.chars.filter (·.val ∉ formulaChars) := by
  rw [foreigns, marks, List.filterMap_map, ← List.filterMap_eq_filter]
  refine congrArg (List.filterMap · f.chars) (funext ?_)
  rintro ⟨pos, c⟩
  cases hc : Symbol.ofChar? c with
  | some s =>
      obtain rfl := Symbol.ofChar?_eq_some_iff.1 hc
      simp [Located.map, Mark.ofChar_eq_symbol_iff.2 rfl, Mark.foreign?, Option.guard,
        toChar_mem_formulaChars]
  | none =>
      have hnot : c ∉ formulaChars := by
        intro hmem
        obtain ⟨s, rfl⟩ := mem_formulaChars_iff.1 hmem
        simp at hc
      simp [Located.map, Mark.ofChar_eq_foreign_iff.2 ⟨rfl, hc⟩, Mark.foreign?, Option.guard,
        hnot]

/-- Cutting into tokens loses no foreign character: the tokens have those of the text, at the same
places. -/
theorem Formula.foreigns_tokens (f : Formula) :
    foreigns Token.foreign? f.tokens = f.chars.filter (·.val ∉ formulaChars) := by
  rw [tokens, foreigns_ofMarks, foreigns_marks]

/-! ### The first one -/

/-- The first foreign character among those that are not spacing is the first of the text. -/
theorem isFirstForeign_of_chars {f : Formula} {c : Char} {pos : Nat} {rest : List (Located Char)}
    (h : f.chars.filter (·.val ∉ formulaChars) = ⟨pos, c⟩ :: rest) :
    IsFirstForeign f.text c pos := by
  obtain ⟨front, back, hchars, hfront, hc, -⟩ := List.filter_eq_cons_iff.1 h
  have hmem : ⟨pos, c⟩ ∈ unspaced 0 f.text.toList := by
    show _ ∈ f.chars
    rw [hchars]
    simp
  obtain ⟨hspace, -, hplace⟩ := mem_unspaced_iff.1 hmem
  refine ⟨⟨hspace, by simpa using hc⟩, hplace, ?_⟩
  rintro i hi d hd ⟨hdspace, hdforeign⟩
  -- One that stood further to the left would be in front of it among the characters.
  have hdmem : ⟨i, d⟩ ∈ f.chars := mem_unspaced_iff.2 ⟨hdspace, Nat.zero_le _, hd⟩
  have hordered := pairwise_unspaced 0 f.text.toList
  have hchars' : unspaced 0 f.text.toList = front ++ ⟨pos, c⟩ :: back := hchars
  rw [hchars', List.pairwise_append, List.pairwise_cons] at hordered
  rw [hchars, List.mem_append, List.mem_cons] at hdmem
  rcases hdmem with hdfront | hdhere | hdback
  · exact hfront _ hdfront (by simpa using hdforeign)
  · cases hdhere
    omega
  · have hlt := hordered.2.1.1 _ hdback
    simp at hlt
    omega

/-- A foreign character of the text is found among those that are not spacing. -/
theorem Formula.exists_filter_eq_cons {f : Formula} (h : ∃ c ∈ f.text.toList, IsForeign c) :
    ∃ x rest, f.chars.filter (·.val ∉ formulaChars) = x :: rest := by
  obtain ⟨c, hc, hspace, hforeign⟩ := h
  obtain ⟨pos, hpos⟩ := List.getElem?_of_mem hc
  have hmem : ⟨pos, c⟩ ∈ f.chars := mem_unspaced_iff.2 ⟨hspace, Nat.zero_le _, hpos⟩
  have hfilter : ⟨pos, c⟩ ∈ f.chars.filter (·.val ∉ formulaChars) :=
    List.mem_filter.2 ⟨hmem, by simpa using hforeign⟩
  exact List.exists_cons_of_ne_nil (List.ne_nil_of_mem hfilter)

/-! ### What is taken in -/

namespace Check

variable {limit : UInt8} {k k' : Check} {x : Located Mark}

/-- The check takes in no foreign character. -/
theorem foreign?_of_read_eq_ok (h : k.read limit x = .ok k') : x.val.foreign? = none := by
  obtain ⟨pos, m⟩ := x
  cases m with
  | symbol s => rfl
  | foreign c => cases h

/-- What a check takes in has no foreign character. -/
theorem foreigns_of_foldlM_eq_ok {marks : List (Located Mark)}
    (h : marks.foldlM (read limit) k = .ok k') : foreigns Mark.foreign? marks = [] := by
  refine foreigns_eq_nil (forall_of_foldlM_eq_ok ?_ marks h)
  intro k x k' hread
  exact foreign?_of_read_eq_ok hread

/-- A foreign character is named by a check where it stands. -/
theorem eq_of_read_eq_foreignChar {c : Char} {pos : Nat}
    (h : k.read limit x = .error (.foreignChar c pos)) : x = ⟨pos, .foreign c⟩ := by
  cases refuses_of_read_eq_error h with
  | foreignChar pos c => rfl

end Check

namespace Stacks

variable {before : List (Located Token)} {ctx : Context} {s : Stacks}

/-- What an evaluation takes in has no foreign character. -/
theorem Reaches.foreigns_eq_nil (h : Reaches before ctx s) :
    foreigns Token.foreign? before = [] := by
  induction h with
  | start => rfl
  | step _ htakes ih =>
      rw [foreigns_append, ih]
      cases htakes <;> rfl

/-- A foreign character is named by an evaluation where it stands. -/
theorem StopsAt.eq_of_foreignChar {t : Located Token} {c : Char} {pos : Nat}
    (h : StopsAt ctx s t (.malformed (.foreignChar c pos))) : t = ⟨pos, .foreign c⟩ := by
  cases h with
  | foreign pos c => rfl
  | settling hmem hfails => cases hfails

end Stacks

/-! ### Texts with a foreign character -/

namespace Formula

variable {f : Formula} {x : Located Char} {rest : List (Located Char)}

/-- A text with a foreign character fails its check, and a fault that names a foreign character
names the first one. -/
theorem exists_check_eq_error (h : f.chars.filter (·.val ∉ formulaChars) = x :: rest)
    (limit : UInt8) : ∃ fault, f.check limit = .error fault ∧
      ∀ c pos, fault = .foreignChar c pos → x = ⟨pos, c⟩ := by
  rw [← f.foreigns_marks] at h
  cases hmarks : Check.ofMarks limit f.marks with
  | ok k =>
      rw [Check.foreigns_of_foldlM_eq_ok hmarks] at h
      cases h
  | error fault =>
      refine ⟨fault, ?_, ?_⟩
      · rw [check, hmarks]
        rfl
      · rintro c pos rfl
        obtain ⟨front, y, back, k, hsplit, hfront, hread⟩ := exists_of_foldlM_eq_error _ hmarks
        obtain rfl := Check.eq_of_read_eq_foreignChar hread
        -- What stands in front of the fault has been taken in, so it has no foreign character.
        have hmark : Mark.foreign? (.foreign c) = some c := rfl
        rw [hsplit, foreigns_append, Check.foreigns_of_foldlM_eq_ok hfront,
          foreigns_cons_of_some hmark] at h
        cases h
        rfl

/-- Evaluation fails on such a text as well, and names the first foreign character if it
names one. -/
theorem exists_evaluate_eq_error (h : f.chars.filter (·.val ∉ formulaChars) = x :: rest) :
    ∃ e, f.evaluate = .error e ∧ ∀ c pos, e = .malformed (.foreignChar c pos) → x = ⟨pos, c⟩ := by
  rw [← f.foreigns_tokens] at h
  rcases f.cases_evaluate with
    ⟨before, t, after, ctx, s, e, htokens, hreaches, hstops, he⟩ | ⟨ctx, s, hreaches, -⟩
  · refine ⟨e, he, ?_⟩
    rintro c pos rfl
    obtain rfl := hstops.eq_of_foreignChar
    have htoken : Token.foreign? (.foreign c) = some c := rfl
    rw [htokens, foreigns_append, hreaches.foreigns_eq_nil, foreigns_cons_of_some htoken] at h
    cases h
    rfl
  -- An evaluation that reached the end would have taken them all in.
  · rw [hreaches.foreigns_eq_nil] at h
    cases h

/-- So does the whole calculation, with its check and without. -/
theorem exists_calculate_eq_error (h : f.chars.filter (·.val ∉ formulaChars) = x :: rest)
    (settings : Settings) : ∃ e, settings.calculate f.text = .error e ∧
      ∀ c pos, e = .malformed (.foreignChar c pos) → x = ⟨pos, c⟩ := by
  cases hs : settings.unchecked with
  | true =>
      obtain ⟨e, he, hfirst⟩ := exists_evaluate_eq_error h
      refine ⟨e, ?_, hfirst⟩
      rw [Settings.calculate_of_unchecked hs, he]
      rfl
  | false =>
      obtain ⟨fault, hfault, hfirst⟩ := exists_check_eq_error h settings.maxDigits
      have hcheck : checkText settings.maxDigits f.text = .error fault := by
        rw [checkText, Formula.ofText_eq_ok_iff.2 rfl]
        exact hfault
      refine ⟨.malformed fault, Settings.calculate_of_checkText_eq_error hs hcheck, ?_⟩
      intro c pos hc
      cases hc
      exact hfirst c pos rfl

end Formula

/-- **A foreign character is never evaluated away.** Of a text with one or more of them there is no
check, no evaluation and no calculation that does not fail, whatever the settings. Where the
failure names a foreign character, it is the first of the text, at its index. -/
theorem foreign_never_evaluated_away {text : String} (h : ∃ c ∈ text.toList, IsForeign c) :
    (∀ limit, ∃ fault, checkText limit text = .error fault ∧
        ∀ c pos, fault = .foreignChar c pos → IsFirstForeign text c pos) ∧
      (∃ f, Formula.ofText text = .ok f ∧ ∃ e, f.evaluate = .error e ∧
        ∀ c pos, e = .malformed (.foreignChar c pos) → IsFirstForeign text c pos) ∧
      ∀ settings : Settings, ∃ e, settings.calculate text = .error e ∧
        ∀ c pos, e = .malformed (.foreignChar c pos) → IsFirstForeign text c pos := by
  obtain ⟨c, hc, hforeign⟩ := h
  obtain ⟨f, rfl⟩ : ∃ f : Formula, f.text = text := ⟨⟨text, c, hc, hforeign.1⟩, rfl⟩
  have hf : Formula.ofText f.text = .ok f := Formula.ofText_eq_ok_iff.2 rfl
  obtain ⟨x, rest, hfilter⟩ := Formula.exists_filter_eq_cons ⟨c, hc, hforeign⟩
  have hfirst : ∀ c pos, x = ⟨pos, c⟩ → IsFirstForeign f.text c pos := by
    rintro c pos rfl
    exact isFirstForeign_of_chars hfilter
  refine ⟨?_, ⟨f, hf, ?_⟩, ?_⟩
  · intro limit
    obtain ⟨fault, hfault, hx⟩ := Formula.exists_check_eq_error hfilter limit
    refine ⟨fault, ?_, fun c pos hcp => hfirst c pos (hx c pos hcp)⟩
    rw [checkText, hf]
    exact hfault
  · obtain ⟨e, he, hx⟩ := Formula.exists_evaluate_eq_error hfilter
    exact ⟨e, he, fun c pos hcp => hfirst c pos (hx c pos hcp)⟩
  · intro settings
    obtain ⟨e, he, hx⟩ := Formula.exists_calculate_eq_error hfilter settings
    exact ⟨e, he, fun c pos hcp => hfirst c pos (hx c pos hcp)⟩

/-- The first of two foreign characters stands behind a sign, at index 4. -/
theorem foreign_never_evaluated_away_sign :
    (∃ c ∈ "2*(-x)^π".toList, IsForeign c) ∧
      ({ unchecked := true } : Settings).calculate "2*(-x)^π"
        = .error (.malformed (.foreignChar 'x' 4)) ∧
      IsFirstForeign "2*(-x)^π" 'x' 4 := by
  have hforeign : ∃ c ∈ "2*(-x)^π".toList, IsForeign c :=
    ⟨'x', by decide, by decide, by decide⟩
  have hcalculate : ({ unchecked := true } : Settings).calculate "2*(-x)^π"
      = .error (.malformed (.foreignChar 'x' 4)) := by decide +kernel
  obtain ⟨e, he, hfirst⟩ := (foreign_never_evaluated_away hforeign).2.2 { unchecked := true }
  cases he.symm.trans hcalculate
  exact ⟨hforeign, hcalculate, hfirst 'x' 4 rfl⟩

end Reckoner
