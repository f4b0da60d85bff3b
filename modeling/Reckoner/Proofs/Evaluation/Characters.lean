import Reckoner.Proofs.Check.FirstFault
import Reckoner.Token

/-!
# `Reckoner.Proofs.Evaluation.Characters`: tokens among the characters of a text

An evaluation sees tokens, and what it says is said about the characters of the text. A number
takes the place of a run of digits. Every other token has one character, at its own place, so
without the numbers and the digits the tokens and the characters are the same.

* `Token.written_ofMarks`: tokens and the marks that they are made of.
* `Formula.written_tokens`: the tokens of a formula and its characters.
* `Formula.getElem?_of_mem_tokens`: the character of a token is the one that is found at its
  place in the text.
-/

set_option autoImplicit false

namespace Reckoner

/-! ### Digits -/

/-- Whether a mark is a digit. -/
def Mark.isDigit : Mark → Bool
  | symbol s => s.isDigit
  | foreign _ => false

/-- The digits among the characters all write symbols. -/
theorem Symbol.exists_eq_toChar_of_isDigit {c : Char} (h : c.isDigit = true) :
    ∃ s : Symbol, c = s.toChar := by
  have hrange : 48 ≤ c.toNat ∧ c.toNat ≤ 57 := by
    simpa [Char.isDigit, UInt32.le_iff_toNat_le] using h
  refine ⟨.digit ⟨c.toNat - 48, by omega⟩, ?_⟩
  show c = Char.ofNat (48 + (c.toNat - 48))
  rw [Nat.add_sub_cancel' hrange.1, Char.ofNat_toNat]

/-- A character is a digit when its mark is one. The digits of other scripts are foreign, and the
core library does not count them as digits either. -/
@[simp] theorem Mark.isDigit_ofChar (c : Char) : (ofChar c).isDigit = c.isDigit := by
  -- A symbol says itself whether it is a digit. A foreign character would be a symbol if it
  -- were one.
  cases hc : Symbol.ofChar? c with
  | some s =>
      obtain rfl := Symbol.ofChar?_eq_some_iff.1 hc
      rw [ofChar_eq_symbol_iff.2 rfl, Symbol.isDigit_toChar]
      rfl
  | none =>
      rw [ofChar_eq_foreign_iff.2 ⟨rfl, hc⟩]
      cases hdigit : c.isDigit with
      | false => rfl
      | true =>
          obtain ⟨s, rfl⟩ := Symbol.exists_eq_toChar_of_isDigit hdigit
          simp at hc

/-! ### Tokens and characters -/

namespace Token

/-- The character of a token that is no number. -/
def char? : Token → Option Char
  | number _ => none
  | operator op => some op.toChar
  | opening => some '('
  | closing => some ')'
  | foreign c => some c

/-- The characters of tokens, numbers left out. -/
def written (tokens : List (Located Token)) : List (Located Char) :=
  tokens.filterMap fun t => t.val.char?.map (⟨t.pos, ·⟩)

/-- Tokens in two parts are written with the characters of both. -/
theorem written_append (xs ys : List (Located Token)) :
    written (xs ++ ys) = written xs ++ written ys :=
  List.filterMap_append

/-- A number is not written with a single character and is left out here. -/
theorem written_cons_of_none {t : Located Token} (h : t.val.char? = none)
    (tokens : List (Located Token)) : written (t :: tokens) = written tokens := by
  simp [written, h]

/-- Any other token is written with its character, at its place. -/
theorem written_cons_of_some {t : Located Token} {c : Char} (h : t.val.char? = some c)
    (tokens : List (Located Token)) : written (t :: tokens) = ⟨t.pos, c⟩ :: written tokens := by
  simp [written, h]

/-- What a number leaves of the marks behind its first digit. -/
theorem filter_afterDigits (marks : List (Located Mark)) :
    (afterDigits marks).filter (!·.val.isDigit) = marks.filter (!·.val.isDigit) := by
  fun_induction afterDigits marks with
  | case1 pos d marks ih => exact ih
  | case2 => rfl

/-- Numbers and digits left out, tokens are written with the marks that they are made of. -/
theorem written_ofMarks (marks : List (Located Mark)) :
    written (ofMarks marks)
      = (marks.filter (!·.val.isDigit)).map (Located.map Mark.toChar) := by
  fun_induction ofMarks marks with
  | case1 => rfl
  -- A number takes the digits behind its first one with it, and both sides leave all of them out.
  | case2 pos d marks ih =>
      rw [written_cons_of_none rfl, ih, filter_afterDigits]
      rfl
  | case3 pos op marks ih =>
      rw [written_cons_of_some rfl, ih]
      rfl
  | case4 pos marks ih =>
      rw [written_cons_of_some rfl, ih]
      rfl
  | case5 pos marks ih =>
      rw [written_cons_of_some rfl, ih]
      rfl
  | case6 pos c marks ih =>
      rw [written_cons_of_some rfl, ih]
      rfl

end Token

/-- Numbers and digits left out, the tokens of a formula are written with its characters. -/
theorem Formula.written_tokens (f : Formula) :
    Token.written f.tokens = f.chars.filter (!·.val.isDigit) := by
  -- The marks are made of the characters, and give them back.
  have hchar : Located.map Mark.toChar ∘ Located.map Mark.ofChar = id := by
    funext x
    simp [Located.map]
  have hdigit : (fun x : Located Mark => !x.val.isDigit) ∘ Located.map Mark.ofChar
      = fun x => !x.val.isDigit := by
    funext x
    simp [Located.map]
  rw [tokens, Token.written_ofMarks, marks, List.filter_map, List.map_map, hchar, hdigit,
    List.map_id]

/-- The characters that are not spacing are found in the text at their places. -/
theorem mem_unspaced_iff {start : Nat} {x : Located Char} {text : List Char} :
    x ∈ unspaced start text ↔ x.val ≠ ' ' ∧ start ≤ x.pos ∧ text[x.pos - start]? = some x.val := by
  constructor
  · intro h
    obtain ⟨⟨c, pos⟩, hmem, hx⟩ := List.mem_filterMap.1 h
    obtain ⟨m, hm, rfl⟩ := Option.map_eq_some_iff.1 hx
    exact ⟨(Mark.ofChar?_eq_some_iff.1 hm).1, List.mk_mem_zipIdx_iff_le_and_getElem?_sub.1 hmem⟩
  · rintro ⟨hspace, hplace⟩
    have hmark := Mark.ofChar?_eq_some_iff.2 ⟨hspace, rfl⟩
    refine List.mem_filterMap.2 ⟨(x.val, x.pos), ?_, Option.map_eq_some_iff.2 ⟨_, hmark, rfl⟩⟩
    exact List.mk_mem_zipIdx_iff_le_and_getElem?_sub.2 hplace

/-- The characters that are not spacing stand one behind the other. -/
theorem pairwise_unspaced (start : Nat) (text : List Char) :
    (unspaced start text).Pairwise (·.pos < ·.pos) := by
  induction text generalizing start with
  | nil => exact .nil
  | cons c text ih =>
      rw [unspaced_cons]
      split
      · exact ih (start + 1)
      · refine .cons ?_ (ih (start + 1))
        intro x hx
        have hplace := (mem_unspaced_iff.1 hx).2.1
        exact hplace

/-- What is left of a text without its spacing is found in the text. This is the half of
`mem_unspaced_iff` that texts which start at 0 need. -/
theorem getElem?_of_mem_unspaced {start : Nat} {x : Located Char} {text : List Char}
    (h : x ∈ unspaced start text) : x.val ≠ ' ' ∧ text[x.pos - start]? = some x.val := by
  obtain ⟨hspace, -, hplace⟩ := mem_unspaced_iff.1 h
  exact ⟨hspace, hplace⟩

/-- At the place of a token that is no number, its character is found in the text. -/
theorem Formula.getElem?_of_mem_tokens {f : Formula} {t : Located Token} {c : Char}
    (ht : t ∈ f.tokens) (hc : t.val.char? = some c) :
    c ≠ ' ' ∧ f.text.toList[t.pos]? = some c := by
  have hwritten : ⟨t.pos, c⟩ ∈ Token.written f.tokens :=
    List.mem_filterMap.2 ⟨t, ht, by rw [hc]; rfl⟩
  rw [f.written_tokens] at hwritten
  exact getElem?_of_mem_unspaced (List.mem_filter.1 hwritten).1

end Reckoner
