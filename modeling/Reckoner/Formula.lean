import Reckoner.Fault
import Reckoner.Symbol

/-!
# `Reckoner.Formula`: texts with something in them

A `Formula` is a text that holds a character other than a space. Two views show
what is left when the spacing is dropped: its characters, and the marks that
they leave, each at its place in the text as it was given (`Located`). A place is
the index of a character, spacing counted, the first being 0. `Cursor` walks along
the same characters one at a time.

- `unspaced_cons`: a space leaves no character, every other character itself.
- `Formula.ofText_eq_error_iff`: only spacing makes a text no formula.
- `Cursor.next_fst`, `Cursor.remaining_next`: a step hands out the first of the
  characters that are left, and leaves the others.
- `Cursor.length_remaining_le`: no more characters are left than unread bytes.
-/

set_option autoImplicit false

namespace Reckoner

/-- A value together with the place in the text that it comes from. -/
structure Located (α : Type) where
  /-- The index of the character. -/
  pos : Nat
  /-- What stands there. -/
  val : α
deriving DecidableEq, Repr

namespace Located

/-- The same place with another value at it. -/
def map {α β : Type} (f : α → β) (x : Located α) : Located β :=
  ⟨x.pos, f x.val⟩

/-- A function of the item keeps its place. -/
@[simp] theorem pos_map {α β : Type} (f : α → β) (x : Located α) : (x.map f).pos = x.pos := rfl

end Located

/-- The characters of a text that leave a mark, each at its place. The text's first
character stands at `start`. -/
def unspaced (start : Nat) (text : List Char) : List (Located Char) :=
  (text.zipIdx start).filterMap fun (c, pos) => (Mark.ofChar? c).map fun _ => ⟨pos, c⟩

/-- Nothing is read of an empty text. -/
@[simp] theorem unspaced_nil (start : Nat) : unspaced start [] = [] := rfl

/-- A space leaves no character, every other character itself. -/
theorem unspaced_cons (start : Nat) (c : Char) (text : List Char) :
    unspaced start (c :: text) =
      if c = ' ' then unspaced (start + 1) text
      else ⟨start, c⟩ :: unspaced (start + 1) text := by
  unfold unspaced
  rw [List.zipIdx_cons, List.filterMap_cons]
  split
  · next hc => rw [if_pos (Mark.ofChar?_eq_none_iff.1 (Option.map_eq_none_iff.1 hc))]
  · next x hx =>
    obtain ⟨m, hm, rfl⟩ := Option.map_eq_some_iff.1 hx
    rw [if_neg (Mark.ofChar?_eq_some_iff.1 hm).1]

/-- A text that holds more than spacing. -/
structure Formula where
  /-- The text as it was given, spacing included. -/
  text : String
  /-- Something is left when the spacing is dropped. -/
  exists_ne_space : ∃ c ∈ text.toList, c ≠ ' '

namespace Formula

/-- Takes a text for a formula, unless there is nothing but spacing in it. -/
def ofText (text : String) : Except Fault Formula :=
  if h : text.toList.any (· ≠ ' ') then .ok ⟨text, by simpa using h⟩ else .error .empty

/-- The characters that are not spacing. -/
def chars (f : Formula) : List (Located Char) :=
  unspaced 0 f.text.toList

/-- How many characters are not spacing. -/
def size (f : Formula) : Nat :=
  f.text.toList.countP (· ≠ ' ')

/-- The marks that the characters leave. -/
def marks (f : Formula) : List (Located Mark) :=
  f.chars.map (Located.map Mark.ofChar)

/-- A formula is made of exactly its own text. -/
theorem ofText_eq_ok_iff {text : String} {f : Formula} :
    ofText text = .ok f ↔ f.text = text := by
  unfold ofText
  constructor
  · intro h
    split at h
    · cases h; rfl
    · cases h
  · rintro rfl
    have hany : f.text.toList.any (· ≠ ' ') = true := by
      simpa using f.exists_ne_space
    rw [dif_pos hany]

/-- Only spacing makes a text no formula. -/
theorem ofText_eq_error_iff {text : String} {e : Fault} :
    ofText text = .error e ↔ e = .empty ∧ ∀ c ∈ text.toList, c = ' ' := by
  unfold ofText
  split
  · next h =>
    obtain ⟨c, hc, hne⟩ : ∃ c ∈ text.toList, c ≠ ' ' := by simpa using h
    simp only [reduceCtorEq, false_iff, not_and]
    intro _ hall
    exact hne (hall c hc)
  · next h =>
    have hall : ∀ c ∈ text.toList, c = ' ' := by simpa using h
    simp only [Except.error.injEq]
    constructor
    · rintro rfl
      exact ⟨rfl, hall⟩
    · rintro ⟨rfl, _⟩
      rfl

/-- As many characters are read as the text has characters other than the space. -/
theorem length_unspaced (start : Nat) (text : List Char) :
    (unspaced start text).length = text.countP (· ≠ ' ') := by
  induction text generalizing start with
  | nil => rfl
  | cons c text ih => by_cases h : c = ' ' <;> simp [unspaced_cons, h, ih]

end Formula

/-- A place in a text up to which it has been read. -/
structure Cursor where
  /-- The characters not read yet, spacing included. -/
  rest : List Char
  /-- The index of the first of them in the text. -/
  pos : Nat

namespace Cursor

/-- The cursor in front of a formula's text. -/
def start (f : Formula) : Cursor :=
  ⟨f.text.toList, 0⟩

/-- The characters still to come that are not spacing. -/
def remaining (cur : Cursor) : List (Located Char) :=
  unspaced cur.pos cur.rest

/-- The number of bytes that the unread text takes in UTF-8. -/
def unreadBytes (cur : Cursor) : Nat :=
  cur.rest.foldr (fun c bytes => c.utf8Size + bytes) 0

/-- Reads `rest`, whose first character stands at `pos`, up to the first
character that is not spacing. -/
def readFrom : List Char → Nat → Option (Located Char) × Cursor
  | [], pos => (none, ⟨[], pos⟩)
  | c :: rest, pos =>
    if c = ' ' then readFrom rest (pos + 1) else (some ⟨pos, c⟩, ⟨rest, pos + 1⟩)

/-- The next character that is not spacing, and the cursor behind it. Without such
a character the cursor still moves, over the spacing to the end of the text. -/
def next (cur : Cursor) : Option (Located Char) × Cursor :=
  readFrom cur.rest cur.pos

/-- The mark of the next character that is not spacing, and the cursor behind it. -/
def nextMark (cur : Cursor) : Option (Located Mark) × Cursor :=
  (cur.next.1.map (Located.map Mark.ofChar), cur.next.2)

/-- A step hands out the first of the characters that are left. -/
theorem next_fst (cur : Cursor) : cur.next.1 = cur.remaining.head? := by
  obtain ⟨rest, pos⟩ := cur
  simp only [next, remaining]
  induction rest generalizing pos with
  | nil => rfl
  | cons c rest ih => by_cases h : c = ' ' <;> simp [readFrom, unspaced_cons, h, ih]

/-- A step leaves the others. -/
theorem remaining_next (cur : Cursor) : cur.next.2.remaining = cur.remaining.tail := by
  obtain ⟨rest, pos⟩ := cur
  simp only [next, remaining]
  induction rest generalizing pos with
  | nil => rfl
  | cons c rest ih =>
    by_cases h : c = ' '
    · simpa [readFrom, unspaced_cons, h] using ih (pos + 1)
    · simp [readFrom, unspaced_cons, h]

/-- No more characters are left than unread bytes. -/
theorem length_remaining_le (cur : Cursor) : cur.remaining.length ≤ cur.unreadBytes := by
  obtain ⟨rest, pos⟩ := cur
  simp only [remaining, unreadBytes, Formula.length_unspaced]
  induction rest with
  | nil => simp
  | cons c rest ih =>
    have hc : 1 ≤ c.utf8Size := Char.utf8Size_pos c
    simp only [List.countP_cons, List.foldr_cons]
    split <;> omega

end Cursor

end Reckoner
