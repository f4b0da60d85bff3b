/-!
# `Reckoner.CommandLine.Lines`: bytes cut into lines of text

A line reaches up to its line feed, or to the end of the bytes when there is none
any more. Its text leaves out the line feed and a carriage return directly before
it; every other carriage return is part of the text. A line is a text only if its
bytes are UTF-8.

`texts` is what is read line by line. `flatten_cut` shows that no byte is lost in
the cutting, and `cut_append` that bytes that end in a line feed are cut
independently of what follows them.
-/

set_option autoImplicit false

namespace Reckoner.CommandLine.Lines

/-- The byte of a line feed. -/
def lineFeed : UInt8 := 10

/-- Cuts bytes behind every line feed. -/
def cut : List UInt8 → List (List UInt8)
  | [] => []
  | b :: bytes =>
    if b = lineFeed then [b] :: cut bytes
    else
      -- The byte belongs to the line that the bytes behind it start with.
      match cut bytes with
      | [] => [[b]]
      | line :: lines => (b :: line) :: lines

/-- The text of a line without its line feed and a carriage return before it. -/
def chomp (line : List Char) : List Char :=
  match line.reverse with
  | '\n' :: '\r' :: text => text.reverse
  | '\n' :: text => text.reverse
  | _ => line

/-- The text of a line, `none` when its bytes are not UTF-8. -/
def text? (line : List UInt8) : Option String :=
  (String.fromUTF8? ⟨line.toArray⟩).map fun text => String.ofList (chomp text.toList)

/-- The texts of the lines that bytes are cut into. -/
def texts (bytes : List UInt8) : List (Option String) :=
  (cut bytes).map text?

/-- No byte is lost in the cutting. -/
theorem flatten_cut (bytes : List UInt8) : (cut bytes).flatten = bytes := by
  induction bytes with
  | nil => rfl
  | cons b bytes ih =>
    unfold cut
    split
    · simp [ih]
    · split
      · next h => simpa [h] using ih
      · next h => simpa [h] using ih

/-- Bytes that end in a line feed are cut independently of what follows them. -/
theorem cut_append (first rest : List UInt8) :
    cut (first ++ [lineFeed] ++ rest) = cut (first ++ [lineFeed]) ++ cut rest := by
  induction first with
  | nil => simp [cut]
  | cons b first ih =>
    simp only [List.cons_append, cut, ih]
    split
    · rfl
    · cases h : cut (first ++ [lineFeed]) with
      | nil =>
        have := flatten_cut (first ++ [lineFeed])
        simp [h] at this
      | cons line lines => rfl

end Reckoner.CommandLine.Lines
