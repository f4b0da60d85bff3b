import Reckoner.CommandLine.Lines

/-!
# `Reckoner.Proofs.CommandLine.Contents`: lines without what ends them

`Lines.cut` leaves to every line the line feed that ends it, and `Lines.text?` takes it away
again once the line is decoded. What the lines are can be said of the bytes alone, with the
splitting of the core library: `Lines.contents` splits them at the line feeds and takes a
carriage return from the end of every piece that a line feed ended. This file proves that the
texts of the lines are what the contents decode to.

The one thing to see is that a line feed or a carriage return at the end of bytes decides nothing
about the bytes in front of it: a byte below 128 never belongs to a longer character.

* `Lines.induction`: bytes are a last line, or a line, its line feed and further bytes.
* `Lines.decode?_concat`: decoding goes past a character of one byte.
* `Lines.texts_eq`: the texts of the lines are those of the contents.
-/

set_option autoImplicit false

namespace Reckoner.CommandLine.Lines

/-! ### What the lines are -/

/-- The byte of a carriage return. -/
def carriageReturn : UInt8 := 13

/-- Bytes without a carriage return at their end. -/
def dropReturn (line : List UInt8) : List UInt8 :=
  if line.getLast? = some carriageReturn then line.dropLast else line

/-- The lines that pieces between line feeds hold. The last piece ended without a line feed, and
is a line only if there is something in it. -/
def ofPieces : List (List UInt8) → List (List UInt8)
  | [] => []
  | [last] => if last = [] then [] else [last]
  | piece :: next :: pieces => dropReturn piece :: ofPieces (next :: pieces)

/-- The lines of bytes without what ends them. -/
def contents (bytes : List UInt8) : List (List UInt8) :=
  ofPieces (bytes.splitOn lineFeed)

/-- The text that bytes are in UTF-8, if they are one. -/
def decode? (bytes : List UInt8) : Option String :=
  String.fromUTF8? ⟨bytes.toArray⟩

/-- Bytes are a last line, or a line, its line feed and further bytes. -/
@[elab_as_elim]
theorem induction {P : List UInt8 → Prop} (last : ∀ line, lineFeed ∉ line → P line)
    (line : ∀ line bytes, lineFeed ∉ line → P bytes → P (line ++ lineFeed :: bytes))
    (bytes : List UInt8) : P bytes := by
  induction hlength : bytes.length using Nat.strongRecOn generalizing bytes with
  | ind n ih =>
      by_cases h : lineFeed ∈ bytes
      · obtain ⟨front, behind, rfl, hfront⟩ := List.eq_append_cons_of_mem h
        rw [List.length_append, List.length_cons] at hlength
        exact line front behind hfront (ih behind.length (by omega) behind rfl)
      · exact last bytes h

/-- Bytes without a line feed are one piece, or none where there are no bytes. -/
theorem cut_of_not_mem {line : List UInt8} (h : lineFeed ∉ line) :
    cut line = if line = [] then [] else [line] := by
  induction line with
  | nil => rfl
  | cons b line ih =>
      rw [List.mem_cons, not_or] at h
      rw [cut, if_neg (Ne.symm h.1), ih h.2]
      -- Only the last byte opens a piece; every byte before it joins the piece behind.
      cases line with
      | nil => rfl
      | cons c line => rfl

/-- The first piece goes up to its line feed, which it keeps. -/
theorem cut_line {line : List UInt8} (h : lineFeed ∉ line) (bytes : List UInt8) :
    cut (line ++ lineFeed :: bytes) = (line ++ [lineFeed]) :: cut bytes := by
  induction line with
  | nil => rfl
  | cons b line ih =>
      rw [List.mem_cons, not_or] at h
      rw [List.cons_append, cut, if_neg (Ne.symm h.1), ih h.2]
      rfl

/-- Bytes without a line feed are the content of one line, or of none. -/
theorem contents_of_not_mem {line : List UInt8} (h : lineFeed ∉ line) :
    contents line = if line = [] then [] else [line] := by
  rw [contents, List.splitOn_eq_singleton h]
  rfl

/-- The content of the first line goes up to its line feed, less a carriage return in front
of it. -/
theorem contents_line {line : List UInt8} (h : lineFeed ∉ line) (bytes : List UInt8) :
    contents (line ++ lineFeed :: bytes) = dropReturn line :: contents bytes := by
  rw [contents, contents, List.splitOn_append_cons_self_of_not_mem h]
  -- Splitting always gives a piece, so the last one is dropped alike on both sides.
  cases hpieces : bytes.splitOn lineFeed with
  | nil => exact absurd hpieces (List.splitOn_ne_nil _ _)
  | cons piece pieces => rfl

/-! ### Decoding -/

/-- Decoded bytes are the encoding of the text they give. -/
theorem toByteArray_of_decode? {bytes : List UInt8} {text : String}
    (h : decode? bytes = some text) : text.toByteArray = ⟨bytes.toArray⟩ := by
  unfold decode? String.fromUTF8? at h
  split at h
  · cases h
    rfl
  · cases h

/-- The encoding of a text decodes to that text. -/
theorem decode?_of_toByteArray {bytes : List UInt8} {text : String}
    (h : text.toByteArray = ⟨bytes.toArray⟩) : decode? bytes = some text := by
  have hvalid : ByteArray.IsValidUTF8 ⟨bytes.toArray⟩ := h ▸ text.isValidUTF8
  unfold decode? String.fromUTF8?
  rw [dif_pos hvalid, Option.some.injEq, ← String.toByteArray_inj, h]
  rfl

/-- Bytes are those of a text exactly when they decode to it. -/
theorem decode?_eq_some_iff {bytes : List UInt8} {text : String} :
    decode? bytes = some text ↔ text.toByteArray = ⟨bytes.toArray⟩ :=
  ⟨toByteArray_of_decode?, decode?_of_toByteArray⟩

/-- A character of one byte is encoded as that byte. -/
theorem bytes_concat {c : Char} (hc : c.utf8Size = 1) (bytes : List UInt8) :
    (⟨(bytes ++ [c.toUInt8]).toArray⟩ : ByteArray) = ⟨bytes.toArray⟩ ++ [c].utf8Encode := by
  rw [List.utf8Encode_singleton, String.utf8EncodeChar_eq_singleton hc]
  ext1
  simp

/-- In front of a character of one byte there are whole characters only. -/
theorem decode?_isSome_of_concat {c : Char} (hc : c.utf8Size = 1) {bytes : List UInt8}
    (h : (decode? (bytes ++ [c.toUInt8])).isSome) : (decode? bytes).isSome := by
  obtain ⟨text, htext⟩ := Option.isSome_iff_exists.1 h
  have hbytes := (toByteArray_of_decode? htext).trans (bytes_concat hc bytes)
  have hsize : (⟨bytes.toArray⟩ : ByteArray).size = bytes.length := rfl
  have hpos : 0 < ([c].utf8Encode).size := by
    simp [List.utf8Encode_singleton, Char.utf8Size_pos]
  -- The last byte starts a character of the text, so a character ends in front of it.
  have hvalid : (⟨bytes.length⟩ : String.Pos.Raw).IsValid text := by
    refine String.Pos.Raw.isValid_iff_isUTF8FirstByte.2 (.inr ⟨?_, ?_⟩)
    · rw [String.Pos.Raw.lt_iff, String.byteIdx_rawEndPos, ← String.size_toByteArray, hbytes,
        ByteArray.size_append]
      exact Nat.lt_add_of_pos_right hpos
    · unfold String.getUTF8Byte
      simp only [hbytes]
      rw [ByteArray.getElem_append_right (Nat.le_of_eq hsize)]
      exact List.isUTF8FirstByte_getElem_utf8Encode_singleton.2
        (Nat.sub_eq_zero_of_le (Nat.le_of_eq hsize.symm))
  have hfront := (String.Pos.Raw.isValid_iff_isValidUTF8_extract_zero.1 hvalid).2
  rw [hbytes, ByteArray.extract_append_eq_left hsize.symm] at hfront
  unfold decode? String.fromUTF8?
  rw [dif_pos hfront]
  rfl

/-- Decoding goes past a character of one byte. -/
theorem decode?_concat {c : Char} (hc : c.utf8Size = 1) (bytes : List UInt8) :
    decode? (bytes ++ [c.toUInt8]) = (decode? bytes).map (·.push c) := by
  cases hbytes : decode? bytes with
  | none =>
      rw [Option.map_none, ← Option.not_isSome_iff_eq_none]
      intro h
      have hfront := decode?_isSome_of_concat hc h
      rw [hbytes] at hfront
      cases hfront
  | some text =>
      rw [Option.map_some, decode?_eq_some_iff, String.toByteArray_push, bytes_concat hc,
        toByteArray_of_decode? hbytes]

/-- A character of one byte that ends a text is the last byte. -/
theorem getLast?_of_decode? {c : Char} (hc : c.utf8Size = 1) {bytes : List UInt8}
    {text : String} (h : decode? bytes = some text) (hlast : text.toList.getLast? = some c) :
    bytes.getLast? = some c.toUInt8 := by
  obtain ⟨front, hfront⟩ := List.getLast?_eq_some_iff.1 hlast
  have hbytes := toByteArray_of_decode? h
  rw [← String.utf8Encode_toList, hfront, List.utf8Encode_append, List.utf8Encode_singleton,
    String.utf8EncodeChar_eq_singleton hc] at hbytes
  have hlist : front.utf8Encode.data.toList ++ [c.toUInt8] = bytes := by
    simpa using congrArg (fun b => b.data.toList) hbytes
  rw [← hlist, List.getLast?_concat]

/-! ### Chomping -/

/-- A text that does not end in a line feed stays as it is. -/
theorem chomp_of_getLast?_ne {text : List Char} (h : text.getLast? ≠ some '\n') :
    chomp text = text := by
  rw [← List.head?_reverse] at h
  unfold chomp
  split
  · next heq => exact absurd (congrArg List.head? heq) h
  · next heq => exact absurd (congrArg List.head? heq) h
  · rfl

/-- A line feed at the end is taken off. -/
theorem chomp_lineFeed {text : List Char} (h : text.getLast? ≠ some '\r') :
    chomp (text ++ ['\n']) = text := by
  rw [← List.head?_reverse] at h
  unfold chomp
  rw [List.reverse_concat]
  split
  · next heq => exact absurd (congrArg List.head? (List.cons.inj heq).2) h
  · next heq => rw [← (List.cons.inj heq).2, List.reverse_reverse]
  · next hne => exact absurd rfl (hne _)

/-- A carriage return in front of that line feed goes with it. -/
theorem chomp_return_lineFeed (text : List Char) :
    chomp (text ++ ['\r', '\n']) = text := by
  rw [chomp, List.reverse_append]
  exact List.reverse_reverse text

/-- The text of a line that a line feed ends is that of its contents. -/
theorem text?_concat_lineFeed (line : List UInt8) :
    text? (line ++ [lineFeed]) = decode? (dropReturn line) := by
  have hfeed : decode? (line ++ [lineFeed]) = (decode? line).map (·.push '\n') :=
    decode?_concat (show Char.utf8Size '\n' = 1 from rfl) line
  show (decode? (line ++ [lineFeed])).map _ = _
  rw [hfeed, Option.map_map, dropReturn]
  split
  · next hreturn =>
      -- Both of the bytes that are taken away decode to a character.
      obtain ⟨front, rfl⟩ := List.getLast?_eq_some_iff.1 hreturn
      have hboth : decode? (front ++ [carriageReturn]) = (decode? front).map (·.push '\r') :=
        decode?_concat (show Char.utf8Size '\r' = 1 from rfl) front
      rw [hboth, Option.map_map, List.dropLast_concat]
      cases decode? front with
      | none => rfl
      | some text => simp [chomp_return_lineFeed]
  · next hreturn =>
      cases hline : decode? line with
      | none => rfl
      | some text =>
          -- A text in which a carriage return comes last ends in its byte.
          have hlast : text.toList.getLast? ≠ some '\r' := by
            intro hlast
            exact hreturn (getLast?_of_decode? (by decide) hline hlast)
          simp [chomp_lineFeed hlast]

/-- Nothing is taken from the last line. -/
theorem text?_of_not_mem {line : List UInt8} (h : lineFeed ∉ line) :
    text? line = decode? line := by
  show (decode? line).map _ = _
  cases hline : decode? line with
  | none => rfl
  | some text =>
      have hlast : text.toList.getLast? ≠ some '\n' := by
        intro hlast
        have hbyte := getLast?_of_decode? (by decide) hline hlast
        exact h (List.mem_of_getLast? hbyte)
      simp [chomp_of_getLast?_ne hlast]

/-- The texts of the lines are those of the contents. -/
theorem texts_eq (bytes : List UInt8) : texts bytes = (contents bytes).map decode? := by
  unfold texts
  induction bytes using Lines.induction with
  | last line h =>
      rw [cut_of_not_mem h, contents_of_not_mem h]
      split
      · rfl
      · rw [List.map_singleton, List.map_singleton, text?_of_not_mem h]
  | line line bytes h ih =>
      rw [cut_line h, contents_line h, List.map_cons, List.map_cons, ih, text?_concat_lineFeed]

end Reckoner.CommandLine.Lines
