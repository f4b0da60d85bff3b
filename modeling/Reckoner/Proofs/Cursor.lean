import Reckoner.Proofs.Evaluation.Characters

/-!
# `Reckoner.Proofs.Cursor`: a walk along a formula, step by step

A cursor hands out the characters of a formula one at a time. It knows no more than what is left of
the text and at which index that starts. So what it hands out is said here for every number of
steps, not for a walk to the end. A character that is handed out has two numbers: how many steps
were before, and its index in the text. The first counts the characters that are not spacing, the
second counts all of them, and the two determine each other in the text as it was given
(`getElem?_unspaced_eq_some_iff`).

* `Cursor.walk`: the cursor behind some steps, whether they hand out characters or marks.
* `Cursor.remaining_walk`: what it has still to hand out.
* `Cursor.exists_eq_append_rest`: what is read of the text and what is not.
* `walk_hands_out`: the item of each step, and what is left behind it.
-/

set_option autoImplicit false

namespace Reckoner

/-! ### Characters by their numbers -/

/-- A text that starts at an index has nothing in front of it. -/
theorem getElem?_unspaced_ne_some {start pos k : Nat} {c : Char} {text : List Char}
    (h : pos < start) : (unspaced start text)[k]? ≠ some ⟨pos, c⟩ := by
  intro hitem
  have hplace := (mem_unspaced_iff.1 (List.mem_of_getElem? hitem)).2.1
  exact Nat.not_lt.2 hplace h

/-- The number of a character that is not spacing counts those in front of it, and its index counts
all characters in front of it. -/
theorem getElem?_unspaced_eq_some_iff {start k i : Nat} {c : Char} {text : List Char} :
    (unspaced start text)[k]? = some ⟨start + i, c⟩ ↔
      c ≠ ' ' ∧ text[i]? = some c ∧ (text.take i).countP (· ≠ ' ') = k := by
  induction text generalizing start k i with
  | nil => simp
  | cons d text ih =>
      have hbehind (k : Nat) : (unspaced (start + 1) text)[k]? ≠ some ⟨start, c⟩ :=
        getElem?_unspaced_ne_some (Nat.lt_succ_self start)
      rw [unspaced_cons]
      -- At the first index stands `d` itself. Any other index is one of the rest, where it is
      -- one less.
      cases i with
      | zero =>
          split
          · next hd =>
              refine iff_of_false (hbehind k) ?_
              rintro ⟨hc, hdc, -⟩
              exact hc (Option.some.inj hdc ▸ hd)
          · next hd =>
              cases k with
              | zero =>
                  have hc : d = c → c ≠ ' ' := fun h => h ▸ hd
                  simpa using hc
              | succ k => simpa using hbehind k
      | succ i =>
          have hplace : start + (i + 1) = start + 1 + i := by omega
          rw [hplace]
          split
          · next hd => simpa [hd] using ih
          · next hd =>
              cases k with
              | zero => simp [hd, hplace.symm]
              | succ k => simpa [hd] using ih

namespace Cursor

/-- The cursor behind the first `k` steps of a walk along a formula. -/
def walk {α : Type} (step : Cursor → Option α × Cursor) (f : Formula) : Nat → Cursor
  | 0 => start f
  | k + 1 => (step (walk step f k)).2

/-- Whether characters or marks are handed out makes no difference to the cursor. -/
theorem walk_nextMark (f : Formula) (k : Nat) : walk nextMark f k = walk next f k := by
  induction k with
  | zero => rfl
  | succ k ih =>
      show (walk nextMark f k).next.2 = (walk next f k).next.2
      rw [ih]

/-- Each step takes one character away from those that are to come. -/
theorem remaining_walk (f : Formula) (k : Nat) : (walk next f k).remaining = f.chars.drop k := by
  induction k with
  | zero => rfl
  | succ k ih => rw [walk, remaining_next, ih, List.tail_drop]

/-- Behind `k` steps the cursor hands out the character that has `k` others in front of it. -/
theorem next_walk (f : Formula) (k : Nat) : (walk next f k).next.1 = f.chars[k]? := by
  rw [next_fst, remaining_walk, List.head?_drop]

/-- A step reads on from where the cursor is. -/
theorem exists_eq_append_readFrom (rest : List Char) (pos : Nat) :
    ∃ read, rest = read ++ (readFrom rest pos).2.rest ∧
      (readFrom rest pos).2.pos = pos + read.length := by
  induction rest generalizing pos with
  | nil => exact ⟨[], rfl, rfl⟩
  | cons c rest ih =>
      rw [readFrom]
      -- Spacing is read over, and the first character behind it ends the step.
      split
      · obtain ⟨read, hrest, hpos⟩ := ih (pos + 1)
        refine ⟨c :: read, ?_, ?_⟩
        · rw [List.cons_append, ← hrest]
        · rw [hpos, List.length_cons]
          omega
      · exact ⟨[c], rfl, rfl⟩

/-- The text is what has been read and what has not, and the cursor is between them. -/
theorem exists_eq_append_rest (f : Formula) (k : Nat) :
    ∃ read, f.text.toList = read ++ (walk next f k).rest ∧
      (walk next f k).pos = read.length := by
  induction k with
  | zero => exact ⟨[], rfl, rfl⟩
  | succ k ih =>
      obtain ⟨read, htext, hpos⟩ := ih
      obtain ⟨more, hrest, hmore⟩ :=
        exists_eq_append_readFrom (walk next f k).rest (walk next f k).pos
      refine ⟨read ++ more, ?_, ?_⟩
      · rw [List.append_assoc]
        show _ = read ++ (more ++ (readFrom _ _).2.rest)
        rw [← hrest, htext]
      · rw [List.length_append, ← hpos]
        exact hmore

/-- The bytes that are not read are those of the text that is not read. -/
theorem unreadBytes_eq_utf8ByteSize (cur : Cursor) :
    cur.unreadBytes = (String.ofList cur.rest).utf8ByteSize := by
  rw [unreadBytes]
  induction cur.rest with
  | nil => rfl
  | cons c rest ih =>
      rw [List.foldr_cons, ih, ← List.singleton_append, String.ofList_append,
        String.utf8ByteSize_append]
      exact congrArg (· + _) String.utf8ByteSize_singleton.symm

/-- A step that hands out a character stops right behind it. -/
theorem pos_next {cur : Cursor} {x : Located Char} (h : cur.next.1 = some x) :
    cur.next.2.pos = x.pos + 1 := by
  obtain ⟨rest, pos⟩ := cur
  show (readFrom rest pos).2.pos = x.pos + 1
  -- Unfolded to the recursion, so that the induction can go along the text that is left.
  replace h : (readFrom rest pos).1 = some x := h
  induction rest generalizing pos with
  | nil => cases h
  | cons c rest ih =>
      rw [readFrom] at h ⊢
      split at h
      · next hc => rw [if_pos hc]; exact ih (pos + 1) h
      · next hc =>
          rw [if_neg hc]
          cases h
          rfl

/-- Of two steps that hand out a character the later one hands out the one behind. -/
theorem pos_lt_of_next_walk {f : Formula} {j k : Nat} {x y : Located Char} (h : j < k)
    (hx : (walk next f j).next.1 = some x) (hy : (walk next f k).next.1 = some y) :
    x.pos < y.pos := by
  rw [next_walk] at hx hy
  obtain ⟨hj, rfl⟩ := List.getElem?_eq_some_iff.1 hx
  obtain ⟨hk, rfl⟩ := List.getElem?_eq_some_iff.1 hy
  exact List.pairwise_iff_getElem.1 (pairwise_unspaced 0 f.text.toList) j k hj hk h

end Cursor

/-- A formula has as many characters as its size says. -/
theorem Formula.length_chars (f : Formula) : f.chars.length = f.size :=
  length_unspaced 0 f.text.toList

/-- **A walk hands out the characters that are not spacing, one at a step and each at its place.**
What the step behind `k` others hands out is the character that has `k` others in front of it,
spacing not counted, with its index in the text, and nothing once all are handed out. The places
only grow, and the cursor is right behind the last character that was handed out. Marks are handed
out by the same steps. At any point the text is in two parts, one that is read and one whose bytes
are counted as unread, and no more characters are still to come than there are bytes unread. -/
theorem walk_hands_out (f : Formula) (k : Nat) :
    let cur := Cursor.walk Cursor.next f k
    (∀ pos c, cur.next.1 = some ⟨pos, c⟩ ↔
        c ≠ ' ' ∧ f.text.toList[pos]? = some c ∧ (f.text.toList.take pos).countP (· ≠ ' ') = k) ∧
      (cur.next.1 = none ↔ f.size ≤ k) ∧
      (∀ j < k, ∀ x ∈ (Cursor.walk Cursor.next f j).next.1, ∀ y ∈ cur.next.1, x.pos < y.pos) ∧
      (∀ x ∈ cur.next.1, cur.next.2.pos = x.pos + 1) ∧
      Cursor.walk Cursor.nextMark f k = cur ∧
      cur.nextMark.1 = cur.next.1.map (Located.map Mark.ofChar) ∧
      (∃ read unread, f.text = read ++ unread ∧ read.length = cur.pos ∧
        unread.utf8ByteSize = cur.unreadBytes) ∧
      f.size - k ≤ cur.unreadBytes := by
  intro cur
  have hitem : cur.next.1 = f.chars[k]? := Cursor.next_walk f k
  refine ⟨?_, ?_, ?_, ?_, Cursor.walk_nextMark f k, rfl, ?_, ?_⟩
  · intro pos c
    have hplace := @getElem?_unspaced_eq_some_iff 0 k pos c f.text.toList
    rw [Nat.zero_add] at hplace
    rw [hitem]
    exact hplace
  · rw [hitem, List.getElem?_eq_none_iff, f.length_chars]
  · intro j hj x hx y hy
    exact Cursor.pos_lt_of_next_walk hj hx hy
  · intro x hx
    exact Cursor.pos_next hx
  · obtain ⟨read, htext, hpos⟩ := Cursor.exists_eq_append_rest f k
    refine ⟨String.ofList read, String.ofList cur.rest, ?_, ?_, ?_⟩
    · rw [← String.ofList_append, ← htext, String.ofList_toList]
    · rw [String.length_ofList, hpos]
    · rw [cur.unreadBytes_eq_utf8ByteSize]
  · have hleft : cur.remaining.length = f.size - k := by
      rw [Cursor.remaining_walk, List.length_drop, f.length_chars]
    exact hleft ▸ cur.length_remaining_le

/-- Behind one step on a text with a space and a character of two bytes, the second character is
next. -/
theorem walk_hands_out_second :
    ∃ f : Formula, f.text = "1 é" ∧
      (Cursor.walk Cursor.next f 1).next.1 = some ⟨2, 'é'⟩ ∧
      (Cursor.walk Cursor.next f 0).next.1 = some ⟨0, '1'⟩ ∧ 0 < 2 ∧
      f.size - 1 ≤ (Cursor.walk Cursor.next f 1).unreadBytes := by
  obtain ⟨hitem, -, hplaces, -, -, -, -, hbytes⟩ :=
    walk_hands_out (Formula.mk "1 é" ⟨'1', by decide⟩) 1
  have hsecond := (hitem 2 'é').2 (by decide +kernel)
  exact ⟨_, rfl, hsecond, by decide +kernel,
    hplaces 0 Nat.one_pos ⟨0, '1'⟩ (by decide +kernel) _ hsecond, hbytes⟩

end Reckoner
