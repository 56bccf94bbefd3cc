import SceneScript.Text.Width

/-
  Cutting texts at byte offsets.  The offset of a character
  is the number of bytes that UTF-8 takes for the characters
  in front of it.

  Key definitions include:
    * `Text.byteLength`
    * `Text.charOffsets`
    * `Text.slice?`

  Correctness is stated by:
    * `Text.slice?_append`

  A cut inside a character or behind the end has no result.
-/

namespace SceneScript

namespace Text

------------------------------------------------------------
-- Offsets
------------------------------------------------------------

/- The number of bytes of a text. -/
def byteLength : Text → Nat
  | [] => 0
  | c :: rest => c.utf8Size + byteLength rest

/-
  The characters of a text with their offsets, when the first
  one stands at `offset`.
-/
def charOffsets
    (offset : Nat) :
    Text → List (Nat × Char)
  | [] => []
  | c :: rest =>
      (offset, c) :: charOffsets (offset + c.utf8Size) rest

/- Texts behind each other take the bytes of both. -/
@[simp]
theorem byteLength_append (front rest : Text) :
    byteLength (front ++ rest) =
      byteLength front + byteLength rest := by
  induction front with
  | nil => simp [byteLength]
  | cons c later ih =>
      rw [List.cons_append, byteLength, byteLength, ih,
        Nat.add_assoc]

/- One more character moves the end by its bytes. -/
theorem byteLength_concat
    (text : Text)
    (c : Char) :
    byteLength (text ++ [c]) =
      byteLength text + c.utf8Size :=
  byteLength_append text [c]

------------------------------------------------------------
-- Slices
------------------------------------------------------------

/- The characters in front of an offset and those behind it. -/
def splitAt? : Text → Nat → Option (Text × Text)
  | [], offset =>
      if offset = 0 then some ([], []) else none
  | c :: rest, offset =>
      if offset = 0 then
        some ([], c :: rest)
      else if c.utf8Size ≤ offset then
        (splitAt? rest (offset - c.utf8Size)).map
          fun (front, later) => (c :: front, later)
      else
        none

/- The characters between two offsets. -/
def slice?
    (text : Text)
    (start stop : Nat) : Option Text :=
  if start ≤ stop then do
    let (_, later) ← text.splitAt? start
    let (run, _) ← splitAt? later (stop - start)
    return run
  else
    none

/- Nothing stands in front of the first offset. -/
theorem splitAt?_zero (text : Text) :
    text.splitAt? 0 = some ([], text) := by
  cases text <;> rfl

/- A text is cut between two texts that it consists of. -/
theorem splitAt?_append (front rest : Text) :
    splitAt? (front ++ rest) front.byteLength =
      some (front, rest) := by
  induction front with
  | nil => exact splitAt?_zero rest
  | cons c later ih =>
      have hSize := c.utf8Size_pos
      rw [List.cons_append, splitAt?, byteLength,
        if_neg (by omega), if_pos (by omega),
        Nat.add_sub_cancel_left, ih]
      rfl

/- A text is cut out between the offsets of its two ends. -/
theorem slice?_append (front run rest : Text) :
    slice? (front ++ (run ++ rest)) front.byteLength
        (front ++ run).byteLength =
      some run := by
  rw [slice?, byteLength_append,
    if_pos (Nat.le_add_right _ _), splitAt?_append,
    Nat.add_sub_cancel_left]
  simp only [bind, Option.bind, splitAt?_append]
  rfl

end Text

end SceneScript
