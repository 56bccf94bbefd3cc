import SceneScript.Text.Lines

/-
  The text of one dialogue box.

  Key definitions include:
    * `Dialogue`
    * `Dialogue.ofJoined`
    * `Dialogue.ofLines`
    * `Dialogue.joined`
    * `Dialogue.setLine`
    * `Dialogue.firstTooWide?`

  A box shows up to three lines.  In a line table they are
  one line, joined with a separator glyph, so a dialogue line
  is never empty and never contains the glyph.
-/

namespace SceneScript

------------------------------------------------------------
-- Dialogue Boxes
------------------------------------------------------------

namespace Dialogue

/- The glyph between the lines of a box in a line table. -/
def separator : Char := '↓'

/- The number of lines a box can show. -/
def maxLines : Nat := 3

/- The number of characters that fit on one line of a box. -/
def maxWidth : Nat := 12

/- What a line has to be so that it survives being joined. -/
def IsLine (line : Text) : Prop :=
  line ≠ [] ∧ separator ∉ line

instance (line : Text) : Decidable (IsLine line) := by
  unfold IsLine
  infer_instance

end Dialogue

/- The lines of a dialogue box. -/
structure Dialogue where
  lines : List Text
  length_le : lines.length ≤ Dialogue.maxLines
  isLine : ∀ line ∈ lines, Dialogue.IsLine line
deriving DecidableEq

namespace Dialogue

/- The box without text. -/
def empty : Dialogue where
  lines := []
  length_le := by simp
  isLine := by simp

instance : Inhabited Dialogue :=
  ⟨empty⟩

/- Two boxes with the same lines are equal. -/
theorem eq_of_lines_eq
    {left right : Dialogue}
    (hLines : left.lines = right.lines) :
    left = right := by
  cases left
  cases right
  simp_all

------------------------------------------------------------
-- Building
------------------------------------------------------------

/-
  Split a joined text.  Empty lines are dropped, and so are
  the lines that the box has no room for.
-/
def ofJoined (text : Text) : Dialogue where
  lines :=
    ((Text.splitOn separator text).filter
      (· ≠ [])).take maxLines
  length_le := by
    simp only [List.length_take]
    omega
  isLine := by
    intro line hLine
    have hMem := List.mem_of_mem_take hLine
    rw [List.mem_filter] at hMem
    exact
      ⟨by simpa using hMem.2,
        Text.not_mem_of_mem_splitOn hMem.1⟩

/- The form of a box in a line table. -/
def joined (dialogue : Dialogue) : Text :=
  Text.joinWith [separator] dialogue.lines

/-
  A box with the given lines.  CR and LF are removed, and a
  separator inside a line divides it.
-/
def ofLines (lines : List Text) : Dialogue :=
  ofJoined <|
    Text.joinWith [separator] (lines.map Text.stripBreaks)

/- The box shows nothing. -/
def isEmpty (dialogue : Dialogue) : Bool :=
  dialogue.lines.isEmpty

------------------------------------------------------------
-- Editing
------------------------------------------------------------

/- What is left of a text that is typed into a line. -/
def typed (text : Text) : Text :=
  (Text.stripBreaks text).filter (· ≠ separator)

/- Nothing that is typed contains the separator. -/
theorem separator_not_mem_typed (text : Text) :
    separator ∉ typed text := by
  simp [typed]

/-
  Change one line as a text field does.  An empty text
  removes the line, an index behind the last line appends
  while the box has room, any other index replaces the line.
-/
def setLine
    (dialogue : Dialogue)
    (index : Nat)
    (text : Text) : Dialogue :=
  let line := typed text
  if hEmpty : line = [] then
    { lines := dialogue.lines.eraseIdx index
      length_le := by
        have hLength :=
          List.length_eraseIdx_le dialogue.lines index
        exact Nat.le_trans hLength dialogue.length_le
      isLine := fun other hOther =>
        dialogue.isLine other
          (List.mem_of_mem_eraseIdx hOther) }
  else if index < dialogue.lines.length then
    { lines := dialogue.lines.set index line
      length_le := by
        simpa using dialogue.length_le
      isLine := by
        intro other hOther
        rcases List.mem_or_eq_of_mem_set hOther with
          hOld | hNew
        · exact dialogue.isLine other hOld
        · subst hNew
          exact ⟨hEmpty, separator_not_mem_typed text⟩ }
  else if hRoom : dialogue.lines.length < maxLines then
    { lines := dialogue.lines ++ [line]
      length_le := by
        simp only [List.length_append, List.length_singleton]
        omega
      isLine := by
        intro other hOther
        rcases List.mem_append.mp hOther with hOld | hNew
        · exact dialogue.isLine other hOld
        · rw [List.mem_singleton] at hNew
          subst hNew
          exact ⟨hEmpty, separator_not_mem_typed text⟩ }
  else
    dialogue

------------------------------------------------------------
-- Width
------------------------------------------------------------

/- A line of a box that has too many characters. -/
structure TooWide where
  line : Nat
  width : Nat
deriving DecidableEq, Repr

/- The first line that is wider than the box. -/
def firstTooWide? (dialogue : Dialogue) : Option TooWide :=
  dialogue.lines.zipIdx.findSome? fun (line, index) =>
    if maxWidth < line.length then
      some { line := index, width := line.length }
    else
      none

/- The text shown for a line that is too wide. -/
def TooWide.message (fault : TooWide) : String :=
  let line := fault.line
  let width := fault.width
  s!"dialogue line {line} is {width} characters wide, " ++
    s!"the text box fits {maxWidth}"

end Dialogue

end SceneScript
