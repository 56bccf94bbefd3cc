import SceneScript.Command
import SceneScript.Proofs.Lines

/-
  The joined form of a box determines the box, and a text is
  the joined form of a box unless something of it is dropped.

  Key definitions include:
    * `Command.mapText`

  Correctness is stated by:
    * `Dialogue.ofJoined_joined`
    * `Dialogue.joined_injective`
    * `Dialogue.lines_ofLines`
    * `Dialogue.joined_ofJoined_eq_self_iff`
    * `Dialogue.normal_form`
-/

namespace SceneScript

namespace Dialogue

/- The lines of a text that is split. -/
theorem lines_ofJoined (text : Text) :
    (ofJoined text).lines =
      ((Text.splitOn separator text).filter
        (· ≠ [])).take maxLines :=
  rfl

/- A box is what its joined form splits into. -/
theorem ofJoined_joined (dialogue : Dialogue) :
    ofJoined dialogue.joined = dialogue := by
  apply eq_of_lines_eq
  rw [lines_ofJoined, joined]
  by_cases hEmpty : dialogue.lines = []
  · simp [hEmpty, Text.joinWith, Text.splitOn]
  · have hFree :
        ∀ line ∈ dialogue.lines, separator ∉ line :=
      fun line hLine => (dialogue.isLine line hLine).2
    have hFilled :
        dialogue.lines.filter (· ≠ []) = dialogue.lines := by
      rw [List.filter_eq_self]
      intro line hLine
      simpa using (dialogue.isLine line hLine).1
    rw [Text.splitOn_joinWith hEmpty hFree, hFilled,
      List.take_of_length_le dialogue.length_le]

/- Boxes with the same joined form are equal. -/
theorem joined_injective
    {left right : Dialogue}
    (hJoined : left.joined = right.joined) :
    left = right := by
  rw [← ofJoined_joined left, hJoined, ofJoined_joined]

/-
  Given lines are cut one by one after they were stripped.
  The first pieces that are not empty come into the box.
-/
theorem lines_ofLines (lines : List Text) :
    (ofLines lines).lines =
      (((lines.map Text.stripBreaks).flatMap
        (Text.splitOn separator)).filter (· ≠ [])).take
        maxLines := by
  rw [ofLines, lines_ofJoined]
  by_cases hNone : lines.map Text.stripBreaks = []
  · -- Without lines the joined text still has a piece, but
    -- that piece is empty.
    simp [hNone, Text.joinWith, Text.splitOn]
  · rw [Text.splitOn_joinWith_eq_flatMap hNone]

/-
  A text is the joined form of what it splits into where
  nothing is dropped: it is empty, or it has at most three
  pieces and none of them is empty.
-/
theorem joined_ofJoined_eq_self_iff (text : Text) :
    (ofJoined text).joined = text ↔
      text = [] ∨
        (Text.splitOn separator text).length ≤ maxLines ∧
          ∀ piece ∈ Text.splitOn separator text,
            piece ≠ [] := by
  constructor
  · intro hText
    by_cases hNone : (ofJoined text).lines = []
    · left
      rw [← hText, joined, hNone]
      rfl
    · right
      have hFree :
          ∀ line ∈ (ofJoined text).lines,
            separator ∉ line :=
        fun line hLine =>
          ((ofJoined text).isLine line hLine).2
      have hPieces :
          Text.splitOn separator text =
            (ofJoined text).lines := by
        rw [← Text.splitOn_joinWith hNone hFree]
        exact congrArg (Text.splitOn separator) hText.symm
      rw [hPieces]
      exact
        ⟨(ofJoined text).length_le,
          fun line hLine =>
            ((ofJoined text).isLine line hLine).1⟩
  · rintro (rfl | ⟨hLength, hFilled⟩)
    · rfl
    · have hKept :
          (Text.splitOn separator text).filter (· ≠ []) =
            Text.splitOn separator text := by
        rw [List.filter_eq_self]
        intro piece hPiece
        simpa using hFilled piece hPiece
      rw [joined, lines_ofJoined, hKept,
        List.take_of_length_le hLength,
        Text.joinWith_splitOn]

/-
  The lines of a box are the first three pieces of the given
  lines that are not empty.  A text that is split and joined
  again is the same text exactly when it is empty or has one
  to three pieces and no empty one, and splitting it once more
  gives the same box.
-/
theorem normal_form :
    (∀ lines : List Text,
      (ofLines lines).lines =
        (((lines.map Text.stripBreaks).flatMap
          (Text.splitOn separator)).filter (· ≠ [])).take
          3) ∧
      ∀ text : Text,
        ((ofJoined text).joined = text ↔
          text = [] ∨
            1 ≤ (Text.splitOn separator text).length ∧
              (Text.splitOn separator text).length ≤ 3 ∧
              ∀ piece ∈ Text.splitOn separator text,
                piece ≠ []) ∧
          ofJoined (ofJoined text).joined =
            ofJoined text := by
  refine ⟨lines_ofLines, fun text => ⟨?_, ?_⟩⟩
  · have hSome :
        1 ≤ (Text.splitOn separator text).length :=
      List.length_pos_iff.mpr
        (Text.splitOn_ne_nil separator text)
    rw [joined_ofJoined_eq_self_iff]
    simp only [hSome, true_and]
    rfl
  · exact ofJoined_joined (ofJoined text)

end Dialogue

namespace Command

/- The same command, with another text if it is a dialogue. -/
def mapText
    (f : Dialogue → Dialogue) : Command → Command
| dialogue text => dialogue (f text)
| command => command

/- A command with the same text is the same command. -/
@[simp]
theorem mapText_id (command : Command) :
    command.mapText id = command := by
  cases command <;> rfl

end Command

end SceneScript
