import SceneScript.Text.Width

/-
  Cutting texts into pieces and joining pieces into texts.

  Key definitions include:
    * `Text.splitOn`
    * `Text.joinWith`
    * `Text.splitLines`
    * `Text.hasLineBreak`
    * `Text.endedLines`
    * `Text.stripBreaks`

  Correctness is stated by:
    * `Text.not_mem_of_mem_splitOn`
    * `Text.splitOn_ne_nil`
    * `Text.flatten_endedLines`

  A line break is the pair CR LF.  A lone CR or LF is an
  ordinary character.
-/

namespace SceneScript

namespace Text

------------------------------------------------------------
-- Pieces
------------------------------------------------------------

/- Put a character in front of the first piece. -/
def consToFirst
    (c : Char) :
    List Text → List Text
  | [] => [[c]]
  | piece :: pieces => (c :: piece) :: pieces

/- The pieces between the occurrences of a separator. -/
def splitOn
    (separator : Char) :
    Text → List Text
  | [] => [[]]
  | c :: rest =>
      if c = separator then
        [] :: splitOn separator rest
      else
        consToFirst c (splitOn separator rest)

/- The pieces in order with a separator between neighbours. -/
def joinWith
    (separator : Text) :
    List Text → Text
  | [] => []
  | [piece] => piece
  | piece :: pieces =>
      piece ++ separator ++ joinWith separator pieces

/- There is always a piece, if only an empty one. -/
theorem splitOn_ne_nil
    (separator : Char)
    (text : Text) :
    splitOn separator text ≠ [] := by
  induction text with
  | nil => simp [splitOn]
  | cons c rest ih =>
      unfold splitOn
      split
      · simp
      · cases h : splitOn separator rest with
        | nil => exact (ih h).elim
        | cons piece pieces => simp [consToFirst]

/- No piece contains the separator. -/
theorem not_mem_of_mem_splitOn
    {separator : Char}
    {text piece : Text}
    (hPiece : piece ∈ splitOn separator text) :
    separator ∉ piece := by
  induction text generalizing piece with
  | nil =>
      simp [splitOn] at hPiece
      simp [hPiece]
  | cons c rest ih =>
      unfold splitOn at hPiece
      split at hPiece
      · rcases List.mem_cons.mp hPiece with hNil | hRest
        · simp [hNil]
        · exact ih hRest
      · rename_i hNe
        cases hSplit : splitOn separator rest with
        | nil => exact (splitOn_ne_nil separator rest hSplit).elim
        | cons first pieces =>
            rw [hSplit] at hPiece
            rcases List.mem_cons.mp hPiece with hFirst | hLater
            · have hMem : separator ∉ first :=
                ih (by simp [hSplit])
              subst hFirst
              simp only [List.mem_cons, not_or]
              exact ⟨fun h => hNe h.symm, hMem⟩
            · exact ih (by simp [hSplit, hLater])

------------------------------------------------------------
-- Line Breaks
------------------------------------------------------------

/- The pair of characters that ends a line. -/
def lineBreak : Text := ['\r', '\n']

/- The lines between the line breaks of a text. -/
def splitLines : Text → List Text
  | [] => [[]]
  | '\r' :: '\n' :: rest => [] :: splitLines rest
  | c :: rest => consToFirst c (splitLines rest)

/- A text contains a line break. -/
def hasLineBreak : Text → Bool
  | [] => false
  | '\r' :: '\n' :: _ => true
  | _ :: rest => hasLineBreak rest

/-
  The lines of a text with their ends.  A line ends behind
  CR LF, behind a lone CR and behind a lone LF.
-/
def endedLines : Text → List Text
  | [] => []
  | '\r' :: '\n' :: rest => ['\r', '\n'] :: endedLines rest
  | '\r' :: rest => ['\r'] :: endedLines rest
  | '\n' :: rest => ['\n'] :: endedLines rest
  | c :: rest => consToFirst c (endedLines rest)

/- A character in front of some pieces is not lost. -/
theorem flatten_consToFirst
    (c : Char)
    (pieces : List Text) :
    (consToFirst c pieces).flatten = c :: pieces.flatten := by
  cases pieces <;> simp [consToFirst]

/- The lines of a text make up the text. -/
theorem flatten_endedLines (text : Text) :
    (endedLines text).flatten = text := by
  fun_induction endedLines text <;>
    simp_all [flatten_consToFirst]

/- Remove every CR and every LF. -/
def stripBreaks (text : Text) : Text :=
  text.filter fun c => c ≠ '\r' && c ≠ '\n'

end Text

end SceneScript
