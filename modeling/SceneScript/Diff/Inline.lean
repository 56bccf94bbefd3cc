import SceneScript.Diff.Anchored
import SceneScript.Text.Words

/-
  Comparing replaced lines word by word.

  Key definitions include:
    * `Diff.Piece`
    * `Diff.inline?`

  The words of all lines of a side are compared as one
  sequence.  The result is given line by line, as pieces that
  are either the same on both sides or emphasized.
-/

namespace SceneScript

namespace Diff

------------------------------------------------------------
-- Words of Lines
------------------------------------------------------------

/- A word with the line it stands in. -/
structure Word where
  line : Nat
  text : Text

/- The text of a word in the form that is compared. -/
def Word.key (word : Word) : String :=
  String.ofList word.text

/- The words of some lines. -/
def wordsOf (lines : List Text) : List Word :=
  lines.zipIdx.flatMap fun (line, index) =>
    (Text.words line).map fun word =>
      { line := index, text := word }

/- Join neighbouring words that stand in the same line. -/
def joinWords : List Word → List Word
| [] => []
| word :: rest =>
    match joinWords rest with
    | [] => [word]
    | next :: later =>
        if next.line = word.line then
          { word with text := word.text ++ next.text } :: later
        else
          word :: next :: later

------------------------------------------------------------
-- Pieces
------------------------------------------------------------

/- A piece of a line that is shown in one style. -/
structure Piece where
  emphasized : Bool
  text : Text
deriving DecidableEq, Repr

/- The character ends a line. -/
def isLineEnd (c : Char) : Bool :=
  c = '\r' || c = '\n'

/-
  The pieces of a changed text.  The ends of lines are not
  emphasized.
-/
def changedPieces : Text → List Piece
| [] => []
| c :: rest =>
    let emphasized := !isLineEnd c
    match changedPieces rest with
    | [] => [{ emphasized, text := [c] }]
    | piece :: later =>
        if piece.emphasized = emphasized then
          { piece with text := c :: piece.text } :: later
        else
          { emphasized, text := [c] } :: piece :: later

/- The pieces of a word, each with its line. -/
def piecesOf
    (changed : Bool)
    (word : Word) : List (Nat × Piece) :=
  if changed then
    (changedPieces word.text).map fun piece =>
      (word.line, piece)
  else
    [(word.line, { emphasized := false, text := word.text })]

/-
  The pieces of one side.  `stretches` tells the lengths of
  the stretches of words in order and whether they changed.
-/
def sidePieces :
    List (Bool × Nat) → List Word → List (Nat × Piece)
| [], _ => []
| (changed, length) :: rest, words =>
    (joinWords (words.take length)).flatMap
        (piecesOf changed) ++
      sidePieces rest (words.drop length)

/-
  The pieces of each of some lines, from one line on.  The
  pieces stand in the order of their lines.
-/
def byLine
    (first : Nat) :
    Nat → List (Nat × Piece) → List (List Piece)
| 0, _ => []
| count + 1, pieces =>
    (pieces.takeWhile (·.1 = first)).map (·.2) ::
      byLine (first + 1) count
        (pieces.dropWhile (·.1 = first))

------------------------------------------------------------
-- Comparing Lines
------------------------------------------------------------

/- A block with the length of one of its sides. -/
def stretch
    (items : Block String → List String)
    (block : Block String) : Bool × Nat :=
  let changed :=
    match block with
    | .same _ _ _ => false
    | .changed _ _ _ _ => true
  (changed, (items block).length)

/- At least half of two sequences is shared. -/
def isSimilar (shared total : Nat) : Bool :=
  total ≤ 4 * shared

/-
  The lines of both sides in pieces, if the sides are similar
  enough for that to help.
-/
def inline?
    (deleted inserted : List Text) :
    Option (List (List Piece) × List (List Piece)) :=
  let lines := deleted.length + inserted.length
  if isSimilar (min deleted.length inserted.length) lines then
    let oldWords := wordsOf deleted
    let newWords := wordsOf inserted
    let blocks :=
      anchored (oldWords.map Word.key) (newWords.map Word.key)
    let words := oldWords.length + newWords.length
    if isSimilar (keptTotal blocks) words then
      let oldPieces :=
        sidePieces (blocks.map (stretch Block.oldItems)) oldWords
      let newPieces :=
        sidePieces (blocks.map (stretch Block.newItems)) newWords
      some (byLine 0 deleted.length oldPieces,
        byLine 0 inserted.length newPieces)
    else
      none
  else
    none

end Diff

end SceneScript
