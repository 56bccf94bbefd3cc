import SceneScript.Diff.Inline
import SceneScript.Text.Lines
import SceneScript.Text.Numeral
import SceneScript.Text.Style

/-
  Comparisons of lines as they are shown on a terminal.

  Key definitions include:
    * `Diff.Side`
    * `Diff.Side.row`
    * `Diff.blockRows`
    * `Diff.report`

  A row has a sign, a line number and a line.  The ends of
  lines are not shown.
-/

namespace SceneScript

namespace Diff

------------------------------------------------------------
-- Rows
------------------------------------------------------------

/- Where a line of a row comes from. -/
inductive Side where
| both
| old
| new
deriving DecidableEq, Repr

namespace Side

/- The sign in front of a row. -/
def sign : Side → Char
| both => ' '
| old => '❌'
| new => '✅'

/- The style of a line. -/
def style : Side → Text → Text
| both => Style.dimmed
| old => Style.red
| new => Style.green

/- A text without the line feeds at its end. -/
def withoutEnd (text : Text) : Text :=
  (text.reverse.dropWhile (· = '\n')).reverse

/- A piece in the style of its side. -/
def piece
    (side : Side)
    (piece : Piece) : Text :=
  let styled := side.style (withoutEnd piece.text)
  if piece.emphasized then
    Style.underlined styled
  else
    styled

/- The row of a line that is given in pieces. -/
def row
    (side : Side)
    (number : Nat)
    (pieces : List Piece) : Text :=
  [side.sign, ' '] ++
    Numeral.padded 4 ' ' (Numeral.decimal number) ++
    ' ' :: pieces.flatMap side.piece

/- The rows of neighbouring lines. -/
def rows
    (side : Side)
    (first : Nat)
    (lines : List (List Piece)) : List Text :=
  lines.zipIdx.map fun (pieces, index) =>
    side.row (first + index) pieces

end Side

/- A line that is one piece without emphasis. -/
def plain (line : String) : List Piece :=
  [{ emphasized := false, text := line.toList }]

/-
  The rows of a block.  Replaced lines stand in front of the
  lines that replace them.
-/
def blockRows : Block String → List Text
| .same _ new items =>
    Side.both.rows new (items.map plain)
| .changed old new deleted inserted =>
    match
      inline? (deleted.map String.toList)
        (inserted.map String.toList)
    with
    | some (oldLines, newLines) =>
        Side.old.rows old oldLines ++
          Side.new.rows new newLines
    | none =>
        Side.old.rows old (deleted.map plain) ++
          Side.new.rows new (inserted.map plain)

------------------------------------------------------------
-- Reports
------------------------------------------------------------

/- The rows of a group, with an empty line behind them. -/
def groupText (group : List (Block String)) : Text :=
  Text.joinWith ['\n'] (group.flatMap blockRows) ++
    ['\n', '\n']

/-
  The changes from old to new lines, with `context` unchanged
  lines around each.
-/
def report
    (context : Nat)
    (old new : List String) : Text :=
  (groups context (compare old new)).flatMap groupText

end Diff

end SceneScript
