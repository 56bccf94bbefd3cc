import SceneScript.Text.Quoted

/-
  What can be wrong with a line table.

  Key definitions include:
    * `LineTable.Error`
    * `LineTable.Error.message`
    * `LineTable.Error.help?`
-/

namespace SceneScript

namespace LineTable

/- What is wrong with a table or with a reference into it. -/
inductive Error where
| outOfRange (index size : Nat)
| unencodable (line : Nat) (character : Char)
| lineBreak (line : Nat)
deriving DecidableEq, Repr

namespace Error

/- The text shown for a failure. -/
def message : Error → String
| outOfRange index size =>
    s!"line {index} is out of range for a table of {size} lines"
| unencodable line character =>
    let shown := Quoted.character character
    s!"line {line} contains {shown} which has no Shift_JIS encoding"
| lineBreak line =>
    s!"line {line} contains a line break"

/- The advice for a reference that has no line. -/
def staleHelp : String :=
  "the script and its .htx table were probably not saved together"

/- The advice shown with a failure. -/
def help? : Error → Option String
| outOfRange _ _ => some staleHelp
| unencodable _ _ => none
| lineBreak _ =>
    some <|
      "dialogue text cannot span table lines, " ++
        "use the dialogue separator instead"

end Error

end LineTable

end SceneScript
