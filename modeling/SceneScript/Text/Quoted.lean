import SceneScript.Text.Width
import SceneScript.Text.Printable

/-
  Texts and characters in quotation marks, with escapes for
  whatever would not show.

  Key definitions include:
    * `Quoted.escape`
    * `Quoted.character`
    * `Quoted.text`
-/

namespace SceneScript

namespace Quoted

/-
  A character inside quotation marks.  The mark in use and
  the backslash take a backslash, a few controls have a
  letter, and other hidden characters show their code point.
-/
def escape
    (mark : Char)
    (c : Char) : Text :=
  if c = '\x00' then ['\\', '0']
  else if c = '\t' then ['\\', 't']
  else if c = '\n' then ['\\', 'n']
  else if c = '\r' then ['\\', 'r']
  else if c = '\\' || c = mark then ['\\', c]
  else if Printable.isPrintable c then [c]
  else
    ['\\', 'u', '{'] ++ Nat.toDigits 16 c.toNat ++ ['}']

/- A character between apostrophes. -/
def character (c : Char) : String :=
  String.ofList ('\'' :: escape '\'' c ++ ['\''])

/- A text between double quotation marks. -/
def text (content : String) : String :=
  String.ofList
    ('"' :: content.toList.flatMap (escape '"') ++ ['"'])

end Quoted

end SceneScript
