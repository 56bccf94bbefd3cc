import SceneScript.Text.Width

/-
  Texts with terminal styles.

  Key definitions include:
    * `Style.dimmed`
    * `Style.red`
    * `Style.green`
    * `Style.underlined`
-/

namespace SceneScript

namespace Style

/- A text between two control sequences. -/
def between
    (start stop : List Char)
    (text : Text) : Text :=
  let sequence (code : List Char) : Text :=
    '\x1B' :: '[' :: code ++ ['m']
  sequence start ++ text ++ sequence stop

/- A text of low intensity. -/
def dimmed (text : Text) : Text :=
  between ['2'] ['0'] text

/- A red text. -/
def red (text : Text) : Text :=
  between ['3', '1'] ['3', '9'] text

/- A green text. -/
def green (text : Text) : Text :=
  between ['3', '2'] ['3', '9'] text

/- A text with a line below it. -/
def underlined (text : Text) : Text :=
  between ['4'] ['0'] text

end Style

end SceneScript
