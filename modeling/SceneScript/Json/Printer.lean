import SceneScript.Json.Value
import SceneScript.Text.Lines
import SceneScript.Text.Numeral

/-
  Printing JSON values.

  Key definitions include:
    * `Json.quoted`
    * `Json.compact`
    * `Json.pretty`

  The compact form has no space between tokens.  The pretty
  form has one item or entry on a line and indents by two
  spaces for each level.
-/

namespace SceneScript

namespace Json

------------------------------------------------------------
-- Strings
------------------------------------------------------------

/- A character inside a string. -/
def escapeChar (c : Char) : Text :=
  match c with
  | '"' => ['\\', '"']
  | '\\' => ['\\', '\\']
  | '\x08' => ['\\', 'b']
  | '\x0C' => ['\\', 'f']
  | '\n' => ['\\', 'n']
  | '\r' => ['\\', 'r']
  | '\t' => ['\\', 't']
  | _ =>
      if c.toNat < 0x20 then
        ['\\', 'u', '0', '0'] ++
          Numeral.padded 2 '0' (Nat.toDigits 16 c.toNat)
      else
        [c]

/- A text as a JSON string. -/
def quoted (text : String) : Text :=
  '"' :: text.toList.flatMap escapeChar ++ ['"']

------------------------------------------------------------
-- Compact Form
------------------------------------------------------------

mutual

/- Print a value without space. -/
def compact : Json → Text
| null => ['n', 'u', 'l', 'l']
| bool true => ['t', 'r', 'u', 'e']
| bool false => ['f', 'a', 'l', 's', 'e']
| int value => Numeral.signedDecimal value
| real => ['0', '.', '0']
| str text => quoted text
| arr items =>
    ['['] ++ Text.joinWith [','] (compactItems items) ++ [']']
| obj entries =>
    ['{'] ++ Text.joinWith [','] (compactEntries entries) ++
      ['}']

/- Print the items of an array. -/
def compactItems : List Json → List Text
| [] => []
| item :: rest => compact item :: compactItems rest

/- Print the entries of an object. -/
def compactEntries : List (String × Json) → List Text
| [] => []
| (key, item) :: rest =>
    (quoted key ++ [':'] ++ compact item) ::
      compactEntries rest

end

------------------------------------------------------------
-- Pretty Form
------------------------------------------------------------

/- A new line at a level of nesting. -/
def newLine (level : Nat) : Text :=
  '\n' :: List.replicate (2 * level) ' '

/- Pieces on lines of their own between two brackets. -/
def block
    (level : Nat)
    (opening closing : Char)
    (pieces : List Text) : Text :=
  match pieces with
  | [] => [opening, closing]
  | _ :: _ =>
      let separator := ',' :: newLine (level + 1)
      [opening] ++ newLine (level + 1) ++
        Text.joinWith separator pieces ++
        newLine level ++ [closing]

mutual

/- Print a value that stands at a level of nesting. -/
def prettyAt
    (level : Nat) : Json → Text
| arr items =>
    block level '[' ']' (prettyItems (level + 1) items)
| obj entries =>
    block level '{' '}' (prettyEntries (level + 1) entries)
| null => ['n', 'u', 'l', 'l']
| bool true => ['t', 'r', 'u', 'e']
| bool false => ['f', 'a', 'l', 's', 'e']
| int value => Numeral.signedDecimal value
| real => ['0', '.', '0']
| str text => quoted text

/- Print the items of an array at a level. -/
def prettyItems
    (level : Nat) : List Json → List Text
| [] => []
| item :: rest =>
    prettyAt level item :: prettyItems level rest

/- Print the entries of an object at a level. -/
def prettyEntries
    (level : Nat) : List (String × Json) → List Text
| [] => []
| (key, item) :: rest =>
    (quoted key ++ [':', ' '] ++ prettyAt level item) ::
      prettyEntries level rest

end

/- Print a value on indented lines. -/
def pretty (value : Json) : Text :=
  prettyAt 0 value

end Json

end SceneScript
