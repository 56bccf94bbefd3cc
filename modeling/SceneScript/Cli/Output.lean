import SceneScript.Cli.Invocation
import SceneScript.Json.Script
import SceneScript.Symbol.Catalogs
import SceneScript.Text.Numeral

/-
  What the tool prints.

  Key definitions include:
    * `Cli.Listing.print`
    * `Cli.printScript`
    * `Cli.printTable`
-/

namespace SceneScript

namespace Cli

/- A line of output. -/
def line (text : Text) : Text :=
  text ++ ['\n']

------------------------------------------------------------
-- Lists of Names
------------------------------------------------------------

/- A name behind its code. -/
def nameLine
    (code : Nat)
    (name : String) : Text :=
  let shown := Numeral.upperHex 4 code
  line s!"  {shown}  {name}".toList

/- A list under its title. -/
def listing
    (word : String)
    (names : List (String × Nat)) : Text :=
  line s!"{word}s:".toList ++
    names.flatMap fun (name, code) => nameLine code name

/- The names of a catalog with their codes. -/
def catalogNames
    {Code : Type}
    (toNat : Code → Nat)
    (catalog : Catalog Code) : List (String × Nat) :=
  catalog.entries.map fun (name, code) => (name, toNat code)

/- The names in a list with their codes. -/
def Listing.names : Listing → List (String × Nat)
| symbols .sound => catalogNames UInt16.toNat Catalog.sounds
| symbols .background =>
    catalogNames UInt8.toNat Catalog.backgrounds
| symbols .character =>
    catalogNames UInt16.toNat Catalog.characters
| symbols .transition =>
    catalogNames UInt8.toNat Catalog.transitions
| placements =>
    Placement.all.map fun placement =>
      (placement.caption, placement.code.toNat)

/- A list as it is printed. -/
def Listing.print (names : Listing) : Text :=
  listing names.word names.names

------------------------------------------------------------
-- Scripts and Tables
------------------------------------------------------------

/- Numbered lines, the numbers filled up to a width. -/
def numbered
    (width : Nat)
    (lines : List Text) : Text :=
  lines.zipIdx.flatMap fun (text, index) =>
    let number := Numeral.decimal index
    line (Numeral.padded width ' ' number ++ ' ' :: ' ' :: text)

/- A script as it is printed. -/
def printScript
    (format : Format)
    (script : Script) : Text :=
  match format with
  | .text =>
      let width := (Numeral.decimal script.length).length
      numbered width (script.map Command.caption)
  | .json => line script.toJson.pretty

/- The width of the numbers of table lines. -/
def tableNumberWidth : Nat := 4

/- A line table as it is printed. -/
def printTable
    (format : Format)
    (table : LineTable) : Text :=
  match format with
  | .text => numbered tableNumberWidth table.toList
  | .json => line table.toJson.pretty

end Cli

end SceneScript
