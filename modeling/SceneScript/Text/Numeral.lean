import SceneScript.Text.Width

/-
  Written forms of numbers.

  Key definitions include:
    * `Numeral.decimal`
    * `Numeral.padded`
    * `Numeral.lowerHex`
    * `Numeral.upperHex`
    * `Numeral.hundredths`
-/

namespace SceneScript

namespace Numeral

------------------------------------------------------------
-- Integers
------------------------------------------------------------

/- The decimal digits of a number. -/
def decimal (n : Nat) : Text :=
  Nat.toDigits 10 n

/- The decimal digits with a sign for negative numbers. -/
def signedDecimal (n : Int) : Text :=
  if n < 0 then
    '-' :: decimal n.natAbs
  else
    decimal n.natAbs

/- Fill a text on the left up to a number of characters. -/
def padded
    (width : Nat)
    (fill : Char)
    (digits : Text) : Text :=
  List.replicate (width - digits.length) fill ++ digits

/- Hexadecimal digits with a base mark, in lower case. -/
def lowerHex
    (width : Nat)
    (n : Nat) : String :=
  String.ofList
    (['0', 'x'] ++ padded width '0' (Nat.toDigits 16 n))

/- Hexadecimal digits with a base mark, digits in upper case. -/
def upperHex
    (width : Nat)
    (n : Nat) : String :=
  let digits := (Nat.toDigits 16 n).map Char.toUpper
  String.ofList (['0', 'x'] ++ padded width '0' digits)

------------------------------------------------------------
-- Hundredths
------------------------------------------------------------

/-
  A number of hundredths in units, with as few decimals as
  show its value.
-/
def hundredths (n : Nat) : Text :=
  let units := decimal (n / 100)
  let part := n % 100
  if part = 0 then
    units
  else if part % 10 = 0 then
    units ++ ['.'] ++ decimal (part / 10)
  else
    units ++ ['.'] ++ padded 2 '0' (decimal part)

end Numeral

end SceneScript
