import SceneScript.LineTable.Error
import SceneScript.Stream
import SceneScript.Symbol
import SceneScript.Text.Numeral

/-
  What can go wrong when a script is read or written.

  Key definitions include:
    * `DecodeError`
    * `DecodeError.message`
    * `EncodeError`
    * `EncodeError.message`

  Every failure of a segment names the offset of its marker.
-/

namespace SceneScript

------------------------------------------------------------
-- Reading
------------------------------------------------------------

/-
  Why a script cannot be read.  `exhausted` would be a byte
  or a field that runs past the data although the length was
  checked before.
-/
inductive DecodeError where
| markerMismatch (offset : Nat) (found : UInt8)
| unknownOpcode (offset : Nat) (opcode : UInt8)
| unknownSymbol
    (offset : Nat) (kind : SymbolKind) (code : UInt16)
| unknownPlacement (offset : Nat) (code : UInt16)
| outOfRange (offset : Nat) (index : UInt16) (size : Nat)
| truncated (offset needed available : Nat)
| exhausted (offset : Nat)
| missingEnd
deriving DecidableEq, Repr

namespace DecodeError

/- The text shown for a failure. -/
def message : DecodeError → String
| markerMismatch offset found =>
    let place := Numeral.lowerHex 4 offset
    let found := Numeral.upperHex 2 found.toNat
    s!"first byte of segment at {place} is {found}, " ++
      "expected 0x23"
| unknownOpcode offset opcode =>
    let place := Numeral.lowerHex 4 offset
    let opcode := Numeral.upperHex 2 opcode.toNat
    s!"encountered unknown opcode {opcode} at {place}"
| unknownSymbol offset kind code =>
    let place := Numeral.lowerHex 4 offset
    let code := Numeral.upperHex 4 code.toNat
    s!"encountered unknown {kind.word} {code} at {place}"
| unknownPlacement offset code =>
    let place := Numeral.lowerHex 4 offset
    let code := Numeral.upperHex 4 code.toNat
    s!"encountered unknown position {code} at {place}"
| outOfRange offset index size =>
    let place := Numeral.lowerHex 4 offset
    let line := index.toNat
    s!"dialogue at {place} refers to line {line} " ++
      s!"but the table only has {size} lines"
| truncated offset needed available =>
    let place := Numeral.lowerHex 4 offset
    s!"segment at {place} needs {needed} bytes " ++
      s!"but only {available} remain"
| exhausted offset =>
    let place := Numeral.lowerHex 4 offset
    s!"segment at {place} ends inside a field"
| missingEnd =>
    "script does not finish with an end command"

/- The advice shown with a failure. -/
def help? : DecodeError → Option String
| outOfRange _ _ _ => some LineTable.Error.staleHelp
| _ => none

/- The same failure at an offset that is larger by `count`. -/
def shift
    (count : Nat) : DecodeError → DecodeError
| markerMismatch offset found =>
    markerMismatch (offset + count) found
| unknownOpcode offset opcode =>
    unknownOpcode (offset + count) opcode
| unknownSymbol offset kind code =>
    unknownSymbol (offset + count) kind code
| unknownPlacement offset code =>
    unknownPlacement (offset + count) code
| outOfRange offset index size =>
    outOfRange (offset + count) index size
| truncated offset needed available =>
    truncated (offset + count) needed available
| exhausted offset => exhausted (offset + count)
| missingEnd => missingEnd

end DecodeError

------------------------------------------------------------
-- Writing
------------------------------------------------------------

/- Why a command cannot be written. -/
inductive EncodeError where
| unknownName (kind : SymbolKind) (name : String)
| tableOverflow (lines : Nat)
| device (fault : DeviceError)
deriving DecidableEq, Repr

namespace EncodeError

/- The text shown for a failure. -/
def message : EncodeError → String
| unknownName kind name =>
    let shown := Quoted.text name
    s!"unknown {kind.word} {shown}"
| tableOverflow lines =>
    s!"string table grew to {lines} lines, " ++
      "dialogue indices are limited to 65536"
| device fault => fault.message

end EncodeError

end SceneScript
