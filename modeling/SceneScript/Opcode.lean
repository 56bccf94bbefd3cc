/-
  The kinds of commands as they are marked in a script file.

  Key definitions include:
    * `Opcode`
    * `Opcode.byte`
    * `Opcode.ofByte?`
    * `Opcode.payloadLength`
    * `Opcode.segmentLength`
-/

namespace SceneScript

/- What a segment of a script does. -/
inductive Opcode where
| dialogue
| wait
| sound
| fadeIn
| transition
| background
| character
| finish
deriving DecidableEq, Repr

namespace Opcode

/- Every opcode in the order of bytes. -/
def all : List Opcode := [
  dialogue, wait, sound, fadeIn,
  transition, background, character, finish]

/- The byte that marks an opcode. -/
def byte : Opcode → UInt8
| dialogue => 0x00
| wait => 0x0F
| sound => 0x13
| fadeIn => 0x15
| transition => 0x16
| background => 0x1B
| character => 0x1C
| finish => 0xFE

/- The opcode that a byte marks. -/
def ofByte? (byte : UInt8) : Option Opcode :=
  all.find? (·.byte == byte)

/- Every opcode is found by its byte. -/
theorem ofByte?_byte (opcode : Opcode) :
    ofByte? opcode.byte = some opcode := by
  cases opcode <;> rfl

/- The name of an opcode. -/
def name : Opcode → String
| dialogue => "Dialogue"
| wait => "Wait"
| sound => "Sound"
| fadeIn => "FadeIn"
| transition => "Transition"
| background => "Background"
| character => "Character"
| finish => "End"

/- The number of bytes behind the opcode byte. -/
def payloadLength : Opcode → Nat
| dialogue | wait | sound | background => 2
| fadeIn | transition | character => 4
| finish => 0

/- The number of bytes of the marker and the opcode byte. -/
def headerLength : Nat := 2

/- The number of bytes of a whole segment. -/
def segmentLength (opcode : Opcode) : Nat :=
  headerLength + opcode.payloadLength

end Opcode

end SceneScript
