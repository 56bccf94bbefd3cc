import SceneScript.Opcode

/-
  Segments, the units of a script file.  A segment is a
  marker byte, an opcode byte and a payload of fixed-width
  little-endian fields.

  Key definitions include:
    * `Cursor`
    * `Cursor.byte?`
    * `Cursor.word?`
    * `Payload`
    * `Payload.bytes`
    * `Payload.read?`
    * `Segment.bytes`

  Correctness is stated by:
    * `Cursor.hasAtLeast_iff`
    * `Payload.length_bytes`
    * `Payload.read?_bytes`
-/

namespace SceneScript

------------------------------------------------------------
-- Words
------------------------------------------------------------

namespace Word

/- The two bytes of a word, the low one first. -/
def bytes (word : UInt16) : List UInt8 :=
  [UInt8.ofNat (word.toNat % 256),
    UInt8.ofNat (word.toNat / 256)]

/- The word of a low and a high byte. -/
def ofBytes (low high : UInt8) : UInt16 :=
  UInt16.ofNat (low.toNat + 256 * high.toNat)

/- The bytes of a word make up the word. -/
theorem ofBytes_bytes (word : UInt16) :
    ofBytes (UInt8.ofNat (word.toNat % 256))
        (UInt8.ofNat (word.toNat / 256)) = word := by
  have hWord : word.toNat < 65536 := word.toNat_lt
  apply UInt16.toNat_inj.mp
  simp only [ofBytes, UInt16.toNat_ofNat', UInt8.toNat_ofNat']
  omega

end Word

------------------------------------------------------------
-- Cursors
------------------------------------------------------------

/- A place in a byte string, with what follows it. -/
structure Cursor where
  rest : List UInt8
  offset : Nat
deriving DecidableEq, Repr

namespace Cursor

/- The place before the first byte. -/
def start (bytes : List UInt8) : Cursor where
  rest := bytes
  offset := 0

/- Take one byte. -/
def byte? (cursor : Cursor) : Option (UInt8 × Cursor) :=
  match cursor.rest with
  | [] => none
  | byte :: rest =>
      some (byte, { rest, offset := cursor.offset + 1 })

/- Take two bytes as a word. -/
def word? (cursor : Cursor) : Option (UInt16 × Cursor) :=
  match cursor.rest with
  | low :: high :: rest =>
      some (Word.ofBytes low high,
        { rest, offset := cursor.offset + 2 })
  | _ => none

/-
  At least `count` bytes follow.  Only the first `count`
  bytes are looked at.
-/
def hasAtLeast
    (cursor : Cursor)
    (count : Nat) : Bool :=
  count ≤ (cursor.rest.take count).length

/- The bytes that are looked at tell how many there are. -/
@[simp]
theorem hasAtLeast_iff
    {cursor : Cursor}
    {count : Nat} :
    cursor.hasAtLeast count = true ↔
      count ≤ cursor.rest.length := by
  rw [hasAtLeast, decide_eq_true_eq, List.length_take]
  omega

end Cursor

------------------------------------------------------------
-- Payloads
------------------------------------------------------------

/- The fields of a segment as they are stored. -/
inductive Payload where
| dialogue (index : UInt16)
| wait (hundredths : UInt16)
| sound (code : UInt16)
| fadeIn (first second third fourth : UInt8)
| transition (unknown code : UInt8) (speed : Int16)
| background (unknown code : UInt8)
| character (placement code : UInt16)
| finish
deriving DecidableEq, Repr

namespace Payload

/- The opcode of a payload. -/
def opcode : Payload → Opcode
| dialogue _ => .dialogue
| wait _ => .wait
| sound _ => .sound
| fadeIn _ _ _ _ => .fadeIn
| transition _ _ _ => .transition
| background _ _ => .background
| character _ _ => .character
| finish => .finish

/- The stored form of a payload. -/
def bytes : Payload → List UInt8
| dialogue index => Word.bytes index
| wait hundredths => Word.bytes hundredths
| sound code => Word.bytes code
| fadeIn first second third fourth =>
    [first, second, third, fourth]
| transition unknown code speed =>
    [unknown, code] ++ Word.bytes speed.toUInt16
| background unknown code => [unknown, code]
| character placement code =>
    Word.bytes placement ++ Word.bytes code
| finish => []

/- Read the payload of an opcode. -/
def read?
    (opcode : Opcode)
    (cursor : Cursor) : Option (Payload × Cursor) :=
  match opcode with
  | .dialogue => do
      let (index, cursor) ← cursor.word?
      return (dialogue index, cursor)
  | .wait => do
      let (hundredths, cursor) ← cursor.word?
      return (wait hundredths, cursor)
  | .sound => do
      let (code, cursor) ← cursor.word?
      return (sound code, cursor)
  | .fadeIn => do
      let (first, cursor) ← cursor.byte?
      let (second, cursor) ← cursor.byte?
      let (third, cursor) ← cursor.byte?
      let (fourth, cursor) ← cursor.byte?
      return (fadeIn first second third fourth, cursor)
  | .transition => do
      let (unknown, cursor) ← cursor.byte?
      let (code, cursor) ← cursor.byte?
      let (speed, cursor) ← cursor.word?
      return (transition unknown code speed.toInt16, cursor)
  | .background => do
      let (unknown, cursor) ← cursor.byte?
      let (code, cursor) ← cursor.byte?
      return (background unknown code, cursor)
  | .character => do
      let (placement, cursor) ← cursor.word?
      let (code, cursor) ← cursor.word?
      return (character placement code, cursor)
  | .finish => some (finish, cursor)

/- A payload is as long as its opcode says. -/
@[simp]
theorem length_bytes (payload : Payload) :
    payload.bytes.length = payload.opcode.payloadLength := by
  cases payload <;> rfl

/- A stored payload is read back and nothing behind it. -/
theorem read?_bytes
    (payload : Payload)
    (rest : List UInt8)
    (offset : Nat) :
    read? payload.opcode
        { rest := payload.bytes ++ rest, offset } =
      some (payload,
        { rest
          offset :=
            offset + payload.opcode.payloadLength }) := by
  cases payload <;>
    simp [read?, bytes, opcode, Word.bytes, Cursor.byte?,
      Cursor.word?, Word.ofBytes_bytes,
      Opcode.payloadLength]

/- What was read and what is left make up the input. -/
theorem eq_append_of_read?
    {opcode : Opcode}
    {cursor next : Cursor}
    {payload : Payload}
    (hRead : read? opcode cursor = some (payload, next)) :
    payload.opcode = opcode ∧
      next.rest.length + opcode.payloadLength =
        cursor.rest.length := by
  obtain ⟨bytes, offset⟩ := cursor
  cases opcode <;>
    rcases bytes with _ | ⟨b0, _ | ⟨b1, _ | ⟨b2, _ | ⟨b3, rest⟩⟩⟩⟩ <;>
    simp [read?, Cursor.byte?, Cursor.word?] at hRead <;>
    (obtain ⟨hPayload, hNext⟩ := hRead
     subst hPayload hNext
     simp [Payload.opcode, Opcode.payloadLength])

end Payload

------------------------------------------------------------
-- Segments
------------------------------------------------------------

namespace Segment

/- The byte that every segment starts with. -/
def marker : UInt8 := 0x23

/- The bytes in front of the payload. -/
def header (opcode : Opcode) : List UInt8 :=
  [marker, opcode.byte]

/- The stored form of a segment. -/
def bytes (payload : Payload) : List UInt8 :=
  header payload.opcode ++ payload.bytes

/- A segment is as long as its opcode says. -/
theorem length_bytes (payload : Payload) :
    (bytes payload).length =
      payload.opcode.segmentLength := by
  simp only [bytes, List.length_append,
    Payload.length_bytes]
  rfl

end Segment

end SceneScript
