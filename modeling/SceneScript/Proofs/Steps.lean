import SceneScript.Proofs.Lookup
import SceneScript.Script.Reader

/-
  What one reading step can do.

  Key definitions include:
    * `Segment.Start`

  Correctness is stated by:
    * `Payload.exists_of_length`
    * `Segment.start`
    * `Reader.readCommand_bytes`

  Bytes start in one of six ways, and a step does one thing
  for each of them.  What holds of every step is shown case
  by case and without opening the step.
-/

namespace SceneScript

------------------------------------------------------------
-- Payloads
------------------------------------------------------------

/- The two bytes that made up a word are its stored form. -/
theorem Word.bytes_ofBytes (low high : UInt8) :
    bytes (ofBytes low high) = [low, high] := by
  have hLow := low.toNat_lt
  have hHigh := high.toNat_lt
  have hWord :
      (ofBytes low high).toNat =
        low.toNat + 256 * high.toNat := by
    rw [ofBytes, UInt16.toNat_ofNat']
    omega
  have hMod : (ofBytes low high).toNat % 256 = low.toNat := by
    omega
  have hDiv :
      (ofBytes low high).toNat / 256 = high.toNat := by
    omega
  rw [bytes, hMod, hDiv, UInt8.ofNat_toNat,
    UInt8.ofNat_toNat]

/- Two bytes are in front of the others that are asked for. -/
theorem exists_pair_of_length
    (count : Nat)
    {bytes : List UInt8}
    (hEnough : count + 2 ≤ bytes.length) :
    ∃ first second rest,
      bytes = first :: second :: rest ∧
        count ≤ rest.length := by
  rcases bytes with _ | ⟨first, _ | ⟨second, rest⟩⟩
  · simp at hEnough
  · simp at hEnough
  · exact
      ⟨first, second, rest, rfl,
        Nat.le_of_add_le_add_right hEnough⟩

/- A word is in front of the other bytes that are asked for. -/
theorem Word.exists_of_length
    (count : Nat)
    {bytes : List UInt8}
    (hEnough : count + 2 ≤ bytes.length) :
    ∃ word rest,
      bytes = Word.bytes word ++ rest ∧
        count ≤ rest.length := by
  rcases exists_pair_of_length count hEnough with
    ⟨low, high, rest, rfl, hRest⟩
  refine ⟨ofBytes low high, rest, ?_, hRest⟩
  rw [bytes_ofBytes]
  rfl

/- As many bytes as an opcode asks for are a payload of it. -/
theorem Payload.exists_of_length
    (opcode : Opcode)
    {bytes : List UInt8}
    (hEnough : opcode.payloadLength ≤ bytes.length) :
    ∃ payload rest,
      Payload.opcode payload = opcode ∧
        bytes = payload.bytes ++ rest := by
  cases opcode with
  | dialogue =>
      rcases Word.exists_of_length 0 hEnough with
        ⟨index, rest, rfl, _⟩
      exact ⟨.dialogue index, rest, rfl, rfl⟩
  | wait =>
      rcases Word.exists_of_length 0 hEnough with
        ⟨hundredths, rest, rfl, _⟩
      exact ⟨.wait hundredths, rest, rfl, rfl⟩
  | sound =>
      rcases Word.exists_of_length 0 hEnough with
        ⟨code, rest, rfl, _⟩
      exact ⟨.sound code, rest, rfl, rfl⟩
  | fadeIn =>
      rcases exists_pair_of_length 2 hEnough with
        ⟨first, second, later, rfl, hLater⟩
      rcases exists_pair_of_length 0 hLater with
        ⟨third, fourth, rest, rfl, _⟩
      exact
        ⟨.fadeIn first second third fourth, rest, rfl, rfl⟩
  | transition =>
      rcases exists_pair_of_length 2 hEnough with
        ⟨unknown, code, later, rfl, hLater⟩
      rcases Word.exists_of_length 0 hLater with
        ⟨speed, rest, rfl, _⟩
      exact
        ⟨.transition unknown code speed.toInt16, rest, rfl,
          rfl⟩
  | background =>
      rcases exists_pair_of_length 0 hEnough with
        ⟨unknown, code, rest, rfl, _⟩
      exact ⟨.background unknown code, rest, rfl, rfl⟩
  | character =>
      rcases Word.exists_of_length 2 hEnough with
        ⟨placement, later, rfl, hLater⟩
      rcases Word.exists_of_length 0 hLater with
        ⟨code, rest, rfl, _⟩
      exact ⟨.character placement code, rest, rfl, rfl⟩
  | finish => exact ⟨.finish, bytes, rfl, rfl⟩

------------------------------------------------------------
-- Starts of Segments
------------------------------------------------------------

/-
  The ways in which bytes start.  A segment is whole only
  behind the marker, an opcode and enough further bytes.
-/
inductive Segment.Start : List UInt8 → Prop where
  | nothing : Start []
  | unmarked
      {marker : UInt8}
      (hMarker : marker ≠ Segment.marker)
      (rest : List UInt8) :
      Start (marker :: rest)
  | markerOnly : Start [Segment.marker]
  | unlisted
      {byte : UInt8}
      (hByte : Opcode.ofByte? byte = none)
      (rest : List UInt8) :
      Start (Segment.marker :: byte :: rest)
  | cutOff
      {opcode : Opcode}
      {rest : List UInt8}
      (hShort : rest.length < opcode.payloadLength) :
      Start (Segment.header opcode ++ rest)
  | whole
      (payload : Payload)
      (rest : List UInt8) :
      Start (Segment.bytes payload ++ rest)

/- Every byte string starts in one of these ways. -/
theorem Segment.start (bytes : List UInt8) : Start bytes := by
  rcases bytes with _ | ⟨first, later⟩
  · exact .nothing
  · by_cases hMarker : first = marker
    · subst hMarker
      rcases later with _ | ⟨byte, rest⟩
      · exact .markerOnly
      · cases hOpcode : Opcode.ofByte? byte with
        | none => exact .unlisted hOpcode rest
        | some opcode =>
            have hByte :=
              Opcode.ofByte?_eq_some_iff.mp hOpcode
            subst hByte
            by_cases hShort :
              rest.length < opcode.payloadLength
            · exact .cutOff hShort
            · rcases Payload.exists_of_length opcode
                  (Nat.not_lt.mp hShort) with
                ⟨payload, behind, rfl, rfl⟩
              exact .whole payload behind
    · exact .unmarked hMarker later

------------------------------------------------------------
-- Reading Steps
------------------------------------------------------------

namespace Reader

variable (boxes : Array Dialogue)
variable (rest : List UInt8)
variable (offset : Nat)

/- A step with nothing left to read. -/
theorem readCommand_nothing :
    readCommand boxes { rest := [], offset } =
      (.error (.exhausted offset), { rest := [], offset }) :=
  rfl

/- A step over a byte that is not the marker. -/
theorem readCommand_unmarked
    {marker : UInt8}
    (hMarker : marker ≠ Segment.marker) :
    readCommand boxes { rest := marker :: rest, offset } =
      (.error (.markerMismatch offset marker),
        { rest, offset := offset + 1 }) := by
  simp [readCommand, Cursor.byte?, hMarker]

/- A step over a marker with nothing behind it. -/
theorem readCommand_markerOnly :
    readCommand boxes { rest := [Segment.marker], offset } =
      (.error (.truncated offset Opcode.headerLength 1),
        { rest := [], offset := offset + 1 }) :=
  rfl

/- A step over an opcode byte that is not known. -/
theorem readCommand_unlisted
    {byte : UInt8}
    (hByte : Opcode.ofByte? byte = none) :
    readCommand boxes
        { rest := Segment.marker :: byte :: rest, offset } =
      (.error (.unknownOpcode offset byte),
        { rest, offset := offset + 2 }) := by
  simp [readCommand, Cursor.byte?, Opcode.headerLength,
    hByte]

/- A step over a payload that is too short for its opcode. -/
theorem readCommand_cutOff
    {opcode : Opcode}
    {rest : List UInt8}
    (hShort : rest.length < opcode.payloadLength) :
    readCommand boxes
        { rest := Segment.header opcode ++ rest, offset } =
      (.error
        (.truncated offset opcode.segmentLength
          (rest.length + 2)),
        { rest, offset := offset + 2 }) := by
  have hMissing :
      ¬ opcode.segmentLength ≤ rest.length + 2 := by
    simp only [Opcode.segmentLength, Opcode.headerLength]
    omega
  simp [readCommand, Segment.header, Cursor.byte?,
    Opcode.headerLength, Opcode.ofByte?_byte, hMissing]

/-
  A step over a stored payload.  It looks at nothing behind
  the payload.
-/
theorem readCommand_bytes (payload : Payload) :
    readCommand boxes
        { rest := Segment.bytes payload ++ rest, offset } =
      (payload.resolve boxes offset,
        { rest
          offset :=
            offset + payload.opcode.segmentLength }) := by
  have hRead :=
    Payload.read?_bytes payload rest (offset + 2)
  have hLength :
      2 + payload.opcode.payloadLength =
        payload.opcode.segmentLength :=
    rfl
  have hEnough :
      payload.opcode.segmentLength ≤
        payload.opcode.payloadLength + rest.length + 2 := by
    omega
  simp [readCommand, Segment.bytes, Segment.header,
    Cursor.byte?, Opcode.headerLength, Opcode.ofByte?_byte,
    hEnough, hRead, Nat.add_assoc offset, hLength]

end Reader

end SceneScript
