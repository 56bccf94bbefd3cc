import SceneScript.Command
import SceneScript.LineTable
import SceneScript.Script.Error
import SceneScript.Segment
import SceneScript.Stream

/-
  Reading scripts segment by segment.

  Key definitions include:
    * `LineTable.boxes`
    * `Payload.resolve`
    * `Reader`
    * `Reader.readCommand`
    * `Reader.next`
    * `Reader.readToEnd`
    * `Script.decode`
    * `Script.read`

  Correctness is stated by:
    * `LineTable.getElem?_boxes`
    * `Reader.length_readCommand_lt`

  The first failure ends the reading.  A wrong marker is
  reported before a segment that is cut off, and so is an
  unknown opcode.
-/

namespace SceneScript

------------------------------------------------------------
-- Boxes of a Table
------------------------------------------------------------

namespace LineTable

/-
  The box that each line of a table fills.  It is made once,
  however often a script shows the line.
-/
def boxes (table : LineTable) : Array Dialogue :=
  table.lines.map Dialogue.ofJoined

/- The box at a position is that of the line there. -/
@[simp]
theorem getElem?_boxes
    (table : LineTable)
    (index : Nat) :
    table.boxes[index]? =
      (table.get? index).map Dialogue.ofJoined := by
  simp [boxes, get?]

/- A table has as many boxes as lines. -/
@[simp]
theorem size_boxes (table : LineTable) :
    table.boxes.size = table.size := by
  simp [boxes, size]

end LineTable

------------------------------------------------------------
-- Meaning of Payloads
------------------------------------------------------------

/- The name of a code that a segment refers to. -/
def Catalog.resolve
    {Code : Type}
    [DecidableEq Code]
    (catalog : Catalog Code)
    (widen : Code → UInt16)
    (offset : Nat)
    (code : Code) : Except DecodeError String :=
  match catalog.name? code with
  | some name => .ok name
  | none =>
      .error
        (.unknownSymbol offset catalog.kind (widen code))

/-
  The command that a payload stands for.  A character code is
  looked up before the placement.
-/
def Payload.resolve
    (boxes : Array Dialogue)
    (offset : Nat) :
    Payload → Except DecodeError Command
  | .dialogue index =>
      match boxes[index.toNat]? with
      | some box => .ok (.dialogue box)
      | none => .error (.outOfRange offset index boxes.size)
  | .wait hundredths => .ok (.wait hundredths)
  | .sound code => do
      let name ← Catalog.sounds.resolve id offset code
      return .sound name
  | .fadeIn first second third fourth =>
      .ok (.fadeIn first second third fourth)
  | .transition unknown code speed => do
      let name ←
        Catalog.transitions.resolve UInt8.toUInt16 offset code
      return .transition unknown name speed
  | .background unknown code => do
      let name ←
        Catalog.backgrounds.resolve UInt8.toUInt16 offset code
      return .background unknown name
  | .character placement code => do
      let name ← Catalog.characters.resolve id offset code
      match Placement.ofCode? placement with
      | some placement => return .character placement name
      | none => .error (.unknownPlacement offset placement)
  | .finish => .ok .finish

------------------------------------------------------------
-- Readers
------------------------------------------------------------

/- A script that is being read against the boxes of a table. -/
structure Reader where
  boxes : Array Dialogue
  cursor : Cursor
  failed : Bool

namespace Reader

/- A reader in front of the first segment. -/
def start
    (bytes : List UInt8)
    (table : LineTable) : Reader where
  boxes := table.boxes
  cursor := Cursor.start bytes
  failed := false

/- The offset of the next segment. -/
def offset (reader : Reader) : Nat :=
  reader.cursor.offset

/-
  Read one segment, with the place where reading stopped.  A
  failure inside a segment stops behind what was looked at.
-/
def readCommand
    (boxes : Array Dialogue)
    (start : Cursor) :
    Except DecodeError Command × Cursor :=
  let offset := start.offset
  match start.byte? with
  | none => (.error (.exhausted offset), start)
  | some (marker, cursor) =>
      if marker ≠ Segment.marker then
        (.error (.markerMismatch offset marker), cursor)
      else if start.hasAtLeast Opcode.headerLength then
        match cursor.byte? with
        | none => (.error (.exhausted offset), cursor)
        | some (byte, cursor) =>
            match Opcode.ofByte? byte with
            | none =>
                (.error (.unknownOpcode offset byte), cursor)
            | some opcode =>
                if start.hasAtLeast opcode.segmentLength then
                  match Payload.read? opcode cursor with
                  | none => (.error (.exhausted offset), cursor)
                  | some (payload, cursor) =>
                      (payload.resolve boxes offset, cursor)
                else
                  (.error
                    (.truncated offset opcode.segmentLength
                      start.rest.length), cursor)
      else
        (.error
          (.truncated offset Opcode.headerLength
            start.rest.length), cursor)

/- Taking a byte leaves fewer bytes. -/
theorem length_of_byte?
    {cursor next : Cursor}
    {byte : UInt8}
    (hByte : cursor.byte? = some (byte, next)) :
    next.rest.length < cursor.rest.length := by
  unfold Cursor.byte? at hByte
  split at hByte
  · simp at hByte
  · rename_i hRest
    simp only [Option.some.injEq, Prod.mk.injEq] at hByte
    rw [← hByte.2, hRest]
    simp

/- Reading a segment always consumes something. -/
theorem length_readCommand_lt
    (boxes : Array Dialogue)
    {start : Cursor}
    (hRest : start.rest ≠ []) :
    (readCommand boxes start).2.rest.length <
      start.rest.length := by
  unfold readCommand
  simp only
  split
  · rename_i hByte
    unfold Cursor.byte? at hByte
    split at hByte
    · rename_i hNil
      exact (hRest hNil).elim
    · simp at hByte
  · rename_i hMarker
    have hFirst := length_of_byte? hMarker
    split
    · exact hFirst
    · split
      · split
        · exact hFirst
        · rename_i hByte
          have hSecond := length_of_byte? hByte
          have hBoth := Nat.lt_trans hSecond hFirst
          split
          · exact hBoth
          · split
            · split
              · exact hBoth
              · rename_i hRead
                have hPayload :=
                  (Payload.eq_append_of_read? hRead).2
                simp only
                omega
            · exact hBoth
      · exact hFirst

/- The next command, or nothing at the end and after a failure. -/
def next
    (reader : Reader) :
    Option (Except DecodeError Command) × Reader :=
  if reader.failed || reader.cursor.rest.isEmpty then
    (none, reader)
  else
    let (result, cursor) :=
      readCommand reader.boxes reader.cursor
    (some result,
      { reader with cursor, failed := !result.isOk })

/- Every command from a place on. -/
def readAll
    (boxes : Array Dialogue)
    (cursor : Cursor) : Except DecodeError Script :=
  if _hRest : cursor.rest = [] then
    .ok []
  else
    let step := readCommand boxes cursor
    match step.1 with
    | .error error => .error error
    | .ok command =>
        match readAll boxes step.2 with
        | .error error => .error error
        | .ok script => .ok (command :: script)
termination_by cursor.rest.length
decreasing_by exact length_readCommand_lt boxes _hRest

/-
  Every remaining command.  On request the commands read here
  have to finish the scene.
-/
def readToEnd
    (reader : Reader)
    (requireEnd : Bool) : Except DecodeError Script := do
  let script ←
    if reader.failed then
      pure []
    else
      readAll reader.boxes reader.cursor
  if requireEnd && !Script.isTerminated script then
    throw .missingEnd
  return script

end Reader

------------------------------------------------------------
-- Scripts
------------------------------------------------------------

namespace Script

/- The script in the contents of a file. -/
def decode
    (bytes : List UInt8)
    (table : LineTable)
    (requireEnd : Bool) : Except DecodeError Script :=
  (Reader.start bytes table).readToEnd requireEnd

/- Read a whole script file. -/
def read
    (source : Source)
    (table : LineTable) :
    Except DeviceError (Except DecodeError Script) :=
  source.readAll.map fun bytes => decode bytes table false

end Script

end SceneScript
