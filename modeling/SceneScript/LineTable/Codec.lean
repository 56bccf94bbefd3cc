import SceneScript.LineTable
import SceneScript.LineTable.Runs
import SceneScript.Stream
import SceneScript.Text.Lines

/-
  Line tables as files.  A file is Shift_JIS text with a line
  break between neighbouring lines and none after the last.

  Key definitions include:
    * `LineTable.decode`
    * `LineTable.encodeLine`
    * `LineTable.encode`
    * `LineTable.read`
    * `LineTable.write`

  Correctness is stated by:
    * `LineTable.encodeLine_eq`

  A file always decodes, and an empty file decodes to one
  empty line.  A table encodes line by line, and the first
  line that has no encoding decides the failure.
-/

namespace SceneScript

namespace LineTable

------------------------------------------------------------
-- Decoding
------------------------------------------------------------

/- The table in the contents of a file. -/
def decode (bytes : List UInt8) : LineTable :=
  ofList <|
    (Text.splitLines (ShiftJis.decode bytes)).map Text.toHalf

/- Read a whole table file. -/
def read
    (source : Source) :
    Except DeviceError LineTable :=
  source.readAll.map decode

------------------------------------------------------------
-- Encoding
------------------------------------------------------------

/-
  The bytes of one line.  A line break is refused before any
  character of the line is looked at.
-/
def encodeLine
    (index : Nat)
    (line : Text) : Except Error (List UInt8) :=
  if Text.hasLineBreak line then
    .error (.lineBreak index)
  else
    encodeText index (Text.toFull line)

/- A line is encoded character by character. -/
theorem encodeLine_eq
    (index : Nat)
    (line : Text) :
    encodeLine index line =
      if Text.hasLineBreak line then
        .error (.lineBreak index)
      else
        match ShiftJis.encode (Text.toFull line) with
        | .ok bytes => .ok bytes
        | .error c => .error (.unencodable index c) := by
  rw [encodeLine, encodeText_eq]
  cases ShiftJis.encode (Text.toFull line) <;> rfl

/- The bytes of the line break between two lines. -/
def breakBytes : List UInt8 :=
  [0x0D, 0x0A]

/- The bytes of consecutive lines from a position on. -/
def encodeFrom
    (index : Nat) :
    List Text → Except Error (List (List UInt8))
  | [] => .ok []
  | line :: rest =>
      match encodeLine index line with
      | .error error => .error error
      | .ok bytes =>
          match encodeFrom (index + 1) rest with
          | .error error => .error error
          | .ok later => .ok (bytes :: later)

/- The contents of the file that holds a table. -/
def encode
    (table : LineTable) :
    Except Error (List UInt8) :=
  (encodeFrom 0 table.toList).map breakBytes.intercalate

/- Encode a table and write it; nothing is written before the
   whole table is encoded. -/
def write
    (table : LineTable)
    (sink : Sink) :
    Except (Error ⊕ DeviceError) Unit × Sink :=
  match table.encode with
  | .error error => (.error (.inl error), sink)
  | .ok bytes =>
      let (result, sink) := sink.write bytes
      (result.mapError .inr, sink)

end LineTable

end SceneScript
