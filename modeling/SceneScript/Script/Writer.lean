import SceneScript.Command
import SceneScript.LineTable
import SceneScript.Script.Error
import SceneScript.Segment
import SceneScript.Stream

/-
  Writing scripts command by command.

  Key definitions include:
    * `Command.store`
    * `Writer`
    * `Writer.writeCommand`
    * `Writer.writeAll`
    * `Writer.finish`
    * `Encoded`
    * `Script.encode`

  A writer builds the line table of its script.  A segment
  reaches the sink only as a whole and only after its names
  were found, but the line of a dialogue enters the table
  even if the segment cannot be written.
-/

namespace SceneScript

------------------------------------------------------------
-- Stored Forms
------------------------------------------------------------

/- The code of a name that a command refers to. -/
def Catalog.lookup
    {Code : Type}
    (catalog : Catalog Code)
    (name : String) : Except EncodeError Code :=
  match catalog.code? name with
  | some code => .ok code
  | none => .error (.unknownName catalog.kind name)

/-
  The payload that stores a command other than a dialogue, or
  a dialogue whose line stands at `index`.
-/
def Command.payload
    (index : UInt16) :
    Command → Except EncodeError Payload
  | .dialogue _ => .ok (.dialogue index)
  | .wait hundredths => .ok (.wait hundredths)
  | .sound name => do
      let code ← Catalog.sounds.lookup name
      return .sound code
  | .fadeIn first second third fourth =>
      .ok (.fadeIn first second third fourth)
  | .transition unknown name speed => do
      let code ← Catalog.transitions.lookup name
      return .transition unknown code speed
  | .background unknown name => do
      let code ← Catalog.backgrounds.lookup name
      return .background unknown code
  | .character placement name => do
      let code ← Catalog.characters.lookup name
      return .character placement.code code
  | .finish => .ok .finish

/-
  The payload of a command, with the table that holds its
  line.  The number of a line has to fit a word.
-/
def Command.store
    (table : LineTable)
    (command : Command) :
    Except EncodeError Payload × LineTable :=
  match command with
  | .dialogue text =>
      let (index, table) := table.add text.joined
      if index < 65536 then
        (command.payload (UInt16.ofNat index), table)
      else
        (.error (.tableOverflow table.size), table)
  | _ => (command.payload 0, table)

------------------------------------------------------------
-- Writers
------------------------------------------------------------

/- A sink with the table of the dialogue written so far. -/
structure Writer where
  sink : Sink
  table : LineTable

namespace Writer

/- A writer that has not written anything. -/
def start (sink : Sink) : Writer where
  sink := sink
  table := .empty

/- Append the segment of one command. -/
def writeCommand
    (writer : Writer)
    (command : Command) :
    Except EncodeError Unit × Writer :=
  let (stored, table) := command.store writer.table
  match stored with
  | .error error => (.error error, { writer with table })
  | .ok payload =>
      let (result, sink) :=
        writer.sink.write (Segment.bytes payload)
      (result.mapError .device, { sink, table })

/- Append the segments of commands up to the first failure. -/
def writeAll
    (writer : Writer) :
    Script → Except EncodeError Unit × Writer
  | [] => (.ok (), writer)
  | command :: rest =>
      match writer.writeCommand command with
      | (.error error, writer) => (.error error, writer)
      | (.ok (), writer) => writer.writeAll rest

/- Flush the sink and hand it back with the table. -/
def finish
    (writer : Writer) :
    Except EncodeError (Sink × LineTable) :=
  match writer.sink.flush with
  | .error fault => .error (.device fault)
  | .ok () => .ok (writer.sink, writer.table)

end Writer

------------------------------------------------------------
-- Scripts
------------------------------------------------------------

/- The bytes of a script with the table they refer to. -/
structure Encoded where
  script : List UInt8
  table : LineTable

namespace Script

/- Encode a script together with a table built from it. -/
def encode
    (script : Script) : Except EncodeError Encoded := do
  let (result, writer) :=
    (Writer.start .unlimited).writeAll script
  result
  let (sink, table) ← writer.finish
  return { script := sink.written.toList, table }

end Script

end SceneScript
