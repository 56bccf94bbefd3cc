import SceneScript.Command
import SceneScript.Json.Printer
import SceneScript.Json.Reader
import SceneScript.LineTable

/-
  Scripts and line tables as JSON.

  Key definitions include:
    * `Opcode.tag`
    * `Opcode.fields`
    * `Command.ofFields?`
    * `Command.toJson`
    * `Command.ofJson?`
    * `Script.ofJsonText`
    * `LineTable.ofJsonText`

  A command is an object with its tag under `command`, or an
  array of the tag and the fields.  An object is read as a
  whole before its fields are judged, but a wrong tag or a
  second tag is noticed at once.
-/

namespace SceneScript

------------------------------------------------------------
-- Tags and Fields
------------------------------------------------------------

namespace Opcode

/- The tag of a command in JSON. -/
def tag : Opcode → String
| dialogue => "dialogue"
| wait => "wait"
| sound => "sound"
| fadeIn => "fade_in"
| transition => "transition"
| background => "background"
| character => "character"
| finish => "end"

/- The opcode with a tag. -/
def ofTag? (tag : String) : Option Opcode :=
  all.find? (·.tag == tag)

/- The fields of a command in order. -/
def fields : Opcode → List String
| dialogue => ["text"]
| wait => ["hundredths"]
| sound => ["sound"]
| fadeIn => ["bytes"]
| transition => ["unknown", "transition", "speed"]
| background => ["unknown", "background"]
| character => ["position", "name"]
| finish => []

end Opcode

/- The key of the tag of a command. -/
def Command.tagKey : String := "command"

------------------------------------------------------------
-- Field Values
------------------------------------------------------------

namespace Json

/- A value as a byte. -/
def byte? (value : Json) : Option UInt8 :=
  (value.natBelow? 256).map UInt8.ofNat

/- A value as a word. -/
def word? (value : Json) : Option UInt16 :=
  (value.natBelow? 65536).map UInt16.ofNat

/- A value as a signed word. -/
def signedWord? (value : Json) : Option Int16 := do
  let n ← value.int?
  if -32768 ≤ n ∧ n ≤ 32767 then
    return Int16.ofInt n
  else
    none

/-
  A value as a placement: its name, or an object with the
  name as its only key and nothing under it.
-/
def placement? : Json → Option Placement
| str key => Placement.ofKey? key
| obj [(key, null)] => Placement.ofKey? key
| obj [(key, obj [])] => Placement.ofKey? key
| _ => none

end Json

------------------------------------------------------------
-- Commands
------------------------------------------------------------

namespace Command

/- The command with the given values of its fields. -/
def ofFields?
    (opcode : Opcode)
    (values : List Json) : Option Command :=
  match opcode, values with
  | .dialogue, [text] => do
      let lines ← text.strings?
      return dialogue (.ofLines (lines.map String.toList))
  | .wait, [hundredths] => do
      return wait (← hundredths.word?)
  | .sound, [name] => do
      return sound (← name.str?)
  | .fadeIn, [bytes] => do
      let bytes ← bytes.arr?
      match ← bytes.mapM Json.byte? with
      | [first, second, third, fourth] =>
          return fadeIn first second third fourth
      | _ => none
  | .transition, [unknown, name, speed] => do
      return transition
        (← unknown.byte?) (← name.str?) (← speed.signedWord?)
  | .background, [unknown, name] => do
      return background (← unknown.byte?) (← name.str?)
  | .character, [placement, name] => do
      return character (← placement.placement?) (← name.str?)
  | .finish, [] => some finish
  | _, _ => none

/- The values of the fields of a command in order. -/
def fieldValues : Command → List Json
| dialogue text =>
    [.arr (text.lines.map fun line =>
      .str (String.ofList line))]
| wait hundredths => [.int hundredths.toNat]
| sound name => [.str name]
| fadeIn first second third fourth =>
    [.arr ([first, second, third, fourth].map fun byte =>
      .int byte.toNat)]
| transition unknown name speed =>
    [.int unknown.toNat, .str name, .int speed.toInt]
| background unknown name => [.int unknown.toNat, .str name]
| character placement name => [.str placement.key, .str name]
| finish => []

/- A command as a JSON object. -/
def toJson (command : Command) : Json :=
  .obj <|
    (tagKey, .str command.opcode.tag) ::
      command.opcode.fields.zip command.fieldValues

/- The command of a tag and the other entries of an object. -/
def ofEntries?
    (opcode : Opcode)
    (entries : List (String × Json)) : Option Command := do
  let values ← opcode.fields.mapM (Json.field? entries)
  ofFields? opcode values

/- The command that a JSON value stands for. -/
def ofJson? : Json → Option Command
| .obj entries => do
    let tag ← Json.field? entries tagKey
    let opcode ← Opcode.ofTag? (← tag.str?)
    ofEntries? opcode entries
| .arr (tag :: values) => do
    let opcode ← Opcode.ofTag? (← tag.str?)
    ofFields? opcode values
| _ => none

------------------------------------------------------------
-- Reading Commands
------------------------------------------------------------

/- Read the tag of a command. -/
def readTag : Json.ReadFn Opcode :=
  fun input => do
    let (tag, rest) ← Json.strictString input
    match Opcode.ofTag? tag with
    | some opcode => return (opcode, rest)
    | none => throw .mismatch

/-
  The entries of a command that is being read, the last one
  in front.
-/
structure Draft where
  opcode? : Option Opcode
  entries : List (String × Json)

/- Read what follows a key of a command. -/
def readEntry
    (item : Json.ReadFn Json)
    (draft : Draft)
    (key : String) : Json.ReadFn Draft :=
  fun input =>
    if key = tagKey then
      if draft.opcode?.isSome then
        .error .mismatch
      else do
        let (opcode, rest) ← Json.afterColon readTag input
        return ({ draft with opcode? := some opcode }, rest)
    else do
      let (entries, rest) ←
        Json.anyEntry item draft.entries key input
      return ({ draft with entries }, rest)

/- The outcome of judging fields. -/
def judged
    (command? : Option Command)
    (rest : Text) : Except Json.Fault (Command × Text) :=
  match command? with
  | some command => .ok (command, rest)
  | none => .error .mismatch

/-
  Read a command, without space in front of it.  `room` is
  the nesting allowed inside the command.
-/
def readJson
    (limit room : Nat) : Json.ReadFn Command :=
  fun input =>
    match input with
    | '[' :: rest =>
        match Json.skipSpace rest with
        | [] => .error .unfinished
        | ']' :: _ => .error .mismatch
        | next => do
            let (opcode, rest) ← readTag next
            let (values, rest) ←
              Json.moreItems (Json.value limit room) limit rest
            judged (ofFields? opcode values) rest
    | '{' :: rest => do
        let (draft, rest) ←
          Json.objectRest limit
            (readEntry (Json.value limit room))
            { opcode? := none, entries := [] } rest
        match draft.opcode? with
        | some opcode =>
            judged
              (ofEntries? opcode draft.entries.reverse) rest
        | none => throw .mismatch
    | _ => Json.wrongKind input

end Command

------------------------------------------------------------
-- Scripts and Tables
------------------------------------------------------------

/- Read an array where only an array is right. -/
def Json.strictArray
    {α : Type}
    (limit : Nat)
    (item : Json.ReadFn α) : Json.ReadFn (List α) :=
  fun input =>
    match input with
    | '[' :: rest => Json.arrayRest limit item rest
    | _ => Json.wrongKind input

namespace Script

/- The script in a JSON text. -/
def ofJsonText (input : Text) : Except Json.Fault Script :=
  Json.whole
    (fun limit =>
      Json.strictArray limit
        (Command.readJson limit (Json.maxNesting - 2)))
    input

/- A script as a JSON array. -/
def toJson (script : Script) : Json :=
  .arr (script.map Command.toJson)

end Script

namespace LineTable

/- The line table in a JSON text. -/
def ofJsonText
    (input : Text) : Except Json.Fault LineTable := do
  let lines ←
    Json.whole
      (fun limit =>
        Json.strictArray limit Json.strictString)
      input
  return .ofList (lines.map String.toList)

/- A line table as a JSON array. -/
def toJson (table : LineTable) : Json :=
  .arr (table.toList.map fun line =>
    .str (String.ofList line))

end LineTable

end SceneScript
