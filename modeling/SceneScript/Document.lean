import SceneScript.Files.Storage
import SceneScript.LineTable.Codec
import SceneScript.Script.Reader
import SceneScript.Script.Writer

/-
  Scripts on disk together with their line tables.

  Key definitions include:
    * `Document`
    * `Document.Error`
    * `Document.load`
    * `Document.save`
    * `Document.saveAs`

  The table of a script is the file of the same name with
  another extension.  It is needed for reading only, and
  saving builds a new one.

  Saving prepares both files beside their places and moves
  them only when both are written.  If the script cannot be
  moved after the table was, the table is put back.
-/

namespace SceneScript

------------------------------------------------------------
-- Documents
------------------------------------------------------------

/- A script with the path of its file. -/
structure Document where
  path : Path
  script : Script
deriving DecidableEq

namespace Document

/- The extension of line tables. -/
def tableExtension : Text := ['h', 't', 'x']

/- The path of the line table of a script file. -/
def tablePathOf (path : Path) : Path :=
  path.withExtension tableExtension

/- The path of the line table of a document. -/
def tablePath (document : Document) : Path :=
  tablePathOf document.path

------------------------------------------------------------
-- Failures
------------------------------------------------------------

/- Why a document cannot be loaded or saved. -/
inductive Error where
| device (fault : DeviceError)
| decode (error : DecodeError)
| encode (error : EncodeError)
| table (error : LineTable.Error)
deriving DecidableEq, Repr

/- The text shown for a failure. -/
def Error.message : Error → String
| device fault => fault.message
| decode error => error.message
| encode error => error.message
| table error => error.message

/- The warning about a table that is not well formed. -/
def malformedTable : Event :=
  .warning "table contains malformed Shift_JIS sequences"

/- The event of a script that was saved. -/
def saved : Event :=
  .info "saved script"

/- The warning that an earlier table is put back. -/
def restoring (path : Path) : Event :=
  let shown := path.toString
  .warning s!"restoring {shown}"

------------------------------------------------------------
-- Loading
------------------------------------------------------------

variable {m : Type → Type} [Monad m] [Storage m]

/- The table in the contents of a file, with a warning. -/
def decodeTable (bytes : List UInt8) : m LineTable := do
  if !ShiftJis.isWellFormed bytes then
    Storage.report malformedTable
  return LineTable.decode bytes

/- Read the line table of a script, then the script. -/
def load
    (path : Path)
    (requireEnd : Bool) : m (Except Error Document) := do
  match ← Storage.read (tablePathOf path) with
  | .error fault => return .error (.device fault)
  | .ok tableBytes =>
      let table ← decodeTable tableBytes
      match ← Storage.read path with
      | .error fault => return .error (.device fault)
      | .ok bytes =>
          match Script.decode bytes table requireEnd with
          | .error error => return .error (.decode error)
          | .ok script => return .ok { path, script }

------------------------------------------------------------
-- Saving
------------------------------------------------------------

/- The contents of the two files of a script. -/
structure Contents where
  script : List UInt8
  table : List UInt8

/- What is to be written for a script. -/
def contentsOf (script : Script) : Except Error Contents := do
  let encoded ← script.encode.mapError .encode
  let table ← encoded.table.encode.mapError .table
  return { script := encoded.script, table }

/- Put a table back that was moved over another one. -/
def restoreTable
    (path : Path)
    (previous? : Option (List UInt8)) :
    m (Except DeviceError Unit) := do
  Storage.report (restoring path)
  match previous? with
  | some bytes => Storage.write path bytes
  | none => Storage.remove path

/- Move a table and then its script to their places. -/
def placeBoth
    (path : Path)
    (script table : Storage.Staged m) :
    m (Except DeviceError Unit) := do
  let previous ← Storage.read (tablePathOf path)
  match ← Storage.place table (tablePathOf path) with
  | .error fault =>
      Storage.discard table
      Storage.discard script
      return .error fault
  | .ok () =>
      match ← Storage.place script path with
      | .ok () =>
          Storage.report saved
          return .ok ()
      | .error fault =>
          let restored ←
            restoreTable (tablePathOf path) previous.toOption
          Storage.discard script
          match restored with
          | .error other => return .error other
          | .ok () => return .error fault

/- Write both files of a script. -/
def writeContents
    (path : Path)
    (contents : Contents) :
    m (Except DeviceError Unit) := do
  match ← Storage.stage path.directory contents.script with
  | .error fault => return .error fault
  | .ok script =>
      let tableDirectory := (tablePathOf path).directory
      match ← Storage.stage tableDirectory contents.table with
      | .error fault =>
          Storage.discard script
          return .error fault
      | .ok table => placeBoth path script table

/- Write a script and a line table built from it to a path. -/
def writeFiles
    (path : Path)
    (script : Script) : m (Except Error Unit) := do
  match contentsOf script with
  | .error error => return .error error
  | .ok contents =>
      let written ← writeContents path contents
      return written.mapError .device

/- Write a document to its path. -/
def save (document : Document) : m (Except Error Unit) :=
  writeFiles document.path document.script

/-
  Write a document to another path, which it keeps from then
  on.
-/
def saveAs
    (document : Document)
    (path : Path) : m (Except Error Document) := do
  let written ← writeFiles path document.script
  return written.map fun () => { document with path }

end Document

end SceneScript
