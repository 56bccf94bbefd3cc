import SceneScript.Cli.Arguments
import SceneScript.Cli.Output
import SceneScript.Diff.Report
import SceneScript.Document

/-
  What the commands of the tool do.

  Key definitions include:
    * `Cli.Failure`
    * `Cli.build`
    * `Cli.verify`
    * `Cli.check`
    * `Cli.compareScripts`
    * `Cli.run`

  A command either prints a text or fails with a chain of
  causes.  What happens on the way is reported as events.
-/

namespace SceneScript

namespace Cli

------------------------------------------------------------
-- Outcomes
------------------------------------------------------------

/- Why a command failed, the nearest cause last. -/
structure Failure where
  causes : List String
deriving DecidableEq, Repr

/- What a command prints unless it fails. -/
abbrev Outcome := Except Failure Text

/- A failure without a deeper cause. -/
def Failure.plain (message : String) : Failure where
  causes := [message]

/- A failure that happened while something was being done. -/
def Failure.during
    (activity cause : String) : Failure where
  causes := [activity, cause]

/- An activity on a file. -/
def onFile
    (activity : String)
    (path : Path) : String :=
  let shown := path.toString
  s!"{activity} {shown}"

variable {m : Type → Type} [Monad m] [Storage m]

------------------------------------------------------------
-- Printing
------------------------------------------------------------

/- Print the commands of a script. -/
def dumpScript
    (file : Path)
    (format : Format)
    (requireEnd : Bool) : m Outcome := do
  match ← Document.load file requireEnd with
  | .error error =>
      return .error (.during (onFile "reading" file) error.message)
  | .ok document =>
      return .ok (printScript format document.script)

/-
  Print the lines of a table.  A directory can be opened and
  only fails to be read.
-/
def dumpTable
    (file : Path)
    (format : Format) : m Outcome := do
  match ← Storage.read file with
  | .error .isADirectory =>
      return .error (.plain DeviceError.isADirectory.message)
  | .error fault =>
      return .error (.during (onFile "path:" file) fault.message)
  | .ok bytes =>
      let table ← Document.decodeTable bytes
      return .ok (printTable format table)

/- Print one list of names, or every list. -/
def listNames (only? : Option Listing) : Text :=
  match only? with
  | some names => names.print
  | none => Listing.all.flatMap Listing.print

------------------------------------------------------------
-- Building
------------------------------------------------------------

/- The text shown for a JSON text that cannot be read. -/
def faultMessage : Json.Fault → String
| .unfinished => "the JSON text ends too early"
| .malformed => "the text is not JSON"
| .mismatch => "the JSON text does not describe a script"

/- Warn about a dialogue that is too wide for its box. -/
def reportWidth
    (index : Nat)
    (command : Command) : m Unit :=
  match command with
  | .dialogue text =>
      match text.firstTooWide? with
      | some fault =>
          Storage.report
            { Event.warning fault.message with
              index? := some index }
      | none => pure ()
  | _ => pure ()

/- Warn about what may be wrong with a script. -/
def reportScript (script : Script) : m Unit := do
  for (command, index) in script.zipIdx do
    reportWidth index command
  if !script.isTerminated then
    Storage.report (.warning DecodeError.missingEnd.message)

/- The first of some paths that leads to something. -/
def firstTaken? : List Path → m (Option Path)
| [] => return none
| path :: rest => do
    if ← Storage.contains path then
      return some path
    else
      firstTaken? rest

/- The text of a file in UTF-8. -/
def readText (path : Path) : m (Except DeviceError Text) := do
  match ← Storage.read path with
  | .error fault => return .error fault
  | .ok bytes =>
      match String.fromUTF8? (ByteArray.mk bytes.toArray) with
      | some text => return .ok text.toList
      | none => return .error .invalidUtf8

/- Write a new script unless something would be replaced. -/
def create
    (document : Document)
    (overwrite : Bool) : m Outcome := do
  let taken? ←
    if overwrite then
      pure none
    else
      firstTaken? [document.path, document.tablePath]
  match taken? with
  | some path =>
      let shown := path.toString
      return .error (.plain s!"{shown} already exists")
  | none =>
      Storage.report (.info (onFile "creating" document.path))
      match ← document.save with
      | .ok () => return .ok []
      | .error error =>
          return .error
            (.during (onFile "writing" document.path)
              error.message)

/- Write the script that a JSON file describes. -/
def build
    (input file : Path)
    (overwrite : Bool) : m Outcome := do
  match ← readText input with
  | .error fault =>
      return .error
        (.during (onFile "reading" input) fault.message)
  | .ok text =>
      match Script.ofJsonText text with
      | .error fault =>
          return .error
            (.during (onFile "parsing" input)
              (faultMessage fault))
      | .ok script =>
          reportScript script
          create { path := file, script } overwrite

------------------------------------------------------------
-- Checking
------------------------------------------------------------

/- Why a script does not pass a check. -/
inductive CheckFailure where
| document (error : Document.Error)
| scriptChanges
| tableChanges
deriving DecidableEq, Repr

/- The text shown for a script that does not pass. -/
def CheckFailure.message : CheckFailure → String
| document error => error.message
| scriptChanges => "script changes when written back"
| tableChanges => "string table changes when written back"

/- Writing a script gives the contents that it has. -/
def verify
    (script : Script)
    (contents : Document.Contents) :
    Except CheckFailure Unit := do
  let encoded ←
    script.encode.mapError fun error =>
      .document (.encode error)
  if encoded.script ≠ contents.script then
    throw .scriptChanges
  let table ←
    encoded.table.encode.mapError fun error =>
      .document (.table error)
  if table ≠ contents.table then
    throw .tableChanges

/- Read a script and compare it with what would be written. -/
def checkFile
    (path : Path)
    (requireEnd : Bool) : m (Except CheckFailure Unit) := do
  match ← Document.load path requireEnd with
  | .error error => return .error (.document error)
  | .ok document =>
      match ← Storage.read path with
      | .error fault =>
          return .error (.document (.device fault))
      | .ok script =>
          match ← Storage.read document.tablePath with
          | .error fault =>
              return .error (.document (.device fault))
          | .ok table =>
              return verify document.script { script, table }

/- The extension of scripts. -/
def scriptExtension : Text := ['s', 'c', 'r']

/- Check some scripts and count those that do not pass. -/
def checkFiles
    (requireEnd : Bool) : List Path → m Nat
| [] => return 0
| path :: rest => do
    let shown := path.toString
    match ← checkFile path requireEnd with
    | .ok () =>
        Storage.report (.info s!"{shown} ok")
        checkFiles requireEnd rest
    | .error error =>
        let cause := error.message
        Storage.report (.failure s!"{shown}: {cause}")
        let failed ← checkFiles requireEnd rest
        return failed + 1

/- Check every script in a directory. -/
def check
    (directory : Path)
    (requireEnd : Bool) : m Outcome := do
  let files ← Storage.filesBelow directory
  let scripts :=
    files.filter (·.extension? = some scriptExtension)
  if scripts = [] then
    return .error
      (.plain (onFile "no scripts found in" directory))
  else
    let failed ← checkFiles requireEnd scripts
    let total := scripts.length
    Storage.report
      (.info s!"checked {total} scripts, {failed} failed")
    if failed = 0 then
      return .ok []
    else
      return .error
        (.plain s!"{failed} of {total} scripts failed")

------------------------------------------------------------
-- Comparing
------------------------------------------------------------

/- The captions of a script as lines with their ends. -/
def captionLines (script : Script) : List Text :=
  Text.endedLines <|
    script.flatMap fun command => command.caption ++ ['\n']

/- The text shown for scripts without a difference. -/
def identical : Text :=
  line (Style.dimmed "scripts are identical".toList)

/- The difference between two scripts as it is printed. -/
def scriptDifference
    (context : Nat)
    (left right : Script) : Text :=
  let old := captionLines left
  let new := captionLines right
  if old = new then
    identical
  else
    Diff.report context
      (old.map String.ofList) (new.map String.ofList)

/- Print the difference between two script files. -/
def compareScripts
    (left right : Path)
    (context : Nat) : m Outcome := do
  match ← Document.load left false with
  | .error error =>
      return .error (.during (onFile "path:" left) error.message)
  | .ok old =>
      match ← Document.load right false with
      | .error error =>
          return .error
            (.during (onFile "path:" right) error.message)
      | .ok new =>
          return .ok
            (scriptDifference context old.script new.script)

------------------------------------------------------------
-- Running
------------------------------------------------------------

/- Do what is asked for. -/
def run : Invocation → m Outcome
| .dumpScript file format requireEnd =>
    dumpScript file format requireEnd
| .buildScript input file overwrite =>
    build input file overwrite
| .checkScripts directory requireEnd =>
    check directory requireEnd
| .diffScripts left right context =>
    compareScripts left right context
| .dumpTable file format => dumpTable file format
| .listNames only? => return .ok (listNames only?)

end Cli

end SceneScript
