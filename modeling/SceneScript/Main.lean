import SceneScript.Cli.Run

/-
  The command line tool on the files of a computer.

  Key definitions include:
    * `Console.deviceError`
    * `Console.attempt`
    * `Console.start`
    * `main`

  Results go to the standard output.  Events and failures go
  to the standard error.
-/

namespace SceneScript

namespace Console

------------------------------------------------------------
-- Faults
------------------------------------------------------------

/-
  The fault behind an error of the operating system.  Two
  kinds of error share a constructor and differ in the code.
-/
def deviceError (error : IO.Error) : DeviceError :=
  match error with
  | .noFileOrDirectory _ _ _ => .notFound
  | .inappropriateType _ code _ =>
      if code = 21 then .isADirectory else .notADirectory
  | .resourceBusy _ _ => .busy
  | _ => .other error.toString

/- Do something that the operating system may refuse. -/
def attempt
    {α : Type}
    (action : IO α) : IO (Except DeviceError α) := do
  try
    return .ok (← action)
  catch error =>
    return .error (deviceError error)

------------------------------------------------------------
-- Files
------------------------------------------------------------

/- The root of a listing. -/
def place (path : Path) : IO.FS.DirEntry where
  root := path.toString
  fileName := ""

/- The paths of the files that a path leads to or contains. -/
partial def filesBelow (path : Path) : IO (List Path) := do
  let root := (place path).root
  if ← root.isDir then
    match ← attempt root.readDir with
    | .error _ => return []
    | .ok entries =>
        let found ← entries.toList.mapM fun entry =>
          filesBelow (path.join entry.fileName.toList)
        return found.flatten
  else if ← root.pathExists then
    return [path]
  else
    return []

/- Write the whole contents of a file. -/
def writeBytes
    (mode : IO.FS.Mode)
    (path : Path)
    (bytes : List UInt8) : IO Unit := do
  let handle ← IO.FS.Handle.mk path.toString mode
  handle.write (ByteArray.mk bytes.toArray)
  handle.flush

/- Create a temporary file in a directory. -/
def stage
    (directory : Path)
    (bytes : List UInt8) : IO Path := do
  let time ← IO.monoNanosNow
  let name := ".tmp".toList ++ Numeral.decimal time
  let path := directory.join name
  writeBytes .writeNew path bytes
  return path

/- Show an event. -/
def report (event : Event) : IO Unit :=
  let word := event.severity.word
  let message := event.message
  match event.index? with
  | none => IO.eprintln s!"{word} {message}"
  | some index =>
      IO.eprintln s!"{word} {message} index={index}"

instance : Storage IO where
  Staged := Path
  read := fun path =>
    attempt do
      let bytes ← IO.FS.readBinFile path.toString
      return bytes.data.toList
  contains := fun path => (place path).root.pathExists
  filesBelow := filesBelow
  write := fun path bytes =>
    attempt (writeBytes .write path bytes)
  remove := fun path =>
    attempt (IO.FS.removeFile path.toString)
  stage := fun directory bytes =>
    attempt (stage directory bytes)
  discard := fun path =>
    discard (attempt (IO.FS.removeFile path.toString))
  place := fun staged path =>
    attempt (IO.FS.rename staged.toString path.toString)
  report := report

------------------------------------------------------------
-- Running
------------------------------------------------------------

/- Show the causes of a failure, the outermost first. -/
def showFailure (failure : Cli.Failure) : IO Unit := do
  for cause in failure.causes do
    IO.eprintln s!"error: {cause}"

/- Read the command line and do what is asked for. -/
def start (arguments : List String) : IO UInt32 := do
  let texts := arguments.map String.toList
  match Cli.Invocation.ofArguments texts with
  | .error error =>
      let message := error.message
      IO.eprintln s!"error: {message}"
      return 2
  | .ok invocation =>
      let outcome : Cli.Outcome ← Cli.run invocation
      match outcome with
      | .ok output =>
          IO.print (String.ofList output)
          return 0
      | .error failure =>
          showFailure failure
          return 1

end Console

end SceneScript

/- Run the tool. -/
def main (arguments : List String) : IO UInt32 :=
  SceneScript.Console.start arguments
