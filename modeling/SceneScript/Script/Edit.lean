import SceneScript.Command

/-
  Changes that an editor makes to a script.

  Key definitions include:
    * `Edit`
    * `Edit.apply`
    * `Command.faster`

  A change at a place that the script does not have leaves
  the script as it is.
-/

namespace SceneScript

------------------------------------------------------------
-- Changes to One Command
------------------------------------------------------------

namespace Command

/- Change a line, if the command is a dialogue. -/
def setLine
    (command : Command)
    (line : Nat)
    (text : Text) : Command :=
  match command with
  | dialogue box => dialogue (box.setLine line text)
  | _ => command

/- Halve the time, if the command is a wait. -/
def faster (command : Command) : Command :=
  match command with
  | wait hundredths => wait (hundredths / 2)
  | _ => command

end Command

------------------------------------------------------------
-- Changes to a Script
------------------------------------------------------------

/- One change to a script. -/
inductive Edit where
| push (command : Command)
| insert (index : Nat) (command : Command)
| insertStarter (index : Nat) (opcode : Opcode)
| remove (index : Nat)
| replace (index : Nat) (command : Command)
| swap (index other : Nat)
| clear
| setLine (index line : Nat) (text : Text)
| speedUp

namespace Edit

/- Exchange two commands. -/
def swapped
    (script : Script)
    (index other : Nat) : Script :=
  match script[index]?, script[other]? with
  | some first, some second =>
      (script.set index second).set other first
  | _, _ => script

/- The script after a change. -/
def apply
    (script : Script) : Edit → Script
  | push command => script ++ [command]
  | insert index command => script.insertIdx index command
  | insertStarter index opcode =>
      script.insertIdx index (Command.starter opcode)
  | remove index => script.eraseIdx index
  | replace index command => script.set index command
  | swap index other => swapped script index other
  | clear => []
  | setLine index line text =>
      script.modify index fun command =>
        command.setLine line text
  | speedUp => script.map Command.faster

end Edit

end SceneScript
