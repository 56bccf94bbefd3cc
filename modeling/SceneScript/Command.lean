import SceneScript.Dialogue
import SceneScript.Opcode
import SceneScript.Placement
import SceneScript.Symbol.Catalogs
import SceneScript.Text.Numeral

/-
  Commands, the instructions of a scene.

  Key definitions include:
    * `Command`
    * `Command.opcode`
    * `Command.starter`
    * `Command.caption`
    * `Script`
    * `Script.isTerminated`

  Sounds, wipes, pictures and characters are held by name.
  A name is not checked before the command is written.
-/

namespace SceneScript

------------------------------------------------------------
-- Commands
------------------------------------------------------------

/- One instruction of a scene. -/
inductive Command where
| dialogue (text : Dialogue)
| wait (hundredths : UInt16)
| sound (name : String)
| fadeIn (first second third fourth : UInt8)
| transition (unknown : UInt8) (name : String) (speed : Int16)
| background (unknown : UInt8) (name : String)
| character (placement : Placement) (name : String)
| finish
deriving DecidableEq

namespace Command

/- The opcode a command is stored under. -/
def opcode : Command → Opcode
| dialogue _ => .dialogue
| wait _ => .wait
| sound _ => .sound
| fadeIn _ _ _ _ => .fadeIn
| transition _ _ _ => .transition
| background _ _ => .background
| character _ _ => .character
| finish => .finish

/- The command that an editor inserts for an opcode. -/
def starter : Opcode → Command
| .dialogue => dialogue .empty
| .wait => wait 0
| .sound => sound Catalog.sounds.first
| .fadeIn => fadeIn 0 0 0 0
| .transition => transition 0 Catalog.transitions.first 1
| .background => background 0 Catalog.backgrounds.first
| .character =>
    character ⟨.left, .right⟩ Catalog.characters.first
| .finish => finish

/- The line that an editor shows for a command. -/
def caption : Command → Text
| dialogue text => "Dialogue: ".toList ++ text.joined
| wait hundredths =>
    "Wait ".toList ++
      Numeral.hundredths hundredths.toNat ++
      " seconds".toList
| sound name => s!"Play sound '{name}'".toList
| fadeIn _ _ _ _ => "Fade in".toList
| transition _ name speed =>
    s!"Transition '{name}' at speed ".toList ++
      Numeral.signedDecimal speed.toInt
| background _ name =>
    s!"Display Background '{name}'".toList
| character placement name =>
    let place := placement.caption
    s!"Show character '{name}' at '{place}'".toList
| finish => "End".toList

end Command

------------------------------------------------------------
-- Scripts
------------------------------------------------------------

/- A scene is a list of commands in playback order. -/
abbrev Script := List Command

namespace Script

/- The last command ends the scene. -/
def isTerminated (script : Script) : Bool :=
  script.getLast? == some .finish

end Script

end SceneScript
