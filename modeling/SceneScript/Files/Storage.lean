import SceneScript.Files.Tree

/-
  What a program needs from a file system, and a file system
  that is a value.

  Key definitions include:
    * `Event`
    * `Storage`
    * `Session`

  A program is written against `Storage`, so that it runs on
  the files of a computer as well as on a tree.
-/

namespace SceneScript

------------------------------------------------------------
-- Events
------------------------------------------------------------

/- How much an event matters. -/
inductive Severity where
| info
| warning
| failure
deriving DecidableEq, Repr

/- The word for a severity. -/
def Severity.word : Severity → String
| info => "INFO"
| warning => "WARN"
| failure => "ERROR"

/-
  Something that a program reports while it runs, with the
  index of the command that it is about.
-/
structure Event where
  severity : Severity
  message : String
  index? : Option Nat
deriving DecidableEq, Repr

namespace Event

/- Something that went as planned. -/
def info (message : String) : Event where
  severity := .info
  message := message
  index? := none

/- Something that may be a mistake. -/
def warning (message : String) : Event where
  severity := .warning
  message := message
  index? := none

/- Something that went wrong. -/
def failure (message : String) : Event where
  severity := .failure
  message := message
  index? := none

end Event

------------------------------------------------------------
-- Operations
------------------------------------------------------------

/-
  The operations of a file system.  `Staged` is a temporary
  file that is moved to its place or discarded.
-/
class Storage (m : Type → Type) where
  Staged : Type
  read : Path → m (Except DeviceError (List UInt8))
  contains : Path → m Bool
  filesBelow : Path → m (List Path)
  write :
    Path → List UInt8 → m (Except DeviceError Unit)
  remove : Path → m (Except DeviceError Unit)
  stage :
    Path → List UInt8 → m (Except DeviceError Staged)
  discard : Staged → m Unit
  place : Staged → Path → m (Except DeviceError Unit)
  report : Event → m Unit

------------------------------------------------------------
-- Sessions
------------------------------------------------------------

/- A tree with the events reported so far, the last in front. -/
structure SessionState where
  tree : FileTree
  events : List Event

/- A program that runs on a tree. -/
abbrev Session := StateM SessionState

namespace Session

/- Change the tree if that succeeds. -/
def update
    (change : FileTree → Except DeviceError FileTree) :
    Session (Except DeviceError Unit) :=
  fun state =>
    match change state.tree with
    | .error fault => (.error fault, state)
    | .ok tree => (.ok (), { state with tree })

instance : Storage Session where
  Staged := FileTree.Staged
  read := fun path state => (state.tree.read path, state)
  contains := fun path state =>
    (state.tree.contains path, state)
  filesBelow := fun path state =>
    (state.tree.filesBelow path, state)
  write := fun path bytes =>
    update fun tree => tree.write path bytes
  remove := fun path => update fun tree => tree.remove path
  stage := fun directory bytes state =>
    match state.tree.stage directory bytes with
    | .error fault => (.error fault, state)
    | .ok (staged, tree) => (.ok staged, { state with tree })
  discard := fun staged state =>
    ((), { state with tree := state.tree.discard staged })
  place := fun staged path =>
    update fun tree => tree.place staged path
  report := fun event state =>
    ((), { state with events := event :: state.events })

/-
  Run a program on a tree.  The result comes with the tree
  that is left and the events in order.
-/
def runOn
    {α : Type}
    (program : Session α)
    (tree : FileTree) : α × FileTree × List Event :=
  let (result, state) :=
    StateT.run program { tree, events := [] }
  (result, state.tree, state.events.reverse)

end Session

end SceneScript
