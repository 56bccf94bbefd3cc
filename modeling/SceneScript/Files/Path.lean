import SceneScript.Text.Lines

/-
  Paths of files as they are written.

  Key definitions include:
    * `Path`
    * `Path.parts`
    * `Path.fileName?`
    * `Path.directory`
    * `Path.join`
    * `Path.extension?`
    * `Path.withExtension`

  The last part of a path is its name, unless that part is a
  dot or two dots.  Slashes behind the name, and a dot as the
  only character between them, say nothing.  A name has an
  extension from its last dot on, unless that is its first
  character.
-/

namespace SceneScript

/- A path with slashes between its parts. -/
structure Path where
  text : Text
deriving DecidableEq, Repr

namespace Path

instance : Inhabited Path :=
  ⟨⟨[]⟩⟩

/- The path that a string spells. -/
def ofString (text : String) : Path where
  text := text.toList

/- A path as a string. -/
def toString (path : Path) : String :=
  String.ofList path.text

------------------------------------------------------------
-- Parts
------------------------------------------------------------

/- A reversed path without what says nothing at its end. -/
def trimReversed : Text → Text
| '/' :: rest => trimReversed rest
| '.' :: '/' :: rest => trimReversed rest
| text => text

/- The characters up to the last slash, and the others. -/
def cutReversed (text : Text) : Text × Text :=
  ((text.dropWhile (· ≠ '/')).reverse,
    (text.takeWhile (· ≠ '/')).reverse)

/- A path up to its last slash, and its last part. -/
def parts (path : Path) : Text × Text :=
  cutReversed (trimReversed path.text.reverse)

/- The part names a file or a directory by itself. -/
def IsName (part : Text) : Prop :=
  part ≠ [] ∧ part ≠ ['.'] ∧ part ≠ ['.', '.']

instance (part : Text) : Decidable (IsName part) := by
  unfold IsName
  infer_instance

/- The last part of a path, if that is a name. -/
def fileName? (path : Path) : Option Text :=
  if IsName path.parts.2 then some path.parts.2 else none

/- The path of the directory that a path points into. -/
def directory (path : Path) : Path where
  text :=
    if path.parts.1 = [] then ['.'] else path.parts.1

/- A name in a directory. -/
def join
    (path : Path)
    (name : Text) : Path where
  text :=
    if path.text.getLast? = some '/' then
      path.text ++ name
    else
      path.text ++ '/' :: name

------------------------------------------------------------
-- Extensions
------------------------------------------------------------

/- A name in front of its last dot and behind it. -/
def splitName (name : Text) : Text × Option Text :=
  let reversed := name.reverse
  let after := (reversed.takeWhile (· ≠ '.')).reverse
  match reversed.dropWhile (· ≠ '.') with
  | _ :: c :: front => ((c :: front).reverse, some after)
  | _ => (name, none)

/- What follows the last dot of the name of a path. -/
def extension? (path : Path) : Option Text := do
  let name ← path.fileName?
  (splitName name).2

/-
  The same path with another extension.  The old extension
  goes first.  If it ends the path and leaves two dots, these
  name the directory above, which takes no extension.
-/
def withExtension
    (path : Path)
    (extension : Text) : Path :=
  match path.fileName? with
  | none => path
  | some name =>
      let stem := (splitName name).1
      if stem = ['.'] ∧ path.text = path.parts.1 ++ name then
        { text := path.parts.1 ++ ['.', '.'] }
      else
        { text := path.parts.1 ++ stem ++ '.' :: extension }

end Path

end SceneScript
