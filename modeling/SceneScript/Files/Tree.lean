import SceneScript.Files.Path
import SceneScript.Stream

/-
  Trees of files and directories, with the operations of a
  file system on them.

  Key definitions include:
    * `FileTree`
    * `FileTree.find?`
    * `FileTree.put`
    * `FileTree.erase`
    * `FileTree.create`
    * `FileTree.locate`
    * `FileTree.target`
    * `FileTree.read`
    * `FileTree.write`
    * `FileTree.remove`
    * `FileTree.stage`
    * `FileTree.place`
    * `FileTree.filesBelow`

  Correctness is stated by:
    * `FileTree.find?_put`
    * `FileTree.find?_erase`
    * `FileTree.find?_freshName`

  Paths are followed from the root of a tree, also those that
  start with a slash, and the root is its own parent.  There
  are no links.
-/

namespace SceneScript

------------------------------------------------------------
-- Trees
------------------------------------------------------------

/- The names on the way from the root of a tree. -/
abbrev Location := List Text

/- What a tree has at a location. -/
inductive Entry where
| file (bytes : List UInt8)
| directory
deriving DecidableEq, Repr

/-
  Entries by location.  The root is a directory without being
  listed.
-/
structure FileTree where
  entries : List (Location × Entry)

namespace FileTree

/- The tree that has only its root. -/
def empty : FileTree where
  entries := []

instance : Inhabited FileTree :=
  ⟨empty⟩

/- The first entry that is listed at a location. -/
def lookup
    (entries : List (Location × Entry))
    (location : Location) : Option Entry :=
  (entries.find? fun listed => listed.1 = location).map (·.2)

/- The entry at a location. -/
def find?
    (tree : FileTree)
    (location : Location) : Option Entry :=
  if location = [] then
    some .directory
  else
    lookup tree.entries location

/- Remove what is at a location. -/
def erase
    (tree : FileTree)
    (location : Location) : FileTree where
  entries :=
    tree.entries.filter fun listed => listed.1 ≠ location

/- Put an entry at a location in place of any other. -/
def put
    (tree : FileTree)
    (location : Location)
    (entry : Entry) : FileTree where
  entries := (location, entry) :: (tree.erase location).entries

/- Nothing is listed at a location that was left out. -/
theorem lookup_filter_ne
    (entries : List (Location × Entry))
    (erased location : Location) :
    lookup (entries.filter fun listed => listed.1 ≠ erased)
        location =
      if location = erased then
        none
      else
        lookup entries location := by
  induction entries with
  | nil => simp [lookup]
  | cons listed rest ih =>
      unfold lookup at ih ⊢
      by_cases hErased : listed.1 = erased
      · rw [List.filter_cons_of_neg (by simp [hErased]), ih]
        by_cases hSame : location = erased
        · simp [hSame]
        · have hOther : ¬listed.1 = location := by
            intro h
            exact hSame (h.symm.trans hErased)
          simp [hSame, hOther]
      · rw [List.filter_cons_of_pos (by simp [hErased])]
        by_cases hHere : listed.1 = location
        · have hSame : ¬location = erased := by
            intro h
            exact hErased (hHere.trans h)
          simp [hHere, hSame]
        · rw [List.find?_cons_of_neg (by simp [hHere]), ih,
            List.find?_cons_of_neg (by simp [hHere])]

/- Nothing but the root is left of an erased location. -/
theorem find?_erase
    (tree : FileTree)
    (erased location : Location)
    (hRoot : erased ≠ []) :
    (tree.erase erased).find? location =
      if location = erased then
        none
      else
        tree.find? location := by
  unfold find? erase
  rw [lookup_filter_ne]
  by_cases hSame : location = erased
  · subst hSame
    simp [hRoot]
  · simp [hSame]

/- A location holds what was put there last. -/
theorem find?_put
    (tree : FileTree)
    (changed location : Location)
    (entry : Entry)
    (hRoot : changed ≠ []) :
    (tree.put changed entry).find? location =
      if location = changed then
        some entry
      else
        tree.find? location := by
  by_cases hSame : location = changed
  · subst hSame
    simp [find?, put, lookup, hRoot]
  · have hErased := find?_erase tree changed location hRoot
    rw [if_neg hSame] at hErased ⊢
    rw [← hErased]
    have hOther : ¬changed = location := fun h =>
      hSame h.symm
    simp [find?, put, lookup, hOther]

/-
  Put an entry at a location, with the directories on the way
  to it that are missing.
-/
def create
    (tree : FileTree)
    (location : Location)
    (entry : Entry) : FileTree :=
  let parents :=
    (List.range location.length).map location.take
  let tree :=
    parents.foldl
      (fun tree parent =>
        if (tree.find? parent).isSome then
          tree
        else
          tree.put parent .directory)
      tree
  tree.put location entry

/- Remove a location and everything below it. -/
def prune
    (tree : FileTree)
    (location : Location) : FileTree where
  entries :=
    tree.entries.filter fun listed =>
      !location.isPrefixOf listed.1

------------------------------------------------------------
-- Following Paths
------------------------------------------------------------

/- The path segments that stay where they are. -/
def staysHere (segment : Text) : Bool :=
  segment = [] || segment = ['.']

/-
  Follow path segments from a location.  Every segment needs
  a directory to start from, even if it stays there.
-/
def follow
    (tree : FileTree)
    (location : Location) :
    List Text → Except DeviceError Location
| [] => .ok location
| segment :: rest =>
    if tree.find? location = some .directory then
      if staysHere segment then
        tree.follow location rest
      else if segment = ['.', '.'] then
        tree.follow location.dropLast rest
      else
        let next := location ++ [segment]
        match tree.find? next with
        | none => .error .notFound
        | some _ => tree.follow next rest
    else
      .error .notADirectory

/- The location of what a path leads to. -/
def locate
    (tree : FileTree)
    (path : Path) : Except DeviceError Location :=
  if path.text = [] then
    .error .notFound
  else
    tree.follow [] (Text.splitOn '/' path.text)

/- The location of the directory that a path leads to. -/
def locateDirectory
    (tree : FileTree)
    (path : Path) : Except DeviceError Location := do
  let location ← tree.locate path
  if tree.find? location = some .directory then
    return location
  else
    throw .notADirectory

/- The place that a path gives to a new entry. -/
structure Target where
  location : Location
  slashed : Bool
deriving DecidableEq, Repr

/-
  The place of the last part of a path, which need not exist.
  A slash behind it asks for a directory.
-/
def target
    (tree : FileTree)
    (path : Path) : Except DeviceError Target := do
  if path.text = [] then
    throw .notFound
  let reversed := path.text.reverse
  let last := reversed.dropWhile (· = '/')
  let (front, name) := Path.cutReversed last
  let parent ← tree.follow [] (Text.splitOn '/' front)
  if tree.find? parent ≠ some .directory then
    throw .notADirectory
  if Path.IsName name then
    return {
      location := parent ++ [name]
      slashed := last.length < reversed.length }
  else
    throw .busy

------------------------------------------------------------
-- Reading and Writing
------------------------------------------------------------

/- The contents of the file that a path leads to. -/
def read
    (tree : FileTree)
    (path : Path) : Except DeviceError (List UInt8) := do
  let location ← tree.locate path
  match tree.find? location with
  | some (.file bytes) => return bytes
  | some .directory => throw .isADirectory
  | none => throw .notFound

/- A path leads somewhere. -/
def contains
    (tree : FileTree)
    (path : Path) : Bool :=
  (tree.locate path).isOk

/- Replace or create the file that a path leads to. -/
def write
    (tree : FileTree)
    (path : Path)
    (bytes : List UInt8) : Except DeviceError FileTree :=
  match tree.target path with
  | .error .busy => .error .isADirectory
  | .error fault => .error fault
  | .ok target =>
      if target.slashed ||
          tree.find? target.location = some .directory then
        .error .isADirectory
      else
        .ok (tree.put target.location (.file bytes))

/- Remove the file that a path leads to. -/
def remove
    (tree : FileTree)
    (path : Path) : Except DeviceError FileTree := do
  let location ← tree.locate path
  if tree.find? location = some .directory then
    throw .isADirectory
  return tree.erase location

------------------------------------------------------------
-- Staged Files
------------------------------------------------------------

/- The length of the longest name in a tree. -/
def longestName (tree : FileTree) : Nat :=
  (tree.entries.map fun listed =>
    (listed.1.getLastD []).length).foldr max 0

/-
  A name for a temporary file.  It is longer than every name
  in the tree.
-/
def freshName (tree : FileTree) : Text :=
  ['.', 't', 'm', 'p'] ++
    List.replicate tree.longestName 'x'

/- No name is longer than the longest one. -/
theorem length_le_longestName
    {entries : List (Location × Entry)}
    {listed : Location × Entry}
    (hListed : listed ∈ entries) :
    (listed.1.getLastD []).length ≤
      FileTree.longestName { entries } := by
  unfold longestName
  induction entries with
  | nil => simp at hListed
  | cons first rest ih =>
      simp only [List.map_cons, List.foldr_cons]
      rcases List.mem_cons.mp hListed with hFirst | hRest
      · subst hFirst
        exact Nat.le_max_left _ _
      · exact Nat.le_trans (ih hRest) (Nat.le_max_right _ _)

/- Nothing has the name of a temporary file yet. -/
theorem find?_freshName
    (tree : FileTree)
    (parent : Location) :
    tree.find? (parent ++ [tree.freshName]) = none := by
  unfold find? lookup
  have hSome : parent ++ [tree.freshName] ≠ [] := by simp
  simp only [hSome, ↓reduceIte, Option.map_eq_none_iff,
    List.find?_eq_none, decide_eq_true_eq]
  intro listed hListed hSame
  have hLength :
      (listed.1.getLastD []).length ≤ tree.longestName :=
    length_le_longestName hListed
  rw [hSame] at hLength
  simp only [List.getLastD_eq_getLast?, freshName,
    List.getLast?_append, List.getLast?_singleton,
    Option.some_or, Option.getD_some, List.length_append,
    List.length_replicate, List.length_cons,
    List.length_nil] at hLength
  omega

/- A file that waits for being moved to its place. -/
structure Staged where
  location : Location
  bytes : List UInt8

/- Create a temporary file in the directory of a path. -/
def stage
    (tree : FileTree)
    (directory : Path)
    (bytes : List UInt8) :
    Except DeviceError (Staged × FileTree) := do
  let parent ← tree.locateDirectory directory
  let location := parent ++ [tree.freshName]
  return ({ location, bytes },
    tree.put location (.file bytes))

/- Remove a temporary file. -/
def discard
    (tree : FileTree)
    (staged : Staged) : FileTree :=
  tree.erase staged.location

/-
  Move a temporary file to a path, over any file there.  A
  directory is not replaced.
-/
def place
    (tree : FileTree)
    (staged : Staged)
    (path : Path) : Except DeviceError FileTree := do
  let target ← tree.target path
  if target.slashed then
    throw .notADirectory
  if tree.find? target.location = some .directory then
    throw .isADirectory
  return (tree.discard staged).put target.location
    (.file staged.bytes)

------------------------------------------------------------
-- Listing
------------------------------------------------------------

/- The path of a location below a path. -/
def pathBelow
    (path : Path)
    (names : List Text) : Path :=
  match names with
  | [] => path
  | _ :: _ => path.join (Text.joinWith ['/'] names)

/- The paths of the files that a path leads to or contains. -/
def filesBelow
    (tree : FileTree)
    (path : Path) : List Path :=
  match tree.locate path with
  | .error _ => []
  | .ok location =>
      tree.entries.filterMap fun listed =>
        match listed with
        | (_, .directory) => none
        | (place, .file _) =>
            if location.isPrefixOf place then
              some (pathBelow path (place.drop location.length))
            else
              none

end FileTree

end SceneScript
