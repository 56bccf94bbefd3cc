import SceneScript.Proofs.Trees

/-
  What loading and saving do to a tree.

  Key definitions include:
    * `FileTree.withStaged`
    * `FileTree.withMoved`
    * `Document.withPair`
    * `Document.HasRoom`
    * `Document.Replaced`

  Correctness is stated by:
    * `FileTree.stage_of_leadsTo`
    * `FileTree.place_of_leadsTo`
    * `Document.writeContents_of_hasRoom`
    * `Document.save_of_read`
    * `Document.load_apply`
    * `Document.exists_contents_of_load`

  Both files of a script stand in one directory.  Staging and
  placing leave the directories of a tree alone, so that each
  operation finds the directory that the first one found.
-/

namespace SceneScript

------------------------------------------------------------
-- Sessions
------------------------------------------------------------

namespace Session

variable {α β : Type}

/- A program runs its parts one after the other. -/
theorem bind_apply
    (program : Session α)
    (next : α → Session β)
    (state : SessionState) :
    (program >>= next) state =
      next (program state).1 (program state).2 :=
  rfl

/- A program that does nothing leaves its state alone. -/
theorem pure_apply
    (value : α)
    (state : SessionState) :
    (pure value : Session α) state = (value, state) :=
  rfl

/- A run starts without events and puts them in order. -/
theorem runOn_eq_of_apply
    {program : Session α}
    {tree : FileTree}
    {value : α}
    {state : SessionState}
    (hRun :
      program { tree, events := [] } = (value, state)) :
    runOn program tree =
      (value, state.tree, state.events.reverse) := by
  have hTransform :
      StateT.run program { tree, events := [] } =
        (value, state) :=
    hRun
  rw [runOn, hTransform]

/- Reading gives what the tree has and changes nothing. -/
theorem read_apply
    (path : Path)
    (state : SessionState) :
    (Storage.read path : Session _) state =
      (state.tree.read path, state) :=
  rfl

/- A file is staged if the tree lets it, else nothing is done. -/
theorem stage_apply
    (directory : Path)
    (bytes : List UInt8)
    (state : SessionState) :
    (Storage.stage directory bytes : Session _) state =
      match state.tree.stage directory bytes with
      | .error fault => (.error fault, state)
      | .ok (staged, tree) =>
          (.ok staged, { state with tree }) :=
  rfl

/- A file is placed if the tree lets it, else nothing is done. -/
theorem place_apply
    (staged : FileTree.Staged)
    (path : Path)
    (state : SessionState) :
    (Storage.place (m := Session) staged path) state =
      match state.tree.place staged path with
      | .error fault => (.error fault, state)
      | .ok tree => (.ok (), { state with tree }) :=
  rfl

/- Reporting changes the events only. -/
theorem report_apply
    (event : Event)
    (state : SessionState) :
    (Storage.report event : Session _) state =
      ((), { state with events := event :: state.events }) :=
  rfl

end Session

------------------------------------------------------------
-- Staging and Placing
------------------------------------------------------------

namespace FileTree

variable {tree other : FileTree}
variable {parent : Location}

/- A file is no directory. -/
theorem ne_directory_of_file
    {location : Location}
    {bytes : List UInt8}
    (hFile : tree.find? location = some (.file bytes)) :
    tree.find? location ≠ some .directory := by
  rw [hFile]
  simp

/- A tree with a staged file in a directory. -/
def withStaged
    (tree : FileTree)
    (parent : Location)
    (bytes : List UInt8) : FileTree :=
  tree.put (parent ++ [tree.freshName]) (.file bytes)

/- A tree after a file was moved over another place. -/
def withMoved
    (tree : FileTree)
    (source target : Location)
    (bytes : List UInt8) : FileTree :=
  (tree.erase source).put target (.file bytes)

/- What a tree with a staged file holds. -/
theorem find?_withStaged
    (tree : FileTree)
    (parent location : Location)
    (bytes : List UInt8) :
    (tree.withStaged parent bytes).find? location =
      if location = parent ++ [tree.freshName] then
        some (.file bytes)
      else
        tree.find? location :=
  find?_put tree _ location _ (by simp)

/- What a tree holds after a move. -/
theorem find?_withMoved
    (tree : FileTree)
    {source target : Location}
    (hSource : source ≠ [])
    (hTarget : target ≠ [])
    (location : Location)
    (bytes : List UInt8) :
    (tree.withMoved source target bytes).find? location =
      if location = target then
        some (.file bytes)
      else if location = source then
        none
      else
        tree.find? location := by
  rw [withMoved, find?_put _ _ _ _ hTarget,
    find?_erase _ _ _ hSource]

/- Staging keeps the directories. -/
theorem sameDirectories_withStaged
    (tree : FileTree)
    (parent : Location)
    (bytes : List UInt8) :
    SameDirectories tree (tree.withStaged parent bytes) := by
  intro location
  rw [find?_withStaged]
  by_cases hHere : location = parent ++ [tree.freshName]
  · rw [hHere, find?_freshName]
    simp
  · rw [if_neg hHere]

/- A move between files keeps the directories. -/
theorem sameDirectories_withMoved
    {source target : Location}
    (hSource : source ≠ [])
    (hTarget : target ≠ [])
    (hSourceFile : tree.find? source ≠ some .directory)
    (hTargetFile : tree.find? target ≠ some .directory)
    (bytes : List UInt8) :
    SameDirectories tree
      (tree.withMoved source target bytes) := by
  intro location
  rw [find?_withMoved tree hSource hTarget]
  by_cases hAtTarget : location = target
  · rw [hAtTarget]
    simp [hTargetFile]
  · by_cases hAtSource : location = source
    · rw [if_neg hAtTarget, if_pos hAtSource, hAtSource]
      simp [hSourceFile]
    · rw [if_neg hAtTarget, if_neg hAtSource]

/- A file is staged in the directory of its path. -/
theorem stage_of_leadsTo
    {path : Path}
    {front name : Text}
    (hEnds : path.EndsIn front name)
    (hName : Path.IsName name)
    (hLeads : tree.LeadsTo front parent)
    (bytes : List UInt8) :
    tree.stage path.directory bytes =
      .ok
        ({ location := parent ++ [tree.freshName], bytes },
          tree.withStaged parent bytes) := by
  unfold stage
  rw [locateDirectory_of_leadsTo hEnds hName hLeads]
  rfl

/- A staged file is placed where no directory is. -/
theorem place_of_leadsTo
    {path : Path}
    {front name : Text}
    (hEnds : path.EndsIn front name)
    (hName : Path.IsName name)
    (hLeads : tree.LeadsTo front parent)
    (hFile :
      tree.find? (parent ++ [name]) ≠ some .directory)
    (staged : Staged) :
    tree.place staged path =
      .ok
        (tree.withMoved staged.location (parent ++ [name])
          staged.bytes) := by
  unfold place
  rw [target_of_leadsTo hEnds hName hLeads]
  simp [hFile, bind, Except.bind, pure, Except.pure,
    withMoved, discard]

end FileTree

------------------------------------------------------------
-- Saving
------------------------------------------------------------

namespace Document

/- A tree in which the script is staged. -/
def withScript
    (tree : FileTree)
    (parent : Location)
    (contents : Contents) : FileTree :=
  tree.withStaged parent contents.script

/- A tree in which both files are staged. -/
def withBoth
    (tree : FileTree)
    (parent : Location)
    (contents : Contents) : FileTree :=
  (withScript tree parent contents).withStaged parent
    contents.table

/- A tree in which the table is moved to its place. -/
def withTable
    (tree : FileTree)
    (parent : Location)
    (tableName : Text)
    (contents : Contents) : FileTree :=
  let fresh := (withScript tree parent contents).freshName
  (withBoth tree parent contents).withMoved
    (parent ++ [fresh]) (parent ++ [tableName])
    contents.table

/- A tree in which both files are moved to their places. -/
def withPair
    (tree : FileTree)
    (parent : Location)
    (name tableName : Text)
    (contents : Contents) : FileTree :=
  (withTable tree parent tableName contents).withMoved
    (parent ++ [tree.freshName]) (parent ++ [name])
    contents.script

/- Nothing but the two places is changed in the end. -/
theorem find?_withPair
    (tree : FileTree)
    (parent : Location)
    (name : Text)
    {tableName : Text}
    (hFresh : tableName ≠ tree.freshName)
    (contents : Contents)
    (location : Location) :
    (withPair tree parent name tableName contents).find?
        location =
      if location = parent ++ [name] then
        some (.file contents.script)
      else if location = parent ++ [tableName] then
        some (.file contents.table)
      else
        tree.find? location := by
  have hScriptAt := FileTree.find?_freshName tree parent
  have hTableAt :=
    FileTree.find?_freshName
      (withScript tree parent contents) parent
  rw [withScript, FileTree.find?_withStaged] at hTableAt
  rw [withPair, FileTree.find?_withMoved _ (by simp) (by simp),
    withTable, FileTree.find?_withMoved _ (by simp) (by simp),
    withBoth, FileTree.find?_withStaged, withScript,
    FileTree.find?_withStaged]
  by_cases hPlace : location = parent ++ [name]
  · rw [if_pos hPlace, if_pos hPlace]
  rw [if_neg hPlace, if_neg hPlace]
  by_cases hScript : location = parent ++ [tree.freshName]
  · have hOther : location ≠ parent ++ [tableName] := by
      rw [hScript]
      intro hSame
      exact
        hFresh (List.append_singleton_inj.mp hSame).2.symm
    rw [if_pos hScript, if_neg hOther, hScript, hScriptAt]
  rw [if_neg hScript]
  by_cases hTablePlace : location = parent ++ [tableName]
  · rw [if_pos hTablePlace, if_pos hTablePlace]
  rw [if_neg hTablePlace, if_neg hTablePlace]
  split
  · rename_i hTable
    rw [← hTable, if_neg hScript] at hTableAt
    exact hTableAt.symm
  · rfl

section Writing

variable {path : Path}
variable {front name : Text}
variable {tree : FileTree}
variable {parent : Location}

/- Staging both files keeps the directories. -/
theorem sameDirectories_withBoth
    (tree : FileTree)
    (parent : Location)
    (contents : Contents) :
    FileTree.SameDirectories tree
      (withBoth tree parent contents) :=
  (FileTree.sameDirectories_withStaged tree parent
      contents.script).trans
    (FileTree.sameDirectories_withStaged _ parent
      contents.table)

/- Moving the table keeps the directories. -/
theorem sameDirectories_withTable
    {tableName : Text}
    (hTable :
      tree.find? (parent ++ [tableName]) ≠ some .directory)
    (contents : Contents) :
    FileTree.SameDirectories tree
      (withTable tree parent tableName contents) := by
  have hBoth := sameDirectories_withBoth tree parent contents
  refine
    hBoth.trans
      (FileTree.sameDirectories_withMoved (by simp) (by simp)
        ?_ (mt (hBoth _).mpr hTable) contents.table)
  rw [withBoth, FileTree.find?_withStaged]
  simp

/-
  A tree has room for a script at a path.  The path and that
  of its table end in names inside of a directory, and no
  directory has one of these names.
-/
structure HasRoom
    (tree : FileTree)
    (path : Path)
    (front name : Text)
    (parent : Location) : Prop where
  endsIn : path.EndsIn front name
  isName : Path.IsName name
  isTableName : Path.IsName (tableNameOf name)
  leadsTo : tree.LeadsTo front parent
  script_ne :
    tree.find? (parent ++ [name]) ≠ some .directory
  table_ne :
    tree.find? (parent ++ [tableNameOf name]) ≠
      some .directory

/- The room for a script depends on directories only. -/
theorem HasRoom.congr
    {other : FileTree}
    (hRoom : HasRoom tree path front name parent)
    (hSame : FileTree.SameDirectories tree other) :
    HasRoom other path front name parent where
  endsIn := hRoom.endsIn
  isName := hRoom.isName
  isTableName := hRoom.isTableName
  leadsTo := hRoom.leadsTo.congr hSame
  script_ne := mt (hSame _).mpr hRoom.script_ne
  table_ne := mt (hSame _).mpr hRoom.table_ne

/- The path of a table ends in its name. -/
theorem HasRoom.endsIn_tablePath
    (hRoom : HasRoom tree path front name parent) :
    (tablePathOf path).EndsIn front (tableNameOf name) :=
  endsIn_tablePathOf hRoom.endsIn hRoom.isName

/- Moving both files keeps the directories. -/
theorem HasRoom.sameDirectories
    (hRoom : HasRoom tree path front name parent)
    (contents : Contents) :
    FileTree.SameDirectories tree
      (withPair tree parent name (tableNameOf name)
        contents) := by
  have hMoved :=
    sameDirectories_withTable hRoom.table_ne contents
  refine
    hMoved.trans
      (FileTree.sameDirectories_withMoved (by simp) (by simp)
        (mt (hMoved _).mpr ?_)
        (mt (hMoved _).mpr hRoom.script_ne) contents.script)
  rw [FileTree.find?_freshName]
  simp

/- What both places and all others hold in the end. -/
theorem find?_withPair_tableNameOf
    (tree : FileTree)
    (parent : Location)
    (name : Text)
    (contents : Contents)
    (location : Location) :
    (withPair tree parent name (tableNameOf name)
        contents).find? location =
      if location = parent ++ [name] then
        some (.file contents.script)
      else if location = parent ++ [tableNameOf name] then
        some (.file contents.table)
      else
        tree.find? location :=
  find?_withPair tree parent name
    (tableNameOf_ne_freshName tree name) contents location

/- The script that was written is read again. -/
theorem HasRoom.read_script
    (hRoom : HasRoom tree path front name parent)
    (contents : Contents) :
    (withPair tree parent name (tableNameOf name)
        contents).read path =
      .ok contents.script := by
  have hWritten := hRoom.congr (hRoom.sameDirectories contents)
  refine
    FileTree.read_eq_ok_iff.mpr
      ⟨front, name, parent, hRoom.endsIn, hRoom.isName,
        hWritten.leadsTo, ?_⟩
  rw [find?_withPair_tableNameOf, if_pos rfl]

/- The table that was written beside it is read again. -/
theorem HasRoom.read_table
    (hRoom : HasRoom tree path front name parent)
    (hNames : tableNameOf name ≠ name)
    (contents : Contents) :
    (withPair tree parent name (tableNameOf name)
        contents).read (tablePathOf path) =
      .ok contents.table := by
  have hWritten := hRoom.congr (hRoom.sameDirectories contents)
  refine
    FileTree.read_eq_ok_iff.mpr
      ⟨front, tableNameOf name, parent,
        hRoom.endsIn_tablePath, hRoom.isTableName,
        hWritten.leadsTo, ?_⟩
  have hOther :
      parent ++ [tableNameOf name] ≠ parent ++ [name] := by
    intro hSame
    exact hNames (List.append_singleton_inj.mp hSame).2
  rw [find?_withPair_tableNameOf, if_neg hOther, if_pos rfl]

/- The staged files of a script are moved to their places. -/
theorem placeBoth_of_hasRoom
    (hRoom : HasRoom tree path front name parent)
    (contents : Contents)
    (events : List Event) :
    (placeBoth path
        (FileTree.Staged.mk
          (parent ++ [tree.freshName])
          contents.script)
        (FileTree.Staged.mk
          (parent ++
            [(withScript tree parent contents).freshName])
          contents.table) : Session _)
        { tree := withBoth tree parent contents, events } =
      (.ok (),
        { tree :=
            withPair tree parent name (tableNameOf name)
              contents
          events := saved :: events }) := by
  have hBoth := sameDirectories_withBoth tree parent contents
  have hMoved :=
    sameDirectories_withTable hRoom.table_ne contents
  have hPlaceTable :
      (withBoth tree parent contents).place
          (.mk
            (parent ++
              [(withScript tree parent contents).freshName])
            contents.table)
          (tablePathOf path) =
        .ok
          (withTable tree parent (tableNameOf name)
            contents) :=
    FileTree.place_of_leadsTo hRoom.endsIn_tablePath
      hRoom.isTableName (hRoom.leadsTo.congr hBoth)
      (mt (hBoth _).mpr hRoom.table_ne) _
  have hPlaceScript :
      (withTable tree parent (tableNameOf name)
          contents).place
          (.mk (parent ++ [tree.freshName]) contents.script)
          path =
        .ok
          (withPair tree parent name (tableNameOf name)
            contents) :=
    FileTree.place_of_leadsTo hRoom.endsIn hRoom.isName
      (hRoom.leadsTo.congr hMoved)
      (mt (hMoved _).mpr hRoom.script_ne) _
  simp only [placeBoth, Session.bind_apply,
    Session.read_apply, Session.place_apply, hPlaceTable,
    hPlaceScript, Session.report_apply, Session.pure_apply]

/- Two files that were staged go on to their places. -/
theorem writeContents_of_stage
    {contents : Contents}
    {script table : FileTree.Staged}
    {first both : FileTree}
    (hScript :
      tree.stage path.directory contents.script =
        .ok (script, first))
    (hTable :
      first.stage (tablePathOf path).directory
          contents.table =
        .ok (table, both))
    (events : List Event) :
    (writeContents path contents : Session _)
        { tree, events } =
      (placeBoth path script table : Session _)
        { tree := both, events } := by
  simp only [writeContents, Session.bind_apply,
    Session.stage_apply, hScript, hTable]

/- Both files are written where no directory is. -/
theorem writeContents_of_hasRoom
    (hRoom : HasRoom tree path front name parent)
    (contents : Contents)
    (events : List Event) :
    (writeContents path contents : Session _)
        { tree, events } =
      (.ok (),
        { tree :=
            withPair tree parent name (tableNameOf name)
              contents
          events := saved :: events }) := by
  have hStageScript :
      tree.stage path.directory contents.script =
        .ok
          (.mk (parent ++ [tree.freshName]) contents.script,
            withScript tree parent contents) :=
    FileTree.stage_of_leadsTo hRoom.endsIn hRoom.isName
      hRoom.leadsTo _
  have hFirst :
      FileTree.SameDirectories tree
        (withScript tree parent contents) :=
    FileTree.sameDirectories_withStaged tree parent _
  have hStageTable :
      (withScript tree parent contents).stage
          (tablePathOf path).directory contents.table =
        .ok
          (.mk
            (parent ++
              [(withScript tree parent contents).freshName])
            contents.table,
            withBoth tree parent contents) :=
    FileTree.stage_of_leadsTo hRoom.endsIn_tablePath
      hRoom.isTableName (hRoom.leadsTo.congr hFirst) _
  rw [writeContents_of_stage hStageScript hStageTable events]
  exact placeBoth_of_hasRoom hRoom contents events

/-
  A script and its table that are both read stand beside each
  other under different names, where there is room for them.
-/
theorem exists_hasRoom_of_read
    (hPaths : tablePathOf path ≠ path)
    {contents : Contents}
    (hScript : tree.read path = .ok contents.script)
    (hTable :
      tree.read (tablePathOf path) = .ok contents.table) :
    ∃ front name parent,
      HasRoom tree path front name parent ∧
        tableNameOf name ≠ name ∧
        tree.find? (parent ++ [name]) =
          some (.file contents.script) ∧
        tree.find? (parent ++ [tableNameOf name]) =
          some (.file contents.table) := by
  rcases FileTree.read_eq_ok_iff.mp hScript with
    ⟨front, name, parent, hEnds, hName, hLeads, hFile⟩
  rcases FileTree.read_eq_ok_iff.mp hTable with
    ⟨tableFront, tableName, tableParent, hTableEnds,
      hTableName, hTableLeads, hTableFile⟩
  have hBeside := endsIn_tablePathOf hEnds hName
  rcases hTableEnds.unique hBeside with ⟨rfl, rfl⟩
  have hParent := hTableLeads.unique hLeads
  subst hParent
  refine
    ⟨tableFront, name, tableParent,
      ⟨hEnds, hName, hTableName, hLeads,
        FileTree.ne_directory_of_file hFile,
        FileTree.ne_directory_of_file hTableFile⟩,
      ?_, hFile, hTableFile⟩
  intro hSame
  have hText : (tablePathOf path).text = path.text := by
    rw [hBeside.text_eq, hSame, hEnds.text_eq]
  exact hPaths (congrArg Path.mk hText)

/-
  A tree in which new contents stand in place of the old ones
  of a script.  Nothing else is different.
-/
structure Replaced
    (tree written : FileTree)
    (path : Path)
    (old contents : Contents) : Prop where
  script_eq : written.read path = .ok contents.script
  table_eq :
    written.read (tablePathOf path) = .ok contents.table
  only_two :
    ∃ scriptAt tableAt,
      tree.find? scriptAt = some (.file old.script) ∧
        tree.find? tableAt = some (.file old.table) ∧
        ∀ location,
          written.find? location =
            if location = scriptAt then
              some (.file contents.script)
            else if location = tableAt then
              some (.file contents.table)
            else
              tree.find? location

/- Equal contents in place of the old ones change nothing. -/
theorem Replaced.find?_eq
    {written : FileTree}
    {contents : Contents}
    (hReplaced :
      Replaced tree written path contents contents)
    (location : Location) :
    written.find? location = tree.find? location := by
  rcases hReplaced.only_two with
    ⟨scriptAt, tableAt, hScript, hTable, hFind⟩
  rw [hFind]
  split
  · rename_i hSame
    rw [hSame, hScript]
  · split
    · rename_i hSame
      rw [hSame, hTable]
    · rfl

/- Where both files stand, new contents take their places. -/
theorem replaced_withPair
    (hRoom : HasRoom tree path front name parent)
    (hNames : tableNameOf name ≠ name)
    {old : Contents}
    (hScript :
      tree.find? (parent ++ [name]) =
        some (.file old.script))
    (hTable :
      tree.find? (parent ++ [tableNameOf name]) =
        some (.file old.table))
    (contents : Contents) :
    Replaced tree
      (withPair tree parent name (tableNameOf name) contents)
      path old contents where
  script_eq := hRoom.read_script contents
  table_eq := hRoom.read_table hNames contents
  only_two :=
    ⟨_, _, hScript, hTable,
      find?_withPair_tableNameOf tree parent name contents⟩

/-
  Where a script and its table are read, they can be saved
  again.
-/
theorem save_of_read
    (hPaths : tablePathOf path ≠ path)
    {old : Contents}
    (hScript : tree.read path = .ok old.script)
    (hTable : tree.read (tablePathOf path) = .ok old.table)
    {script : Script}
    {contents : Contents}
    (hContents : contentsOf script = .ok contents) :
    ∃ written,
      Session.runOn (save { path, script }) tree =
          (.ok (), written, [saved]) ∧
        Replaced tree written path old contents := by
  rcases exists_hasRoom_of_read hPaths hScript hTable with
    ⟨front, name, parent, hRoom, hNames, hScriptFile,
      hTableFile⟩
  have hWrite := writeContents_of_hasRoom hRoom contents []
  have hSave :
      (save { path, script } : Session _)
          { tree, events := [] } =
        (.ok (),
          { tree :=
              withPair tree parent name (tableNameOf name)
                contents
            events := [saved] }) := by
    simp only [save, writeFiles, hContents,
      Session.bind_apply, hWrite, Session.pure_apply]
    rfl
  refine
    ⟨withPair tree parent name (tableNameOf name) contents,
      Session.runOn_eq_of_apply hSave, ?_⟩
  exact
    replaced_withPair hRoom hNames hScriptFile hTableFile
      contents

end Writing

------------------------------------------------------------
-- Loading
------------------------------------------------------------

/- What is read from the contents of two files. -/
def ofContents
    (path : Path)
    (requireEnd : Bool)
    (contents : Contents) : Except Error Document :=
  match
    Script.decode contents.script (.decode contents.table)
      requireEnd with
  | .error error => .error (.decode error)
  | .ok script => .ok { path, script }

/- A document is read where its script is decoded. -/
theorem ofContents_eq_ok_iff
    {path : Path}
    {requireEnd : Bool}
    {contents : Contents}
    {document : Document} :
    ofContents path requireEnd contents = .ok document ↔
      ∃ script,
        Script.decode contents.script
            (.decode contents.table) requireEnd =
          .ok script ∧
          document = { path, script } := by
  unfold ofContents
  cases
    Script.decode contents.script (.decode contents.table)
      requireEnd <;>
    simp [eq_comm]

/- Decoding a table leaves the tree alone. -/
theorem decodeTable_apply
    (bytes : List UInt8)
    (tree : FileTree)
    (events : List Event) :
    ∃ later,
      (decodeTable bytes : Session _) { tree, events } =
        (LineTable.decode bytes,
          { tree, events := later }) := by
  unfold decodeTable
  cases hWellFormed : ShiftJis.isWellFormed bytes with
  | true => exact ⟨events, rfl⟩
  | false => exact ⟨malformedTable :: events, rfl⟩

/- Loading reads both files and leaves the tree alone. -/
theorem load_apply
    {path : Path}
    {tree : FileTree}
    (contents : Contents)
    (hScript : tree.read path = .ok contents.script)
    (hTable :
      tree.read (tablePathOf path) = .ok contents.table)
    (requireEnd : Bool)
    (events : List Event) :
    ∃ later,
      (load path requireEnd : Session _) { tree, events } =
        (ofContents path requireEnd contents,
          { tree, events := later }) := by
  rcases decodeTable_apply contents.table tree events with
    ⟨later, hDecode⟩
  refine ⟨later, ?_⟩
  simp only [load, Session.bind_apply, Session.read_apply,
    hTable, hDecode, hScript, ofContents]
  cases
    Script.decode contents.script (.decode contents.table)
      requireEnd <;>
    rfl

/- A document is loaded where its script is decoded. -/
theorem runOn_load_of_decode
    {path : Path}
    {tree : FileTree}
    (contents : Contents)
    (hScript : tree.read path = .ok contents.script)
    (hTable :
      tree.read (tablePathOf path) = .ok contents.table)
    {requireEnd : Bool}
    {script : Script}
    (hDecode :
      Script.decode contents.script
          (.decode contents.table) requireEnd =
        .ok script) :
    (Session.runOn (load path requireEnd) tree).1 =
      .ok { path, script } := by
  rcases load_apply contents hScript hTable requireEnd []
    with ⟨later, hLoad⟩
  rw [Session.runOn_eq_of_apply hLoad, ofContents, hDecode]

/- A document that was loaded comes from two files. -/
theorem exists_contents_of_load
    {path : Path}
    {requireEnd : Bool}
    {tree : FileTree}
    {document : Document}
    (hLoad :
      (Session.runOn (load path requireEnd) tree).1 =
        .ok document) :
    ∃ contents : Contents,
      tree.read path = .ok contents.script ∧
        tree.read (tablePathOf path) = .ok contents.table ∧
        ofContents path requireEnd contents =
          .ok document := by
  have hApply :
      ((load path requireEnd : Session _)
          { tree, events := [] }).1 =
        .ok document :=
    hLoad
  cases hTable : tree.read (tablePathOf path) with
  | error fault =>
      simp only [load, Session.bind_apply,
        Session.read_apply, hTable, Session.pure_apply,
        reduceCtorEq] at hApply
  | ok table =>
      rcases decodeTable_apply table tree [] with
        ⟨later, hDecode⟩
      cases hScript : tree.read path with
      | error fault =>
          simp only [load, Session.bind_apply,
            Session.read_apply, hTable, hDecode, hScript,
            Session.pure_apply, reduceCtorEq] at hApply
      | ok script =>
          refine ⟨{ script, table }, rfl, rfl, ?_⟩
          rcases load_apply { script, table } hScript hTable
              requireEnd [] with
            ⟨_, hContents⟩
          rw [hContents] at hApply
          exact hApply

end Document

end SceneScript
