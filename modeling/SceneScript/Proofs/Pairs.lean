import SceneScript.Proofs.Rewriting
import SceneScript.Proofs.Undoing

/-
  Which saved scripts can be loaded again.

  Key definitions include:
    * `Document.Holds`

  Correctness is stated by:
    * `Document.contentsOf_eq_ok_iff`
    * `Document.HasRoom.holds`
    * `Document.script_eq_table_iff`
    * `Document.save_holds_iff`

  Both files of a script stand in one directory, the table
  under a name that is made from the name of the script.  If
  the script already has the extension of tables, both names
  are the same, and the script is moved over its own table.
-/

namespace SceneScript

------------------------------------------------------------
-- Scripts and Tables
------------------------------------------------------------

/- The bytes of a script hold its markers. -/
theorem Spells.numberSign_mem
    {table : LineTable}
    {script : Script}
    {bytes : List UInt8}
    (hSpells : Spells table script bytes)
    (hScript : script ≠ []) :
    '#' ∈ ShiftJis.decode bytes := by
  have hMarker : ShiftJis.single? 0x23 = some '#' := by
    decide
  cases script with
  | nil => exact (hScript rfl).elim
  | cons command later =>
      rcases Spells.cons_iff.mp hSpells with
        ⟨segment, rest, hSegment, _, rfl⟩
      have hFront : ∃ payload, segment = 0x23 :: payload := by
        cases hSegment <;> exact ⟨_, rfl⟩
      rcases hFront with ⟨payload, rfl⟩
      rw [List.cons_append, ShiftJis.decode,
        ShiftJis.units_cons_of_single? hMarker]
      simp

namespace Document

/- What is written for a script is what it encodes to. -/
theorem contentsOf_eq_ok_iff
    {script : Script}
    {contents : Contents} :
    contentsOf script = .ok contents ↔
      script.EncodesTo contents.script contents.table := by
  unfold contentsOf Script.EncodesTo
  cases script.encode with
  | error error =>
      simp [bind, Except.bind, Except.mapError]
  | ok encoded =>
      simp only [bind, Except.bind, Except.mapError,
        Except.ok.injEq, exists_eq_left']
      cases encoded.table.encode with
      | error error => simp
      | ok table =>
          obtain ⟨bytes, tableBytes⟩ := contents
          simp [pure, Except.pure]

/-
  Only without commands is a script written like its table.
  The marker of a command is no character of a table file.
-/
theorem script_eq_table_iff
    {script : Script}
    {contents : Contents}
    (hContents : contentsOf script = .ok contents) :
    contents.script = contents.table ↔ script = [] := by
  rcases contentsOf_eq_ok_iff.mp hContents with
    ⟨encoded, hEncode, hBytes, hTable⟩
  constructor
  · intro hSame
    by_contra hScript
    have hMarker :=
      (Script.spells_of_encode hEncode).numberSign_mem
        hScript
    rw [hBytes, hSame] at hMarker
    rcases LineTable.exists_storedChar_of_mem_decode hTable
        (by decide) hMarker with
      ⟨c, hStored⟩
    exact Width.storedChar_ne_numberSign c hStored.symm
  · rintro rfl
    cases hContents
    rfl

------------------------------------------------------------
-- Held Scripts
------------------------------------------------------------

/-
  A tree holds a script at a path.  The two files are what the
  script encodes to, and the script is loaded from them in its
  disk form.
-/
structure Holds
    (tree : FileTree)
    (path : Path)
    (script : Script) : Prop where
  files :
    ∃ contents : Contents,
      script.EncodesTo contents.script contents.table ∧
        tree.read path = .ok contents.script ∧
        tree.read (tablePathOf path) = .ok contents.table
  load_eq :
    (Session.runOn (load path false) tree).1 =
      .ok { path, script := script.onDisk }

variable {path : Path}
variable {script : Script}
variable {contents : Contents}

/- A tree with both files of a script holds the script. -/
theorem holds_of_read
    {tree : FileTree}
    (hContents : contentsOf script = .ok contents)
    (hScript : tree.read path = .ok contents.script)
    (hTable :
      tree.read (tablePathOf path) = .ok contents.table) :
    Holds tree path script := by
  have hEncodes := contentsOf_eq_ok_iff.mp hContents
  have ⟨encoded, hEncode, hBytes, hLines⟩ := hEncodes
  have hDecode := Script.decode_files_of_encode hEncode hLines
  rw [hBytes] at hDecode
  exact
    ⟨⟨contents, hEncodes, hScript, hTable⟩,
      runOn_load_of_decode contents hScript hTable hDecode⟩

/- The two files of a held script are read. -/
theorem Holds.read_eq
    {tree : FileTree}
    (hHolds : Holds tree path script)
    (hContents : contentsOf script = .ok contents) :
    tree.read path = .ok contents.script ∧
      tree.read (tablePathOf path) = .ok contents.table := by
  rcases hHolds.files with ⟨held, hHeld, hScript, hTable⟩
  rw [contentsOf_eq_ok_iff.mpr hHeld] at hContents
  cases hContents
  exact ⟨hScript, hTable⟩

section Written

variable {tree : FileTree}
variable {front name : Text}
variable {parent : Location}

/- Nothing but the two places of a script is changed. -/
theorem HasRoom.find?_eq_of_locate_ne
    (hRoom : HasRoom tree path front name parent)
    (contents : Contents)
    {location : Location} :
    let written :=
      withPair tree parent name (tableNameOf name) contents
    written.locate path ≠ .ok location →
      written.locate (tablePathOf path) ≠ .ok location →
        written.find? location = tree.find? location := by
  intro written hScript hTable
  have hFind :=
    find?_withPair_tableNameOf tree parent name contents
  have hWritten := hRoom.congr (hRoom.sameDirectories contents)
  have hScriptAt :=
    FileTree.locate_of_leadsTo hWritten.endsIn hWritten.isName
      hWritten.leadsTo (by rw [hFind, if_pos rfl]; simp)
  have hTableAt :=
    FileTree.locate_of_leadsTo hWritten.endsIn_tablePath
      hWritten.isTableName hWritten.leadsTo
      (by rw [hFind]; split <;> simp)
  rw [hFind, if_neg, if_neg]
  · rintro rfl
    exact hTable hTableAt
  · rintro rfl
    exact hScript hScriptAt

/- A script that is not its own table is held. -/
theorem HasRoom.holds
    (hRoom : HasRoom tree path front name parent)
    (hNames : tableNameOf name ≠ name)
    (hContents : contentsOf script = .ok contents) :
    Holds
      (withPair tree parent name (tableNameOf name) contents)
      path script :=
  holds_of_read hContents (hRoom.read_script contents)
    (hRoom.read_table hNames contents)

/-
  A script that is its own table is held only where both are
  written alike.
-/
theorem HasRoom.holds_iff_of_same_name
    (hRoom : HasRoom tree path front name parent)
    (hNames : tableNameOf name = name)
    (hContents : contentsOf script = .ok contents) :
    Holds
        (withPair tree parent name (tableNameOf name)
          contents)
        path script ↔
      contents.script = contents.table := by
  have hRead := hRoom.read_script contents
  have hPaths : tablePathOf path = path := by
    have hText : (tablePathOf path).text = path.text := by
      rw [hRoom.endsIn_tablePath.text_eq, hNames,
        hRoom.endsIn.text_eq]
    exact congrArg Path.mk hText
  constructor
  · intro hHolds
    have hTable := (hHolds.read_eq hContents).2
    rw [hPaths, hRead] at hTable
    exact Except.ok.inj hTable
  · intro hSame
    apply holds_of_read hContents hRead
    rw [hPaths, hRead, hSame]

end Written

------------------------------------------------------------
-- Saved Scripts
------------------------------------------------------------

/- Where a script was saved, there was room for it. -/
theorem exists_hasRoom_of_save
    {tree written : FileTree}
    {events : List Event}
    (hSave :
      Session.runOn (save { path, script }) tree =
        (.ok (), written, events)) :
    ∃ contents front name parent,
      contentsOf script = .ok contents ∧
        HasRoom tree path front name parent ∧
        written =
          withPair tree parent name (tableNameOf name)
            contents := by
  have hWrite := Session.apply_of_runOn_eq hSave
  rcases writeFiles_cases path script tree [] with
    ⟨contents, front, name, parent, hContents, hRoom, hOk⟩ |
      ⟨_, _, _, hError, _⟩
  · have hState := Prod.mk.inj (hOk.symm.trans hWrite)
    have hTree := congrArg SessionState.tree hState.2
    exact
      ⟨contents, front, name, parent, hContents, hRoom,
        hTree.symm⟩
  · have hState := Prod.mk.inj (hError.symm.trans hWrite)
    cases hState.1

/-
  Where a script was saved, only its two places are changed.
  The tree then holds the script, unless the path has the
  extension of tables.  In that case the script stands where
  its table should be, and only a script without commands can
  be loaded again.
-/
theorem save_holds_iff
    {tree written : FileTree}
    {events : List Event}
    (hSave :
      Session.runOn (save { path, script }) tree =
        (.ok (), written, events)) :
    (∀ location,
      written.locate path ≠ .ok location →
        written.locate (tablePathOf path) ≠ .ok location →
          written.find? location = tree.find? location) ∧
      (Holds written path script ↔
        path.extension? ≠ some tableExtension ∨
          script = []) := by
  rcases exists_hasRoom_of_save hSave with
    ⟨contents, front, name, parent, hContents, hRoom, rfl⟩
  refine
    ⟨fun _ => hRoom.find?_eq_of_locate_ne contents, ?_⟩
  have hSame :
      tableNameOf name = name ↔
        path.extension? = some tableExtension := by
    rw [hRoom.endsIn.extension?_eq hRoom.isName,
      tableNameOf_eq_self_iff hRoom.isTableName]
  rw [Ne, ← hSame]
  by_cases hNames : tableNameOf name = name
  · rw [hRoom.holds_iff_of_same_name hNames hContents,
      script_eq_table_iff hContents]
    simp [hNames]
  · have hHolds := hRoom.holds hNames hContents
    simp [hNames, hHolds]

/-
  A name with two dots loses what is behind the last one, and
  the table of another script beside it is left alone.
-/
theorem save_holds_iff_two_dots :
    ∃ (path : Path)
      (script : Script)
      (tree written : FileTree),
      path = .ofString "a.b.c" ∧
        script = [.dialogue (.ofJoined ['Ａ']), .finish] ∧
        tree.find? [['a', '.', 'h', 't', 'x']] =
          some (.file [0x82, 0x61]) ∧
        Session.runOn (save { path, script }) tree =
          (.ok (), written, [saved]) ∧
        tablePathOf path = .ofString "a.b.htx" ∧
        Holds written path script ∧
        written.find? [['a', '.', 'h', 't', 'x']] =
          some (.file [0x82, 0x61]) := by
  let path : Path := .ofString "a.b.c"
  let script : Script :=
    [.dialogue (.ofJoined ['Ａ']), .finish]
  let tree : FileTree :=
    { entries :=
        [([['a', '.', 'h', 't', 'x']],
          .file [0x82, 0x61])] }
  have hSaves :
      (Session.runOn (save { path, script }) tree).1 =
        .ok () := by
    decide +kernel
  have hReports :
      (Session.runOn (save { path, script }) tree).2.2 =
        [saved] := by
    decide +kernel
  rcases Session.exists_runOn_eq hSaves hReports with
    ⟨written, hSave⟩
  have hPlaces :
      ((Session.runOn (save { path, script }) tree).2.1.locate
            path =
          .ok [['a', '.', 'b', '.', 'c']]) ∧
        (Session.runOn (save { path, script })
              tree).2.1.locate (tablePathOf path) =
          .ok [['a', '.', 'b', '.', 'h', 't', 'x']] := by
    decide +kernel
  rw [hSave] at hPlaces
  have hHolds := save_holds_iff hSave
  refine
    ⟨path, script, tree, written, rfl, rfl, rfl, hSave,
      by decide, hHolds.2.mpr (.inl (by decide)), ?_⟩
  rw [hHolds.1 [['a', '.', 'h', 't', 'x']]
    (by rw [hPlaces.1]; decide) (by rw [hPlaces.2]; decide)]
  rfl

/-
  A script with the extension of tables is saved, but its
  table is gone.  It is loaded with its own bytes as text.
-/
theorem not_holds_of_table_extension :
    ∃ (path : Path)
      (script : Script)
      (tree written : FileTree),
      path = .ofString "a.htx" ∧
        script = [.dialogue (.ofJoined ['A']), .finish] ∧
        Session.runOn (save { path, script }) tree =
          (.ok (), written, [saved]) ∧
        written.read (tablePathOf path) =
          .ok [0x23, 0x00, 0x00, 0x00, 0x23, 0xFE] ∧
        (Session.runOn (load path false) written).1 =
          .ok
            { path
              script :=
                [.dialogue
                    (.ofJoined
                      ['#', '\x00', '\x00', '\x00', '#',
                        '\uFFFD']),
                  .finish] } ∧
        ¬Holds written path script := by
  let path : Path := .ofString "a.htx"
  let script : Script :=
    [.dialogue (.ofJoined ['A']), .finish]
  let other : Script :=
    [.dialogue
        (.ofJoined
          ['#', '\x00', '\x00', '\x00', '#', '\uFFFD']),
      .finish]
  let tree : FileTree := { entries := [] }
  have hSaves :
      (Session.runOn (save { path, script }) tree).1 =
        .ok () := by
    decide +kernel
  have hReports :
      (Session.runOn (save { path, script }) tree).2.2 =
        [saved] := by
    decide +kernel
  have hLoad :
      (Session.runOn (load path false)
          (Session.runOn (save { path, script })
            tree).2.1).1 =
        .ok { path, script := other } := by
    decide +kernel
  have hRead :
      (Session.runOn (save { path, script })
          tree).2.1.read (tablePathOf path) =
        .ok [0x23, 0x00, 0x00, 0x00, 0x23, 0xFE] := by
    decide +kernel
  rcases Session.exists_runOn_eq hSaves hReports with
    ⟨written, hSave⟩
  rw [hSave] at hLoad hRead
  refine
    ⟨path, script, tree, written, rfl, rfl, hSave, hRead,
      hLoad, ?_⟩
  intro hHolds
  have hSame := hHolds.load_eq.symm.trans hLoad
  have hOther : script.onDisk ≠ other := by
    decide +kernel
  exact hOther (congrArg Document.script (Except.ok.inj hSame))

end Document

end SceneScript
