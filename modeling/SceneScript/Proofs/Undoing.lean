import Mathlib.Control.Monad.Basic
import SceneScript.Proofs.Saving

/-
  A script is written as a whole or not at all.

  Key definitions include:
    * `FileTree.Alike`
    * `FileTree.restored`
    * `Document.afterSaveAs`

  Correctness is stated by:
    * `FileTree.place_eq_ok_iff`
    * `FileTree.alike_restored_put`
    * `Document.writeFiles_cases`
    * `Document.save_error_changes_nothing`

  Every way out of writing a script is followed once.  Where
  both files come to their places, the paths had room for
  them.  Everywhere else the tree is what it was, also where
  the table was moved already and has to be put back.
-/

namespace SceneScript

------------------------------------------------------------
-- Alike Trees
------------------------------------------------------------

namespace FileTree

variable {tree other : FileTree}

/- Two trees have the same entry at every location. -/
def Alike (tree other : FileTree) : Prop :=
  ∀ location, tree.find? location = other.find? location

/- A tree is alike to itself. -/
theorem Alike.refl (tree : FileTree) : Alike tree tree :=
  fun _ => rfl

/- Being alike goes both ways. -/
theorem Alike.symm
    (hAlike : Alike tree other) :
    Alike other tree :=
  fun location => (hAlike location).symm

/- Being alike carries over. -/
theorem Alike.trans
    {last : FileTree}
    (hFirst : Alike tree other)
    (hSecond : Alike other last) :
    Alike tree last :=
  fun location =>
    (hFirst location).trans (hSecond location)

/- Alike trees have the same directories. -/
theorem Alike.sameDirectories
    (hAlike : Alike tree other) :
    SameDirectories tree other := by
  intro location
  rw [hAlike location]

/- Alike trees stay alike when both lose a location. -/
theorem Alike.erase
    (hAlike : Alike tree other)
    {erased : Location}
    (hRoot : erased ≠ []) :
    Alike (tree.erase erased) (other.erase erased) := by
  intro location
  rw [find?_erase _ _ _ hRoot, find?_erase _ _ _ hRoot,
    hAlike location]

/- A staged file that is discarded leaves nothing behind. -/
theorem alike_erase_withStaged
    (tree : FileTree)
    (parent : Location)
    (bytes : List UInt8) :
    Alike
      ((tree.withStaged parent bytes).erase
        (parent ++ [tree.freshName]))
      tree := by
  intro location
  rw [find?_erase _ _ _ (by simp), find?_withStaged]
  split
  · rename_i hHere
    rw [hHere, find?_freshName]
  · rfl

/- Two staged files that are discarded leave nothing behind. -/
theorem alike_erase_erase_withStaged
    (tree : FileTree)
    (parent otherParent : Location)
    (bytes otherBytes : List UInt8) :
    let first := tree.withStaged parent bytes
    Alike
      (((first.withStaged otherParent otherBytes).erase
          (otherParent ++ [first.freshName])).erase
        (parent ++ [tree.freshName]))
      tree := by
  intro first
  have hSecond :=
    alike_erase_withStaged first otherParent otherBytes
  exact
    (hSecond.erase (by simp)).trans
      (alike_erase_withStaged tree parent bytes)

/-
  A tree in which a location has its earlier contents again,
  or nothing if there were none.
-/
def restored
    (tree : FileTree)
    (location : Location)
    (previous? : Option (List UInt8)) : FileTree :=
  match previous? with
  | some bytes => tree.put location (.file bytes)
  | none => tree.erase location

/- Restoring what was overwritten gives the tree from before. -/
theorem alike_restored_put
    {location : Location}
    (hRoot : location ≠ [])
    {previous? : Option (List UInt8)}
    (hPrevious :
      tree.find? location = previous?.map Entry.file)
    (entry : Entry) :
    Alike ((tree.put location entry).restored location previous?)
      tree := by
  intro place
  cases previous? with
  | some bytes =>
      rw [restored, find?_put _ _ _ _ hRoot,
        find?_put _ _ _ _ hRoot]
      split
      · rename_i hHere
        rw [hHere, hPrevious]
        rfl
      · rfl
  | none =>
      rw [restored, find?_erase _ _ _ hRoot,
        find?_put _ _ _ _ hRoot]
      split
      · rename_i hHere
        rw [hHere, hPrevious]
        rfl
      · rfl

------------------------------------------------------------
-- Operations on Files
------------------------------------------------------------

section Operations

variable {path : Path}
variable {front name : Text}
variable {parent : Location}

/- What is read at a place that is no directory. -/
theorem map_toOption_read
    (hEnds : path.EndsIn front name)
    (hName : Path.IsName name)
    (hLeads : tree.LeadsTo front parent)
    (hFile :
      tree.find? (parent ++ [name]) ≠ some .directory) :
    (tree.read path).toOption.map Entry.file =
      tree.find? (parent ++ [name]) := by
  cases hFound : tree.find? (parent ++ [name]) with
  | none =>
      cases hRead : tree.read path with
      | error fault => rfl
      | ok bytes =>
          rcases read_eq_ok_iff.mp hRead with
            ⟨otherFront, otherName, otherParent, hOther, _,
              hOtherLeads, hOtherFile⟩
          rcases hEnds.unique hOther with ⟨rfl, rfl⟩
          rw [← hLeads.unique hOtherLeads, hFound]
            at hOtherFile
          simp at hOtherFile
  | some entry =>
      cases entry with
      | directory => exact (hFile hFound).elim
      | file bytes =>
          have hRead : tree.read path = .ok bytes :=
            read_eq_ok_iff.mpr
              ⟨front, name, parent, hEnds, hName, hLeads,
                hFound⟩
          rw [hRead]
          rfl

/- A file is written where no directory is. -/
theorem write_of_leadsTo
    (hEnds : path.EndsIn front name)
    (hName : Path.IsName name)
    (hLeads : tree.LeadsTo front parent)
    (hFile :
      tree.find? (parent ++ [name]) ≠ some .directory)
    (bytes : List UInt8) :
    tree.write path bytes =
      .ok (tree.put (parent ++ [name]) (.file bytes)) := by
  unfold write
  rw [target_of_leadsTo hEnds hName hLeads]
  simp [hFile]

/- A file that is there is removed. -/
theorem remove_of_leadsTo
    (hEnds : path.EndsIn front name)
    (hName : Path.IsName name)
    (hLeads : tree.LeadsTo front parent)
    {bytes : List UInt8}
    (hFile :
      tree.find? (parent ++ [name]) = some (.file bytes)) :
    tree.remove path =
      .ok (tree.erase (parent ++ [name])) := by
  have hLocate :=
    locate_of_leadsTo hEnds hName hLeads (by simp [hFile])
  unfold remove
  simp [hLocate, hFile, bind, Except.bind, pure, Except.pure]

/- A file is staged under a fresh name in some directory. -/
theorem exists_of_stage
    {directory : Path}
    {bytes : List UInt8}
    {staged : Staged}
    {stagedTree : FileTree}
    (hStage :
      tree.stage directory bytes = .ok (staged, stagedTree)) :
    ∃ parent,
      staged = .mk (parent ++ [tree.freshName]) bytes ∧
        stagedTree = tree.withStaged parent bytes := by
  unfold stage at hStage
  cases hLocate : tree.locateDirectory directory with
  | error fault =>
      simp [hLocate, bind, Except.bind] at hStage
  | ok parent =>
      simp only [hLocate, bind, Except.bind, pure,
        Except.pure, Except.ok.injEq, Prod.mk.injEq]
        at hStage
      exact ⟨parent, hStage.1.symm, hStage.2.symm⟩

/- A file of a tree that waits under a fresh name. -/
structure IsStaged
    (tree : FileTree)
    (staged : Staged) : Prop where
  exists_freshName :
    ∃ (parent : Location) (earlier : FileTree),
      staged.location = parent ++ [earlier.freshName]
  find?_eq :
    tree.find? staged.location = some (.file staged.bytes)

/- A file that was just staged waits under a fresh name. -/
theorem isStaged_withStaged
    (tree : FileTree)
    (parent : Location)
    (bytes : List UInt8) :
    (tree.withStaged parent bytes).IsStaged
      (.mk (parent ++ [tree.freshName]) bytes) where
  exists_freshName := ⟨parent, tree, rfl⟩
  find?_eq := by
    rw [find?_withStaged, if_pos rfl]

/- A staged file does not wait at the root. -/
theorem IsStaged.location_ne_nil
    {staged : Staged}
    (hStaged : tree.IsStaged staged) :
    staged.location ≠ [] := by
  rcases hStaged.exists_freshName with ⟨_, _, hLocation⟩
  rw [hLocation]
  simp

/-
  A staged file is placed where its path ends in a name and
  no directory is there, and nowhere else.
-/
theorem place_eq_ok_iff
    {staged : Staged}
    {placed : FileTree} :
    tree.place staged path = .ok placed ↔
      ∃ front name parent,
        path.EndsIn front name ∧
          Path.IsName name ∧
          tree.LeadsTo front parent ∧
          tree.find? (parent ++ [name]) ≠
            some .directory ∧
          placed =
            tree.withMoved staged.location
              (parent ++ [name]) staged.bytes := by
  constructor
  · intro hPlace
    unfold place at hPlace
    rcases hTarget : tree.target path with
      fault | ⟨location, slashed⟩
    · simp [hTarget, bind, Except.bind] at hPlace
    · cases slashed with
      | true =>
          simp [hTarget, bind, Except.bind, throw, throwThe,
            MonadExceptOf.throw] at hPlace
      | false =>
          rcases target_eq_ok_iff.mp hTarget with
            ⟨front, name, parent, hEnds, hName, hLeads, rfl⟩
          by_cases hFile :
              tree.find? (parent ++ [name]) =
                some .directory
          · simp [hTarget, hFile, bind, Except.bind, throw,
              throwThe, MonadExceptOf.throw] at hPlace
          · simp only [hTarget, hFile, bind, Except.bind,
              pure, Except.pure, Bool.false_eq_true,
              ↓reduceIte, Except.ok.injEq] at hPlace
            exact
              ⟨front, name, parent, hEnds, hName, hLeads,
                hFile, hPlace.symm⟩
  · rintro
      ⟨front, name, parent, hEnds, hName, hLeads, hFile, rfl⟩
    exact place_of_leadsTo hEnds hName hLeads hFile staged

/- Placing a staged file keeps the directories. -/
theorem IsStaged.sameDirectories
    {staged : Staged}
    (hStaged : tree.IsStaged staged)
    {placed : FileTree}
    (hPlace : tree.place staged path = .ok placed) :
    SameDirectories tree placed := by
  rcases place_eq_ok_iff.mp hPlace with
    ⟨_, _, _, _, _, _, hFile, rfl⟩
  exact
    sameDirectories_withMoved hStaged.location_ne_nil
      (by simp) (ne_directory_of_file hStaged.find?_eq)
      hFile staged.bytes

end Operations

end FileTree

------------------------------------------------------------
-- Refused Operations
------------------------------------------------------------

namespace Session

/- What a run on a tree gives is what its program ends in. -/
theorem apply_of_runOn_eq
    {α : Type}
    {program : Session α}
    {tree written : FileTree}
    {value : α}
    {events : List Event}
    (hRun : runOn program tree = (value, written, events)) :
    program { tree, events := [] } =
      (value, { tree := written, events := events.reverse }) := by
  have hApply :=
    runOn_eq_of_apply (rfl : program { tree, events := [] } = _)
  rw [hRun] at hApply
  cases hApply
  rw [List.reverse_reverse]
  rfl

/- A run ends in some tree besides its result and events. -/
theorem exists_runOn_eq
    {α : Type}
    {program : Session α}
    {tree : FileTree}
    {value : α}
    {events : List Event}
    (hValue : (runOn program tree).1 = value)
    (hEvents : (runOn program tree).2.2 = events) :
    ∃ written, runOn program tree = (value, written, events) := by
  subst hValue hEvents
  exact ⟨_, rfl⟩

end Session

namespace Document

/-
  A tree in which the table of a script was moved gets back
  what stood in its place.
-/
theorem restoreTable_apply
    {tree : FileTree}
    {path : Path}
    {front name : Text}
    {parent : Location}
    {bytes : List UInt8}
    (hEnds : path.EndsIn front name)
    (hName : Path.IsName name)
    (hLeads : tree.LeadsTo front parent)
    (hFile :
      tree.find? (parent ++ [name]) = some (.file bytes))
    (previous? : Option (List UInt8))
    (events : List Event) :
    (restoreTable path previous? : Session _)
        { tree, events } =
      (.ok (),
        { tree := tree.restored (parent ++ [name]) previous?
          events := restoring path :: events }) := by
  cases previous? with
  | some previous =>
      have hWrite :=
        FileTree.write_of_leadsTo hEnds hName hLeads
          (FileTree.ne_directory_of_file hFile) previous
      simp only [restoreTable, Session.bind_apply,
        Session.report_apply, Storage.write, Session.update,
        hWrite]
      rfl
  | none =>
      have hRemove :=
        FileTree.remove_of_leadsTo hEnds hName hLeads hFile
      simp only [restoreTable, Session.bind_apply,
        Session.report_apply, Storage.remove,
        Session.update, hRemove]
      rfl

------------------------------------------------------------
-- Ways Out of Saving
------------------------------------------------------------

section Failing

variable {path : Path}
variable {tree moved : FileTree}

/- A script whose files were both placed had room. -/
theorem exists_hasRoom_of_place
    {table script : FileTree.Staged}
    {placed : FileTree}
    (hStaged : tree.IsStaged table)
    (hTable : tree.place table (tablePathOf path) = .ok moved)
    (hScript : moved.place script path = .ok placed) :
    ∃ front name parent,
      HasRoom tree path front name parent := by
  have hMoved := hStaged.sameDirectories hTable
  rcases FileTree.place_eq_ok_iff.mp hTable with
    ⟨front, tableName, parent, hTableEnds, hTableName,
      hTableLeads, hTableFile, _⟩
  rcases FileTree.place_eq_ok_iff.mp hScript with
    ⟨_, name, _, hEnds, hName, hLeads, hFile, _⟩
  rcases hTableEnds.unique (endsIn_tablePathOf hEnds hName)
    with ⟨rfl, rfl⟩
  have hParent := hLeads.unique (hTableLeads.congr hMoved)
  subst hParent
  exact
    ⟨front, name, _, hEnds, hName, hTableName, hTableLeads,
      mt (hMoved _).mp hFile, hTableFile⟩

/-
  A table that was moved to its place is taken away again, and
  what was there before is put back.
-/
theorem restoreTable_of_place
    {staged : FileTree.Staged}
    (hStaged : tree.IsStaged staged)
    (hPlace :
      tree.place staged (tablePathOf path) = .ok moved)
    (events : List Event) :
    ∃ again,
      (restoreTable (tablePathOf path)
          (tree.read (tablePathOf path)).toOption :
          Session _)
          { tree := moved, events } =
          (.ok (),
            { tree := again
              events :=
                restoring (tablePathOf path) :: events }) ∧
        FileTree.Alike again
          (tree.erase staged.location) := by
  have hMoved := hStaged.sameDirectories hPlace
  have hRoot := hStaged.location_ne_nil
  rcases FileTree.place_eq_ok_iff.mp hPlace with
    ⟨front, name, parent, hEnds, hName, hLeads, hFile, rfl⟩
  have hFound :
      (tree.withMoved staged.location (parent ++ [name])
          staged.bytes).find? (parent ++ [name]) =
        some (.file staged.bytes) := by
    rw [FileTree.find?_withMoved _ hRoot (by simp),
      if_pos rfl]
  refine
    ⟨_,
      restoreTable_apply hEnds hName (hLeads.congr hMoved)
        hFound _ events,
      FileTree.alike_restored_put (by simp) ?_ _⟩
  -- The earlier table was not the staged file, which has the
  -- name of a temporary file.
  have hOther : parent ++ [name] ≠ staged.location := by
    rcases hStaged.exists_freshName with
      ⟨_, earlier, hLocation⟩
    rw [hLocation]
    intro hSame
    exact
      ne_freshName_of_endsIn_tablePathOf hEnds hName earlier
        (List.append_singleton_inj.mp hSame).2
  rw [FileTree.find?_erase _ _ _ hRoot, if_neg hOther]
  exact
    (FileTree.map_toOption_read hEnds hName hLeads
      hFile).symm

/-
  Without room, the staged files of a script do not come to
  their places.  Both are discarded, and a table that was
  moved is taken away.
-/
theorem placeBoth_of_not_hasRoom
    (hRoom :
      ∀ front name parent,
        ¬HasRoom tree path front name parent)
    {table : FileTree.Staged}
    (hTable : tree.IsStaged table)
    (script : FileTree.Staged)
    (hScript : script.location ≠ [])
    (events : List Event) :
    ∃ fault written reported,
      (placeBoth path script table : Session _)
          { tree, events } =
          (.error fault,
            { tree := written, events := reported }) ∧
        FileTree.Alike written
          ((tree.erase table.location).erase
            script.location) := by
  cases hPlace : tree.place table (tablePathOf path) with
  | error fault =>
      refine
        ⟨fault, _, events, ?_, FileTree.Alike.refl _⟩
      simp only [placeBoth, Session.bind_apply,
        Session.read_apply, Session.place_apply, hPlace]
      rfl
  | ok moved =>
      cases hPlaceScript : moved.place script path with
      | ok placed =>
          rcases exists_hasRoom_of_place hTable hPlace
              hPlaceScript with
            ⟨_, _, _, hFits⟩
          exact (hRoom _ _ _ hFits).elim
      | error fault =>
          rcases restoreTable_of_place hTable hPlace events
            with ⟨again, hRestore, hAlike⟩
          refine
            ⟨fault, again.erase script.location,
              restoring (tablePathOf path) :: events, ?_,
              hAlike.erase hScript⟩
          simp only [placeBoth, Session.bind_apply,
            Session.read_apply, Session.place_apply, hPlace,
            hPlaceScript, hRestore]
          rfl

/-
  Without room nothing is written, whether or not both files
  could be staged.
-/
theorem writeContents_of_not_hasRoom
    (hRoom :
      ∀ front name parent,
        ¬HasRoom tree path front name parent)
    (contents : Contents)
    (events : List Event) :
    ∃ fault written reported,
      (writeContents path contents : Session _)
          { tree, events } =
          (.error fault,
            { tree := written, events := reported }) ∧
        FileTree.Alike written tree := by
  cases hScript :
      tree.stage path.directory contents.script with
  | error fault =>
      refine ⟨fault, tree, events, ?_, .refl tree⟩
      simp only [writeContents, Session.bind_apply,
        Session.stage_apply, hScript]
      rfl
  | ok stagedScript =>
      rcases stagedScript with ⟨script, first⟩
      rcases FileTree.exists_of_stage hScript with
        ⟨parent, rfl, rfl⟩
      let first := tree.withStaged parent contents.script
      cases hTable :
          first.stage (tablePathOf path).directory
            contents.table with
      | error fault =>
          refine
            ⟨fault, _, events, ?_,
              FileTree.alike_erase_withStaged tree parent
                contents.script⟩
          simp only [writeContents, Session.bind_apply,
            Session.stage_apply, hScript]
          rw [hTable]
          rfl
      | ok stagedTable =>
          rcases stagedTable with ⟨table, both⟩
          rcases FileTree.exists_of_stage hTable with
            ⟨tableParent, rfl, rfl⟩
          have hSame :
              FileTree.SameDirectories tree
                (first.withStaged tableParent
                  contents.table) :=
            (FileTree.sameDirectories_withStaged tree _ _).trans
              (FileTree.sameDirectories_withStaged first _ _)
          rcases placeBoth_of_not_hasRoom
              (fun _ _ _ hFits =>
                hRoom _ _ _ (hFits.congr hSame.symm))
              (FileTree.isStaged_withStaged first
                tableParent contents.table)
              (.mk (parent ++ [tree.freshName])
                contents.script)
              (by simp) events with
            ⟨fault, written, reported, hPlace, hAlike⟩
          rw [writeContents_of_stage hScript hTable events]
          exact
            ⟨fault, written, reported, hPlace,
              hAlike.trans
                (FileTree.alike_erase_erase_withStaged tree
                  parent tableParent contents.script
                  contents.table)⟩

end Failing

/-
  Writing a script ends in one of two ways.  Either there was
  room for its files, which then stand in their places, or the
  tree is as it was.
-/
theorem writeFiles_cases
    (path : Path)
    (script : Script)
    (tree : FileTree)
    (events : List Event) :
    (∃ contents front name parent,
      contentsOf script = .ok contents ∧
        HasRoom tree path front name parent ∧
        (writeFiles path script : Session _)
            { tree, events } =
          (.ok (),
            { tree :=
                withPair tree parent name (tableNameOf name)
                  contents
              events := saved :: events })) ∨
      ∃ error written reported,
        (writeFiles path script : Session _)
            { tree, events } =
            (.error error,
              { tree := written, events := reported }) ∧
          FileTree.Alike written tree := by
  unfold writeFiles
  cases hContents : contentsOf script with
  | error error =>
      exact .inr ⟨error, tree, events, rfl, .refl tree⟩
  | ok contents =>
      by_cases hRoom :
          ∃ front name parent,
            HasRoom tree path front name parent
      · rcases hRoom with ⟨front, name, parent, hRoom⟩
        have hWrite :=
          writeContents_of_hasRoom hRoom contents events
        refine
          .inl ⟨contents, front, name, parent, rfl, hRoom, ?_⟩
        simp only [Session.bind_apply, hWrite]
        rfl
      · rcases writeContents_of_not_hasRoom
            (fun _ _ _ hFits => hRoom ⟨_, _, _, hFits⟩)
            contents events with
          ⟨fault, written, reported, hWrite, hAlike⟩
        refine
          .inr ⟨.device fault, written, reported, ?_, hAlike⟩
        simp only [Session.bind_apply, hWrite]
        rfl

------------------------------------------------------------
-- Failed Saves
------------------------------------------------------------

/-
  The document in hand after it was to be written to another
  path.
-/
def afterSaveAs
    (document : Document) :
    Except Error Document → Document
  | .ok moved => moved
  | .error _ => document

/- A run that fails to write a script changes nothing. -/
theorem alike_of_writeFiles_eq_error
    {path : Path}
    {script : Script}
    {tree written : FileTree}
    {error : Error}
    {events reported : List Event}
    (hWrite :
      (writeFiles path script : Session _) { tree, events } =
        (.error error,
          { tree := written, events := reported })) :
    FileTree.Alike written tree := by
  rcases writeFiles_cases path script tree events with
    ⟨_, _, _, _, _, _, hOk⟩ |
      ⟨_, _, _, hError, hAlike⟩
  · rw [hOk] at hWrite
    cases hWrite
  · rw [hError] at hWrite
    cases hWrite
    exact hAlike

/- A document is saved under a path as its script is written. -/
theorem saveAs_apply
    (document : Document)
    {path : Path}
    {outcome : Except Error Unit}
    {state next : SessionState}
    (hWrite :
      (writeFiles path document.script : Session _) state =
        (outcome, next)) :
    (document.saveAs path : Session _) state =
      (outcome.map fun () => { document with path }, next) := by
  simp only [saveAs, Session.bind_apply, hWrite]
  rfl

/-
  If a document cannot be saved, neither to its own path nor
  to another one, every location of the tree holds what it
  held before.  The document keeps its path and its script.
-/
theorem save_error_changes_nothing
    (document : Document)
    (tree : FileTree) :
    (∀ error written events,
      Session.runOn document.save tree =
          (.error error, written, events) →
        ∀ location,
          written.find? location = tree.find? location) ∧
      ∀ path error written events,
        Session.runOn (document.saveAs path) tree =
            (.error error, written, events) →
          (∀ location,
            written.find? location = tree.find? location) ∧
            document.afterSaveAs (.error error) =
              document := by
  constructor
  · intro error written events hSave location
    have hWrite := Session.apply_of_runOn_eq hSave
    exact alike_of_writeFiles_eq_error hWrite location
  · intro path error written events hSave
    have hMove := Session.apply_of_runOn_eq hSave
    rcases hWrite :
        (writeFiles path document.script : Session _)
          { tree, events := [] } with
      ⟨outcome, state⟩
    rw [saveAs_apply document hWrite] at hMove
    cases outcome with
    | ok => cases hMove
    | error fault =>
        cases hMove
        exact ⟨alike_of_writeFiles_eq_error hWrite, rfl⟩

/-
  A directory stands in place of the script.  The table was
  moved over the old one when that is noticed, and the old one
  is put back.  Nor can the script move to a directory that is
  missing.
-/
theorem save_error_changes_nothing_after_move :
    ∃ (document : Document)
      (tree saved moved : FileTree)
      (away : Path),
      document.path = .ofString "a.scr" ∧
        away = .ofString "b/a.scr" ∧
        tree.find? [['a', '.', 's', 'c', 'r']] =
          some .directory ∧
        tree.find? [['a', '.', 'h', 't', 'x']] =
          some (.file [0x82, 0x61]) ∧
        Session.runOn document.save tree =
          (.error (.device .isADirectory), saved,
            [restoring (.ofString "a.htx")]) ∧
        (∀ location,
          saved.find? location = tree.find? location) ∧
        Session.runOn (document.saveAs away) tree =
          (.error (.device .notFound), moved, []) ∧
        (∀ location,
          moved.find? location = tree.find? location) ∧
        document.afterSaveAs
            (.error (.device .notFound)) =
          document := by
  let document : Document :=
    { path := .ofString "a.scr"
      script := [.dialogue (.ofJoined ['A']), .finish] }
  let tree : FileTree :=
    { entries :=
        [([['a', '.', 's', 'c', 'r']], .directory),
          ([['a', '.', 'h', 't', 'x']],
            .file [0x82, 0x61])] }
  let away : Path := .ofString "b/a.scr"
  have hFails :
      (Session.runOn document.save tree).1 =
        .error (.device .isADirectory) := by
    decide +kernel
  have hRestores :
      (Session.runOn document.save tree).2.2 =
        [restoring (.ofString "a.htx")] := by
    decide +kernel
  have hFailsAway :
      (Session.runOn (document.saveAs away) tree).1 =
        .error (.device .notFound) := by
    decide +kernel
  have hSilent :
      (Session.runOn (document.saveAs away) tree).2.2 =
        [] := by
    decide +kernel
  rcases Session.exists_runOn_eq hFails hRestores with
    ⟨saved, hSave⟩
  rcases Session.exists_runOn_eq hFailsAway hSilent with
    ⟨moved, hMove⟩
  have hNothing := save_error_changes_nothing document tree
  exact
    ⟨document, tree, saved, moved, away, rfl, rfl, rfl, rfl,
      hSave, hNothing.1 _ _ _ hSave, hMove,
      hNothing.2 _ _ _ _ hMove⟩

end Document

end SceneScript
