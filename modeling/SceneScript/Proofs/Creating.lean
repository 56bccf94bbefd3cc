import SceneScript.Cli.Run
import SceneScript.Proofs.Undoing

/-
  Building a script from JSON does not replace anything.

  Key definitions include:
    * `Session.KeepsTree`
    * `Document.Created`

  Correctness is stated by:
    * `Session.keepsTree_forIn`
    * `Document.HasRoom.created`
    * `Cli.firstTaken?_apply`
    * `Cli.create_cases`
    * `Cli.build_cases`
    * `Cli.build_replaces_nothing`

  Unless overwriting is allowed, nothing may be where the two
  files of the script would stand.  Whether something is there
  is asked of the same paths that the files are moved to, so
  that a save that goes through finds both places empty.
-/

namespace SceneScript

------------------------------------------------------------
-- Programs That Only Report
------------------------------------------------------------

namespace Session

variable {α β : Type}

/- A program leaves the tree as it is. -/
def KeepsTree (program : Session α) : Prop :=
  ∀ state, (program state).2.tree = state.tree

/- A program that does nothing keeps the tree. -/
theorem keepsTree_pure (value : α) :
    KeepsTree (pure value) :=
  fun _ => rfl

/- Reporting keeps the tree. -/
theorem keepsTree_report (event : Event) :
    KeepsTree (Storage.report event) :=
  fun _ => rfl

/- Programs that keep the tree keep it one after the other. -/
theorem KeepsTree.bind
    {program : Session α}
    {next : α → Session β}
    (hProgram : KeepsTree program)
    (hNext : ∀ value, KeepsTree (next value)) :
    KeepsTree (program >>= next) := by
  intro state
  rw [bind_apply, hNext _ _, hProgram state]

/- A loop keeps the tree if each of its rounds does. -/
theorem keepsTree_forIn
    {step : α → β → Session (ForInStep β)}
    (hStep : ∀ item value, KeepsTree (step item value))
    (items : List α)
    (start : β) :
    KeepsTree (forIn items start step) := by
  induction items generalizing start with
  | nil => exact keepsTree_pure start
  | cons item rest ih =>
      rw [List.forIn_cons]
      apply (hStep item start).bind
      intro outcome
      cases outcome with
      | done value => exact keepsTree_pure value
      | yield value => exact ih value

end Session

------------------------------------------------------------
-- New Files
------------------------------------------------------------

namespace FileTree

variable {tree : FileTree}

/- A path that leads nowhere leaves its place empty. -/
theorem find?_eq_none_of_contains
    {path : Path}
    {front name : Text}
    {parent : Location}
    (hEnds : path.EndsIn front name)
    (hName : Path.IsName name)
    (hLeads : tree.LeadsTo front parent)
    (hFree : tree.contains path = false) :
    tree.find? (parent ++ [name]) = none := by
  by_contra hFound
  rw [contains, locate_of_leadsTo hEnds hName hLeads hFound]
    at hFree
  cases hFree

end FileTree

namespace Document

/-
  A tree has the two files of a script where its path and that
  of its table lead.  Nothing was there before, and nothing
  else is different.
-/
structure Created
    (tree written : FileTree)
    (path : Path)
    (contents : Contents)
    (scriptAt tableAt : Location) : Prop where
  locate_script : written.locate path = .ok scriptAt
  locate_table :
    written.locate (tablePathOf path) = .ok tableAt
  script_absent : tree.find? scriptAt = none
  table_absent : tree.find? tableAt = none
  find?_eq :
    ∀ location,
      written.find? location =
        if location = scriptAt then
          some (.file contents.script)
        else if location = tableAt then
          some (.file contents.table)
        else
          tree.find? location

/- What a tree has stays there when files are created. -/
theorem Created.find?_of_ne_none
    {tree written : FileTree}
    {path : Path}
    {contents : Contents}
    {scriptAt tableAt location : Location}
    (hCreated :
      Created tree written path contents scriptAt tableAt)
    (hFound : tree.find? location ≠ none) :
    written.find? location = tree.find? location := by
  rw [hCreated.find?_eq, if_neg, if_neg]
  · rintro rfl
    exact hFound hCreated.table_absent
  · rintro rfl
    exact hFound hCreated.script_absent

/-
  Files that are moved to paths that lead nowhere are new
  ones.
-/
theorem HasRoom.created
    {tree : FileTree}
    {path : Path}
    {front name : Text}
    {parent : Location}
    (hRoom : HasRoom tree path front name parent)
    (hScript : tree.contains path = false)
    (hTable : tree.contains (tablePathOf path) = false)
    (contents : Contents) :
    Created tree
      (withPair tree parent name (tableNameOf name) contents)
      path contents (parent ++ [name])
      (parent ++ [tableNameOf name]) := by
  have hFind :=
    find?_withPair_tableNameOf tree parent name contents
  have hWritten := hRoom.congr (hRoom.sameDirectories contents)
  refine ⟨?_, ?_, ?_, ?_, hFind⟩
  · apply
      FileTree.locate_of_leadsTo hWritten.endsIn
        hWritten.isName hWritten.leadsTo
    rw [hFind, if_pos rfl]
    simp
  · apply
      FileTree.locate_of_leadsTo hWritten.endsIn_tablePath
        hWritten.isTableName hWritten.leadsTo
    rw [hFind]
    split <;> simp
  · exact
      FileTree.find?_eq_none_of_contains hRoom.endsIn
        hRoom.isName hRoom.leadsTo hScript
  · exact
      FileTree.find?_eq_none_of_contains
        hRoom.endsIn_tablePath hRoom.isTableName
        hRoom.leadsTo hTable

end Document

------------------------------------------------------------
-- Building
------------------------------------------------------------

namespace Cli

/- The first taken path is searched for in the tree. -/
theorem firstTaken?_apply
    (paths : List Path)
    (state : SessionState) :
    (firstTaken? paths : Session _) state =
      (paths.find? state.tree.contains, state) := by
  induction paths with
  | nil => rfl
  | cons path rest ih =>
      rw [firstTaken?, Session.bind_apply]
      simp only [Storage.contains]
      by_cases hTaken : state.tree.contains path = true
      · rw [if_pos hTaken, List.find?_cons_of_pos hTaken]
        rfl
      · rw [if_neg hTaken, List.find?_cons_of_neg hTaken, ih]

/- Warning about the width of a box keeps the tree. -/
theorem keepsTree_reportWidth
    (index : Nat)
    (command : Command) :
    Session.KeepsTree (reportWidth index command) := by
  unfold reportWidth
  split
  · split
    · exact Session.keepsTree_report _
    · exact Session.keepsTree_pure ()
  · exact Session.keepsTree_pure ()

/- Warning about a script keeps the tree. -/
theorem keepsTree_reportScript (script : Script) :
    Session.KeepsTree (reportScript script) := by
  unfold reportScript
  refine Session.KeepsTree.bind ?_ fun _ => ?_
  · apply Session.keepsTree_forIn
    intro item value
    exact
      (keepsTree_reportWidth item.2 item.1).bind fun _ =>
        Session.keepsTree_pure _
  · split
    · exact Session.keepsTree_report _
    · exact Session.keepsTree_pure _

/-
  Creating a script ends in one of two ways.  Either both its
  files are new, or the tree is as it was.
-/
theorem create_cases
    (document : Document)
    (tree : FileTree)
    (events : List Event) :
    (∃ contents scriptAt tableAt written later,
      Document.contentsOf document.script = .ok contents ∧
        Document.Created tree written document.path contents
          scriptAt tableAt ∧
        (create document false : Session _)
            { tree, events } =
          (.ok [], { tree := written, events := later })) ∨
      ∃ failure written later,
        (create document false : Session _)
            { tree, events } =
            (.error failure,
              { tree := written, events := later }) ∧
          FileTree.Alike written tree := by
  simp only [create, Session.bind_apply, firstTaken?_apply,
    Bool.false_eq_true, ↓reduceIte]
  cases hTaken :
      [document.path, document.tablePath].find?
        tree.contains with
  | some path =>
      exact .inr ⟨_, tree, events, rfl, .refl tree⟩
  | none =>
      have hFree := List.find?_eq_none.mp hTaken
      have hScript : tree.contains document.path = false := by
        simpa using hFree document.path (by simp)
      have hTable :
          tree.contains document.tablePath = false := by
        simpa using hFree document.tablePath (by simp)
      simp only [Session.bind_apply, Session.report_apply,
        Document.save]
      rcases Document.writeFiles_cases document.path
          document.script tree
          (.info (onFile "creating" document.path) :: events)
        with
        ⟨contents, front, name, parent, hContents, hRoom,
            hOk⟩ |
          ⟨error, written, later, hError, hAlike⟩
      · left
        rw [hOk]
        exact
          ⟨contents, _, _, _, _, hContents,
            hRoom.created hScript hTable contents, rfl⟩
      · right
        rw [hError]
        exact ⟨_, written, later, rfl, hAlike⟩

/- A text is read where a file has it in UTF-8. -/
theorem readText_cases
    (path : Path)
    (tree : FileTree)
    (events : List Event) :
    (∃ bytes text,
      tree.read path = .ok bytes ∧
        String.fromUTF8? (ByteArray.mk bytes.toArray) =
          some text ∧
        (readText path : Session _) { tree, events } =
          (.ok text.toList, { tree, events })) ∨
      ∃ fault,
        (readText path : Session _) { tree, events } =
          (.error fault, { tree, events }) := by
  simp only [readText, Session.bind_apply, Session.read_apply]
  cases hRead : tree.read path with
  | error fault => exact .inr ⟨fault, rfl⟩
  | ok bytes =>
      cases hText :
          String.fromUTF8? (ByteArray.mk bytes.toArray) with
      | none =>
          refine .inr ⟨.invalidUtf8, ?_⟩
          simp only [hText]
          rfl
      | some text =>
          refine .inl ⟨bytes, text, rfl, hText, ?_⟩
          simp only [hText]
          rfl

/- A script in a JSON text is reported on and created. -/
theorem build_apply
    {input : Path}
    {tree : FileTree}
    {text : Text}
    {script : Script}
    {events : List Event}
    (hText :
      (readText input : Session _) { tree, events } =
        (.ok text, { tree, events }))
    (hScript : Script.ofJsonText text = .ok script)
    (file : Path)
    (overwrite : Bool) :
    ∃ later,
      (build input file overwrite : Session _)
          { tree, events } =
        (create { path := file, script } overwrite :
          Session _) { tree, events := later } := by
  have hKeeps := keepsTree_reportScript script { tree, events }
  rcases hReport :
      (reportScript script : Session _) { tree, events } with
    ⟨_, ⟨reported, later⟩⟩
  rw [hReport] at hKeeps
  simp only at hKeeps
  subst hKeeps
  refine ⟨later, ?_⟩
  simp only [build, Session.bind_apply, hText, hScript,
    hReport]

/-
  A run that builds a script ends in one of two ways.  Either
  a script was read from JSON and both its files are new, or
  the tree is as it was.
-/
theorem build_cases
    (input file : Path)
    (tree : FileTree)
    (events : List Event) :
    (∃ bytes text script contents scriptAt tableAt,
      ∃ written later,
        tree.read input = .ok bytes ∧
          String.fromUTF8? (ByteArray.mk bytes.toArray) =
            some text ∧
          Script.ofJsonText text.toList = .ok script ∧
          Document.contentsOf script = .ok contents ∧
          Document.Created tree written file contents
            scriptAt tableAt ∧
          (build input file false : Session _)
              { tree, events } =
            (.ok [],
              { tree := written, events := later })) ∨
      ∃ failure written later,
        (build input file false : Session _)
            { tree, events } =
            (.error failure,
              { tree := written, events := later }) ∧
          FileTree.Alike written tree := by
  rcases readText_cases input tree events with
    ⟨bytes, text, hRead, hUtf8, hText⟩ | ⟨fault, hText⟩
  · cases hScript : Script.ofJsonText text.toList with
    | error fault =>
        refine
          .inr
            ⟨.during (onFile "parsing" input)
                (faultMessage fault),
              tree, events, ?_, .refl tree⟩
        simp only [build, Session.bind_apply, hText, hScript,
          Session.pure_apply]
    | ok script =>
        rcases build_apply hText hScript file false with
          ⟨reported, hBuild⟩
        rw [hBuild]
        rcases create_cases { path := file, script } tree
            reported with
          ⟨contents, scriptAt, tableAt, written, later,
              hContents, hCreated, hOk⟩ |
            hFails
        · exact
            .inl
              ⟨bytes, text, script, contents, scriptAt,
                tableAt, written, later, hRead, hUtf8,
                hScript, hContents, hCreated, hOk⟩
        · exact .inr hFails
  · refine
      .inr
        ⟨.during (onFile "reading" input) fault.message,
          tree, events, ?_, .refl tree⟩
    simp only [build, Session.bind_apply, hText,
      Session.pure_apply]

/-
  Unless overwriting is allowed, building a script leaves
  every file alone.  A run that fails changes nothing at all.
  A run that succeeds has read a script from JSON, and the
  only new files are that script and its table, which stand
  where nothing was before.
-/
theorem build_replaces_nothing
    (tree : FileTree)
    (input file : Path) :
    let ran :=
      Session.runOn (run (.buildScript input file false)) tree
    (∀ location bytes,
      tree.find? location = some (.file bytes) →
        ran.2.1.find? location = some (.file bytes)) ∧
      (∀ failure,
        ran.1 = .error failure →
          ∀ location,
            ran.2.1.find? location = tree.find? location) ∧
      ∀ printed,
        ran.1 = .ok printed →
          ∃ bytes text script contents scriptAt tableAt,
            tree.read input = .ok bytes ∧
              String.fromUTF8? (ByteArray.mk bytes.toArray) =
                some text ∧
              Script.ofJsonText text.toList = .ok script ∧
              Document.contentsOf script = .ok contents ∧
              Document.Created tree ran.2.1 file contents
                scriptAt tableAt := by
  intro ran
  rcases build_cases input file tree [] with
    ⟨bytes, text, script, contents, scriptAt, tableAt,
        written, later, hRead, hText, hScript, hContents,
        hCreated, hOk⟩ |
      ⟨failure, written, later, hError, hAlike⟩
  · have hRan : ran = (.ok [], written, later.reverse) :=
      Session.runOn_eq_of_apply hOk
    rw [hRan]
    refine ⟨?_, fun _ hFails => ?_, fun _ _ => ?_⟩
    · intro location old hOld
      rw [← hOld]
      exact hCreated.find?_of_ne_none (by simp [hOld])
    · cases hFails
    · exact
        ⟨bytes, text, script, contents, scriptAt, tableAt,
          hRead, hText, hScript, hContents, hCreated⟩
  · have hRan :
        ran = (.error failure, written, later.reverse) :=
      Session.runOn_eq_of_apply hError
    rw [hRan]
    refine ⟨?_, fun _ _ => hAlike, fun _ hSucceeds => ?_⟩
    · intro location old hOld
      rw [← hOld]
      exact hAlike location
    · cases hSucceeds

/-
  The place of a table is taken, so that its script is not
  built.  The same script is built under another name.
-/
theorem build_replaces_nothing_beside_table :
    ∃ (tree failed made : FileTree)
      (input taken free : Path)
      (contents : Document.Contents)
      (scriptAt tableAt : Location),
      taken = .ofString "b.scr" ∧
        free = .ofString "a.scr" ∧
        tree.find? [['b', '.', 'h', 't', 'x']] =
          some (.file [0x41]) ∧
        Session.runOn (run (.buildScript input taken false))
            tree =
          (.error (.plain "b.htx already exists"), failed,
            []) ∧
        (∀ location,
          failed.find? location = tree.find? location) ∧
        Session.runOn (run (.buildScript input free false))
            tree =
          (.ok [], made,
            [.info "creating a.scr", Document.saved]) ∧
        made.find? [['b', '.', 'h', 't', 'x']] =
          some (.file [0x41]) ∧
        Document.Created tree made free contents scriptAt
          tableAt := by
  let json : String := "[[\"dialogue\",[\"A\"]],[\"end\"]]"
  let tree : FileTree :=
    { entries :=
        [([['j']], .file json.toUTF8.toList),
          ([['b', '.', 'h', 't', 'x']], .file [0x41])] }
  let input : Path := .ofString "j"
  let taken : Path := .ofString "b.scr"
  let free : Path := .ofString "a.scr"
  have hFails :
      (Session.runOn (run (.buildScript input taken false))
          tree).1 =
        .error (.plain "b.htx already exists") := by
    decide +kernel
  have hSilent :
      (Session.runOn (run (.buildScript input taken false))
          tree).2.2 =
        [] := by
    decide +kernel
  have hBuilds :
      (Session.runOn (run (.buildScript input free false))
          tree).1 =
        .ok [] := by
    decide +kernel
  have hReports :
      (Session.runOn (run (.buildScript input free false))
          tree).2.2 =
        [.info "creating a.scr", Document.saved] := by
    decide +kernel
  rcases Session.exists_runOn_eq hFails hSilent with
    ⟨failed, hFailed⟩
  rcases Session.exists_runOn_eq hBuilds hReports with
    ⟨made, hMade⟩
  have hTaken := build_replaces_nothing tree input taken
  have hFree := build_replaces_nothing tree input free
  rw [hFailed] at hTaken
  rw [hMade] at hFree
  rcases hFree.2.2 _ rfl with
    ⟨_, _, _, contents, scriptAt, tableAt, _, _, _, _,
      hCreated⟩
  exact
    ⟨tree, failed, made, input, taken, free, contents,
      scriptAt, tableAt, rfl, rfl, rfl, hFailed,
      hTaken.2.1 _ rfl, hMade, hFree.1 _ _ rfl, hCreated⟩

end Cli

end SceneScript
