import SceneScript.Cli.Run
import SceneScript.Proofs.Pairs

/-
  Many documents that are saved one after the other.

  Key definitions include:
    * `Document.Request`
    * `Document.Attempt`
    * `Document.performAll`
    * `Document.lastSaved?`
    * `Document.Stands`
    * `Document.Keeps`

  Correctness is stated by:
    * `Document.Stands.withPair`
    * `Document.perform_cases`
    * `Document.Keeps.writeFiles`
    * `Document.Keeps.performAll`
    * `Document.performAll_holds_last`

  Scripts with one extension do not share a table, and none of
  them is the table of another one.  A save that succeeds
  leaves all other pairs alone, and one that fails leaves
  everything alone.
-/

namespace SceneScript

namespace Document

------------------------------------------------------------
-- Requests
------------------------------------------------------------

/-
  What may happen to one of several documents.  Its script may
  be changed between two calls that save it.
-/
inductive Request where
| edit (index : Nat) (script : Script)
| save (index : Nat)
| saveAs (index : Nat) (path : Path)

/- A call that saves a script, and what came of it. -/
structure Attempt where
  path : Path
  script : Script
  outcome : Except Error Unit
deriving DecidableEq

section Running

variable {m : Type → Type} [Monad m] [Storage m]

/-
  Perform a request.  Nothing happens where no document has
  its index.  The documents come back with the calls made.
-/
def perform
    (documents : List Document) :
    Request → m (List Document × List Attempt)
| .edit index script =>
    let changed :=
      documents.modify index fun document =>
        { document with script }
    return (changed, [])
| .save index =>
    match documents[index]? with
    | none => return (documents, [])
    | some document => do
        let outcome ← document.save
        let attempt : Attempt :=
          { path := document.path
            script := document.script
            outcome }
        return (documents, [attempt])
| .saveAs index path =>
    match documents[index]? with
    | none => return (documents, [])
    | some document => do
        let moved ← document.saveAs path
        let attempt : Attempt :=
          { path
            script := document.script
            outcome := moved.map fun _ => () }
        let kept := document.afterSaveAs moved
        return (documents.set index kept, [attempt])

/- Perform requests in order. -/
def performAll
    (documents : List Document) :
    List Request → m (List Document × List Attempt)
| [] => return (documents, [])
| request :: rest => do
    let (changed, made) ← perform documents request
    let (final, later) ← performAll changed rest
    return (final, made ++ later)

end Running

/-
  The last call that saved a script where a path leads in a
  tree, which is a name in a directory.
-/
def lastSaved?
    (tree : FileTree)
    (attempts : List Attempt)
    (path : Path) : Option Attempt :=
  (attempts.filter fun attempt =>
    attempt.outcome.isOk ∧
      tree.target attempt.path = tree.target path).getLast?

/- A failed call is not the last one that saved a script. -/
theorem lastSaved?_concat_error
    (tree : FileTree)
    (attempts : List Attempt)
    (target path : Path)
    (script : Script)
    (error : Error) :
    lastSaved? tree
        (attempts ++
          [.mk target script (.error error)])
        path =
      lastSaved? tree attempts path := by
  simp [lastSaved?, Except.isOk, Except.toBool]

/- A call that saved a script is the last one at its place. -/
theorem lastSaved?_concat_ok
    (tree : FileTree)
    (attempts : List Attempt)
    (target path : Path)
    (script : Script) :
    lastSaved? tree
        (attempts ++ [.mk target script (.ok ())]) path =
      if tree.target target = tree.target path then
        some (.mk target script (.ok ()))
      else
        lastSaved? tree attempts path := by
  unfold lastSaved?
  rw [List.filter_append]
  split
  · rename_i hSame
    simp [hSame, Except.isOk, Except.toBool]
  · rename_i hOther
    simp [hOther, Except.isOk, Except.toBool]

/- Where a script was saved, there is a last call that did. -/
theorem exists_lastSaved?
    (tree : FileTree)
    {attempts : List Attempt}
    {attempt : Attempt}
    (hAttempt : attempt ∈ attempts)
    (hSaved : attempt.outcome = .ok ()) :
    ∃ last,
      lastSaved? tree attempts attempt.path = some last := by
  have hMem :
      attempt ∈
        attempts.filter fun other =>
          other.outcome.isOk ∧
            tree.target other.path =
              tree.target attempt.path := by
    rw [List.mem_filter]
    simp [hAttempt, hSaved, Except.isOk, Except.toBool]
  have hNonempty := List.ne_nil_of_mem hMem
  exact ⟨_, List.getLast?_eq_getLast_of_ne_nil hNonempty⟩

------------------------------------------------------------
-- Standing Pairs
------------------------------------------------------------

/-
  The two files of a script stand in a directory.  The name of
  the script has the extension of scripts.
-/
structure Stands
    (tree : FileTree)
    (parent : Location)
    (name : Text)
    (contents : Contents) : Prop where
  isTableName : Path.IsName (tableNameOf name)
  extension_eq :
    (Path.splitName name).2 = some Cli.scriptExtension
  script_eq :
    tree.find? (parent ++ [name]) =
      some (.file contents.script)
  table_eq :
    tree.find? (parent ++ [tableNameOf name]) =
      some (.file contents.table)

/- The name of a table is not that of a script. -/
theorem tableNameOf_ne_of_extension
    {name other : Text}
    (hTable : Path.IsName (tableNameOf name))
    (hOther :
      (Path.splitName other).2 =
        some Cli.scriptExtension) :
    tableNameOf name ≠ other := by
  rw [tableNameOf_of_isName hTable,
    Path.eq_append_of_splitName hOther]
  intro hSame
  have hEnds := (List.append_inj' hSame rfl).2
  exact absurd hEnds (by decide)

section Standing

variable {tree now : FileTree}
variable {path : Path}
variable {front name otherName : Text}
variable {parent otherParent : Location}
variable {contents : Contents}

/- A pair stands in every tree with the same entries. -/
theorem Stands.congr
    (hStands : Stands tree parent name contents)
    (hAlike : FileTree.Alike now tree) :
    Stands now parent name contents where
  isTableName := hStands.isTableName
  extension_eq := hStands.extension_eq
  script_eq := (hAlike _).trans hStands.script_eq
  table_eq := (hAlike _).trans hStands.table_eq

/- A script that was just written stands with its table. -/
theorem HasRoom.stands
    (hRoom : HasRoom tree path front name parent)
    (hExtension :
      (Path.splitName name).2 = some Cli.scriptExtension)
    (contents : Contents) :
    Stands
      (withPair tree parent name (tableNameOf name) contents)
      parent name contents where
  isTableName := hRoom.isTableName
  extension_eq := hExtension
  script_eq := by
    rw [find?_withPair_tableNameOf, if_pos rfl]
  table_eq := by
    rw [find?_withPair_tableNameOf, if_neg, if_pos rfl]
    intro hSame
    exact
      tableNameOf_ne_of_extension hRoom.isTableName hExtension
        (List.append_singleton_inj.mp hSame).2

/- Writing a script elsewhere leaves a standing pair alone. -/
theorem Stands.withPair
    (hStands : Stands tree parent name contents)
    (hRoom : HasRoom tree path front otherName otherParent)
    (hExtension :
      (Path.splitName otherName).2 =
        some Cli.scriptExtension)
    (hApart :
      parent ++ [name] ≠ otherParent ++ [otherName])
    (others : Contents) :
    Stands
      (withPair tree otherParent otherName
        (tableNameOf otherName) others)
      parent name contents where
  isTableName := hStands.isTableName
  extension_eq := hStands.extension_eq
  script_eq := by
    rw [find?_withPair_tableNameOf, if_neg hApart, if_neg]
    · exact hStands.script_eq
    · intro hSame
      exact
        tableNameOf_ne_of_extension hRoom.isTableName
          hStands.extension_eq
          (List.append_singleton_inj.mp hSame).2.symm
  table_eq := by
    rw [find?_withPair_tableNameOf, if_neg, if_neg]
    · exact hStands.table_eq
    · intro hSame
      rcases List.append_singleton_inj.mp hSame with
        ⟨rfl, hTables⟩
      have hNames :=
        eq_of_tableNameOf_eq hStands.isTableName
          (hStands.extension_eq.trans hExtension.symm)
          hTables
      exact hApart (by rw [hNames])
    · intro hSame
      exact
        tableNameOf_ne_of_extension hStands.isTableName
          hExtension (List.append_singleton_inj.mp hSame).2

/- The script of a standing pair is held where a path leads. -/
theorem Stands.holds
    (hStands : Stands tree parent name contents)
    (hTarget :
      tree.target path =
        .ok
          { location := parent ++ [name]
            slashed := false })
    {script : Script}
    (hContents : contentsOf script = .ok contents) :
    Holds tree path script := by
  rcases FileTree.target_eq_ok_iff.mp hTarget with
    ⟨front, last, middle, hEnds, hName, hLeads, hPlace⟩
  rcases List.append_singleton_inj.mp hPlace with ⟨rfl, rfl⟩
  have hScript : tree.read path = .ok contents.script :=
    FileTree.read_eq_ok_iff.mpr
      ⟨front, name, parent, hEnds, hName, hLeads,
        hStands.script_eq⟩
  have hTable :
      tree.read (tablePathOf path) = .ok contents.table :=
    FileTree.read_eq_ok_iff.mpr
      ⟨front, tableNameOf name, parent,
        endsIn_tablePathOf hEnds hName, hStands.isTableName,
        hLeads, hStands.table_eq⟩
  exact holds_of_read hContents hScript hTable

end Standing

------------------------------------------------------------
-- Histories
------------------------------------------------------------

/-
  A request makes no call and leaves the state alone, or its
  call writes a script.
-/
theorem perform_cases
    {documents changed : List Document}
    {request : Request}
    {made : List Attempt}
    {state later : SessionState}
    (hRun :
      (perform documents request : Session _) state =
        ((changed, made), later)) :
    (made = [] ∧ later = state) ∨
      ∃ path script outcome,
        made = [.mk path script outcome] ∧
          (writeFiles path script : Session _) state =
            (outcome, later) := by
  cases request with
  | edit index script =>
      cases hRun
      exact .inl ⟨rfl, rfl⟩
  | save index =>
      cases hDocument : documents[index]? with
      | none =>
          simp only [perform, hDocument] at hRun
          cases hRun
          exact .inl ⟨rfl, rfl⟩
      | some document =>
          simp only [perform, hDocument,
            Session.bind_apply] at hRun
          cases hRun
          exact .inr ⟨_, _, _, rfl, rfl⟩
  | saveAs index path =>
      cases hDocument : documents[index]? with
      | none =>
          simp only [perform, hDocument] at hRun
          cases hRun
          exact .inl ⟨rfl, rfl⟩
      | some document =>
          rcases hWrite :
              (writeFiles path document.script : Session _)
                state with
            ⟨outcome, written⟩
          have hMove := saveAs_apply document hWrite
          simp only [perform, hDocument,
            Session.bind_apply, hMove] at hRun
          cases hRun
          refine
            .inr ⟨path, document.script, outcome, ?_, hWrite⟩
          cases outcome <;> rfl

/-
  What a tree keeps of the calls made so far.  At every place
  stands the pair of the last script that was saved there.
-/
structure Keeps
    (tree : FileTree)
    (attempts : List Attempt)
    (now : FileTree) : Prop where
  sameDirectories : FileTree.SameDirectories tree now
  stands :
    ∀ path last,
      lastSaved? tree attempts path = some last →
        ∃ contents parent name,
          contentsOf last.script = .ok contents ∧
            tree.target path =
              .ok
                { location := parent ++ [name]
                  slashed := false } ∧
            Stands now parent name contents

/- Before the first call there is nothing to keep. -/
theorem keeps_start (tree : FileTree) : Keeps tree [] tree where
  sameDirectories := fun _ => Iff.rfl
  stands := by
    intro path last hLast
    simp [lastSaved?] at hLast

namespace Keeps

variable {tree now : FileTree}
variable {attempts : List Attempt}

/- Writing a script keeps the pairs that are to stand. -/
theorem writeFiles
    (hKeeps : Keeps tree attempts now)
    {path : Path}
    (hPath : path.extension? = some Cli.scriptExtension)
    {script : Script}
    {outcome : Except Error Unit}
    {events : List Event}
    {state : SessionState}
    (hWrite :
      (Document.writeFiles path script : Session _)
          { tree := now, events } =
        (outcome, state)) :
    Keeps tree (attempts ++ [.mk path script outcome])
      state.tree := by
  rcases writeFiles_cases path script now events with
    ⟨contents, front, name, parent, hContents, hRoom, hOk⟩ |
      ⟨error, written, reported, hError, hAlike⟩
  · rw [hOk] at hWrite
    cases hWrite
    have hExtension :
        (Path.splitName name).2 =
          some Cli.scriptExtension := by
      rw [← hRoom.endsIn.extension?_eq hRoom.isName, hPath]
    have hHere :=
      FileTree.target_of_leadsTo hRoom.endsIn hRoom.isName
        (hRoom.leadsTo.congr hKeeps.sameDirectories.symm)
    refine
      ⟨hKeeps.sameDirectories.trans
        (hRoom.sameDirectories contents), ?_⟩
    intro other last hLast
    rw [lastSaved?_concat_ok] at hLast
    split at hLast
    · rename_i hSame
      cases hLast
      exact
        ⟨contents, parent, name, hContents,
          hSame.symm.trans hHere,
          hRoom.stands hExtension contents⟩
    · rename_i hOther
      rcases hKeeps.stands other last hLast with
        ⟨held, otherParent, otherName, hHeld, hThere,
          hStands⟩
      have hApart :
          otherParent ++ [otherName] ≠ parent ++ [name] := by
        intro hSame
        rw [hSame] at hThere
        exact hOther (hHere.trans hThere.symm)
      exact
        ⟨held, otherParent, otherName, hHeld, hThere,
          hStands.withPair hRoom hExtension hApart contents⟩
  · rw [hError] at hWrite
    cases hWrite
    refine
      ⟨hKeeps.sameDirectories.trans hAlike.symm.sameDirectories,
        ?_⟩
    intro other last hLast
    rw [lastSaved?_concat_error] at hLast
    rcases hKeeps.stands other last hLast with
      ⟨held, parent, name, hHeld, hThere, hStands⟩
    exact
      ⟨held, parent, name, hHeld, hThere,
        hStands.congr hAlike⟩

/- One request keeps the pairs that are to stand. -/
theorem perform
    (hKeeps : Keeps tree attempts now)
    {documents : List Document}
    {request : Request}
    {changed : List Document}
    {made : List Attempt}
    {events : List Event}
    {state : SessionState}
    (hRun :
      (Document.perform documents request : Session _)
          { tree := now, events } =
        ((changed, made), state))
    (hPaths :
      ∀ attempt ∈ made,
        attempt.path.extension? =
          some Cli.scriptExtension) :
    Keeps tree (attempts ++ made) state.tree := by
  rcases perform_cases hRun with
    ⟨rfl, rfl⟩ | ⟨path, script, outcome, rfl, hWrite⟩
  · rwa [List.append_nil]
  · have hPath := hPaths _ (List.mem_singleton_self _)
    exact hKeeps.writeFiles hPath hWrite

/- A run of requests keeps the pairs that are to stand. -/
theorem performAll
    (hKeeps : Keeps tree attempts now)
    {documents : List Document}
    {requests : List Request}
    {final : List Document}
    {made : List Attempt}
    {events : List Event}
    {state : SessionState}
    (hRun :
      (Document.performAll documents requests : Session _)
          { tree := now, events } =
        ((final, made), state))
    (hPaths :
      ∀ attempt ∈ made,
        attempt.path.extension? =
          some Cli.scriptExtension) :
    Keeps tree (attempts ++ made) state.tree := by
  induction requests generalizing
    documents now attempts made events with
  | nil =>
      cases hRun
      rwa [List.append_nil]
  | cons request rest ih =>
      rcases hFirst :
          (Document.perform documents request : Session _)
            { tree := now, events } with
        ⟨⟨changed, first⟩, middle⟩
      rcases hRest :
          (Document.performAll changed rest : Session _)
            middle with
        ⟨⟨last, later⟩, finalState⟩
      simp only [Document.performAll, Session.bind_apply,
        hFirst, hRest] at hRun
      cases hRun
      have hStep :=
        hKeeps.perform hFirst fun attempt hAttempt =>
          hPaths attempt (List.mem_append_left _ hAttempt)
      have hAll :=
        ih hStep hRest fun attempt hAttempt =>
          hPaths attempt (List.mem_append_right _ hAttempt)
      rwa [List.append_assoc] at hAll

end Keeps

/-
  Documents that are saved one after the other do not disturb
  each other, as long as they are saved under the extension of
  scripts.  Whichever calls fail, the tree holds at each path
  the last script that was saved where the path leads.
-/
theorem performAll_holds_last
    {documents final : List Document}
    {requests : List Request}
    {attempts : List Attempt}
    {tree written : FileTree}
    {events : List Event}
    (hRun :
      Session.runOn (performAll documents requests) tree =
        ((final, attempts), written, events))
    (hPaths :
      ∀ attempt ∈ attempts,
        attempt.path.extension? =
          some Cli.scriptExtension) :
    ∀ attempt ∈ attempts,
      attempt.outcome = .ok () →
        ∃ last,
          lastSaved? tree attempts attempt.path = some last ∧
            Holds written attempt.path last.script := by
  intro attempt hAttempt hSaved
  have hApply := Session.apply_of_runOn_eq hRun
  have hKeeps :=
    (keeps_start tree).performAll hApply hPaths
  rcases exists_lastSaved? tree hAttempt hSaved with
    ⟨last, hLast⟩
  rcases hKeeps.stands attempt.path last hLast with
    ⟨contents, parent, name, hContents, hTarget, hStands⟩
  have hWritten :=
    FileTree.target_congr hTarget hKeeps.sameDirectories
  exact ⟨last, hLast, hStands.holds hWritten hContents⟩

/-
  Two documents are saved to one place, which they spell in
  two ways.  After that, a line break gets into one of them,
  and the other one is to move to a directory that is missing.
  Both calls fail, and the second script stays.
-/
theorem performAll_holds_last_two_spellings :
    ∃ (documents final : List Document)
      (requests : List Request)
      (attempts : List Attempt)
      (tree written : FileTree)
      (first second : Script),
      Session.runOn (performAll documents requests) tree =
          ((final, attempts), written, [saved, saved]) ∧
        attempts.map (·.path) =
          [.ofString "a.scr", .ofString "./a.scr",
            .ofString "a.scr", .ofString "b/a.scr"] ∧
        attempts.map (·.outcome) =
          [.ok (), .ok (),
            .error (.table (.lineBreak 0)),
            .error (.device .notFound)] ∧
        attempts.map (·.script) =
          [first, second,
            [.dialogue (.ofJoined ['\r', '\n'])], second] ∧
        first ≠ second ∧
        Holds written (.ofString "a.scr") second := by
  let first : Script := [.dialogue (.ofJoined ['A'])]
  let second : Script :=
    [.dialogue (.ofJoined ['B']), .finish]
  let damaged : Script := [.dialogue (.ofJoined ['\r', '\n'])]
  let path : Path := .ofString "a.scr"
  let spelled : Path := .ofString "./a.scr"
  let missing : Path := .ofString "b/a.scr"
  let documents : List Document :=
    [{ path, script := first },
      { path := .ofString "c.scr", script := second }]
  let requests : List Request :=
    [.save 0, .saveAs 1 spelled, .edit 0 damaged, .save 0,
      .saveAs 1 missing]
  let attempts : List Attempt :=
    [.mk path first (.ok ()),
      .mk spelled second (.ok ()),
      .mk path damaged (.error (.table (.lineBreak 0))),
      .mk missing second (.error (.device .notFound))]
  let tree : FileTree := { entries := [] }
  let final : List Document :=
    [{ path, script := damaged },
      { path := spelled, script := second }]
  have hMade :
      (Session.runOn (performAll documents requests)
          tree).1 =
        (final, attempts) := by
    decide +kernel
  have hReports :
      (Session.runOn (performAll documents requests)
          tree).2.2 =
        [saved, saved] := by
    decide +kernel
  rcases Session.exists_runOn_eq hMade hReports with
    ⟨written, hRun⟩
  have hPaths :
      ∀ attempt ∈ attempts,
        attempt.path.extension? =
          some Cli.scriptExtension := by
    decide
  have hLast :
      lastSaved? tree attempts path =
        some (.mk spelled second (.ok ())) := by
    decide +kernel
  rcases performAll_holds_last hRun hPaths
      (.mk path first (.ok ())) (by simp [attempts]) rfl with
    ⟨last, hSame, hHolds⟩
  rw [hLast] at hSame
  cases hSame
  exact
    ⟨documents, final, requests, attempts, tree, written,
      first, second, hRun, rfl, rfl, rfl, by decide, hHolds⟩

end Document

end SceneScript
