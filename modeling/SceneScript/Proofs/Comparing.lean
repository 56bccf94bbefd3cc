import SceneScript.Cli.Run
import SceneScript.Proofs.Captions
import SceneScript.Proofs.Lists
import SceneScript.Proofs.Saving

/-
  Which scripts are found to be identical.

  Key definitions include:
    * `Command.rows`

  Correctness is stated by:
    * `Diff.head?_report_ne`
    * `Cli.captionLines_eq_iff`
    * `Cli.scriptDifference_eq_identical_iff`
    * `Cli.compareScripts_apply`
    * `Cli.compareScripts_eq_identical_iff`
    * `Cli.compareScripts_identical_other_fade`

  Scripts are compared by their captions.  A caption ends in
  an LF, so an LF inside a caption looks like the end of one,
  and what no caption shows is not compared.
-/

namespace SceneScript

------------------------------------------------------------
-- Reports
------------------------------------------------------------

namespace Diff

/- A row of a block starts with a sign. -/
theorem exists_sign_of_mem_blockRows
    {block : Block String}
    {row : Text}
    (hRow : row ∈ blockRows block) :
    ∃ side : Side, ∃ later, row = side.sign :: later := by
  have hRows
      (side : Side)
      (first : Nat)
      (lines : List (List Piece))
      (hMem : row ∈ side.rows first lines) :
      ∃ side : Side, ∃ later, row = side.sign :: later := by
    rcases List.mem_map.mp hMem with ⟨line, _, rfl⟩
    exact ⟨side, _, rfl⟩
  unfold blockRows at hRow
  split at hRow
  · exact hRows _ _ _ hRow
  · split at hRow <;>
      rcases List.mem_append.mp hRow with hOld | hNew
    all_goals
      first | exact hRows _ _ _ hOld | exact hRows _ _ _ hNew

/- A group starts with a sign or with an empty line. -/
theorem exists_head_groupText (group : List (Block String)) :
    ∃ c later, groupText group = c :: later ∧ c ≠ '\x1B' := by
  unfold groupText
  cases hRows : group.flatMap blockRows with
  | nil => exact ⟨'\n', ['\n'], rfl, by decide⟩
  | cons row rest =>
      have hRow : row ∈ group.flatMap blockRows := by
        simp [hRows]
      rcases List.mem_flatMap.mp hRow with ⟨block, _, hMem⟩
      rcases exists_sign_of_mem_blockRows hMem with
        ⟨side, later, rfl⟩
      have hSign : side.sign ≠ '\x1B' := by
        cases side <;> decide
      cases rest with
      | nil => exact ⟨side.sign, _, rfl, hSign⟩
      | cons next others => exact ⟨side.sign, _, rfl, hSign⟩

/- A report does not start with a control sequence. -/
theorem head?_report_ne
    (context : Nat)
    (old new : List String) :
    (report context old new).head? ≠ some '\x1B' := by
  unfold report
  cases groups context (compare old new) with
  | nil => simp
  | cons group rest =>
      rcases exists_head_groupText group with
        ⟨c, later, hGroup, hHead⟩
      simpa [hGroup] using hHead

end Diff

------------------------------------------------------------
-- Rows of Captions
------------------------------------------------------------

/- The lines that the caption of a command looks like. -/
def Command.rows (command : Command) : List Text :=
  Text.splitOn '\n' command.caption

/- A caption without an LF is one row. -/
theorem Command.rows_of_lf_not_mem
    {command : Command}
    (hLf : '\n' ∉ command.caption) :
    command.rows = [command.caption] :=
  Text.splitOn_of_not_mem hLf

namespace Cli

/- Captions with their ends are cut into their rows. -/
theorem splitOn_captions (script : Script) :
    Text.splitOn '\n'
        (script.flatMap fun command =>
          command.caption ++ ['\n']) =
      script.flatMap Command.rows ++ [[]] := by
  induction script with
  | nil => rfl
  | cons command later ih =>
      rw [List.flatMap_cons, List.append_assoc,
        List.singleton_append, Text.splitOn_append_cons, ih,
        List.flatMap_cons, List.append_assoc]
      rfl

/-
  The lines that are compared are equal exactly when the rows
  are.
-/
theorem captionLines_eq_iff {left right : Script} :
    captionLines left = captionLines right ↔
      left.flatMap Command.rows =
        right.flatMap Command.rows := by
  constructor
  · intro hLines
    have hTexts := congrArg List.flatten hLines
    rw [captionLines, captionLines, Text.flatten_endedLines,
      Text.flatten_endedLines] at hTexts
    have hRows := congrArg (Text.splitOn '\n') hTexts
    rw [splitOn_captions, splitOn_captions] at hRows
    exact List.append_cancel_right hRows
  · intro hRows
    rw [captionLines, captionLines]
    congr 1
    rw [← Text.joinWith_splitOn '\n'
        (left.flatMap fun command =>
          command.caption ++ ['\n']),
      splitOn_captions, hRows, ← splitOn_captions,
      Text.joinWith_splitOn]

/-
  Without an LF inside a caption, the rows are equal exactly
  when the commands are as far as their captions show them.
-/
theorem flatMap_rows_eq_iff
    {left right : Script}
    (hLeft : ∀ command ∈ left, '\n' ∉ command.caption)
    (hRight : ∀ command ∈ right, '\n' ∉ command.caption) :
    left.flatMap Command.rows = right.flatMap Command.rows ↔
      left.map Command.shown = right.map Command.shown := by
  have hRows
      {script : Script}
      (hScript : ∀ command ∈ script, '\n' ∉ command.caption) :
      script.flatMap Command.rows =
        script.map Command.caption := by
    rw [List.map_eq_flatMap]
    exact
      List.flatMap_congr fun command hCommand =>
        Command.rows_of_lf_not_mem (hScript command hCommand)
  rw [hRows hLeft, hRows hRight, map_eq_map_iff_forall₂,
    map_eq_map_iff_forall₂]
  simp only [Command.caption_eq_iff]

/-
  The text for identical scripts is shown exactly when there
  is no difference between the lines that are compared.
-/
theorem scriptDifference_eq_identical_iff
    {context : Nat}
    {left right : Script} :
    scriptDifference context left right = identical ↔
      captionLines left = captionLines right := by
  unfold scriptDifference
  simp only
  split
  · rename_i hSame
    simp [hSame]
  · rename_i hOther
    simp only [hOther, iff_false]
    intro hReport
    exact
      Diff.head?_report_ne context _ _
        (by rw [hReport]; rfl)

------------------------------------------------------------
-- Comparisons
------------------------------------------------------------

/- Captions of a loaded script have an LF only in dialogues. -/
theorem lf_not_mem_caption_of_load
    {path : Path}
    {requireEnd : Bool}
    {tree : FileTree}
    {document : Document}
    (hLoad :
      (Session.runOn (Document.load path requireEnd)
          tree).1 =
        .ok document)
    (hLf :
      ∀ text,
        .dialogue text ∈ document.script →
          ∀ line ∈ text.lines, '\n' ∉ line) :
    ∀ command ∈ document.script, '\n' ∉ command.caption := by
  rcases Document.exists_contents_of_load hLoad with
    ⟨contents, _, _, hContents⟩
  rcases Document.ofContents_eq_ok_iff.mp hContents with
    ⟨script, hDecode, rfl⟩
  rcases Script.spells_of_decode hDecode with
    ⟨segments, hSegments, _⟩
  intro command hCommand hMem
  rcases exists_of_mem_left hSegments hCommand with
    ⟨bytes, _, hSegment⟩
  rcases hSegment.exists_line_of_lf_mem_caption hMem with
    ⟨text, rfl, line, hLine, hLineLf⟩
  exact hLf text hCommand line hLine hLineLf

/- Two scripts that can be loaded are compared. -/
theorem compareScripts_apply
    {left right : Path}
    {tree : FileTree}
    {old new : Document}
    (context : Nat)
    (hOld :
      (Session.runOn (Document.load left false) tree).1 =
        .ok old)
    (hNew :
      (Session.runOn (Document.load right false) tree).1 =
        .ok new) :
    (Session.runOn (compareScripts left right context)
        tree).1 =
      .ok (scriptDifference context old.script new.script) := by
  rcases Document.exists_contents_of_load hOld with
    ⟨oldContents, hOldScript, hOldTable, hOldIs⟩
  rcases Document.exists_contents_of_load hNew with
    ⟨newContents, hNewScript, hNewTable, hNewIs⟩
  rcases Document.load_apply oldContents hOldScript hOldTable
      false [] with
    ⟨events, hFirst⟩
  rcases Document.load_apply newContents hNewScript hNewTable
      false events with
    ⟨later, hSecond⟩
  have hApply :
      (compareScripts left right context : Session _)
          { tree, events := [] } =
        (.ok (scriptDifference context old.script new.script),
          { tree, events := later }) := by
    simp only [compareScripts, Session.bind_apply, hFirst,
      hOldIs, hSecond, hNewIs, Session.pure_apply]
  rw [Session.runOn_eq_of_apply hApply]

/-
  Two scripts that can be loaded are found to be identical
  exactly when their captions look the same row by row.  If no
  dialogue has an LF, that is when the scripts agree in all
  that captions show, which is everything but the bytes of a
  fade and the unknown bytes of wipes and pictures.
-/
theorem compareScripts_eq_identical_iff
    {left right : Path}
    {tree : FileTree}
    {old new : Document}
    (context : Nat)
    (hOld :
      (Session.runOn (Document.load left false) tree).1 =
        .ok old)
    (hNew :
      (Session.runOn (Document.load right false) tree).1 =
        .ok new) :
    let outcome :=
      (Session.runOn (run (.diffScripts left right context))
        tree).1
    (outcome = .ok identical ↔
        old.script.flatMap Command.rows =
          new.script.flatMap Command.rows) ∧
      ((∀ text,
          .dialogue text ∈ old.script ++ new.script →
            ∀ line ∈ text.lines, '\n' ∉ line) →
        (outcome = .ok identical ↔
          old.script.map Command.shown =
            new.script.map Command.shown)) := by
  intro outcome
  have hOutcome :
      outcome = .ok identical ↔
        old.script.flatMap Command.rows =
          new.script.flatMap Command.rows := by
    change
      (Session.runOn (compareScripts left right context)
          tree).1 =
        .ok identical ↔ _
    rw [compareScripts_apply context hOld hNew,
      Except.ok.injEq, scriptDifference_eq_identical_iff,
      captionLines_eq_iff]
  refine ⟨hOutcome, fun hLf => ?_⟩
  rw [hOutcome]
  exact
    flatMap_rows_eq_iff
      (lf_not_mem_caption_of_load hOld fun text hText =>
        hLf text (List.mem_append_left _ hText))
      (lf_not_mem_caption_of_load hNew fun text hText =>
        hLf text (List.mem_append_right _ hText))

/-
  A dialogue line with an LF looks like a dialogue with the
  end of the scene behind it.  A wait in place of that end is
  noticed.
-/
theorem compareScripts_eq_identical_iff_lone_lf :
    ∃ (tree : FileTree) (broken ended waiting : Path),
      (Session.runOn (Document.load broken false) tree).1 =
          .ok
            { path := broken
              script :=
                [.dialogue
                  (.ofJoined ['A', '\n', 'E', 'n', 'd'])] } ∧
        (Session.runOn (Document.load ended false) tree).1 =
          .ok
            { path := ended
              script :=
                [.dialogue (.ofJoined ['A']), .finish] } ∧
        (Session.runOn (Document.load waiting false) tree).1 =
          .ok
            { path := waiting
              script :=
                [.dialogue (.ofJoined ['A']), .wait 0] } ∧
        (Session.runOn (run (.diffScripts broken ended 2))
            tree).1 =
          .ok identical ∧
        (Session.runOn (run (.diffScripts ended waiting 2))
            tree).1 ≠
          .ok identical := by
  let tree : FileTree :=
    { entries :=
        [([['a', '.', 's', 'c', 'r']],
            .file [0x23, 0x00, 0x00, 0x00]),
          ([['a', '.', 'h', 't', 'x']],
            .file [0x41, 0x0A, 0x45, 0x6E, 0x64]),
          ([['b', '.', 's', 'c', 'r']],
            .file [0x23, 0x00, 0x00, 0x00, 0x23, 0xFE]),
          ([['b', '.', 'h', 't', 'x']], .file [0x41]),
          ([['c', '.', 's', 'c', 'r']],
            .file
              [0x23, 0x00, 0x00, 0x00,
                0x23, 0x0F, 0x00, 0x00]),
          ([['c', '.', 'h', 't', 'x']], .file [0x41])] }
  let broken : Path := .ofString "a.scr"
  let ended : Path := .ofString "b.scr"
  let waiting : Path := .ofString "c.scr"
  have hBroken :
      (Session.runOn (Document.load broken false) tree).1 =
        .ok
          { path := broken
            script :=
              [.dialogue
                (.ofJoined ['A', '\n', 'E', 'n', 'd'])] } := by
    decide +kernel
  have hEnded :
      (Session.runOn (Document.load ended false) tree).1 =
        .ok
          { path := ended
            script :=
              [.dialogue (.ofJoined ['A']), .finish] } := by
    decide +kernel
  have hWaiting :
      (Session.runOn (Document.load waiting false) tree).1 =
        .ok
          { path := waiting
            script :=
              [.dialogue (.ofJoined ['A']), .wait 0] } := by
    decide +kernel
  refine
    ⟨tree, broken, ended, waiting, hBroken, hEnded,
      hWaiting, ?_, ?_⟩
  · refine
      (compareScripts_eq_identical_iff 2 hBroken
        hEnded).1.mpr ?_
    decide +kernel
  · have hUnbroken :
        ∀ text,
          .dialogue text ∈
              [Command.dialogue (.ofJoined ['A']), .finish,
                .dialogue (.ofJoined ['A']), .wait 0] →
            ∀ line ∈ text.lines, '\n' ∉ line := by
      intro text hText
      have hOnly : text = .ofJoined ['A'] := by
        simpa using hText
      rw [hOnly]
      decide +kernel
    rw [ne_eq,
      (compareScripts_eq_identical_iff 2 hEnded hWaiting).2
        hUnbroken]
    decide +kernel

/-
  Two scripts that fade in by other bytes are found to be
  identical.
-/
theorem compareScripts_identical_other_fade :
    ∃ (tree : FileTree) (left right : Path)
      (old new : Document),
      old.script = [.fadeIn 0 0 0 0, .finish] ∧
        new.script = [.fadeIn 1 0 0 0, .finish] ∧
        (Session.runOn (Document.load left false) tree).1 =
          .ok old ∧
        (Session.runOn (Document.load right false) tree).1 =
          .ok new ∧
        (Session.runOn (run (.diffScripts left right 2))
            tree).1 =
          .ok identical ∧
        old.script ≠ new.script := by
  let tree : FileTree :=
    { entries :=
        [([['a', '.', 's', 'c', 'r']],
            .file [0x23, 0x15, 0, 0, 0, 0, 0x23, 0xFE]),
          ([['a', '.', 'h', 't', 'x']], .file []),
          ([['b', '.', 's', 'c', 'r']],
            .file [0x23, 0x15, 1, 0, 0, 0, 0x23, 0xFE]),
          ([['b', '.', 'h', 't', 'x']], .file [])] }
  let left : Path := .ofString "a.scr"
  let right : Path := .ofString "b.scr"
  let old : Document :=
    { path := left, script := [.fadeIn 0 0 0 0, .finish] }
  let new : Document :=
    { path := right, script := [.fadeIn 1 0 0 0, .finish] }
  have hOld :
      (Session.runOn (Document.load left false) tree).1 =
        .ok old := by
    decide +kernel
  have hNew :
      (Session.runOn (Document.load right false) tree).1 =
        .ok new := by
    decide +kernel
  have hSame :
      (Session.runOn (run (.diffScripts left right 2))
          tree).1 =
        .ok identical := by
    decide +kernel
  exact
    ⟨tree, left, right, old, new, rfl, rfl, hOld, hNew,
      hSame, by decide⟩

end Cli

end SceneScript
