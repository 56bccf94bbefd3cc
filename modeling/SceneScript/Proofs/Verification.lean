import SceneScript.Cli.Run
import SceneScript.Proofs.Pairs

/-
  Which pairs of files pass the check.

  Key definitions include:
    * `LineTable.reread?`

  Correctness is stated by:
    * `Cli.verify_eq_ok_iff`
    * `Cli.checkFile_fst`
    * `Cli.checkFile_of_encode_iff`
    * `Cli.checkFile_pair`

  A check reads a pair of files and encodes what it read.  A
  pair that was saved passes unless an overline was saved, or
  texts that differ were read as equal ones.  What was read
  from files holds no overline and keeps its texts, so that
  saving it settles the pair.
-/

namespace SceneScript

------------------------------------------------------------
-- Read Lines
------------------------------------------------------------

/- What a line of a table is read as from the given file. -/
def LineTable.reread?
    (table : LineTable)
    (bytes : List UInt8)
    (line : Text) : Option Text :=
  (table.indexOf? line).bind (decode bytes).get?

/- A line of a table is read in its disk form. -/
theorem LineTable.reread?_of_mem
    {table : LineTable}
    {bytes : List UInt8}
    (hEncode : table.encode = .ok bytes)
    {line : Text}
    (hLine : line ∈ table.toList) :
    table.reread? bytes line = some line.onDisk := by
  rw [reread?, indexOf?_of_mem hLine, Option.bind_some,
    get?_eq_getElem?_toList]
  exact
    getElem?_decode_of_encode hEncode
      (List.getElem?_idxOf hLine)

/- A box holds a character in a line if its joined form does. -/
theorem Dialogue.mem_joined_iff
    {c : Char}
    (hOther : c ≠ separator)
    (dialogue : Dialogue) :
    c ∈ dialogue.joined ↔
      ∃ line ∈ dialogue.lines, c ∈ line :=
  Text.mem_joinWith_iff (by simpa using hOther)
    dialogue.lines

namespace Script

/- An overline in the table is one in a box of the script. -/
theorem overline_not_mem_table_iff
    {script : Script}
    {encoded : Encoded}
    (hEncode : script.encode = .ok encoded) :
    (∀ line ∈ encoded.table.toList, '‾' ∉ line) ↔
      ∀ text, Command.dialogue text ∈ script →
        ∀ line ∈ text.lines, '‾' ∉ line := by
  have hOther : '‾' ≠ Dialogue.separator := by
    decide
  constructor
  · intro hTable text hText line hLine hMem
    have hJoined : text.joined ∈ encoded.table.toList :=
      (mem_of_encode_iff hEncode _).mpr ⟨text, hText, rfl⟩
    exact
      hTable _ hJoined
        ((text.mem_joined_iff hOther).mpr ⟨line, hLine, hMem⟩)
  · intro hBoxes line hLine hMem
    rcases (mem_of_encode_iff hEncode line).mp hLine with
      ⟨text, hText, rfl⟩
    rcases (text.mem_joined_iff hOther).mp hMem with
      ⟨row, hRow, hChar⟩
    exact hBoxes text hText row hRow hChar

/-
  The lines of the table stay apart exactly when different
  texts of the script are read as different ones.
-/
theorem separates_table_iff
    {script : Script}
    {encoded : Encoded}
    {tableBytes : List UInt8}
    (hEncode : script.encode = .ok encoded)
    (hTable : encoded.table.encode = .ok tableBytes) :
    LineTable.Separates Text.onDisk encoded.table.toList ↔
      ∀ left right,
        Command.dialogue left ∈ script →
          Command.dialogue right ∈ script →
            left.joined ≠ right.joined →
              encoded.table.reread? tableBytes left.joined ≠
                encoded.table.reread? tableBytes
                  right.joined := by
  have hJoined {text : Dialogue}
      (hText : Command.dialogue text ∈ script) :
      text.joined ∈ encoded.table.toList :=
    (mem_of_encode_iff hEncode _).mpr ⟨text, hText, rfl⟩
  constructor
  · intro hSeparates left right hLeft hRight hApart hSame
    rw [LineTable.reread?_of_mem hTable (hJoined hLeft),
      LineTable.reread?_of_mem hTable (hJoined hRight),
      Option.some.injEq] at hSame
    exact
      hApart
        (hSeparates _ (hJoined hLeft) _ (hJoined hRight)
          hSame)
  · intro hTexts line hLine other hOther hSame
    rcases (mem_of_encode_iff hEncode line).mp hLine with
      ⟨left, hLeft, rfl⟩
    rcases (mem_of_encode_iff hEncode other).mp hOther with
      ⟨right, hRight, rfl⟩
    by_contra hApart
    apply hTexts left right hLeft hRight hApart
    rw [LineTable.reread?_of_mem hTable hLine,
      LineTable.reread?_of_mem hTable hOther, hSame]

end Script

------------------------------------------------------------
-- Checks
------------------------------------------------------------

namespace Cli

/- A script is verified when it encodes to what was read. -/
theorem verify_eq_ok_iff
    {script : Script}
    {contents : Document.Contents} :
    verify script contents = .ok () ↔
      script.EncodesTo contents.script contents.table := by
  unfold verify Script.EncodesTo
  cases script.encode with
  | error error =>
      simp [bind, Except.bind, Except.mapError]
  | ok encoded =>
      simp only [bind, Except.bind, Except.mapError,
        Except.ok.injEq, exists_eq_left']
      by_cases hScript : encoded.script = contents.script
      · cases hTable : encoded.table.encode with
        | error error => simp [hScript]
        | ok table =>
            by_cases hSame : table = contents.table <;>
              simp [hScript, hSame, pure, Except.pure, throw,
                throwThe, MonadExceptOf.throw]
      · simp [hScript, throw, throwThe, MonadExceptOf.throw]

/- A check verifies the script that the two files hold. -/
theorem checkFile_fst
    {path : Path}
    (contents : Document.Contents)
    {tree : FileTree}
    (hScript : tree.read path = .ok contents.script)
    (hTable :
      tree.read (Document.tablePathOf path) =
        .ok contents.table)
    {requireEnd : Bool}
    {script : Script}
    (hDecode :
      Script.decode contents.script
          (.decode contents.table) requireEnd =
        .ok script) :
    (Session.runOn (checkFile path requireEnd) tree).1 =
      verify script contents := by
  rcases Document.load_apply contents hScript hTable
      requireEnd [] with
    ⟨events, hLoad⟩
  have hDocument :
      Document.ofContents path requireEnd contents =
        .ok { path, script } := by
    rw [Document.ofContents, hDecode]
  rw [hDocument] at hLoad
  change
    ((checkFile path requireEnd : Session _)
        { tree, events := [] }).1 =
      verify script contents
  simp only [checkFile, Session.bind_apply, hLoad,
    Session.read_apply, hScript, Document.tablePath, hTable,
    Session.pure_apply]

/-
  A pair of files that was saved passes the check exactly when
  no box of the script holds an overline and different texts
  are still read as different ones.
-/
theorem checkFile_of_encode_iff
    {script : Script}
    {encoded : Encoded}
    {tableBytes : List UInt8}
    (hEncode : script.encode = .ok encoded)
    (hTable : encoded.table.encode = .ok tableBytes)
    {path : Path}
    {tree : FileTree}
    (hReadScript : tree.read path = .ok encoded.script)
    (hReadTable :
      tree.read (Document.tablePathOf path) =
        .ok tableBytes) :
    (Session.runOn (checkFile path false) tree).1 =
        .ok () ↔
      (∀ text, Command.dialogue text ∈ script →
        ∀ line ∈ text.lines, '‾' ∉ line) ∧
        ∀ left right,
          Command.dialogue left ∈ script →
            Command.dialogue right ∈ script →
              left.joined ≠ right.joined →
                encoded.table.reread? tableBytes
                    left.joined ≠
                  encoded.table.reread? tableBytes
                    right.joined := by
  have hDecode := Script.decode_files_of_encode hEncode hTable
  have hCheck :=
    checkFile_fst
      { script := encoded.script, table := tableBytes }
      hReadScript hReadTable hDecode
  rw [hCheck, verify_eq_ok_iff,
    Script.onDisk_encodesTo_iff hEncode hTable,
    Script.overline_not_mem_table_iff hEncode,
    Script.separates_table_iff hEncode hTable]

/-
  If a script is in disk form, the pair of its files passes
  the check and is read as the script.
-/
theorem checkFile_of_contents
    {script : Script}
    {contents : Document.Contents}
    (hDisk : script.onDisk = script)
    (hContents : Document.contentsOf script = .ok contents)
    {path : Path}
    {tree : FileTree}
    (hScript : tree.read path = .ok contents.script)
    (hTable :
      tree.read (Document.tablePathOf path) =
        .ok contents.table) :
    (Session.runOn (checkFile path false) tree).1 =
        .ok () ∧
      (Session.runOn (Document.load path false) tree).1 =
        .ok { path, script } := by
  have hEncodes := Document.contentsOf_eq_ok_iff.mp hContents
  rcases hEncodes with
    ⟨encoded, hEncode, hBytes, hTableBytes⟩
  have hDecode :=
    Script.decode_files_of_encode hEncode hTableBytes
  rw [hDisk, hBytes] at hDecode
  constructor
  · rw [checkFile_fst contents hScript hTable hDecode,
      verify_eq_ok_iff]
    exact ⟨encoded, hEncode, hBytes, hTableBytes⟩
  · exact
      Document.runOn_load_of_decode contents hScript hTable
        hDecode

/-
  A document that was loaded is saved to a pair that passes
  the check, and saving it once more changes nothing.
-/
theorem checkFile_of_save
    {path : Path}
    (hPaths : Document.tablePathOf path ≠ path)
    {tree : FileTree}
    {requireEnd : Bool}
    {document : Document}
    (hLoad :
      (Session.runOn (Document.load path requireEnd)
          tree).1 =
        .ok document)
    {contents : Document.Contents}
    (hContents :
      Document.contentsOf document.script = .ok contents) :
    ∃ written : FileTree,
      Session.runOn document.save tree =
          (.ok (), written, [Document.saved]) ∧
        written.read path = .ok contents.script ∧
        written.read (Document.tablePathOf path) =
          .ok contents.table ∧
        (Session.runOn (checkFile path false) written).1 =
          .ok () ∧
        (Session.runOn (Document.load path false)
            written).1 =
          .ok document ∧
        ∀ location,
          (Session.runOn document.save
              written).2.1.find? location =
            written.find? location := by
  rcases Document.exists_contents_of_load hLoad with
    ⟨old, hScript, hTable, hOld⟩
  rcases Document.ofContents_eq_ok_iff.mp hOld with
    ⟨script, hDecode, rfl⟩
  rcases Document.save_of_read hPaths hScript hTable
      hContents with
    ⟨written, hSave, hWritten⟩
  have hDisk := Script.onDisk_eq_self_of_decode hDecode
  have hPasses :=
    checkFile_of_contents hDisk hContents
      hWritten.script_eq hWritten.table_eq
  refine
    ⟨written, hSave, hWritten.script_eq, hWritten.table_eq,
      hPasses.1, hPasses.2, ?_⟩
  intro location
  rcases Document.save_of_read hPaths hWritten.script_eq
      hWritten.table_eq hContents with
    ⟨again, hAgain, hReplaced⟩
  rw [hAgain]
  exact hReplaced.find?_eq location

/-
  A saved pair of files passes the check exactly when no box
  holds an overline and no two texts became equal.  A pair
  that was loaded and saved always passes, and saving it once
  more changes nothing.  A script whose name has the extension
  of tables is no pair, as its table is the same file.
-/
theorem checkFile_pair :
    (∀ (script : Script)
        (encoded : Encoded)
        (tableBytes : List UInt8)
        (tree : FileTree)
        (path : Path),
      script.encode = .ok encoded →
        encoded.table.encode = .ok tableBytes →
          tree.read path = .ok encoded.script →
            tree.read (Document.tablePathOf path) =
                .ok tableBytes →
              ((Session.runOn (checkFile path false) tree).1 =
                  .ok () ↔
                (∀ text, Command.dialogue text ∈ script →
                  ∀ line ∈ text.lines, '‾' ∉ line) ∧
                  ∀ left right,
                    Command.dialogue left ∈ script →
                      Command.dialogue right ∈ script →
                        left.joined ≠ right.joined →
                          encoded.table.reread? tableBytes
                              left.joined ≠
                            encoded.table.reread? tableBytes
                              right.joined)) ∧
      ∀ (tree : FileTree)
        (path : Path)
        (requireEnd : Bool)
        (document : Document)
        (contents : Document.Contents),
        Document.tablePathOf path ≠ path →
          (Session.runOn (Document.load path requireEnd)
              tree).1 =
              .ok document →
            Document.contentsOf document.script =
                .ok contents →
              ∃ written : FileTree,
                Session.runOn document.save tree =
                    (.ok (), written, [Document.saved]) ∧
                  written.read path = .ok contents.script ∧
                  written.read (Document.tablePathOf path) =
                    .ok contents.table ∧
                  (Session.runOn (checkFile path false)
                      written).1 =
                    .ok () ∧
                  (Session.runOn (Document.load path false)
                      written).1 =
                    .ok document ∧
                  ∀ location,
                    (Session.runOn document.save
                        written).2.1.find? location =
                      written.find? location := by
  constructor
  · intro script encoded tableBytes tree path hEncode hTable
      hReadScript hReadTable
    exact
      checkFile_of_encode_iff hEncode hTable hReadScript
        hReadTable
  · intro tree path requireEnd document contents hPaths
      hLoad hContents
    exact checkFile_of_save hPaths hLoad hContents

/-
  A letter and its full-width form are read as one text.  The
  pair fails, and it passes after it was loaded and saved.
-/
theorem checkFile_pair_merged_texts :
    ∃ (path : Path)
      (tree written : FileTree)
      (document : Document),
      tree.read path =
          .ok
            [0x23, 0x00, 0x00, 0x00,
              0x23, 0x00, 0x01, 0x00] ∧
        tree.read (Document.tablePathOf path) =
          .ok [0x82, 0x60, 0x0D, 0x0A, 0x82, 0x60] ∧
        (Session.runOn (checkFile path false) tree).1 ≠
          .ok () ∧
        Session.runOn document.save tree =
          (.ok (), written, [Document.saved]) ∧
        (Session.runOn (checkFile path false) written).1 =
          .ok () := by
  let path : Path := { text := ['a', '.', 's', 'c', 'r'] }
  let script : Script :=
    [.dialogue (.ofJoined ['A']),
      .dialogue (.ofJoined ['Ａ'])]
  let encoded : Encoded :=
    { script :=
        [0x23, 0x00, 0x00, 0x00, 0x23, 0x00, 0x01, 0x00]
      table := ((LineTable.empty.add ['A']).2.add ['Ａ']).2 }
  let tableBytes : List UInt8 :=
    [0x82, 0x60, 0x0D, 0x0A, 0x82, 0x60]
  let tree : FileTree :=
    { entries :=
        [([path.text], .file encoded.script),
          ([['a', '.', 'h', 't', 'x']], .file tableBytes)] }
  have hEncode : script.encode = .ok encoded :=
    rfl
  have hTable : encoded.table.encode = .ok tableBytes := by
    decide +kernel
  have hReadScript :
      tree.read path = .ok encoded.script := by
    decide +kernel
  have hReadTable :
      tree.read (Document.tablePathOf path) =
        .ok tableBytes := by
    decide +kernel
  have hFails :
      (Session.runOn (checkFile path false) tree).1 ≠
        .ok () := by
    intro hPasses
    have hTexts :=
      ((checkFile_pair.1 script encoded tableBytes tree path
        hEncode hTable hReadScript hReadTable).mp hPasses).2
    refine
      hTexts (.ofJoined ['A']) (.ofJoined ['Ａ'])
        (by simp [script]) (by simp [script]) (by decide) ?_
    decide +kernel
  let again : Script :=
    [.dialogue (.ofJoined ['A']),
      .dialogue (.ofJoined ['A'])]
  have hDisk : script.onDisk = again := by
    decide +kernel
  have hDecode := Script.decode_files_of_encode hEncode hTable
  rw [hDisk] at hDecode
  have hLoad :
      (Session.runOn (Document.load path false) tree).1 =
        .ok { path, script := again } :=
    Document.runOn_load_of_decode
      { script := encoded.script, table := tableBytes }
      hReadScript hReadTable hDecode
  have hContents :
      Document.contentsOf again =
        .ok
          { script :=
              [0x23, 0x00, 0x00, 0x00,
                0x23, 0x00, 0x00, 0x00]
            table := [0x82, 0x60] } :=
    Document.contentsOf_eq_ok_iff.mpr
      ⟨⟨_, (LineTable.empty.add ['A']).2⟩, rfl, rfl,
        by decide +kernel⟩
  rcases checkFile_pair.2 tree path false
      { path, script := again } _ (by decide) hLoad
      hContents with
    ⟨written, hSave, _, _, hPasses, _⟩
  exact
    ⟨path, tree, written, { path, script := again },
      hReadScript, hReadTable, hFails, hSave, hPasses⟩

end Cli

end SceneScript
