import Mathlib.Data.List.Perm.Subperm
import SceneScript.Proofs.FilePair

/-
  Writing a script again after it came back from its files.

  Key definitions include:
    * `Script.EncodesTo`

  Correctness is stated by:
    * `Script.storeAll_map`
    * `Script.encode_onDisk_of_separates`
    * `Script.separates_of_encode`
    * `Script.onDisk_encodesTo_iff`

  The lines of the new table are the old ones in disk form as
  long as no two of them become equal.  If some do, the new
  table is shorter, which its file shows.
-/

namespace SceneScript

------------------------------------------------------------
-- Changed Boxes
------------------------------------------------------------

/-
  A command is stored as before when its box changes, as long
  as the lines of the table change alike and stay apart.
-/
theorem Command.store_mapText
    {table changed grown : LineTable}
    {f : Text → Text}
    {g : Dialogue → Dialogue}
    (hJoined : ∀ text, (g text).joined = f text.joined)
    {command : Command}
    {payload : Payload}
    (hStore : command.store table = (.ok payload, grown))
    (hLines : changed.toList = table.toList.map f)
    (hSeparates : LineTable.Separates f grown.toList) :
    ∃ changedGrown,
      (command.mapText g).store changed =
          (.ok payload, changedGrown) ∧
        changedGrown.toList = grown.toList.map f := by
  cases command with
  | dialogue text =>
      rcases eq_of_store_dialogue hStore with
        ⟨hFits, rfl, rfl⟩
      have hAdd := LineTable.add_map hLines hSeparates
      refine ⟨_, ?_, hAdd.2⟩
      simp only [mapText, store, hJoined, hAdd.1]
      rw [if_pos hFits]
      rfl
  | _ =>
      rcases Prod.mk.inj hStore with ⟨hPayload, rfl⟩
      exact ⟨changed, Prod.ext hPayload rfl, hLines⟩

/- A script is stored as before when its boxes change. -/
theorem Script.storeAll_map
    {table changed final : LineTable}
    {f : Text → Text}
    {g : Dialogue → Dialogue}
    (hJoined : ∀ text, (g text).joined = f text.joined)
    {script : Script}
    {payloads : List Payload}
    (hStored :
      storeAll table script = .ok (payloads, final))
    (hLines : changed.toList = table.toList.map f)
    (hSeparates : LineTable.Separates f final.toList) :
    ∃ changedFinal,
      storeAll changed (script.map (Command.mapText g)) =
          .ok (payloads, changedFinal) ∧
        changedFinal.toList = final.toList.map f := by
  induction script generalizing table changed payloads with
  | nil =>
      cases hStored
      exact ⟨changed, rfl, hLines⟩
  | cons command rest ih =>
      rcases storeAll_cons_eq_ok_iff.mp hStored with
        ⟨payload, grown, later, hStore, hRest, rfl⟩
      have hGrown := (isSegment_of_storeAll hRest).1
      rcases Command.store_mapText hJoined hStore hLines
          (hSeparates.mono hGrown.subset) with
        ⟨changedGrown, hChanged, hChangedLines⟩
      rcases ih hRest hChangedLines with
        ⟨changedFinal, hChangedRest, hFinal⟩
      refine ⟨changedFinal, ?_, hFinal⟩
      rw [List.map_cons]
      exact
        storeAll_cons_eq_ok_iff.mpr
          ⟨payload, changedGrown, later, hChanged,
            hChangedRest, rfl⟩

namespace Script

------------------------------------------------------------
-- Tables of Encoded Scripts
------------------------------------------------------------

/- The table of an encoded script repeats no line. -/
theorem nodup_of_encode
    {script : Script}
    {encoded : Encoded}
    (hEncode : script.encode = .ok encoded) :
    encoded.table.toList.Nodup := by
  rcases exists_storeAll_of_encode hEncode with
    ⟨payloads, hStored, _⟩
  exact nodup_of_storeAll hStored List.nodup_nil

/- The table of an encoded script has its joined texts. -/
theorem mem_of_encode_iff
    {script : Script}
    {encoded : Encoded}
    (hEncode : script.encode = .ok encoded)
    (line : Text) :
    line ∈ encoded.table.toList ↔
      ∃ text,
        Command.dialogue text ∈ script ∧
          line = text.joined := by
  rcases exists_storeAll_of_encode hEncode with
    ⟨payloads, hStored, _⟩
  rw [mem_of_storeAll_iff hStored, LineTable.toList_empty]
  simp

/-
  If the lines stay apart, the script that comes back has the
  same bytes, and its table has the same lines in disk form.
-/
theorem encode_onDisk_of_separates
    {script : Script}
    {encoded : Encoded}
    (hEncode : script.encode = .ok encoded)
    (hSeparates :
      LineTable.Separates Text.onDisk
        encoded.table.toList) :
    ∃ again,
      script.onDisk.encode = .ok again ∧
        again.script = encoded.script ∧
        again.table.toList =
          encoded.table.toList.map Text.onDisk := by
  rcases exists_storeAll_of_encode hEncode with
    ⟨payloads, hStored, hBytes⟩
  have hEmpty :
      LineTable.empty.toList =
        LineTable.empty.toList.map Text.onDisk :=
    rfl
  rcases storeAll_map Dialogue.joined_onDisk hStored hEmpty
      hSeparates with
    ⟨table, hAgain, hLines⟩
  have hOnDisk :
      storeAll .empty script.onDisk = .ok (payloads, table) :=
    hAgain
  refine ⟨{ script := encoded.script, table }, ?_, rfl, hLines⟩
  rw [encode_eq, hOnDisk, hBytes]

/- The lines of a table that is built again are disk forms. -/
theorem subset_of_encode_onDisk
    {script : Script}
    {encoded again : Encoded}
    (hEncode : script.encode = .ok encoded)
    (hAgain : script.onDisk.encode = .ok again) :
    again.table.toList ⊆
      encoded.table.toList.map Text.onDisk := by
  intro line hLine
  rcases (mem_of_encode_iff hAgain line).mp hLine with
    ⟨text, hText, rfl⟩
  rcases dialogue_mem_onDisk_iff.mp hText with
    ⟨source, hSource, rfl⟩
  rw [Dialogue.joined_onDisk]
  apply List.mem_map_of_mem
  exact (mem_of_encode_iff hEncode _).mpr ⟨source, hSource, rfl⟩

end Script

------------------------------------------------------------
-- Equal Table Files
------------------------------------------------------------

namespace LineTable

/- A table in disk form has the same file without overlines. -/
theorem encode_of_toList_map_onDisk
    {table again : LineTable}
    {bytes : List UInt8}
    (hEncode : table.encode = .ok bytes)
    (hLines : again.toList = table.toList.map Text.onDisk)
    (hOverline : ∀ line ∈ table.toList, '‾' ∉ line) :
    again.encode = .ok bytes := by
  rcases encode_eq_ok_iff.mp hEncode with
    ⟨parts, hStored, hBytes⟩
  refine encode_eq_ok_iff.mpr ⟨parts, ?_, hBytes⟩
  rw [hLines, List.forall₂_map_left_iff]
  have hBoth :=
    (List.forall₂_and_left _ _).mpr ⟨hOverline, hStored⟩
  exact hBoth.imp fun _ _ hLine => hLine.2.onDisk hLine.1

/- Tables with the same file have the same stored lines. -/
theorem map_stored_eq_of_encode
    {left right : LineTable}
    {bytes : List UInt8}
    (hLeft : left.encode = .ok bytes)
    (hRight : right.encode = .ok bytes)
    (hLeftNonempty : left.toList ≠ [])
    (hRightNonempty : right.toList ≠ []) :
    left.toList.map (List.map Width.storedChar) =
      right.toList.map (List.map Width.storedChar) := by
  rcases encode_eq_ok_iff.mp hLeft with
    ⟨leftParts, hLeftStored, hLeftBytes⟩
  rcases encode_eq_ok_iff.mp hRight with
    ⟨rightParts, hRightStored, hRightBytes⟩
  rw [
    ← splitLines_decode_intercalate hLeftStored
      hLeftNonempty,
    ← splitLines_decode_intercalate hRightStored
      hRightNonempty,
    hLeftBytes, hRightBytes]

/-
  If a table and its disk form have the same file, no line
  holds an overline.  The overline is stored as the half-width
  tilde, and what comes back as the full-width one.
-/
theorem overline_not_mem_of_encode
    {table again : LineTable}
    {bytes : List UInt8}
    (hEncode : table.encode = .ok bytes)
    (hAgain : again.encode = .ok bytes)
    (hLines : again.toList = table.toList.map Text.onDisk)
    {line : Text}
    (hLine : line ∈ table.toList) :
    '‾' ∉ line := by
  intro hMem
  have hNonempty : table.toList ≠ [] :=
    List.ne_nil_of_mem hLine
  have hAgainNonempty : again.toList ≠ [] := by
    rw [hLines]
    simpa using hNonempty
  have hStored :=
    map_stored_eq_of_encode hEncode hAgain hNonempty
      hAgainNonempty
  rw [hLines, List.map_map] at hStored
  have hSameLine :
      line.map Width.storedChar =
        line.onDisk.map Width.storedChar :=
    List.map_inj_left.mp hStored line hLine
  rw [Text.onDisk, List.map_map] at hSameLine
  have hSameChar :
      Width.storedChar '‾' =
        Width.storedChar (Width.diskChar '‾') :=
    List.map_inj_left.mp hSameLine '‾' hMem
  exact Width.storedChar_diskChar_overline hSameChar.symm

end LineTable

------------------------------------------------------------
-- Rewritten Scripts
------------------------------------------------------------

namespace Script

/- A script encodes to the given bytes of its two files. -/
def EncodesTo
    (script : Script)
    (bytes tableBytes : List UInt8) : Prop :=
  ∃ encoded,
    script.encode = .ok encoded ∧
      encoded.script = bytes ∧
      encoded.table.encode = .ok tableBytes

/-
  If the table that comes back has the same file, no two of
  its lines became equal.  Its lines are different disk forms,
  and there are as many of them as before.
-/
theorem separates_of_encode
    {script : Script}
    {encoded again : Encoded}
    {tableBytes : List UInt8}
    (hEncode : script.encode = .ok encoded)
    (hTable : encoded.table.encode = .ok tableBytes)
    (hAgain : script.onDisk.encode = .ok again)
    (hAgainTable : again.table.encode = .ok tableBytes) :
    LineTable.Separates Text.onDisk
      encoded.table.toList := by
  by_cases hNonempty : encoded.table.toList = []
  · intro left hLeft
    rw [hNonempty] at hLeft
    simp at hLeft
  · have hAgainNonempty : again.table.toList ≠ [] := by
      rcases List.exists_mem_of_ne_nil _ hNonempty with
        ⟨line, hLine⟩
      rcases (mem_of_encode_iff hEncode line).mp hLine with
        ⟨text, hText, rfl⟩
      have hOnDisk :
          Command.dialogue text.onDisk ∈ script.onDisk :=
        dialogue_mem_onDisk_iff.mpr ⟨text, hText, rfl⟩
      exact
        List.ne_nil_of_mem
          ((mem_of_encode_iff hAgain _).mpr
            ⟨text.onDisk, hOnDisk, rfl⟩)
    have hLength :=
      congrArg List.length
        (LineTable.map_stored_eq_of_encode hTable
          hAgainTable hNonempty hAgainNonempty)
    rw [List.length_map, List.length_map] at hLength
    have hSubperm :=
      List.Nodup.subperm (nodup_of_encode hAgain)
        (subset_of_encode_onDisk hEncode hAgain)
    have hPerm :
        again.table.toList.Perm
          (encoded.table.toList.map Text.onDisk) := by
      apply hSubperm.perm_of_length_le
      rw [List.length_map]
      exact Nat.le_of_eq hLength
    have hNodup :
        (encoded.table.toList.map Text.onDisk).Nodup :=
      hPerm.nodup_iff.mp (nodup_of_encode hAgain)
    intro left hLeft right hRight hSame
    exact List.inj_on_of_nodup_map hNodup hLeft hRight hSame

/-
  The script that comes back encodes to the same two files
  exactly when no line of the table holds an overline and no
  two of them become equal.
-/
theorem onDisk_encodesTo_iff
    {script : Script}
    {encoded : Encoded}
    {tableBytes : List UInt8}
    (hEncode : script.encode = .ok encoded)
    (hTable : encoded.table.encode = .ok tableBytes) :
    script.onDisk.EncodesTo encoded.script tableBytes ↔
      (∀ line ∈ encoded.table.toList, '‾' ∉ line) ∧
        LineTable.Separates Text.onDisk
          encoded.table.toList := by
  constructor
  · rintro ⟨again, hAgain, _, hAgainTable⟩
    have hSeparates :=
      separates_of_encode hEncode hTable hAgain hAgainTable
    rcases encode_onDisk_of_separates hEncode hSeparates with
      ⟨expected, hExpected, _, hLines⟩
    rw [hAgain] at hExpected
    cases hExpected
    refine ⟨?_, hSeparates⟩
    intro line hLine
    exact
      LineTable.overline_not_mem_of_encode hTable
        hAgainTable hLines hLine
  · rintro ⟨hOverline, hSeparates⟩
    rcases encode_onDisk_of_separates hEncode hSeparates with
      ⟨again, hAgain, hBytes, hLines⟩
    exact
      ⟨again, hAgain, hBytes,
        LineTable.encode_of_toList_map_onDisk hTable hLines
          hOverline⟩

end Script

end SceneScript
