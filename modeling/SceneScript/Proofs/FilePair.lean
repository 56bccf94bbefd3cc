import SceneScript.Proofs.Repertoire
import SceneScript.Proofs.TableFile
import SceneScript.Proofs.Writing

/-
  Scripts that are read back from their two files.

  Key definitions include:
    * `Command.layout`

  Correctness is stated by:
    * `Spells.onDisk`
    * `Script.decode_encode_files`

  Two lines of a table may come back equal.  They keep their
  own positions, so that no segment has to change.
-/

namespace SceneScript

/- A line comes back in its disk form at its position. -/
theorem LineTable.getElem?_decode_of_encode
    {table : LineTable}
    {bytes : List UInt8}
    (hEncode : table.encode = .ok bytes)
    {index : Nat}
    {line : Text}
    (hLine : table.toList[index]? = some line) :
    (decode bytes).toList[index]? = some line.onDisk := by
  have hNonempty : table.toList ≠ [] :=
    List.ne_nil_of_mem (List.mem_of_getElem? hLine)
  rw [toList_decode_of_encode hEncode, if_neg hNonempty,
    List.getElem?_map, hLine]
  rfl

/-
  The bytes of a script spell its disk form once the table
  went through a file.
-/
theorem Spells.onDisk
    {table : LineTable}
    {script : Script}
    {bytes tableBytes : List UInt8}
    (hSpells : Spells table script bytes)
    (hTable : table.encode = .ok tableBytes) :
    Spells (.decode tableBytes) script.onDisk bytes :=
  hSpells.relocate Dialogue.ofJoined_onDisk
    fun _ _ hLine =>
      LineTable.getElem?_decode_of_encode hTable hLine

/- A line that was read from a file comes back as it is. -/
theorem LineTable.onDisk_eq_self_of_mem_decode
    {bytes : List UInt8}
    {line : Text}
    (hLine : line ∈ (decode bytes).toList) :
    line.onDisk = line := by
  rw [Text.onDisk_eq_self_iff]
  intro c hMem
  rcases exists_halfChar_of_mem_decode hLine hMem with
    ⟨d, hDecoded, rfl⟩
  exact
    Width.diskChar_halfChar
      (ShiftJis.not_isForeign_of_mem_decode hDecoded)

/-
  A script that was read from two files is in disk form.  Its
  bytes spell both it and its disk form.
-/
theorem Script.onDisk_eq_self_of_decode
    {bytes tableBytes : List UInt8}
    {requireEnd : Bool}
    {script : Script}
    (hDecode :
      decode bytes (.decode tableBytes) requireEnd =
        .ok script) :
    script.onDisk = script := by
  have hSpells := spells_of_decode hDecode
  have hOnDisk :
      Spells (.decode tableBytes) script.onDisk bytes := by
    refine
      hSpells.relocate Dialogue.ofJoined_onDisk
        fun index line hLine => ?_
    rw [LineTable.onDisk_eq_self_of_mem_decode
      (List.mem_of_getElem? hLine)]
    exact hLine
  rcases hSpells with ⟨segments, hSegments, hBytes⟩
  rcases hOnDisk with ⟨others, hOthers, hOtherBytes⟩
  exact
    (eq_of_forall₂_isSegment hOthers hSegments
      (hOtherBytes.trans hBytes.symm)).1

/- The lengths of the lines that a command puts into the box. -/
def Command.layout : Command → List Nat
| dialogue text => text.lines.map List.length
| _ => []

/- A command keeps the layout of its box. -/
theorem Command.layout_onDisk (command : Command) :
    command.onDisk.layout = command.layout := by
  cases command with
  | dialogue text =>
      change
        (text.lines.map Text.onDisk).map List.length =
          text.lines.map List.length
      rw [List.map_map]
      apply List.map_congr_left
      intro line _
      exact line.length_onDisk
  | _ => rfl

namespace Script

/- What was written to two files is read in disk form. -/
theorem decode_files_of_encode
    {script : Script}
    {encoded : Encoded}
    {tableBytes : List UInt8}
    (hEncode : script.encode = .ok encoded)
    (hTable : encoded.table.encode = .ok tableBytes) :
    decode encoded.script (.decode tableBytes) false =
      .ok script.onDisk :=
  decode_eq_ok_iff_spells.mpr
    ((spells_of_encode hEncode).onDisk hTable)

/- Every command keeps its layout on disk. -/
theorem map_layout_onDisk (script : Script) :
    script.onDisk.map Command.layout =
      script.map Command.layout := by
  rw [onDisk, List.map_map]
  apply List.map_congr_left
  intro command _
  exact command.layout_onDisk

/-
  A script that was written to its two files is read back in
  its disk form.  Every box keeps its layout, and the script
  is the same exactly when each character of its boxes is.
-/
theorem decode_encode_files
    {script : Script}
    {encoded : Encoded}
    {tableBytes : List UInt8}
    (hEncode : script.encode = .ok encoded)
    (hTable : encoded.table.encode = .ok tableBytes) :
    decode encoded.script (.decode tableBytes) false =
        .ok script.onDisk ∧
      script.onDisk.map Command.layout =
        script.map Command.layout ∧
      (script.onDisk = script ↔
        ∀ text, Command.dialogue text ∈ script →
          ∀ line ∈ text.lines,
            ∀ c ∈ line, Width.diskChar c = c) := by
  refine ⟨?_, ?_, onDisk_eq_self_iff script⟩
  · exact decode_files_of_encode hEncode hTable
  · exact map_layout_onDisk script

/- A full-width letter, a yen sign and an overline. -/
theorem decode_encode_files_three_forms :
    ∃ (script : Script)
      (encoded : Encoded)
      (tableBytes : List UInt8),
      script =
          [.dialogue (.ofJoined ['Ａ', '↓', '¥', '‾']),
            .finish] ∧
        script.encode = .ok encoded ∧
        encoded.table.encode = .ok tableBytes ∧
        decode encoded.script (.decode tableBytes) false =
          .ok
            [.dialogue (.ofJoined ['A', '↓', '\\', '~']),
              .finish] := by
  let line : Text := ['Ａ', '↓', '¥', '‾']
  have hEncode :
      encode [.dialogue (.ofJoined line), .finish] =
        .ok
          { script := [0x23, 0x00, 0x00, 0x00, 0x23, 0xFE]
            table := (LineTable.empty.add line).2 } :=
    rfl
  have hTable :
      (LineTable.empty.add line).2.encode =
        .ok [0x82, 0x60, 0x81, 0xAB, 0x5C, 0x7E] := by
    decide +kernel
  refine ⟨_, _, _, rfl, hEncode, hTable, ?_⟩
  rw [(decode_encode_files hEncode hTable).1]
  decide +kernel

end Script

end SceneScript
