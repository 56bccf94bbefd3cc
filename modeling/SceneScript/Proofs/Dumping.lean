import SceneScript.Json.Script
import SceneScript.Proofs.Building
import SceneScript.Proofs.Editing
import SceneScript.Proofs.Layouts

/-
  Scripts and line tables are read from JSON as they were
  printed, on one line or on indented lines.

  Key definitions include:
    * `Dialogue.stripped`
    * `Command.stripped`
    * `Script.stripped`

  Correctness is stated by:
    * `Command.ofFields?_fieldValues`
    * `Command.reads_readJson`
    * `Script.ofJsonText_print`
    * `Script.stripped_eq_self_iff`
    * `LineTable.ofJsonText_print`
    * `Json.round_trip`

  A box is built anew from the lines in a JSON text, which
  removes CR and LF.  Everything else of a script comes back
  as it was, and so does everything of a table.
-/

namespace SceneScript

------------------------------------------------------------
-- Stripped Scripts
------------------------------------------------------------

namespace Dialogue

/- The box that is built of the lines of a box. -/
def stripped (dialogue : Dialogue) : Dialogue :=
  .ofLines dialogue.lines

/-
  The lines that come back are stripped, and a line that is
  left empty is missing.
-/
theorem lines_stripped (dialogue : Dialogue) :
    dialogue.stripped.lines =
      (dialogue.lines.map Text.stripBreaks).filter
        (· ≠ []) := by
  have hPieces :
      (dialogue.lines.map Text.stripBreaks).flatMap
          (Text.splitOn separator) =
        dialogue.lines.map Text.stripBreaks := by
    calc
      (dialogue.lines.map Text.stripBreaks).flatMap
          (Text.splitOn separator)
      _ = (dialogue.lines.map Text.stripBreaks).flatMap
            fun line => [line] := by
          apply List.flatMap_congr
          intro line hLine
          rcases List.mem_map.mp hLine with
            ⟨source, hSource, rfl⟩
          apply Text.splitOn_of_not_mem
          intro hMem
          exact
            (dialogue.isLine source hSource).2
              (List.mem_of_mem_filter hMem)
      _ = dialogue.lines.map Text.stripBreaks :=
          List.flatMap_singleton' _
  have hLength :
      ((dialogue.lines.map Text.stripBreaks).filter
          (· ≠ [])).length ≤ maxLines :=
    calc
      ((dialogue.lines.map Text.stripBreaks).filter
          (· ≠ [])).length
      _ ≤ (dialogue.lines.map Text.stripBreaks).length :=
          List.length_filter_le _ _
      _ = dialogue.lines.length := List.length_map _
      _ ≤ maxLines := dialogue.length_le
  rw [stripped, lines_ofLines, hPieces,
    List.take_of_length_le hLength]

/- A box comes back as it is exactly when it is stripped. -/
theorem stripped_eq_self_iff (dialogue : Dialogue) :
    dialogue.stripped = dialogue ↔ dialogue.IsStripped := by
  constructor
  · intro hSame
    rw [← hSame]
    exact isStripped_ofLines dialogue.lines
  · exact IsStripped.ofLines_lines

end Dialogue

/- The command with a stripped text if it is a dialogue. -/
def Command.stripped (command : Command) : Command :=
  command.mapText Dialogue.stripped

namespace Script

/- The script with stripped dialogues. -/
def stripped (script : Script) : Script :=
  script.map Command.stripped

/-
  A script is stripped already exactly when no line of its
  dialogues has a CR or an LF.
-/
theorem stripped_eq_self_iff (script : Script) :
    script.stripped = script ↔
      ∀ text,
        .dialogue text ∈ script →
          ∀ line ∈ text.lines, '\r' ∉ line ∧ '\n' ∉ line := by
  unfold stripped
  rw [map_eq_self_iff]
  constructor
  · intro hSame text hText
    have hBox := hSame _ hText
    simp only [Command.stripped, Command.mapText,
      Command.dialogue.injEq] at hBox
    exact (Dialogue.stripped_eq_self_iff text).mp hBox
  · intro hStripped command hCommand
    cases command with
    | dialogue text =>
        have hBox :=
          (Dialogue.stripped_eq_self_iff text).mpr
            (hStripped text hCommand)
        simp [Command.stripped, Command.mapText, hBox]
    | _ => rfl

end Script

------------------------------------------------------------
-- Field Values
------------------------------------------------------------

namespace Json

/- A byte is read off its number. -/
theorem byte?_toNat (byte : UInt8) :
    (int byte.toNat).byte? = some byte := by
  have hBound := byte.toNat_lt
  rw [byte?, natBelow?, if_pos ⟨by omega, by omega⟩]
  simp

/- A word is read off its number. -/
theorem word?_toNat (word : UInt16) :
    (int word.toNat).word? = some word := by
  have hBound := word.toNat_lt
  rw [word?, natBelow?, if_pos ⟨by omega, by omega⟩]
  simp

/- A signed word is read off its number. -/
theorem signedWord?_toInt (word : Int16) :
    (int word.toInt).signedWord? = some word := by
  have hLower := word.le_toInt
  have hUpper := word.toInt_lt
  simp only [signedWord?, int?, Option.bind_eq_bind,
    Option.bind_some]
  rw [if_pos ⟨by omega, by omega⟩, Int16.ofInt_toInt]
  rfl

/- A placement is read off its name. -/
theorem placement?_key (placement : Placement) :
    (str placement.key).placement? = some placement := by
  obtain ⟨side, facing⟩ := placement
  cases side <;> cases facing <;> rfl

end Json

------------------------------------------------------------
-- Fields of Commands
------------------------------------------------------------

namespace Command

/- The fields of a command make up the stripped command. -/
theorem ofFields?_fieldValues (command : Command) :
    ofFields? command.opcode command.fieldValues =
      some command.stripped := by
  cases command with
  | dialogue text =>
      have hStrings :
          (text.lines.map fun line =>
              Json.str (String.ofList line)).mapM Json.str? =
            some (text.lines.map String.ofList) := by
        have hString (text : String) :
            (Json.str text).str? = some text :=
          rfl
        have hEach :=
          mapM_map_eq_some hString
            (text.lines.map String.ofList)
        rw [List.map_map] at hEach
        exact hEach
      have hLines :
          (text.lines.map String.ofList).map String.toList =
            text.lines := by
        simp
      simp only [ofFields?, opcode, fieldValues,
        Json.strings?, Json.arr?, Option.bind_eq_bind,
        Option.bind_some, hStrings, hLines]
      rfl
  | wait hundredths =>
      simp only [ofFields?, opcode, fieldValues,
        Json.word?_toNat]
      rfl
  | sound name => rfl
  | fadeIn first second third fourth =>
      have hBytes :=
        mapM_map_eq_some Json.byte?_toNat
          [first, second, third, fourth]
      simp only [ofFields?, opcode, fieldValues, Json.arr?,
        Option.bind_eq_bind, Option.bind_some, hBytes]
      rfl
  | transition unknown name speed =>
      simp only [ofFields?, opcode, fieldValues, Json.str?,
        Json.byte?_toNat, Json.signedWord?_toInt]
      rfl
  | background unknown name =>
      simp only [ofFields?, opcode, fieldValues, Json.str?,
        Json.byte?_toNat]
      rfl
  | character placement name =>
      simp only [ofFields?, opcode, fieldValues, Json.str?,
        Json.placement?_key]
      rfl
  | finish => rfl

/- The fields are found under their keys. -/
theorem ofEntries?_fieldValues (command : Command) :
    ofEntries? command.opcode
        (command.opcode.fields.zip command.fieldValues) =
      some command.stripped := by
  have hFields :
      command.opcode.fields.mapM
          (Json.field?
            (command.opcode.fields.zip command.fieldValues)) =
        some command.fieldValues := by
    cases command <;> rfl
  rw [ofEntries?, hFields]
  exact ofFields?_fieldValues command

/- The fields of a command can be read back. -/
theorem fits_fieldValues
    (command : Command)
    (room : Nat) :
    ∀ value ∈ command.fieldValues,
      Json.Fits (room + 1) value := by
  have hByte (byte : UInt8) : Json.InRange byte.toNat := by
    have hBound := byte.toNat_lt
    exact Json.inRange_of_word (by omega) (by omega)
  cases command with
  | dialogue text =>
      simp only [fieldValues, List.forall_mem_singleton]
      apply Json.Fits.arr
      intro item hItem
      rcases List.mem_map.mp hItem with ⟨line, _, rfl⟩
      exact .str _
  | wait hundredths =>
      have hBound := hundredths.toNat_lt
      simp only [fieldValues, List.forall_mem_singleton]
      exact
        .int (Json.inRange_of_word (by omega) (by omega))
  | sound name =>
      simp only [fieldValues, List.forall_mem_singleton]
      exact .str name
  | fadeIn first second third fourth =>
      simp only [fieldValues, List.forall_mem_singleton]
      apply Json.Fits.arr
      intro item hItem
      rcases List.mem_map.mp hItem with ⟨byte, _, rfl⟩
      exact .int (hByte byte)
  | transition unknown name speed =>
      have hLower := speed.le_toInt
      have hUpper := speed.toInt_lt
      simp only [fieldValues, List.forall_mem_cons]
      exact
        ⟨.int (hByte unknown), .str name,
          .int (Json.inRange_of_word (by omega) (by omega)),
          by simp⟩
  | background unknown name =>
      simp only [fieldValues, List.forall_mem_cons]
      exact ⟨.int (hByte unknown), .str name, by simp⟩
  | character placement name =>
      simp only [fieldValues, List.forall_mem_cons]
      exact ⟨.str placement.key, .str name, by simp⟩
  | finish => simp [fieldValues]

------------------------------------------------------------
-- Commands
------------------------------------------------------------

/- No field has the key of the tag. -/
theorem ne_tagKey_of_mem_fields
    {opcode : Opcode}
    {key : String}
    (hKey : key ∈ opcode.fields) :
    key ≠ tagKey := by
  rintro rfl
  cases opcode <;> simp [Opcode.fields, tagKey] at hKey

/- A printed tag is read. -/
theorem reads_readTag (opcode : Opcode) :
    Json.Reads readTag (Json.quoted opcode.tag) opcode := by
  have hTag : Opcode.ofTag? opcode.tag = some opcode := by
    cases opcode <;> rfl
  have hString := Json.reads_strictString opcode.tag
  refine ⟨hString.starts, fun rest hRest => ?_⟩
  simp only [readTag, hString.reads rest hRest, bind,
    Except.bind, hTag]
  rfl

section Entries

variable {item : Json.ReadFn Json} {gap : Text}

/- The first tag is kept apart from the entries. -/
theorem readsEntry_tag
    (hGap : ∀ c ∈ gap, Json.isSpace c = true)
    (opcode : Opcode)
    (entries : List (String × Json)) :
    Json.ReadsEntry (readEntry item)
      { opcode? := none, entries } tagKey
      (':' :: gap ++ Json.quoted opcode.tag)
      { opcode? := some opcode, entries } := by
  intro rest hRest
  simp only [readEntry, if_true, Option.isSome_none,
    Bool.false_eq_true, if_false, bind, Except.bind,
    Json.afterColon_printed hGap (reads_readTag opcode)
      hRest]
  rfl

/- Any other value is added to the entries. -/
theorem readsEntry_field
    (hGap : ∀ c ∈ gap, Json.isSpace c = true)
    {key : String}
    (hKey : key ≠ tagKey)
    {text : Text}
    {json : Json}
    (hItem : Json.Reads item text json)
    (draft : Draft) :
    Json.ReadsEntry (readEntry item) draft key
      (':' :: gap ++ text)
      { draft with entries := (key, json) :: draft.entries } := by
  intro rest hRest
  have hEntry :=
    Json.readsEntry_anyEntry hGap hItem draft.entries key rest
      hRest
  simp only [readEntry, if_neg hKey, hEntry, bind,
    Except.bind]
  rfl

end Entries

/- Entries are added to a draft one by one. -/
theorem foldl_draft
    (entries : List (String × Json))
    (draft : Draft) :
    entries.foldl
        (fun draft entry =>
          { draft with entries := entry :: draft.entries })
        draft =
      { draft with
        entries := entries.reverse ++ draft.entries } := by
  induction entries generalizing draft with
  | nil => rfl
  | cons entry later ih => simp [ih]

/- A printed command is read with a stripped text. -/
theorem reads_readJson
    (layout : Json.Layout)
    (command : Command)
    {level limit : Nat}
    (hLimit :
      (layout.print level command.toJson).length ≤ limit)
    (room : Nat) :
    Json.Reads (readJson limit (room + 1))
      (layout.print level command.toJson)
      command.stripped := by
  have hTag :
      Json.ReadsEntry
        (readEntry (Json.value limit (room + 1)))
        { opcode? := none, entries := [] } tagKey
        (layout.behindKey (level + 1)
          (.str command.opcode.tag))
        { opcode? := some command.opcode, entries := [] } := by
    rw [Json.Layout.behindKey, layout.print_str]
    exact readsEntry_tag layout.isSpace command.opcode []
  have hFields :
      ∀ part ∈
          command.opcode.fields.zip command.fieldValues,
        (layout.print (level + 1) part.2).length ≤ limit →
          ∀ draft,
            Json.ReadsEntry
              (readEntry (Json.value limit (room + 1)))
              draft part.1
              (layout.behindKey (level + 1) part.2)
              { draft with
                entries := part :: draft.entries } := by
    intro part hPart hLength draft
    have hParts := List.of_mem_zip hPart
    have hFits := fits_fieldValues command room part.2 hParts.2
    exact
      readsEntry_field layout.isSpace
        (ne_tagKey_of_mem_fields hParts.1)
        (layout.reads_value hFits hLength) draft
  refine ⟨layout.starts_obj level _, ?_⟩
  intro rest _
  rcases layout.objectRest_print hLimit (fun _ => hTag)
      hFields rest with
    ⟨text, hPrint, hRead⟩
  rw [foldl_draft] at hRead
  rw [toJson, hPrint]
  simp only [readJson, hRead, bind, Except.bind,
    List.append_nil, List.reverse_reverse,
    ofEntries?_fieldValues]
  rfl

end Command

------------------------------------------------------------
-- Scripts and Tables
------------------------------------------------------------

/- A printed array is read where an array is right. -/
theorem Json.Layout.reads_strictArray
    (layout : Json.Layout)
    {α β : Type}
    {item : Json.ReadFn α}
    {part : β → Json}
    {value : β → α}
    {parts : List β}
    {level limit : Nat}
    (hLimit :
      (layout.print level (.arr (parts.map part))).length ≤
        limit)
    (hParts :
      ∀ source ∈ parts,
        (layout.print (level + 1) (part source)).length ≤
            limit →
          Json.Reads item
            (layout.print (level + 1) (part source))
            (value source)) :
    Json.Reads (Json.strictArray limit item)
      (layout.print level (.arr (parts.map part)))
      (parts.map value) := by
  refine ⟨layout.starts_arr level _, ?_⟩
  intro rest _
  rcases layout.arrayRest_print hLimit hParts rest with
    ⟨text, hPrint, hRead⟩
  rw [hPrint]
  exact hRead

/- A printed script is read back with stripped dialogues. -/
theorem Script.ofJsonText_print
    (layout : Json.Layout)
    (script : Script) :
    ofJsonText (layout.print 0 script.toJson) =
      .ok script.stripped := by
  apply Json.whole_of_reads
  apply layout.reads_strictArray (Nat.le_refl _)
  intro command _ hLimit
  exact Command.reads_readJson layout command hLimit _

/- A printed table is read back with the same lines. -/
theorem LineTable.ofJsonText_print
    (layout : Json.Layout)
    (table : LineTable) :
    ofJsonText (layout.print 0 table.toJson) =
      .ok (.ofList table.toList) := by
  have hStrings :
      jsonStrings (layout.print 0 table.toJson) =
        .ok (table.toList.map String.ofList) := by
    apply Json.whole_of_reads
    apply layout.reads_strictArray (Nat.le_refl _)
    intro line _ _
    rw [layout.print_str]
    exact Json.reads_strictString (String.ofList line)
  have hLines :
      (table.toList.map String.ofList).map String.toList =
        table.toList := by
    simp
  rw [ofJsonText_eq, hStrings]
  change Except.ok (ofList _) = _
  rw [hLines]

/-
  A script that is read from either of its JSON texts has
  every dialogue built anew of its lines, and is the same
  script exactly when no dialogue line has a CR or an LF.  A
  table is read from either of its JSON texts as it was.
-/
theorem Json.round_trip :
    (∀ script : Script,
      let reread :=
        script.map
          (Command.mapText fun text => .ofLines text.lines)
      Script.ofJsonText script.toJson.compact = .ok reread ∧
        Script.ofJsonText script.toJson.pretty =
          .ok reread ∧
        (reread = script ↔
          ∀ text,
            .dialogue text ∈ script →
              ∀ line ∈ text.lines,
                '\r' ∉ line ∧ '\n' ∉ line)) ∧
      (∀ text : Dialogue,
        (Dialogue.ofLines text.lines).lines =
          (text.lines.map Text.stripBreaks).filter
            (· ≠ [])) ∧
      ∀ table : LineTable,
        ∃ reread,
          LineTable.ofJsonText table.toJson.compact =
              .ok reread ∧
            LineTable.ofJsonText table.toJson.pretty =
              .ok reread ∧
            reread.Same table := by
  refine ⟨fun script => ⟨?_, ?_, ?_⟩, ?_, fun table => ?_⟩
  · exact Script.ofJsonText_print .compact script
  · exact Script.ofJsonText_print .pretty script
  · exact script.stripped_eq_self_iff
  · exact Dialogue.lines_stripped
  · refine ⟨.ofList table.toList, ?_, ?_, ?_⟩
    · exact LineTable.ofJsonText_print .compact table
    · exact LineTable.ofJsonText_print .pretty table
    · rw [LineTable.same_iff, LineTable.toList_ofList]

/- A line without any other character is missing afterwards. -/
example :
    Script.ofJsonText
        (Script.toJson
          [.dialogue (.ofJoined ['A', '\n', '↓', '\r'])]).pretty =
      .ok [.dialogue (.ofJoined ['A'])] := by
  decide +kernel

end SceneScript
