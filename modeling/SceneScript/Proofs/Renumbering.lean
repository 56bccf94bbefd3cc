import Mathlib.Data.List.Perm.Subperm
import SceneScript.Proofs.Attempts

/-
  Encoding a script again that was decoded.

  Key definitions include:
    * `CountsUp`
    * `Segment.dialogueIndex?`
    * `Segment.renumbered`
    * `Script.isIndexByte`

  Correctness is stated by:
    * `idxOf_map_eraseDups_iff`
    * `IsSegment.segment?_eq`
    * `Script.encode_of_areSegments`
    * `Script.length_eraseDups_texts_le`
    * `Script.encode_of_decode`

  Only the numbers of lines can change, as every other field
  of a segment is told by its command.  Lines are numbered by
  their first use, and two lines with the same box become one.
-/

namespace SceneScript

------------------------------------------------------------
-- First Occurrences
------------------------------------------------------------

/-
  Numbers make their first appearances in the order of the
  natural numbers, without gaps.
-/
def CountsUp (numbers : List Nat) : Prop :=
  numbers.eraseDups = List.range numbers.eraseDups.length

instance (numbers : List Nat) : Decidable (CountsUp numbers) := by
  unfold CountsUp
  infer_instance

/- Numbers count up if each is its own position. -/
theorem countsUp_iff (numbers : List Nat) :
    CountsUp numbers ↔
      ∀ number ∈ numbers,
        numbers.eraseDups.idxOf number = number := by
  have hNodup := nodup_eraseDups numbers
  constructor
  · intro hCounts number hNumber
    rw [← List.mem_eraseDups] at hNumber
    rcases List.getElem_of_mem hNumber with
      ⟨position, hPosition, hSame⟩
    have hAt : position = number := by
      rw [← hSame]
      have hRange :=
        List.getElem_of_eq hCounts hPosition
      rw [List.getElem_range] at hRange
      exact hRange.symm
    rw [← hSame, hNodup.idxOf_getElem, hSame, hAt]
  · intro hOwn
    apply List.ext_getElem
    · rw [List.length_range]
    · intro position hPosition _
      have hMem :
          numbers.eraseDups[position] ∈ numbers :=
        List.mem_eraseDups.mp (List.getElem_mem hPosition)
      have hSame := hOwn _ hMem
      rw [hNodup.idxOf_getElem] at hSame
      rw [List.getElem_range, ← hSame]

/-
  Numbers are the positions of what they stand for, among the
  first occurrences, exactly when they count up and stand for
  different things.
-/
theorem idxOf_map_eraseDups_iff
    {α : Type}
    [BEq α]
    [LawfulBEq α]
    (f : Nat → α)
    (numbers : List Nat) :
    (∀ number ∈ numbers,
      (numbers.map f).eraseDups.idxOf (f number) = number) ↔
      CountsUp numbers ∧
        ∀ left ∈ numbers, ∀ right ∈ numbers,
          left ≠ right → f left ≠ f right := by
  have hPositions
      (hApart :
        ∀ left ∈ numbers, ∀ right ∈ numbers,
          f left = f right → left = right)
      {number : Nat}
      (hNumber : number ∈ numbers) :
      (numbers.map f).eraseDups.idxOf (f number) =
        numbers.eraseDups.idxOf number := by
    rw [eraseDups_map hApart]
    apply idxOf_map
    intro other hOther
    exact
      hApart other (List.mem_eraseDups.mp hOther) number
        hNumber
  constructor
  · intro hOwn
    have hApart :
        ∀ left ∈ numbers, ∀ right ∈ numbers,
          f left = f right → left = right := by
      intro left hLeft right hRight hSame
      rw [← hOwn left hLeft, hSame, hOwn right hRight]
    refine ⟨(countsUp_iff numbers).mpr ?_, ?_⟩
    · intro number hNumber
      rw [← hPositions hApart hNumber]
      exact hOwn number hNumber
    · intro left hLeft right hRight hOther hSame
      exact hOther (hApart left hLeft right hRight hSame)
  · rintro ⟨hCounts, hApart⟩ number hNumber
    rw [hPositions ?_ hNumber]
    · exact (countsUp_iff numbers).mp hCounts number hNumber
    · intro left hLeft right hRight hSame
      by_contra hOther
      exact hApart left hLeft right hRight hOther hSame

------------------------------------------------------------
-- Numbers of Lines
------------------------------------------------------------

namespace Segment

/- The number of the line that a dialogue segment refers to. -/
def dialogueIndex? : List UInt8 → Option Nat
| [first, second, low, high] =>
    if first = marker ∧ second = Opcode.dialogue.byte then
      some (low.toNat + 256 * high.toNat)
    else
      none
| _ => none

/- A number of a line stands behind the header of a dialogue. -/
theorem dialogueIndex?_eq_some_iff
    {segment : List UInt8}
    {index : Nat} :
    dialogueIndex? segment = some index ↔
      ∃ low high,
        segment = [0x23, 0x00, low, high] ∧
          index = low.toNat + 256 * high.toNat := by
  constructor
  · intro hIndex
    unfold dialogueIndex? at hIndex
    split at hIndex
    · rename_i first second low high
      split at hIndex
      · rename_i hHeader
        rcases hHeader with ⟨rfl, rfl⟩
        exact ⟨low, high, rfl, (Option.some.inj hIndex).symm⟩
      · simp at hIndex
    · simp at hIndex
  · rintro ⟨low, high, rfl, rfl⟩
    rfl

/- A word has room for the number of a line. -/
theorem lt_of_dialogueIndex?
    {segment : List UInt8}
    {index : Nat}
    (hIndex : dialogueIndex? segment = some index) :
    index < 65536 := by
  rcases dialogueIndex?_eq_some_iff.mp hIndex with
    ⟨low, high, _, rfl⟩
  have hLow := low.toNat_lt
  have hHigh := high.toNat_lt
  omega

/- The number of a stored dialogue is the one it has. -/
theorem dialogueIndex?_bytes (word : UInt16) :
    dialogueIndex? (bytes (.dialogue word)) =
      some word.toNat := by
  rcases Word.exists_isMadeOf word with
    ⟨low, high, hBytes, hWord⟩
  rw [bytes, Payload.bytes, hBytes,
    dialogueIndex?_eq_some_iff]
  exact ⟨low, high, rfl, hWord⟩

/- A segment with a number is the stored dialogue with it. -/
theorem eq_bytes_of_dialogueIndex?
    {segment : List UInt8}
    {index : Nat}
    (hIndex : dialogueIndex? segment = some index) :
    segment = bytes (.dialogue (UInt16.ofNat index)) := by
  have hSmall := lt_of_dialogueIndex? hIndex
  rcases dialogueIndex?_eq_some_iff.mp hIndex with
    ⟨low, high, rfl, hValue⟩
  have hWord :
      Word.IsMadeOf (UInt16.ofNat index) low high := by
    rw [Word.IsMadeOf, UInt16.toNat_ofNat', ← hValue]
    omega
  rw [bytes, Payload.bytes, Word.bytes_of_isMadeOf hWord]
  rfl

/-
  A segment with a new number if it is that of a dialogue.
  Other segments stay as they are.
-/
def renumbered
    (number : Nat → Nat)
    (segment : List UInt8) : List UInt8 :=
  match dialogueIndex? segment with
  | some index =>
      bytes (.dialogue (UInt16.ofNat (number index)))
  | none => segment

/- A new number takes as many bytes as the old one. -/
theorem length_renumbered
    (number : Nat → Nat)
    (segment : List UInt8) :
    (renumbered number segment).length = segment.length := by
  unfold renumbered
  cases hIndex : dialogueIndex? segment with
  | none => rfl
  | some index =>
      rcases dialogueIndex?_eq_some_iff.mp hIndex with
        ⟨low, high, rfl, _⟩
      simp only [length_bytes]
      rfl

/- A segment stays as it is when its number does. -/
theorem renumbered_eq_self_iff
    {number : Nat → Nat}
    {segment : List UInt8}
    (hSmall :
      ∀ index,
        dialogueIndex? segment = some index →
          number index < 65536) :
    renumbered number segment = segment ↔
      ∀ index,
        dialogueIndex? segment = some index →
          number index = index := by
  unfold renumbered
  cases hIndex : dialogueIndex? segment with
  | none => simp
  | some index =>
      have hNumber := hSmall index hIndex
      simp only [Option.some.injEq, forall_eq']
      constructor
      · intro hSame
        rw [← hSame, dialogueIndex?_bytes,
          UInt16.toNat_ofNat', Option.some.injEq] at hIndex
        omega
      · intro hSame
        rw [hSame, ← eq_bytes_of_dialogueIndex? hIndex]

/- Only behind the header can a new number be seen. -/
theorem getElem?_renumbered
    (number : Nat → Nat)
    {segment : List UInt8}
    {position : Nat}
    (hOutside :
      ((dialogueIndex? segment).isSome && 2 ≤ position) =
        false) :
    (renumbered number segment)[position]? =
      segment[position]? := by
  unfold renumbered
  cases hIndex : dialogueIndex? segment with
  | none => rfl
  | some index =>
      rcases dialogueIndex?_eq_some_iff.mp hIndex with
        ⟨low, high, rfl, _⟩
      have hHeader : position < 2 := by
        simpa [hIndex] using hOutside
      match position, hHeader with
      | 0, _ => rfl
      | 1, _ => rfl

end Segment

------------------------------------------------------------
-- Renumbered Bytes
------------------------------------------------------------

namespace Script

/-
  A position in a script is one of the two bytes that number
  the line of a dialogue.
-/
def isIndexByte : List (List UInt8) → Nat → Bool
| [], _ => false
| segment :: rest, position =>
    if position < segment.length then
      (Segment.dialogueIndex? segment).isSome &&
        2 ≤ position
    else
      isIndexByte rest (position - segment.length)

variable (number : Nat → Nat)
variable {segments : List (List UInt8)}

/- New numbers make a script neither longer nor shorter. -/
theorem length_flatten_renumbered
    (segments : List (List UInt8)) :
    (segments.map (Segment.renumbered number)).flatten.length =
      segments.flatten.length := by
  induction segments with
  | nil => rfl
  | cons segment rest ih =>
      rw [List.map_cons, List.flatten_cons,
        List.flatten_cons, List.length_append,
        List.length_append, Segment.length_renumbered, ih]

/- New numbers change no byte but those of numbers. -/
theorem getElem?_flatten_renumbered
    {position : Nat}
    (hOutside : isIndexByte segments position = false) :
    (segments.map (Segment.renumbered number)).flatten[
        position]? =
      segments.flatten[position]? := by
  induction segments generalizing position with
  | nil => rfl
  | cons segment rest ih =>
      have hLength := Segment.length_renumbered number segment
      rw [List.map_cons, List.flatten_cons,
        List.flatten_cons]
      rw [isIndexByte] at hOutside
      split at hOutside
      · rename_i hInside
        rw [List.getElem?_append_left (by omega),
          List.getElem?_append_left hInside,
          Segment.getElem?_renumbered number hOutside]
      · rename_i hBehind
        rw [List.getElem?_append_right (by omega),
          List.getElem?_append_right (by omega), hLength,
          ih hOutside]

/- A script stays as it is when all its segments do. -/
theorem flatten_renumbered_eq_iff
    (segments : List (List UInt8)) :
    (segments.map (Segment.renumbered number)).flatten =
        segments.flatten ↔
      ∀ segment ∈ segments,
        Segment.renumbered number segment = segment := by
  induction segments with
  | nil => simp
  | cons segment rest ih =>
      rw [List.map_cons, List.flatten_cons,
        List.flatten_cons, List.forall_mem_cons, ← ih]
      constructor
      · intro hSame
        exact
          List.append_inj hSame
            (Segment.length_renumbered number segment)
      · rintro ⟨hFirst, hRest⟩
        rw [hFirst, hRest]

end Script

------------------------------------------------------------
-- Segments of Decoded Commands
------------------------------------------------------------

/- The text that the box of a line is stored with. -/
def LineTable.rejoined
    (table : LineTable)
    (index : Nat) : Text :=
  ((table.get? index).map fun line =>
    (Dialogue.ofJoined line).joined).getD []

/- A name is looked up to the code it is listed with. -/
theorem Catalog.lookup_of_mem_entries
    {Code : Type}
    {catalog : Catalog Code}
    {code : Code}
    {name : String}
    (hListed : (name, code) ∈ catalog.entries) :
    catalog.lookup name = .ok code := by
  rw [lookup, code?_eq_some_iff.mpr hListed]

namespace IsSegment

variable {table : LineTable}
variable {command : Command}
variable {segment : List UInt8}

/- Only the segment of a dialogue refers to a line. -/
theorem dialogueIndex?_cases
    (hSegment : IsSegment table command segment) :
    (command.text? = none ∧
      Segment.dialogueIndex? segment = none) ∨
      ∃ index line,
        Segment.dialogueIndex? segment = some index ∧
          table.get? index = some line ∧
          command = .dialogue (.ofJoined line) := by
  cases hSegment with
  | @dialogue index low high line hIndex hLine =>
      rw [← LineTable.get?_eq_getElem?_toList] at hLine
      have hNumber :
          Segment.dialogueIndex? [0x23, 0x00, low, high] =
            some index.toNat :=
        Segment.dialogueIndex?_eq_some_iff.mpr
          ⟨low, high, rfl, hIndex⟩
      exact .inr ⟨_, line, hNumber, hLine, rfl⟩
  | _ => exact .inl ⟨rfl, rfl⟩

/- The text of a command is the box of the line it refers to. -/
theorem text?_eq
    (hSegment : IsSegment table command segment) :
    command.text? =
      (Segment.dialogueIndex? segment).map table.rejoined := by
  rcases hSegment.dialogueIndex?_cases with
    ⟨hOwn, hNumber⟩ | ⟨index, line, hNumber, hLine, rfl⟩
  · rw [hOwn, hNumber]
    rfl
  · rw [hNumber, Option.map_some, LineTable.rejoined, hLine]
    rfl

/- The line that a segment refers to is in the table. -/
theorem exists_get?_of_dialogueIndex?
    (hSegment : IsSegment table command segment)
    {index : Nat}
    (hIndex : Segment.dialogueIndex? segment = some index) :
    ∃ line, table.get? index = some line := by
  rcases hSegment.dialogueIndex?_cases with
    ⟨_, hNone⟩ | ⟨number, line, hNumber, hLine, _⟩
  · rw [hNone] at hIndex
    simp at hIndex
  · rw [hNumber] at hIndex
    cases hIndex
    exact ⟨line, hLine⟩

/-
  The fields of a command other than a dialogue tell its
  segment.
-/
theorem exists_payload_of_text?_eq_none
    (hSegment : IsSegment table command segment)
    (hOther : command.text? = none) :
    ∃ payload,
      command.payload 0 = .ok payload ∧
        Segment.bytes payload = segment := by
  cases hSegment with
  | dialogue => simp [Command.text?] at hOther
  | wait hHundredths =>
      refine ⟨_, rfl, ?_⟩
      rw [Segment.bytes, Payload.bytes,
        Word.bytes_of_isMadeOf hHundredths]
      rfl
  | sound hCode hName =>
      rw [Command.payload,
        Catalog.lookup_of_mem_entries hName]
      refine ⟨_, rfl, ?_⟩
      rw [Segment.bytes, Payload.bytes,
        Word.bytes_of_isMadeOf hCode]
      rfl
  | fadeIn => exact ⟨_, rfl, rfl⟩
  | transition hName hSpeed =>
      rw [Command.payload,
        Catalog.lookup_of_mem_entries hName]
      refine ⟨_, rfl, ?_⟩
      rw [Segment.bytes, Payload.bytes,
        Word.bytes_of_isMadeOf hSpeed]
      rfl
  | background hName =>
      rw [Command.payload,
        Catalog.lookup_of_mem_entries hName]
      exact ⟨_, rfl, rfl⟩
  | character hPlacement hCode hName =>
      rw [Command.payload,
        Catalog.lookup_of_mem_entries hName]
      refine ⟨_, rfl, ?_⟩
      rw [Segment.bytes, Payload.bytes,
        Word.bytes_of_isMadeOf hPlacement,
        Word.bytes_of_isMadeOf hCode]
      rfl
  | finish => exact ⟨_, rfl, rfl⟩

/-
  Beside the lines that hold its text, a decoded command has
  the segment it had, with the position of the text for its
  number.
-/
theorem segment?_eq
    (hSegment : IsSegment table command segment)
    {lines : List Text}
    (hText :
      ∀ text, command.text? = some text → text ∈ lines)
    (hLength : lines.length ≤ 65536) :
    command.segment? lines =
      some
        (Segment.renumbered
          (fun index => lines.idxOf (table.rejoined index))
          segment) := by
  cases hOwn : command.text? with
  | none =>
      have hNumber : Segment.dialogueIndex? segment = none := by
        rw [hSegment.text?_eq, Option.map_eq_none_iff] at hOwn
        exact hOwn
      rcases hSegment.exists_payload_of_text?_eq_none hOwn
        with ⟨payload, hPayload, rfl⟩
      rw [Command.segment?_of_text?_eq_none lines hOwn,
        hPayload, Segment.renumbered, hNumber]
      rfl
  | some text =>
      have hMem := hText text hOwn
      have hPosition := List.idxOf_lt_length_of_mem hMem
      have hSmall : lines.idxOf text < 65536 := by
        omega
      have hNumber := hOwn
      rw [hSegment.text?_eq, Option.map_eq_some_iff]
        at hNumber
      rcases hNumber with ⟨index, hIndex, rfl⟩
      cases command with
      | dialogue box =>
          have hJoined :
              box.joined = table.rejoined index :=
            Option.some.inj hOwn
          rw [Command.segment?, hJoined,
            idxOf?_of_mem hMem,
            Segment.renumbered, hIndex]
          simp [hSmall]
      | _ => simp [Command.text?] at hOwn

end IsSegment

------------------------------------------------------------
-- Storing by Segments
------------------------------------------------------------

namespace Command

variable {table : LineTable}
variable {command : Command}
variable {segment : List UInt8}

/- A segment was the same before lines came behind its text. -/
theorem segment?_of_prefix
    {lines grown : List Text}
    (hGrown : lines <+: grown)
    (hText :
      ∀ text, command.text? = some text → text ∈ lines)
    (hSegment : command.segment? grown = some segment) :
    command.segment? lines = some segment := by
  cases command with
  | dialogue text =>
      rcases hGrown with ⟨later, rfl⟩
      have hMem := hText text.joined rfl
      rw [segment?,
        idxOf?_of_mem (List.mem_append_left later hMem),
        List.idxOf_append_of_mem hMem] at hSegment
      rw [segment?, idxOf?_of_mem hMem]
      exact hSegment
  | _ => exact hSegment

/- A command is stored when it has a segment in the end. -/
theorem store_of_segment?
    (hSegment :
      command.segment? (command.store table).2.toList =
        some segment) :
    ∃ payload,
      command.store table =
          (.ok payload, (command.store table).2) ∧
        Segment.bytes payload = segment := by
  cases command with
  | dialogue text =>
      have hMem :
          text.joined ∈
            (table.add text.joined).2.toList := by
        rw [LineTable.mem_add_iff]
        exact .inr rfl
      have hGrown :
          ((dialogue text).store table).2 =
            (table.add text.joined).2 := by
        rw [store_dialogue]
      rw [hGrown, segment?, idxOf?_of_mem hMem,
        LineTable.idxOf_add] at hSegment
      by_cases hFits : (table.add text.joined).1 < 65536
      · exact
          ⟨.dialogue
              (UInt16.ofNat (table.add text.joined).1),
            by simp [store, hFits, payload],
            by simpa [hFits] using hSegment⟩
      · simp [hFits] at hSegment
  | _ =>
      rw [segment?_of_text?_eq_none _ rfl,
        Option.map_eq_some_iff] at hSegment
      rcases hSegment with ⟨payload, hPayload, hBytes⟩
      rw [store_of_text?_eq_none _ rfl,
        toOption_eq_some_iff.mp hPayload]
      exact ⟨payload, rfl, hBytes⟩

end Command

namespace Script

/- The text of the last command is one of the script. -/
theorem mem_texts_concat
    {before : Script}
    {command : Command}
    {text : Text}
    (hText : command.text? = some text) :
    text ∈ texts (before ++ [command]) := by
  rw [texts, List.mem_filterMap]
  exact ⟨command, by simp, hText⟩

/- Later commands add texts behind the earlier ones. -/
theorem prefix_eraseDups_texts (before later : Script) :
    before.texts.eraseDups <+:
      (texts (before ++ later)).eraseDups := by
  rw [texts, texts, List.filterMap_append,
    List.eraseDups_append]
  exact List.prefix_append _ _

/-
  A script is stored if all its commands have segments beside
  its texts and the earlier ones.
-/
theorem storeAll_of_areSegments
    {before script : Script}
    {table : LineTable}
    {segments : List (List UInt8)}
    (hLines : table.toList = before.texts.eraseDups)
    (hSegments :
      script.AreSegments
        (texts (before ++ script)).eraseDups segments) :
    ∃ payloads final,
      storeAll table script = .ok (payloads, final) ∧
        payloads.map Segment.bytes = segments := by
  induction script generalizing before table segments with
  | nil =>
      cases hSegments
      exact ⟨[], table, rfl, rfl⟩
  | cons command rest ih =>
      rcases List.forall₂_cons_left_iff.mp hSegments with
        ⟨segment, later, hFirst, hRest, rfl⟩
      have hSplit :
          before ++ command :: rest =
            before ++ [command] ++ rest := by
        simp
      have hGrown := Command.toList_store hLines command
      have hHere :
          command.segment? (command.store table).2.toList =
            some segment := by
        rw [hSplit] at hFirst
        rw [hGrown]
        refine
          Command.segment?_of_prefix
            (prefix_eraseDups_texts _ rest) ?_ hFirst
        intro text hText
        exact List.mem_eraseDups.mpr (mem_texts_concat hText)
      rcases Command.store_of_segment? hHere with
        ⟨payload, hStore, hBytes⟩
      rw [hSplit] at hRest
      rcases ih hGrown hRest with
        ⟨payloads, final, hStored, hOthers⟩
      refine
        ⟨payload :: payloads, final,
          storeAll_cons_eq_ok_iff.mpr
            ⟨payload, _, payloads, hStore, hStored, rfl⟩, ?_⟩
      rw [List.map_cons, hBytes, hOthers]

/-
  A script is encoded as its segments if every command has one
  beside the texts of the script.
-/
theorem encode_of_areSegments
    {script : Script}
    {segments : List (List UInt8)}
    (hSegments :
      script.AreSegments script.texts.eraseDups segments) :
    ∃ encoded,
      script.encode = .ok encoded ∧
        encoded.script = segments.flatten := by
  have hStart :
      LineTable.empty.toList =
        (texts ([] : Script)).eraseDups :=
    rfl
  rcases storeAll_of_areSegments hStart hSegments with
    ⟨payloads, table, hStored, hBytes⟩
  rw [encode_eq, hStored]
  exact ⟨_, rfl, by rw [List.flatMap_def, hBytes]⟩

------------------------------------------------------------
-- Decoded Scripts
------------------------------------------------------------

section Decoded

variable {table : LineTable}
variable {script : Script}
variable {segments : List (List UInt8)}

/- The numbers of the lines that segments refer to. -/
def dialogueIndices (segments : List (List UInt8)) : List Nat :=
  segments.filterMap Segment.dialogueIndex?

/- The texts of a decoded script are boxes of its lines. -/
theorem texts_eq_map_rejoined
    (hSegments :
      List.Forall₂ (IsSegment table) script segments) :
    script.texts =
      (dialogueIndices segments).map table.rejoined := by
  unfold texts dialogueIndices
  rw [List.map_filterMap]
  induction hSegments with
  | nil => rfl
  | cons hFirst _ ih =>
      rw [List.filterMap_cons, List.filterMap_cons, ih,
        hFirst.text?_eq]

/-
  No more texts come out of a script than there are numbers
  for lines.
-/
theorem length_eraseDups_texts_le
    (hSegments :
      List.Forall₂ (IsSegment table) script segments) :
    script.texts.eraseDups.length ≤ 65536 := by
  have hSubset :
      script.texts.eraseDups ⊆
        (List.range 65536).map table.rejoined := by
    intro text hText
    rw [List.mem_eraseDups,
      texts_eq_map_rejoined hSegments] at hText
    rcases List.mem_map.mp hText with ⟨index, hIndex, rfl⟩
    rcases List.mem_filterMap.mp hIndex with
      ⟨segment, _, hNumber⟩
    apply List.mem_map_of_mem
    rw [List.mem_range]
    exact Segment.lt_of_dialogueIndex? hNumber
  have hLength :=
    (nodup_eraseDups script.texts).length_le_of_subset hSubset
  rwa [List.length_map, List.length_range] at hLength

/- Two lines are stored alike when they have one box. -/
theorem rejoined_eq_iff
    (hSegments :
      List.Forall₂ (IsSegment table) script segments)
    {left right : Nat}
    (hLeft : left ∈ dialogueIndices segments)
    (hRight : right ∈ dialogueIndices segments) :
    table.rejoined left = table.rejoined right ↔
      (table.get? left).map Dialogue.ofJoined =
        (table.get? right).map Dialogue.ofJoined := by
  have hLine {index : Nat}
      (hIndex : index ∈ dialogueIndices segments) :
      ∃ line, table.get? index = some line := by
    rcases List.mem_filterMap.mp hIndex with
      ⟨segment, hSegment, hNumber⟩
    rcases exists_of_mem_right hSegments hSegment with
      ⟨command, _, hCommand⟩
    exact hCommand.exists_get?_of_dialogueIndex? hNumber
  rcases hLine hLeft with ⟨line, hLeftLine⟩
  rcases hLine hRight with ⟨other, hRightLine⟩
  simp only [LineTable.rejoined, hLeftLine, hRightLine,
    Option.map_some, Option.getD_some, Option.some.injEq]
  exact ⟨Dialogue.joined_injective, congrArg Dialogue.joined⟩

/-
  The number that a line gets when a script is encoded again
  is the position of its text.
-/
def newIndex
    (table : LineTable)
    (script : Script)
    (index : Nat) : Nat :=
  script.texts.eraseDups.idxOf (table.rejoined index)

/- A decoded script is encoded as its segments, renumbered. -/
theorem encode_of_forall₂_isSegment
    (hSegments :
      List.Forall₂ (IsSegment table) script segments) :
    ∃ encoded,
      script.encode = .ok encoded ∧
        encoded.script =
          (segments.map
            (Segment.renumbered
              (newIndex table script))).flatten := by
  apply encode_of_areSegments
  unfold AreSegments
  rw [List.forall₂_map_right_iff]
  have hLength := length_eraseDups_texts_le hSegments
  have hMem :
      ∀ command ∈ script, ∀ text,
        command.text? = some text →
          text ∈ script.texts.eraseDups := by
    intro command hCommand text hText
    rw [List.mem_eraseDups, texts, List.mem_filterMap]
    exact ⟨command, hCommand, hText⟩
  have hBoth :=
    (List.forall₂_and_left _ _).mpr ⟨hMem, hSegments⟩
  exact
    hBoth.imp fun _ _ hPair =>
      hPair.2.segment?_eq hPair.1 hLength

/- The new numbers of lines fit words. -/
theorem newIndex_lt
    (hSegments :
      List.Forall₂ (IsSegment table) script segments)
    {index : Nat}
    (hIndex : index ∈ dialogueIndices segments) :
    newIndex table script index < 65536 := by
  have hMem :
      table.rejoined index ∈ script.texts.eraseDups := by
    rw [List.mem_eraseDups, texts_eq_map_rejoined hSegments]
    exact List.mem_map_of_mem hIndex
  have hPosition := List.idxOf_lt_length_of_mem hMem
  have hLength := length_eraseDups_texts_le hSegments
  rw [newIndex]
  omega

/-
  The segments of a script stay as they are exactly when the
  numbers of lines count up and no two of these lines have one
  box.
-/
theorem flatten_newIndex_eq_iff
    (hSegments :
      List.Forall₂ (IsSegment table) script segments) :
    (segments.map
        (Segment.renumbered
          (newIndex table script))).flatten =
        segments.flatten ↔
      CountsUp (dialogueIndices segments) ∧
        ∀ left ∈ dialogueIndices segments,
          ∀ right ∈ dialogueIndices segments,
            left ≠ right →
              (table.get? left).map Dialogue.ofJoined ≠
                (table.get? right).map
                  Dialogue.ofJoined := by
  have hSame :
      (∀ segment ∈ segments,
        Segment.renumbered (newIndex table script) segment =
          segment) ↔
        ∀ index ∈ dialogueIndices segments,
          newIndex table script index = index := by
    rw [dialogueIndices, List.forall_mem_filterMap]
    refine forall₂_congr fun segment hSegment => ?_
    apply Segment.renumbered_eq_self_iff
    intro index hNumber
    exact
      newIndex_lt hSegments
        (List.mem_filterMap.mpr
          ⟨segment, hSegment, hNumber⟩)
  rw [flatten_renumbered_eq_iff, hSame]
  unfold newIndex
  rw [texts_eq_map_rejoined hSegments,
    idxOf_map_eraseDups_iff]
  refine and_congr_right fun _ => ?_
  refine forall₂_congr fun left hLeft => ?_
  refine forall₂_congr fun right hRight => ?_
  refine imp_congr_right fun _ => ?_
  exact not_congr (rejoined_eq_iff hSegments hLeft hRight)

/-
  A script that was decoded can always be encoded again.  Its
  bytes are as many as before, and the only ones to change are
  the numbers of lines.  None of them changes exactly when the
  numbers count up in the order of their first use, and when
  different numbers refer to lines with different boxes.
-/
theorem encode_of_decode
    {bytes : List UInt8}
    {requireEnd : Bool}
    (hDecode :
      decode bytes table requireEnd = .ok script) :
    ∃ segments encoded,
      List.Forall₂ (IsSegment table) script segments ∧
        segments.flatten = bytes ∧
        script.encode = .ok encoded ∧
        encoded.script.length = bytes.length ∧
        (∀ position,
          isIndexByte segments position = false →
            encoded.script[position]? = bytes[position]?) ∧
        (encoded.script = bytes ↔
          CountsUp (dialogueIndices segments) ∧
            ∀ left ∈ dialogueIndices segments,
              ∀ right ∈ dialogueIndices segments,
                left ≠ right →
                  (table.get? left).map Dialogue.ofJoined ≠
                    (table.get? right).map
                      Dialogue.ofJoined) := by
  rcases spells_of_decode hDecode with
    ⟨segments, hSegments, rfl⟩
  rcases encode_of_forall₂_isSegment hSegments with
    ⟨encoded, hEncode, hBytes⟩
  refine
    ⟨segments, encoded, hSegments, rfl, hEncode, ?_, ?_, ?_⟩
  · rw [hBytes, length_flatten_renumbered]
  · intro position hOutside
    rw [hBytes, getElem?_flatten_renumbered _ hOutside]
  · rw [hBytes]
    exact flatten_newIndex_eq_iff hSegments

end Decoded

/-
  Two lines have one box, and the second one is used first.
  The bytes change, but only where the lines are numbered.
-/
theorem encode_of_decode_shared_box :
    ∃ (bytes : List UInt8)
      (table : LineTable)
      (script : Script)
      (encoded : Encoded),
      bytes =
          [0x23, 0x00, 0x01, 0x00,
            0x23, 0x0F, 0x32, 0x00,
            0x23, 0x00, 0x00, 0x00] ∧
        table = .ofList [['A'], ['↓', 'A']] ∧
        decode bytes table false = .ok script ∧
        script.encode = .ok encoded ∧
        encoded.script.length = 12 ∧
        (∀ position < 12,
          position ∉ [2, 3, 10, 11] →
            encoded.script[position]? = bytes[position]?) ∧
        encoded.script ≠ bytes := by
  let table : LineTable := .ofList [['A'], ['↓', 'A']]
  let box : Dialogue := .ofJoined ['↓', 'A']
  have hBox : Dialogue.ofJoined ['A'] = box := by
    decide
  let segments : List (List UInt8) :=
    [[0x23, 0x00, 0x01, 0x00],
      [0x23, 0x0F, 0x32, 0x00],
      [0x23, 0x00, 0x00, 0x00]]
  have hFirst :
      table.toList[(0 : UInt16).toNat]? = some ['A'] := by
    rw [LineTable.toList_ofList]
    rfl
  have hSecond :
      table.toList[(1 : UInt16).toNat]? =
        some ['↓', 'A'] := by
    rw [LineTable.toList_ofList]
    rfl
  have hOne : Word.IsMadeOf 1 0x01 0x00 := rfl
  have hWait : Word.IsMadeOf 50 0x32 0x00 := rfl
  have hZero : Word.IsMadeOf 0 0x00 0x00 := rfl
  have hSegments :
      List.Forall₂ (IsSegment table)
        [.dialogue box, .wait 50, .dialogue box] segments :=
    .cons (.dialogue hOne hSecond)
      (.cons (.wait hWait)
        (.cons (hBox ▸ .dialogue hZero hFirst) .nil))
  have hDecode :
      decode segments.flatten table false =
        .ok [.dialogue box, .wait 50, .dialogue box] :=
    decode_eq_ok_iff_spells.mpr ⟨segments, hSegments, rfl⟩
  rcases encode_of_decode hDecode with
    ⟨others, encoded, hOthers, hBytes, hEncode, hLength,
      hOutside, hSame⟩
  rcases eq_of_forall₂_isSegment hOthers hSegments hBytes with
    ⟨_, rfl⟩
  refine
    ⟨_, table, _, encoded, rfl, rfl, hDecode, hEncode,
      hLength, ?_, ?_⟩
  · intro position hInside hOther
    apply hOutside
    revert position
    decide
  · intro hBytesSame
    have hCounts := (hSame.mp hBytesSame).1
    exact absurd hCounts (by decide)

end Script

end SceneScript
