import SceneScript.Proofs.Writing

/-
  Writing commands one after the other, whichever of them
  fail.

  Key definitions include:
    * `Script.texts`
    * `Command.segment?`
    * `Script.AreSegments`
    * `Writer.after`
    * `Writer.accepted`
    * `Writer.Tracks`

  Correctness is stated by:
    * `Command.segment?_mono`
    * `Writer.Tracks.writeCommand`
    * `Writer.Tracks.after`
    * `Writer.attempts_invariant`

  The table takes the text of every dialogue that is tried,
  while the sink takes the segments of those commands only
  that succeed.  A line never moves once it is in the table,
  so that earlier segments stay right.
-/

namespace SceneScript

------------------------------------------------------------
-- Texts and Segments
------------------------------------------------------------

namespace Command

/- The text that a command puts into the table. -/
def text? : Command → Option Text
| dialogue text => some text.joined
| _ => none

/-
  The segment of a command beside the given lines.  A
  dialogue refers to the first position of its text, which
  has to fit a word.
-/
def segment?
    (lines : List Text)
    (command : Command) : Option (List UInt8) :=
  match command with
  | dialogue text => do
      let index ← lines.idxOf? text.joined
      if index < 65536 then
        some (Segment.bytes (.dialogue (UInt16.ofNat index)))
      else
        none
  | _ => (command.payload 0).toOption.map Segment.bytes

end Command

/- The texts of a script in order, repeated ones included. -/
def Script.texts (script : Script) : List Text :=
  script.filterMap Command.text?

/- A result is left over if nothing failed. -/
theorem toOption_eq_some_iff
    {ε α : Type}
    {outcome : Except ε α}
    {value : α} :
    outcome.toOption = some value ↔ outcome = .ok value := by
  cases outcome <;> simp [Except.toOption]

/- The text of a dialogue comes last. -/
theorem Script.texts_concat_dialogue
    (script : Script)
    (text : Dialogue) :
    texts (script ++ [.dialogue text]) =
      script.texts ++ [text.joined] := by
  rw [texts, List.filterMap_append]
  rfl

/- Other commands than dialogues have no text. -/
theorem Script.texts_concat_of_text?_eq_none
    (script : Script)
    {command : Command}
    (hOther : command.text? = none) :
    texts (script ++ [command]) = script.texts := by
  rw [texts, List.filterMap_append,
    List.filterMap_cons_none hOther, List.filterMap_nil,
    List.append_nil]
  rfl

namespace Command

/- Other commands than dialogues leave the table alone. -/
theorem store_of_text?_eq_none
    (table : LineTable)
    {command : Command}
    (hOther : command.text? = none) :
    command.store table = (command.payload 0, table) := by
  cases command with
  | dialogue text => simp [text?] at hOther
  | _ => rfl

/- Other commands than dialogues need no line. -/
theorem segment?_of_text?_eq_none
    (lines : List Text)
    {command : Command}
    (hOther : command.text? = none) :
    command.segment? lines =
      (command.payload 0).toOption.map Segment.bytes := by
  cases command with
  | dialogue text => simp [text?] at hOther
  | _ => rfl

/- A table takes the text of a command and nothing else. -/
theorem toList_store
    {table : LineTable}
    {attempts : Script}
    (hLines :
      table.toList = (Script.texts attempts).eraseDups)
    (command : Command) :
    (command.store table).2.toList =
      (Script.texts (attempts ++ [command])).eraseDups := by
  cases command with
  | dialogue text =>
      rw [Script.texts_concat_dialogue,
        ← LineTable.toList_add_eq_eraseDups hLines]
      simp only [store]
      split <;> rfl
  | _ =>
      rw [store_of_text?_eq_none table rfl,
        Script.texts_concat_of_text?_eq_none attempts rfl]
      exact hLines

/- A command is stored as its segment beside the new lines. -/
theorem segment?_of_store
    {table grown : LineTable}
    {command : Command}
    {payload : Payload}
    (hStore : command.store table = (.ok payload, grown)) :
    command.segment? grown.toList =
      some (Segment.bytes payload) := by
  cases command with
  | dialogue text =>
      rcases eq_of_store_dialogue hStore with
        ⟨hFits, rfl, rfl⟩
      have hMem :
          text.joined ∈ (table.add text.joined).2.toList := by
        rw [LineTable.mem_add_iff]
        exact .inr rfl
      have hIndex := LineTable.indexOf?_of_mem hMem
      rw [LineTable.indexOf?_eq, LineTable.idxOf_add]
        at hIndex
      rw [segment?, hIndex]
      simp [hFits]
  | _ =>
      rcases Prod.mk.inj hStore with ⟨hPayload, _⟩
      simp only [segment?, hPayload]
      rfl

/- Lines that are added later do not change a segment. -/
theorem segment?_mono
    {lines grown : List Text}
    (hGrown : lines <+: grown)
    {command : Command}
    {segment : List UInt8}
    (hSegment : command.segment? lines = some segment) :
    command.segment? grown = some segment := by
  cases command with
  | dialogue text =>
      rcases hGrown with ⟨later, rfl⟩
      rcases Option.bind_eq_some_iff.mp hSegment with
        ⟨index, hIndex, hFits⟩
      have hLater :
          (lines ++ later).idxOf? text.joined = some index := by
        rw [List.idxOf?, List.findIdx?_append,
          ← List.idxOf?, hIndex]
        rfl
      rw [segment?, hLater]
      exact hFits
  | _ => exact hSegment

/-
  A command that has a segment beside the lines of a table is
  stored as that segment, and adds no line.
-/
theorem exists_store_of_segment?
    {table : LineTable}
    {command : Command}
    {segment : List UInt8}
    (hSegment :
      command.segment? table.toList = some segment) :
    ∃ payload,
      command.store table = (.ok payload, table) ∧
        Segment.bytes payload = segment := by
  cases command with
  | dialogue text =>
      rcases Option.bind_eq_some_iff.mp hSegment with
        ⟨index, hIndex, hFits⟩
      rw [ite_eq_iff] at hFits
      have hMem : text.joined ∈ table.toList := by
        rw [← List.isSome_idxOf?, hIndex]
        rfl
      have hFirst :
          table.toList.idxOf text.joined = index := by
        rw [List.idxOf_eq_getD_idxOf?, hIndex]
        rfl
      rcases hFits with ⟨hFits, hBytes⟩ | ⟨_, hNone⟩
      · refine ⟨_, ?_, Option.some.inj hBytes⟩
        simp [store, LineTable.add_of_mem hMem, hFirst,
          hFits, payload]
      · simp at hNone
  | _ =>
      rw [segment?_of_text?_eq_none _ rfl,
        Option.map_eq_some_iff] at hSegment
      rcases hSegment with ⟨payload, hPayload, hBytes⟩
      rw [store_of_text?_eq_none _ rfl,
        toOption_eq_some_iff.mp hPayload]
      exact ⟨payload, rfl, hBytes⟩

/- The segment beside the lines of a table spells a command. -/
theorem isSegment_of_segment?
    {table : LineTable}
    {command : Command}
    {segment : List UInt8}
    (hSegment :
      command.segment? table.toList = some segment) :
    IsSegment table command segment := by
  rcases exists_store_of_segment? hSegment with
    ⟨payload, hStore, rfl⟩
  exact
    Payload.isSegment_of_resolve (resolve_of_store hStore 0)

/-
  A dialogue is stored if its text is among the lines that a
  word can refer to.
-/
theorem store_dialogue
    (table : LineTable)
    (text : Dialogue) :
    (dialogue text).store table =
      let grown := (table.add text.joined).2
      (if text.joined ∈ grown.toList.take 65536 then
          .ok
            (.dialogue
              (UInt16.ofNat (table.add text.joined).1))
        else
          .error (.tableOverflow grown.toList.length),
        grown) := by
  have hMem :
      text.joined ∈ (table.add text.joined).2.toList := by
    rw [LineTable.mem_add_iff]
    exact .inr rfl
  simp only [store, List.mem_take_iff_idxOf_lt hMem,
    LineTable.idxOf_add, LineTable.length_toList, payload]
  split <;> rfl

/- An unknown name is noticed before the table changes. -/
theorem eq_of_store_unknownName
    {table grown : LineTable}
    {command : Command}
    {kind : SymbolKind}
    {name : String}
    (hStore :
      command.store table =
        (.error (.unknownName kind name), grown)) :
    grown = table := by
  cases hText : command.text? with
  | none =>
      rw [store_of_text?_eq_none table hText] at hStore
      exact (Prod.mk.inj hStore).2.symm
  | some line =>
      cases command with
      | dialogue text =>
          simp only [store] at hStore
          split at hStore <;> simp [payload] at hStore
      | _ => simp [text?] at hText

end Command

namespace Script

/- The segments of a script beside the given lines. -/
def AreSegments
    (lines : List Text)
    (script : Script)
    (segments : List (List UInt8)) : Prop :=
  List.Forall₂
    (fun command segment =>
      command.segment? lines = some segment)
    script segments

namespace AreSegments

variable {script : Script} {segments : List (List UInt8)}

/- Lines that are added later do not change the segments. -/
theorem mono
    {lines grown : List Text}
    (hSegments : script.AreSegments lines segments)
    (hGrown : lines <+: grown) :
    script.AreSegments grown segments := by
  refine List.Forall₂.imp ?_ hSegments
  intro command segment hSegment
  exact Command.segment?_mono hGrown hSegment

/- One more command has one more segment. -/
theorem concat
    {lines : List Text}
    (hSegments : script.AreSegments lines segments)
    {command : Command}
    {segment : List UInt8}
    (hSegment : command.segment? lines = some segment) :
    AreSegments lines (script ++ [command])
      (segments ++ [segment]) :=
  List.rel_append hSegments (.cons hSegment .nil)

/- The segments beside the lines of a table spell a script. -/
theorem spells
    {table : LineTable}
    (hSegments :
      script.AreSegments table.toList segments) :
    Spells table script segments.flatten := by
  refine ⟨segments, List.Forall₂.imp ?_ hSegments, rfl⟩
  intro command segment hSegment
  exact Command.isSegment_of_segment? hSegment

end AreSegments

end Script

------------------------------------------------------------
-- Runs
------------------------------------------------------------

namespace Writer

/- The writer after commands were tried one after the other. -/
def after
    (writer : Writer) : Script → Writer
  | [] => writer
  | command :: rest =>
      (writer.writeCommand command).2.after rest

/- The commands that succeed when they are tried in order. -/
def accepted
    (writer : Writer) : Script → Script
  | [] => []
  | command :: rest =>
      match writer.writeCommand command with
      | (.ok (), next) => command :: next.accepted rest
      | (.error _, next) => next.accepted rest

/-
  What a writer holds after some commands were tried and some
  of them were written.
-/
structure Tracks
    (writer : Writer)
    (attempts written : Script) : Prop where
  capacity_eq : writer.sink.capacity = none
  toList_eq : writer.table.toList = attempts.texts.eraseDups
  segments :
    ∃ segments,
      written.AreSegments writer.table.toList segments ∧
        segments.flatten = writer.sink.written.toList

/- The outcome of a command is that of storing it. -/
theorem fst_writeCommand
    {writer : Writer}
    (hCapacity : writer.sink.capacity = none)
    (command : Command) :
    (writer.writeCommand command).1 =
      (command.store writer.table).1.map fun _ => () := by
  rcases writeCommand_cases hCapacity command with
    ⟨payload, table, hStore, hWrite⟩ |
      ⟨error, table, hStore, hWrite⟩
  · rw [hStore, hWrite]
    rfl
  · rw [hStore, hWrite]
    rfl

/- Nothing was tried yet when a writer starts. -/
theorem tracks_start :
    (start .unlimited).Tracks [] [] where
  capacity_eq := rfl
  toList_eq := rfl
  segments := ⟨[], .nil, rfl⟩

namespace Tracks

variable {writer : Writer} {attempts written : Script}

/-
  One command is tried.  It is written if it succeeds, and
  its text stays in the table in any case.
-/
theorem writeCommand
    (hTracks : writer.Tracks attempts written)
    (command : Command) :
    match writer.writeCommand command with
    | (.ok (), next) =>
        next.Tracks (attempts ++ [command])
          (written ++ [command])
    | (.error _, next) =>
        next.Tracks (attempts ++ [command]) written := by
  rcases hTracks with
    ⟨hCapacity, hLines, segments, hSegments, hBytes⟩
  have hGrown := Command.toList_store hLines command
  have hPrefix := Command.prefix_of_store writer.table command
  -- The segments written so far keep their meaning beside the
  -- lines of the table that comes out of the store.
  have hKept := hSegments.mono hPrefix
  rcases writeCommand_cases hCapacity command with
    ⟨payload, table, hStore, hWrite⟩ |
      ⟨error, table, hStore, hWrite⟩
  · rw [hWrite]
    rw [hStore] at hGrown hKept
    refine
      ⟨hCapacity, hGrown,
        segments ++ [Segment.bytes payload], ?_, ?_⟩
    · exact hKept.concat (Command.segment?_of_store hStore)
    · rw [List.flatten_concat, hBytes]
      exact Array.toList_appendList.symm
  · rw [hWrite]
    rw [hStore] at hGrown hKept
    exact ⟨hCapacity, hGrown, segments, hKept, hBytes⟩

/- Any number of commands is tried. -/
theorem after
    (hTracks : writer.Tracks attempts written)
    (rest : Script) :
    (writer.after rest).Tracks (attempts ++ rest)
      (written ++ writer.accepted rest) := by
  induction rest generalizing writer attempts written with
  | nil =>
      rw [List.append_nil]
      exact (List.append_nil written).symm ▸ hTracks
  | cons command rest ih =>
      have hStep := hTracks.writeCommand command
      rw [Writer.after, accepted, List.append_cons]
      rcases hWrite : writer.writeCommand command with
        ⟨result, next⟩
      rw [hWrite] at hStep
      cases result with
      | ok =>
          rw [List.append_cons written]
          exact ih hStep
      | error error => exact ih hStep

/-
  A dialogue succeeds if its text is among the first 65536
  that were tried.
-/
theorem fst_writeCommand_dialogue
    (hTracks : writer.Tracks attempts written)
    (text : Dialogue) :
    let lines :=
      (Script.texts (attempts ++ [.dialogue text])).eraseDups
    (writer.writeCommand (.dialogue text)).1 =
      if text.joined ∈ lines.take 65536 then
        .ok ()
      else
        .error (.tableOverflow lines.length) := by
  have hLines :=
    LineTable.toList_add_eq_eraseDups hTracks.toList_eq
      text.joined
  rw [Script.texts_concat_dialogue,
    fst_writeCommand hTracks.capacity_eq,
    Command.store_dialogue]
  simp only [hLines]
  split <;> rfl

end Tracks

/-
  A command that fails writes nothing, and it fails because it
  cannot be stored.
-/
theorem of_writeCommand_eq_error
    {writer next : Writer}
    (hCapacity : writer.sink.capacity = none)
    {command : Command}
    {error : EncodeError}
    (hWrite :
      writer.writeCommand command = (.error error, next)) :
    next.sink = writer.sink ∧
      command.store writer.table =
        (.error error, next.table) := by
  rcases writeCommand_cases hCapacity command with
    ⟨payload, table, _, hOk⟩ | ⟨_, table, hStore, hError⟩
  · rw [hOk] at hWrite
    simp at hWrite
  · rw [hError] at hWrite
    cases hWrite
    exact ⟨rfl, hStore⟩

/-
  However commands were tried, the sink holds the segments of
  those that succeeded, and the table the texts of all that
  were tried, the first of equal ones.  What is in the sink is
  decoded to the commands that succeeded.  The next command
  writes nothing if it fails, leaves the table alone if it has
  an unknown name, and fits as a dialogue if its text is among
  the first 65536.
-/
theorem attempts_invariant (attempts : Script) :
    let writer := (start .unlimited).after attempts
    let written := (start .unlimited).accepted attempts
    (∃ segments,
      written.AreSegments writer.table.toList segments ∧
        segments.flatten = writer.sink.written.toList) ∧
      writer.table.toList = attempts.texts.eraseDups ∧
      Script.decode writer.sink.written.toList writer.table
          false =
        .ok written ∧
      ∀ command,
        (∀ error next,
          writer.writeCommand command = (.error error, next) →
            next.sink = writer.sink) ∧
          (∀ kind name next,
            writer.writeCommand command =
                (.error (.unknownName kind name), next) →
              next.table = writer.table) ∧
          ∀ text,
            command = .dialogue text →
              let lines :=
                (Script.texts
                  (attempts ++ [command])).eraseDups
              (writer.writeCommand command).1 =
                if text.joined ∈ lines.take 65536 then
                  .ok ()
                else
                  .error (.tableOverflow lines.length) := by
  intro writer written
  have hTracks : writer.Tracks attempts written :=
    tracks_start.after attempts
  rcases hTracks.segments with ⟨segments, hSegments, hBytes⟩
  refine
    ⟨⟨segments, hSegments, hBytes⟩, hTracks.toList_eq, ?_, ?_⟩
  · rw [Script.decode_eq_ok_iff_spells, ← hBytes]
    exact hSegments.spells
  · intro command
    refine ⟨?_, ?_, ?_⟩
    · intro error next hWrite
      exact
        (of_writeCommand_eq_error hTracks.capacity_eq
          hWrite).1
    · intro kind name next hWrite
      have hStore :=
        (of_writeCommand_eq_error hTracks.capacity_eq
          hWrite).2
      exact Command.eq_of_store_unknownName hStore
    · rintro text rfl
      exact hTracks.fst_writeCommand_dialogue text

/-
  A sound that is not listed is refused between dialogues, and
  the text that comes back afterwards keeps its first line.
-/
theorem attempts_invariant_refused_sound :
    ∃ (attempts written : Script) (writer : Writer),
      attempts =
          [.dialogue (.ofJoined ['a']),
            .sound "Kazoo SFX",
            .dialogue (.ofJoined ['b']),
            .dialogue (.ofJoined ['a']),
            .finish] ∧
        writer = (start .unlimited).after attempts ∧
        written = (start .unlimited).accepted attempts ∧
        writer.sink.written.toList =
          [0x23, 0x00, 0x00, 0x00,
            0x23, 0x00, 0x01, 0x00,
            0x23, 0x00, 0x00, 0x00,
            0x23, 0xFE] ∧
        writer.table.toList = [['a'], ['b']] ∧
        Script.decode writer.sink.written.toList writer.table
            false =
          .ok written ∧
        written =
          [.dialogue (.ofJoined ['a']),
            .dialogue (.ofJoined ['b']),
            .dialogue (.ofJoined ['a']),
            .finish] := by
  refine ⟨_, _, _, rfl, rfl, rfl, rfl, ?_, ?_, rfl⟩
  · exact (attempts_invariant _).2.1
  · exact (attempts_invariant _).2.2.1

end Writer

end SceneScript
