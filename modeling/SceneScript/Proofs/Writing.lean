import SceneScript.Proofs.Boxes
import SceneScript.Proofs.Grammar
import SceneScript.Script.Writer

/-
  What a writer writes is what the grammar spells.

  Key definitions include:
    * `Script.storeAll`

  Correctness is stated by:
    * `Command.resolve_of_store`
    * `Writer.writeCommand_cases`
    * `Script.encode_eq`
    * `Script.spells_of_storeAll`
    * `Script.decode_encode`

  A segment is written against the table of its time and read
  against the last one.  Tables only grow behind the lines
  that they hold, so a segment keeps its meaning.
-/

namespace SceneScript

------------------------------------------------------------
-- Single Commands
------------------------------------------------------------

/- A name is looked up to a code that it is listed with. -/
theorem Catalog.mem_entries_of_lookup
    {Code : Type}
    {catalog : Catalog Code}
    {name : String}
    {code : Code}
    (hLookup : catalog.lookup name = .ok code) :
    (name, code) ∈ catalog.entries := by
  unfold Catalog.lookup at hLookup
  split at hLookup
  · rename_i hCode
    cases hLookup
    exact Catalog.code?_eq_some_iff.mp hCode
  · simp at hLookup

/- What a name is looked up to is resolved to the name. -/
theorem Catalog.resolve_of_lookup
    {Code : Type}
    [DecidableEq Code]
    {catalog : Catalog Code}
    {name : String}
    {code : Code}
    (hLookup : catalog.lookup name = .ok code)
    (widen : Code → UInt16)
    (offset : Nat) :
    catalog.resolve widen offset code = .ok name :=
  Catalog.resolve_eq_ok_iff.mpr
    (Catalog.mem_entries_of_lookup hLookup)

namespace Command

/-
  A stored dialogue refers to the place of its line in the
  table, which is small enough for a word.
-/
theorem eq_of_store_dialogue
    {table grown : LineTable}
    {text : Dialogue}
    {payload : Payload}
    (hStore :
      (dialogue text).store table = (.ok payload, grown)) :
    (table.add text.joined).1 < 65536 ∧
      payload =
        .dialogue
          (UInt16.ofNat (table.add text.joined).1) ∧
      grown = (table.add text.joined).2 := by
  simp only [store] at hStore
  split at hStore
  · rename_i hFits
    rcases Prod.mk.inj hStore with ⟨hPayload, hGrown⟩
    cases hPayload
    exact ⟨hFits, rfl, hGrown.symm⟩
  · simp at hStore

/- A stored command is what its payload stands for. -/
theorem resolve_of_store
    {table grown : LineTable}
    {command : Command}
    {payload : Payload}
    (hStore : command.store table = (.ok payload, grown))
    (offset : Nat) :
    payload.resolve grown.boxes offset = .ok command := by
  cases command with
  | dialogue text =>
      rcases eq_of_store_dialogue hStore with
        ⟨hFits, rfl, rfl⟩
      have hIndex :
          (UInt16.ofNat (table.add text.joined).1).toNat =
            (table.add text.joined).1 := by
        rw [UInt16.toNat_ofNat']
        omega
      have hLine :
          (table.add text.joined).2.get?
              (table.add text.joined).1 =
            some text.joined := by
        rw [LineTable.get?_eq_getElem?_toList,
          LineTable.getElem?_add]
      rw [Payload.resolve, hIndex, LineTable.getElem?_boxes,
        hLine, Option.map_some, Dialogue.ofJoined_joined]
  | wait hundredths =>
      cases hStore
      rfl
  | sound name =>
      rcases bind_eq_ok_iff.mp (Prod.mk.inj hStore).1 with
        ⟨code, hCode, hPayload⟩
      cases hPayload
      rw [Payload.resolve, Catalog.resolve_of_lookup hCode]
      rfl
  | fadeIn first second third fourth =>
      cases hStore
      rfl
  | transition unknown name speed =>
      rcases bind_eq_ok_iff.mp (Prod.mk.inj hStore).1 with
        ⟨code, hCode, hPayload⟩
      cases hPayload
      rw [Payload.resolve, Catalog.resolve_of_lookup hCode]
      rfl
  | background unknown name =>
      rcases bind_eq_ok_iff.mp (Prod.mk.inj hStore).1 with
        ⟨code, hCode, hPayload⟩
      cases hPayload
      rw [Payload.resolve, Catalog.resolve_of_lookup hCode]
      rfl
  | character placement name =>
      rcases bind_eq_ok_iff.mp (Prod.mk.inj hStore).1 with
        ⟨code, hCode, hPayload⟩
      cases hPayload
      rw [Payload.resolve, Catalog.resolve_of_lookup hCode]
      simp [bind, Except.bind, Placement.ofCode?_code, pure,
        Except.pure]
  | finish =>
      cases hStore
      rfl

/- The lines of a table stay in front when it is stored into. -/
theorem prefix_of_store
    (table : LineTable)
    (command : Command) :
    table.toList <+: (command.store table).2.toList := by
  cases command with
  | dialogue text =>
      simp only [store]
      split <;> exact LineTable.prefix_add table text.joined
  | _ => exact List.prefix_rfl

/- Storing keeps the lines of a table different. -/
theorem nodup_store
    {table : LineTable}
    (hNodup : table.toList.Nodup)
    (command : Command) :
    (command.store table).2.toList.Nodup := by
  cases command with
  | dialogue text =>
      simp only [store]
      split <;> exact LineTable.nodup_add hNodup text.joined
  | _ => exact hNodup

/- Storing adds the joined text of a dialogue. -/
theorem mem_store_iff
    (table : LineTable)
    (command : Command)
    (line : Text) :
    line ∈ (command.store table).2.toList ↔
      line ∈ table.toList ∨
        ∃ text,
          command = .dialogue text ∧ line = text.joined := by
  cases command with
  | dialogue text =>
      have hMem := LineTable.mem_add_iff table text.joined line
      simp only [store, dialogue.injEq, exists_eq_left']
      split <;> exact hMem
  | _ => simp [store]

end Command

------------------------------------------------------------
-- Stored Scripts
------------------------------------------------------------

namespace Script

/-
  The payloads that store commands one after the other, with
  the table that they refer to in the end.
-/
def storeAll
    (table : LineTable) :
    Script → Except EncodeError (List Payload × LineTable)
  | [] => .ok ([], table)
  | command :: rest =>
      match command.store table with
      | (.error error, _) => .error error
      | (.ok payload, table) =>
          match storeAll table rest with
          | .error error => .error error
          | .ok (payloads, table) =>
              .ok (payload :: payloads, table)

/- Storing succeeds one command at a time. -/
theorem storeAll_cons_eq_ok_iff
    {table final : LineTable}
    {command : Command}
    {rest : Script}
    {payloads : List Payload} :
    storeAll table (command :: rest) =
        .ok (payloads, final) ↔
      ∃ payload grown later,
        command.store table = (.ok payload, grown) ∧
          storeAll grown rest = .ok (later, final) ∧
          payloads = payload :: later := by
  rw [storeAll]
  cases command.store table with
  | mk stored grown =>
      cases stored with
      | error error => simp
      | ok payload =>
          simp only [Prod.mk.injEq, Except.ok.injEq]
          cases hLater : storeAll grown rest with
          | error error =>
              simp only [reduceCtorEq, false_iff]
              rintro ⟨_, _, later, ⟨_, rfl⟩, hStored, _⟩
              simp [hLater] at hStored
          | ok stored =>
              constructor
              · intro h
                cases h
                exact
                  ⟨payload, grown, _, ⟨rfl, rfl⟩, hLater, rfl⟩
              · rintro ⟨_, _, later, ⟨rfl, rfl⟩, hStored, rfl⟩
                rw [hLater] at hStored
                cases hStored
                rfl


/- Stored commands are spelled by their segments. -/
theorem isSegment_of_storeAll
    {table final : LineTable}
    {script : Script}
    {payloads : List Payload}
    (hStored :
      storeAll table script = .ok (payloads, final)) :
    table.toList <+: final.toList ∧
      List.Forall₂ (IsSegment final) script
        (payloads.map Segment.bytes) := by
  -- The table of the last command is the one that counts, so
  -- each segment is carried over the growth behind it.
  induction script generalizing table payloads with
  | nil =>
      cases hStored
      exact ⟨List.prefix_rfl, .nil⟩
  | cons command rest ih =>
      rcases storeAll_cons_eq_ok_iff.mp hStored with
        ⟨payload, grown, later, hStore, hRest, rfl⟩
      rcases ih hRest with ⟨hGrown, hSegments⟩
      have hPrefix := Command.prefix_of_store table command
      rw [hStore] at hPrefix
      have hSegment :
          IsSegment grown command (Segment.bytes payload) :=
        Payload.isSegment_of_resolve
          (Command.resolve_of_store hStore 0)
      exact
        ⟨hPrefix.trans hGrown,
          .cons (hSegment.mono hGrown) hSegments⟩

/- Stored scripts never repeat a line. -/
theorem nodup_of_storeAll
    {table final : LineTable}
    {script : Script}
    {payloads : List Payload}
    (hStored :
      storeAll table script = .ok (payloads, final))
    (hNodup : table.toList.Nodup) :
    final.toList.Nodup := by
  induction script generalizing table payloads with
  | nil =>
      cases hStored
      exact hNodup
  | cons command rest ih =>
      rcases storeAll_cons_eq_ok_iff.mp hStored with
        ⟨payload, grown, later, hStore, hRest, rfl⟩
      have hGrown := Command.nodup_store hNodup command
      rw [hStore] at hGrown
      exact ih hRest hGrown

/- The lines of a stored script are its joined texts. -/
theorem mem_of_storeAll_iff
    {table final : LineTable}
    {script : Script}
    {payloads : List Payload}
    (hStored :
      storeAll table script = .ok (payloads, final))
    (line : Text) :
    line ∈ final.toList ↔
      line ∈ table.toList ∨
        ∃ text,
          Command.dialogue text ∈ script ∧
            line = text.joined := by
  induction script generalizing table payloads with
  | nil =>
      cases hStored
      simp
  | cons command rest ih =>
      rcases storeAll_cons_eq_ok_iff.mp hStored with
        ⟨payload, grown, later, hStore, hRest, rfl⟩
      have hMem := Command.mem_store_iff table command line
      rw [hStore] at hMem
      rw [ih hRest, hMem, or_assoc]
      apply or_congr_right
      constructor
      · rintro (⟨text, rfl, hLine⟩ | ⟨text, hText, hLine⟩)
        · exact ⟨text, by simp, hLine⟩
        · exact ⟨text, List.mem_cons_of_mem _ hText, hLine⟩
      · rintro ⟨text, hText, hLine⟩
        rcases List.mem_cons.mp hText with hHead | hLater
        · exact .inl ⟨text, hHead.symm, hLine⟩
        · exact .inr ⟨text, hLater, hLine⟩

end Script

------------------------------------------------------------
-- Writers
------------------------------------------------------------

/- A sink without a capacity takes every byte. -/
theorem Sink.write_of_capacity_eq_none
    {sink : Sink}
    (hCapacity : sink.capacity = none)
    (bytes : List UInt8) :
    sink.write bytes =
      (.ok (),
        { sink with written := sink.written ++ bytes }) := by
  simp [Sink.write, Sink.room, hCapacity]

/-
  A writer whose sink takes everything fails only if storing
  does.  The table of the store is kept in both cases.
-/
theorem Writer.writeCommand_cases
    {writer : Writer}
    (hCapacity : writer.sink.capacity = none)
    (command : Command) :
    (∃ payload table,
      command.store writer.table = (.ok payload, table) ∧
        writer.writeCommand command =
          (.ok (),
            { sink :=
                { writer.sink with
                  written :=
                    writer.sink.written ++
                      Segment.bytes payload }
              table })) ∨
      ∃ error table,
        command.store writer.table = (.error error, table) ∧
          writer.writeCommand command =
            (.error error, { writer with table }) := by
  rw [writeCommand]
  rcases command.store writer.table with ⟨stored, table⟩
  cases stored with
  | ok payload =>
      refine .inl ⟨payload, table, rfl, ?_⟩
      simp only [Sink.write_of_capacity_eq_none hCapacity]
      rfl
  | error error => exact .inr ⟨error, table, rfl, rfl⟩

/-
  A writer whose sink takes everything writes the segments of
  the stored commands, and fails when storing does.
-/
theorem Writer.writeAll_of_capacity_eq_none
    (writer : Writer)
    (hCapacity : writer.sink.capacity = none)
    (script : Script) :
    match Script.storeAll writer.table script with
    | .error error =>
        (writer.writeAll script).1 = .error error
    | .ok (payloads, table) =>
        writer.writeAll script =
          (.ok (),
            { sink :=
                { writer.sink with
                  written :=
                    writer.sink.written ++
                      payloads.flatMap Segment.bytes }
              table }) := by
  induction script generalizing writer with
  | nil => simp [Script.storeAll, writeAll]
  | cons command rest ih =>
      rw [Script.storeAll, writeAll]
      rcases writeCommand_cases hCapacity command with
        ⟨payload, table, hStore, hWrite⟩ |
          ⟨error, table, hStore, hWrite⟩
      · have hRest :=
          ih
            { sink :=
                { writer.sink with
                  written :=
                    writer.sink.written ++
                      Segment.bytes payload }
              table }
            hCapacity
        simp only [hStore, hWrite]
        cases hLater : Script.storeAll table rest with
        | error error =>
            simp only [hLater] at hRest
            exact hRest
        | ok stored =>
            simp only [hLater] at hRest
            rw [hRest]
            simp [← Array.toList_inj]
      · simp only [hStore, hWrite]

namespace Script

/- A script is encoded as the segments of what is stored. -/
theorem encode_eq (script : Script) :
    script.encode =
      match storeAll .empty script with
      | .error error => .error error
      | .ok (payloads, table) =>
          .ok
            { script := payloads.flatMap Segment.bytes
              table } := by
  have hWrite :=
    Writer.writeAll_of_capacity_eq_none
      (Writer.start .unlimited) rfl script
  have hTable : (Writer.start .unlimited).table = .empty :=
    rfl
  rw [hTable] at hWrite
  unfold encode
  cases hStored : storeAll .empty script with
  | error error =>
      rw [hStored] at hWrite
      simp only at hWrite
      simp [hWrite, bind, Except.bind]
  | ok stored =>
      rw [hStored] at hWrite
      simp only at hWrite
      rw [hWrite]
      simp [bind, Except.bind, pure, Except.pure,
        Writer.finish, Sink.flush, Writer.start,
        Sink.unlimited]

/- What encoding returns is what was stored, as segments. -/
theorem exists_storeAll_of_encode
    {script : Script}
    {encoded : Encoded}
    (hEncode : script.encode = .ok encoded) :
    ∃ payloads,
      storeAll .empty script =
          .ok (payloads, encoded.table) ∧
        encoded.script = payloads.flatMap Segment.bytes := by
  rw [encode_eq] at hEncode
  cases hStored : storeAll .empty script with
  | error error => simp [hStored] at hEncode
  | ok stored =>
      rw [hStored] at hEncode
      cases hEncode
      exact ⟨stored.1, rfl, rfl⟩

/- An encoded script is spelled against its own table. -/
theorem spells_of_encode
    {script : Script}
    {encoded : Encoded}
    (hEncode : script.encode = .ok encoded) :
    Spells encoded.table script encoded.script := by
  rcases exists_storeAll_of_encode hEncode with
    ⟨payloads, hStored, hBytes⟩
  refine ⟨_, (isSegment_of_storeAll hStored).2, ?_⟩
  rw [hBytes, List.flatMap_def]

/-
  A script that can be encoded is decoded again as it was.
  With a demand for an end, it is refused exactly when it
  lacks one.
-/
theorem decode_encode
    {script : Script}
    {encoded : Encoded}
    (hEncode : script.encode = .ok encoded) :
    decode encoded.script encoded.table false =
        .ok script ∧
      decode encoded.script encoded.table true =
        if isTerminated script then
          .ok script
        else
          .error .missingEnd := by
  have hSpells := spells_of_encode hEncode
  constructor
  · exact decode_eq_ok_iff_spells.mpr hSpells
  · rw [decode_of_spells hSpells]
    cases isTerminated script <;> rfl

/-
  Two equal boxes around a sound share one line, and are read
  back with the end behind them.
-/
theorem decode_encode_shared_line :
    ∃ (script : Script) (encoded : Encoded),
      script =
          [.dialogue (.ofJoined ['a', '↓', 'b']),
            .sound "Title BGM",
            .dialogue (.ofJoined ['a', '↓', 'b']),
            .finish] ∧
        script.encode = .ok encoded ∧
        encoded.script =
          [0x23, 0x00, 0x00, 0x00,
            0x23, 0x13, 0x01, 0x00,
            0x23, 0x00, 0x00, 0x00,
            0x23, 0xFE] ∧
        decode encoded.script encoded.table false =
          .ok script ∧
        decode encoded.script encoded.table true =
          .ok script := by
  refine
    ⟨_,
      { script :=
          [0x23, 0x00, 0x00, 0x00,
            0x23, 0x13, 0x01, 0x00,
            0x23, 0x00, 0x00, 0x00,
            0x23, 0xFE]
        table := (LineTable.empty.add ['a', '↓', 'b']).2 },
      rfl, rfl, rfl, ?_⟩
  exact decode_encode rfl

end Script

end SceneScript
