import SceneScript.Proofs.Attempts

/-
  Writing to a sink that gets full.

  Key definitions include:
    * `Sink.limited`
    * `Sink.IsFilledFrom`
    * `Writer.IsFilledFrom`

  Correctness is stated by:
    * `Sink.IsFilledFrom.write`
    * `Writer.IsFilledFrom.writeCommand`
    * `Writer.IsFilledFrom.after`
    * `Writer.writeCommand_limited`

  Two writers are given the same commands, and one of them
  has a sink with a capacity.  Its sink is filled from the
  front with what the other one writes, and both tables take
  the same lines, since a line is taken before the segment is
  written.
-/

namespace SceneScript

------------------------------------------------------------
-- Sinks
------------------------------------------------------------

namespace Sink

/- A sink that takes so many bytes and no more. -/
def limited (capacity : Nat) : Sink where
  written := #[]
  capacity := some capacity
  flushFails := false

/-
  A sink with a capacity holds the first bytes of what a sink
  without one holds, as many as it takes.
-/
structure IsFilledFrom
    (capacity : Nat)
    (sink full : Sink) : Prop where
  capacity_eq : sink.capacity = some capacity
  unlimited : full.capacity = none
  written_eq :
    sink.written.toList = full.written.toList.take capacity

/- Nothing is written when a sink is new. -/
theorem isFilledFrom_limited (capacity : Nat) :
    IsFilledFrom capacity (limited capacity) unlimited where
  capacity_eq := rfl
  unlimited := rfl
  written_eq := List.take_nil.symm

/- A sink without a capacity grows by the bytes of a write. -/
theorem size_write_of_capacity_eq_none
    {sink : Sink}
    (hCapacity : sink.capacity = none)
    (bytes : List UInt8) :
    (sink.write bytes).2.written.size =
      sink.written.size + bytes.length := by
  rw [write_of_capacity_eq_none hCapacity,
    ← Array.length_toList, Array.toList_appendList,
    List.length_append, sink.written.length_toList]

namespace IsFilledFrom

variable {capacity : Nat} {sink full : Sink}

/- The number of bytes of a write that still fit. -/
theorem room_eq
    (hFilled : IsFilledFrom capacity sink full)
    (wanted : Nat) :
    sink.room wanted =
      min wanted (capacity - full.written.size) := by
  have hSize := congrArg List.length hFilled.written_eq
  rw [List.length_take, Array.length_toList,
    Array.length_toList] at hSize
  rw [room, hFilled.capacity_eq, hSize]
  simp only
  omega

/-
  The same bytes are written to both sinks.  They fit if all
  bytes that were ever written do.  A sink that is full for
  once takes no byte any more.
-/
theorem write
    (hFilled : IsFilledFrom capacity sink full)
    {bytes : List UInt8}
    (hBytes : bytes ≠ []) :
    IsFilledFrom capacity
        (sink.write bytes).2 (full.write bytes).2 ∧
      (sink.write bytes).1 =
        if (full.write bytes).2.written.size ≤ capacity then
          .ok ()
        else
          .error .writeZero := by
  have hLength := List.length_pos_iff.mpr hBytes
  have hWritten :=
    write_of_capacity_eq_none hFilled.unlimited bytes
  refine ⟨⟨hFilled.capacity_eq, ?_, ?_⟩, ?_⟩
  · rw [hWritten]
    exact hFilled.unlimited
  · rw [hWritten, Sink.write, hFilled.room_eq,
      Array.toList_appendList, Array.toList_appendList,
      hFilled.written_eq, List.take_append,
      full.written.length_toList, Nat.min_comm,
      ← List.take_eq_take_min]
  · rw [size_write_of_capacity_eq_none hFilled.unlimited,
      Sink.write, hFilled.room_eq]
    by_cases hFits :
        full.written.size + bytes.length ≤ capacity
    · rw [if_pos hFits, if_neg (by omega)]
    · rw [if_neg hFits, if_pos (by omega)]

end IsFilledFrom

end Sink

------------------------------------------------------------
-- Writers
------------------------------------------------------------

namespace Writer

/-
  A writer with a limited sink holds the table of another one
  and the first bytes of what that one wrote.
-/
structure IsFilledFrom
    (capacity : Nat)
    (writer full : Writer) : Prop where
  sink : writer.sink.IsFilledFrom capacity full.sink
  table_eq : writer.table = full.table

/- Nothing is written when a writer starts. -/
theorem isFilledFrom_start (capacity : Nat) :
    (start (.limited capacity)).IsFilledFrom capacity
      (start .unlimited) where
  sink := Sink.isFilledFrom_limited capacity
  table_eq := rfl

/- A segment has a marker at least. -/
theorem segment_ne_nil (payload : Payload) :
    Segment.bytes payload ≠ [] := by
  simp [Segment.bytes, Segment.header]

namespace IsFilledFrom

variable {capacity : Nat} {writer full : Writer}

/-
  One command is given to both writers.  What cannot be stored
  fails alike, and what is stored fits if all bytes do.
-/
theorem writeCommand
    (hFilled : writer.IsFilledFrom capacity full)
    (command : Command) :
    (writer.writeCommand command).2.IsFilledFrom capacity
        (full.writeCommand command).2 ∧
      (writer.writeCommand command).1 =
        match full.writeCommand command with
        | (.error error, _) => .error error
        | (.ok (), next) =>
            if next.sink.written.size ≤ capacity then
              .ok ()
            else
              .error (.device .writeZero) := by
  rcases hFilled with ⟨hSink, hTable⟩
  rw [Writer.writeCommand, Writer.writeCommand, hTable]
  rcases command.store full.table with ⟨stored, table⟩
  cases stored with
  | error error => exact ⟨⟨hSink, rfl⟩, rfl⟩
  | ok payload =>
      rcases hSink.write (segment_ne_nil payload) with
        ⟨hWritten, hResult⟩
      have hFull :=
        Sink.write_of_capacity_eq_none hSink.unlimited
          (Segment.bytes payload)
      rw [hFull] at hWritten hResult
      refine ⟨⟨?_, rfl⟩, ?_⟩
      · simp only [hFull]
        exact hWritten
      · simp only [hFull, hResult]
        rw [apply_ite (Except.mapError EncodeError.device)]
        rfl

/- Any number of commands is given to both writers. -/
theorem after
    (hFilled : writer.IsFilledFrom capacity full)
    (commands : Script) :
    (writer.after commands).IsFilledFrom capacity
      (full.after commands) := by
  induction commands generalizing writer full with
  | nil => exact hFilled
  | cons command rest ih =>
      exact ih (hFilled.writeCommand command).1

end IsFilledFrom

/-
  After any commands, both tables are equal and the limited
  sink holds the first bytes of the other one.  The next
  command fails as it does without a limit.  Otherwise it
  succeeds exactly if all bytes that are written without a
  limit fit, and fails with a fault of the sink if not.
-/
theorem writeCommand_limited
    (capacity : Nat)
    (attempts : Script)
    (command : Command) :
    let writer := (start (.limited capacity)).after attempts
    let full := (start .unlimited).after attempts
    writer.table = full.table ∧
      writer.sink.written.toList =
        full.sink.written.toList.take capacity ∧
      (∀ error next,
        full.writeCommand command = (.error error, next) →
          (writer.writeCommand command).1 = .error error) ∧
      ∀ next,
        full.writeCommand command = (.ok (), next) →
          (writer.writeCommand command).1 =
            if next.sink.written.size ≤ capacity then
              .ok ()
            else
              .error (.device .writeZero) := by
  intro writer full
  have hFilled : writer.IsFilledFrom capacity full :=
    (isFilledFrom_start capacity).after attempts
  have hOutcome := (hFilled.writeCommand command).2
  refine
    ⟨hFilled.table_eq, hFilled.sink.written_eq, ?_, ?_⟩
  · intro error next hFails
    rw [hOutcome, hFails]
  · intro next hWrites
    rw [hOutcome, hWrites]

/-
  Six bytes fit.  The second dialogue is cut in its middle,
  but its text has a line, and an unknown sound is noticed
  although the sink is full.
-/
theorem writeCommand_limited_cut_dialogue :
    ∃ (attempts : Script) (writer : Writer),
      attempts =
          [.dialogue (.ofJoined ['a']),
            .dialogue (.ofJoined ['b'])] ∧
        writer = (start (.limited 6)).after attempts ∧
        writer.table.toList = [['a'], ['b']] ∧
        writer.sink.written.toList =
          [0x23, 0x00, 0x00, 0x00, 0x23, 0x00] ∧
        (writer.writeCommand (.sound "Kazoo SFX")).1 =
          .error (.unknownName .sound "Kazoo SFX") ∧
        (writer.writeCommand .finish).1 =
          .error (.device .writeZero) := by
  let attempts : Script :=
    [.dialogue (.ofJoined ['a']), .dialogue (.ofJoined ['b'])]
  have hSound :=
    writeCommand_limited 6 attempts (.sound "Kazoo SFX")
  have hFinish := writeCommand_limited 6 attempts .finish
  refine ⟨attempts, _, rfl, rfl, ?_, ?_, ?_, ?_⟩
  · rw [hFinish.1]
    rfl
  · rw [hFinish.2.1]
    rfl
  · exact hSound.2.2.1 _ _ rfl
  · exact hFinish.2.2.2 _ rfl

end Writer

end SceneScript
