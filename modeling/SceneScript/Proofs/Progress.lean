import SceneScript.Proofs.Streaming

/-
  Where a reader stands after each call.

  Key definitions include:
    * `DecodeError.bytesRead`
    * `Reader.taken`
    * `Reader.Takes`
    * `Reader.IsWithin`

  Correctness is stated by:
    * `Payload.taken_resolve`
    * `Reader.takes_readCommand`
    * `Reader.IsWithin.after`
    * `Reader.next_advances`

  The length that is checked before a segment is read is the
  length that its fields take.  No field runs past the data,
  and behind a command the reader stands in front of the next
  segment.
-/

namespace SceneScript

------------------------------------------------------------
-- Bytes Behind a Failure
------------------------------------------------------------

/- The opcode whose segments hold the codes of a kind. -/
def SymbolKind.opcode : SymbolKind → Opcode
| sound => .sound
| background => .background
| character => .character
| transition => .transition

/-
  The number of bytes that were read of a segment that is
  refused.  What the fields of a segment stand for is looked
  at behind the whole segment.
-/
def DecodeError.bytesRead : DecodeError → Nat
| markerMismatch _ _ => 1
| unknownOpcode _ _ => Opcode.headerLength
| unknownSymbol _ kind _ => kind.opcode.segmentLength
| unknownPlacement _ _ => Opcode.character.segmentLength
| outOfRange _ _ _ => Opcode.dialogue.segmentLength
| truncated _ _ available =>
    min available Opcode.headerLength
| exhausted _ => 0
| missingEnd => 0

/- The number of bytes that a reader takes with an item. -/
def Reader.taken : Except DecodeError Command → Nat
| .ok command => command.opcode.segmentLength
| .error error => error.bytesRead

------------------------------------------------------------
-- Whole Segments
------------------------------------------------------------

namespace Payload

variable {boxes : Array Dialogue}
variable {offset : Nat}

/- A payload stands for a command of its own opcode. -/
theorem opcode_of_resolve
    {payload : Payload}
    {command : Command}
    (hResolve :
      payload.resolve boxes offset = .ok command) :
    command.opcode = payload.opcode := by
  cases payload with
  | dialogue index =>
      simp only [resolve] at hResolve
      split at hResolve
      · cases hResolve
        rfl
      · cases hResolve
  | wait _ | fadeIn _ _ _ _ | finish =>
      cases hResolve
      rfl
  | sound _ | transition _ _ _ | background _ _ =>
      rcases bind_eq_ok_iff.mp hResolve with
        ⟨name, _, hCommand⟩
      cases hCommand
      rfl
  | character placement code =>
      rcases bind_eq_ok_iff.mp hResolve with
        ⟨name, _, hCommand⟩
      split at hCommand
      · cases hCommand
        rfl
      · cases hCommand

/- A payload without a meaning was read as a whole. -/
theorem bytesRead_of_resolve
    {payload : Payload}
    {error : DecodeError}
    (hResolve :
      payload.resolve boxes offset = .error error) :
    error.bytesRead = payload.opcode.segmentLength := by
  cases refused_of_resolve hResolve <;> rfl

/-
  A whole segment is taken whether its payload has a meaning
  or not.
-/
theorem taken_resolve (payload : Payload) :
    Reader.taken (payload.resolve boxes offset) =
      payload.opcode.segmentLength := by
  cases hResolve : payload.resolve boxes offset with
  | ok command =>
      exact
        congrArg Opcode.segmentLength
          (opcode_of_resolve hResolve)
  | error error => exact bytesRead_of_resolve hResolve

/- No field of a segment that fits runs past the data. -/
theorem resolve_ne_exhausted
    (payload : Payload)
    (place : Nat) :
    payload.resolve boxes offset ≠
      .error (.exhausted place) := by
  intro hResolve
  cases refused_of_resolve hResolve

end Payload

------------------------------------------------------------
-- Steps
------------------------------------------------------------

namespace Reader

/-
  What a step does to the bytes in front of a reader.  It
  takes some of them off the front, as many as its item tells,
  and never asks for bytes that are not there.
-/
structure Takes
    (start : Cursor)
    (item : Except DecodeError Command)
    (next : Cursor) : Prop where
  some_taken : 0 < taken item
  taken_le : taken item ≤ start.rest.length
  rest_eq : next.rest = start.rest.drop (taken item)
  offset_eq : next.offset = start.offset + taken item
  ne_exhausted : ∀ place, item ≠ .error (.exhausted place)

/- Where bytes are left, every step takes some of them. -/
theorem takes_readCommand
    (boxes : Array Dialogue)
    {start : Cursor}
    (hRest : start.rest ≠ []) :
    Takes start (readCommand boxes start).1
      (readCommand boxes start).2 := by
  obtain ⟨bytes, offset⟩ := start
  cases Segment.start bytes with
  | nothing => exact (hRest rfl).elim
  | unmarked hMarker rest =>
      rw [readCommand_unmarked boxes rest offset hMarker]
      constructor <;> simp [taken, DecodeError.bytesRead]
  | markerOnly =>
      rw [readCommand_markerOnly]
      constructor <;>
        simp [taken, DecodeError.bytesRead,
          Opcode.headerLength]
  | unlisted hByte rest =>
      rw [readCommand_unlisted boxes rest offset hByte]
      constructor <;>
        simp [taken, DecodeError.bytesRead,
          Opcode.headerLength]
  | cutOff hShort =>
      rw [readCommand_cutOff boxes offset hShort]
      constructor <;>
        simp [taken, DecodeError.bytesRead,
          Opcode.headerLength, Segment.header]
  | whole payload rest =>
      have hTaken :
          taken (payload.resolve boxes offset) =
            payload.opcode.segmentLength :=
        payload.taken_resolve
      rw [readCommand_bytes]
      constructor
      · rw [hTaken, Opcode.segmentLength,
          Opcode.headerLength]
        omega
      · rw [hTaken, List.length_append,
          Segment.length_bytes]
        omega
      · rw [hTaken, ← Segment.length_bytes, List.drop_left]
      · rw [hTaken]
      · exact payload.resolve_ne_exhausted

------------------------------------------------------------
-- Calls
------------------------------------------------------------

variable {bytes : List UInt8}
variable {reader later : Reader}
variable {item : Except DecodeError Command}

/-
  A call that yields an item makes one step.  A failure is
  remembered, and nothing else is.
-/
theorem takes_of_next
    (hNext : reader.next = (some item, later)) :
    Takes reader.cursor item later.cursor ∧
      later.failed = !item.isOk := by
  unfold next at hNext
  split at hNext
  · cases hNext
  · rename_i hGoesOn
    have hRest : reader.cursor.rest ≠ [] := by
      intro hNil
      simp [hNil] at hGoesOn
    cases hNext
    exact ⟨takes_readCommand reader.boxes hRest, rfl⟩

/- A call that yields nothing leaves a reader that is done. -/
theorem isDone_of_next_eq_none
    (hNext : reader.next = (none, later)) :
    later = reader ∧ reader.IsDone := by
  unfold next at hNext
  split at hNext
  · rename_i hStays
    cases hNext
    refine ⟨rfl, ?_⟩
    rw [Bool.or_eq_true, List.isEmpty_iff] at hStays
    exact hStays
  · cases hNext

/-
  A reader within bytes has those in front of it that follow
  its offset.
-/
structure IsWithin
    (bytes : List UInt8)
    (reader : Reader) : Prop where
  offset_le : reader.offset ≤ bytes.length
  rest_eq : reader.cursor.rest = bytes.drop reader.offset

/- A reader starts within its bytes. -/
theorem isWithin_start
    (bytes : List UInt8)
    (table : LineTable) :
    IsWithin bytes (start bytes table) where
  offset_le := Nat.zero_le _
  rest_eq := List.drop_zero.symm

/- With nothing in front of it a reader is at the end. -/
theorem IsWithin.offset_eq
    (hWithin : IsWithin bytes reader)
    (hRest : reader.cursor.rest = []) :
    reader.offset = bytes.length := by
  rw [hWithin.rest_eq, List.drop_eq_nil_iff] at hRest
  exact Nat.le_antisymm hWithin.offset_le hRest

/- A call leaves a reader within its bytes. -/
theorem IsWithin.next
    (hWithin : IsWithin bytes reader) :
    IsWithin bytes reader.next.2 := by
  cases hNext : reader.next with
  | mk item? later =>
      cases item? with
      | none =>
          exact (isDone_of_next_eq_none hNext).1 ▸ hWithin
      | some item =>
          have hTakes := (takes_of_next hNext).1
          have hOffset :
              later.offset = reader.offset + taken item :=
            hTakes.offset_eq
          have hInside := hTakes.taken_le
          rw [hWithin.rest_eq, List.length_drop] at hInside
          have hLess := hWithin.offset_le
          constructor
          · rw [hOffset]
            omega
          · rw [hTakes.rest_eq, hWithin.rest_eq,
              List.drop_drop, hOffset]

/- No number of calls leads a reader out of its bytes. -/
theorem IsWithin.after
    (hWithin : IsWithin bytes reader)
    (count : Nat) :
    IsWithin bytes (reader.after count) := by
  induction count generalizing reader with
  | zero => exact hWithin
  | succ count ih => exact ih hWithin.next

------------------------------------------------------------
-- Reading to the End
------------------------------------------------------------

/- No field runs past the data when all of it is read. -/
theorem readAll_ne_exhausted
    (boxes : Array Dialogue)
    (cursor : Cursor)
    (place : Nat) :
    readAll boxes cursor ≠ .error (.exhausted place) := by
  fun_induction readAll boxes cursor with
  | case1 cursor hRest => intro hRead; cases hRead
  | case2 cursor hRest step error hStep =>
      rintro ⟨⟩
      exact
        (takes_readCommand boxes hRest).ne_exhausted place
          hStep
  | case3 cursor hRest step command hStep error hLater ih =>
      rintro ⟨⟩
      exact ih hLater
  | case4 cursor hRest step command hStep later hLater ih =>
      intro hRead
      cases hRead

/- The demand for an end changes nothing about that. -/
theorem readToEnd_ne_exhausted
    (reader : Reader)
    (requireEnd : Bool)
    (place : Nat) :
    reader.readToEnd requireEnd ≠
      .error (.exhausted place) := by
  intro hRead
  cases hFailed : reader.failed with
  | true =>
      rw [readToEnd_of_failed hFailed] at hRead
      split at hRead
      · cases hRead
      · cases hRead
  | false =>
      rw [readToEnd_of_not_failed hFailed] at hRead
      split at hRead
      · rename_i hAll
        cases hRead
        exact readAll_ne_exhausted _ _ place hAll
      · split at hRead
        · cases hRead
        · cases hRead

/-
  The place of a reader after any number of calls.  It is
  within the data.  A further call moves it on with each item,
  behind the segment of a command and behind what was read of
  a segment that is refused.  Nothing is yielded only at the
  end of the data and after a failure.  No item, and no
  reading of the rest, fails for bytes that are not there.
-/
theorem next_advances
    (bytes : List UInt8)
    (table : LineTable)
    (count : Nat) :
    let reader := (start bytes table).after count
    reader.offset ≤ bytes.length ∧
      (∀ item later,
        reader.next = (some item, later) →
          reader.offset < later.offset ∧
            (∀ command,
              item = .ok command →
                later.failed = false ∧
                  later.offset =
                    reader.offset +
                      command.opcode.segmentLength) ∧
            (∀ error,
              item = .error error →
                later.failed = true ∧
                  later.offset =
                    reader.offset + error.bytesRead) ∧
            ∀ place, item ≠ .error (.exhausted place)) ∧
      (∀ later,
        reader.next = (none, later) →
          later = reader ∧
            (reader.failed = true ∨
              reader.offset = bytes.length)) ∧
      ∀ requireEnd place,
        reader.readToEnd requireEnd ≠
          .error (.exhausted place) := by
  intro reader
  have hWithin := (isWithin_start bytes table).after count
  refine ⟨hWithin.offset_le, ?_, ?_, ?_⟩
  · intro item later hNext
    rcases takes_of_next hNext with ⟨hTakes, hFailed⟩
    have hOffset :
        later.offset = reader.offset + taken item :=
      hTakes.offset_eq
    refine ⟨?_, ?_, ?_, hTakes.ne_exhausted⟩
    · rw [hOffset]
      exact Nat.lt_add_of_pos_right hTakes.some_taken
    · rintro command rfl
      exact ⟨hFailed, hOffset⟩
    · rintro error rfl
      exact ⟨hFailed, hOffset⟩
  · intro later hNext
    rcases isDone_of_next_eq_none hNext with ⟨hSame, hDone⟩
    exact ⟨hSame, hDone.imp_right hWithin.offset_eq⟩
  · exact readToEnd_ne_exhausted reader

/-
  A wait in front of a character that is cut off.  The second
  call stops behind the header of the character.
-/
theorem next_advances_cut_character :
    ∃ (bytes : List UInt8) (table : LineTable),
      let reader := (start bytes table).after 1
      let last := (start bytes table).after 2
      bytes =
          [0x23, 0x0F, 0x32, 0x00,
            0x23, 0x1C, 0x03, 0x00, 0x17] ∧
        (start bytes table).next =
          (some (.ok (.wait 50)), reader) ∧
        reader.failed = false ∧
        reader.offset = 4 ∧
        reader.next =
          (some (.error (.truncated 4 6 5)), last) ∧
        last.failed = true ∧
        last.offset = 6 ∧
        last.offset ≤ bytes.length ∧
        last.next = (none, last) ∧
        reader.readToEnd true ≠ .error (.exhausted 4) := by
  let bytes : List UInt8 :=
    [0x23, 0x0F, 0x32, 0x00, 0x23, 0x1C, 0x03, 0x00, 0x17]
  let table : LineTable := .empty
  rcases next_advances bytes table 0 with
    ⟨_, hFirst, _, _⟩
  rcases next_advances bytes table 1 with
    ⟨_, hSecond, _, hRest⟩
  rcases next_advances bytes table 2 with
    ⟨hInside, _, _, _⟩
  rcases (hFirst _ _ rfl).2.1 (.wait 50) rfl with
    ⟨hGoesOn, hWait⟩
  rcases (hSecond _ _ rfl).2.2.1 (.truncated 4 6 5) rfl with
    ⟨hFailed, hCut⟩
  exact
    ⟨bytes, table, rfl, rfl, hGoesOn, hWait, rfl, hFailed,
      hCut, hInside, rfl, hRest true 4⟩

end Reader

end SceneScript
