import SceneScript.Proofs.Composition

/-
  Reading a script file that was cut off.

  Correctness is stated by:
    * `Reader.readCommand_take`
    * `Script.decode_take_partial`
    * `Script.whole_or_partial`
    * `Script.decode_take`

  A cut between two segments leaves the commands in front of
  it.  A cut inside a segment is noticed there, first by the
  header and then by the length that the opcode asks for.
-/

namespace SceneScript

------------------------------------------------------------
-- Cut Segments
------------------------------------------------------------

/-
  A segment that was cut off is refused.  A marker alone lacks
  its header, everything longer lacks a part of the payload.
-/
theorem Reader.readCommand_take
    (boxes : Array Dialogue)
    (payload : Payload)
    {count : Nat}
    (hSome : 0 < count)
    (hCut : count < payload.opcode.segmentLength)
    (offset : Nat) :
    (readCommand boxes
        { rest := (Segment.bytes payload).take count
          offset }).1 =
      .error
        (.truncated offset
          (if count = 1 then
            2
          else
            payload.opcode.segmentLength)
          count) := by
  match count with
  | 1 => exact congrArg Prod.fst (readCommand_markerOnly ..)
  | behind + 2 =>
      have hBehind : behind < payload.opcode.payloadLength := by
        simp only [Opcode.segmentLength, Opcode.headerLength]
          at hCut
        omega
      have hBytes :
          (Segment.bytes payload).take (behind + 2) =
            Segment.header payload.opcode ++
              payload.bytes.take behind :=
        rfl
      have hLength :
          (payload.bytes.take behind).length = behind := by
        rw [List.length_take, Payload.length_bytes]
        omega
      have hShort :
          (payload.bytes.take behind).length <
            payload.opcode.payloadLength :=
        hLength.symm ▸ hBehind
      rw [hBytes, readCommand_cutOff boxes offset hShort,
        hLength, if_neg (by omega)]

------------------------------------------------------------
-- Cut Scripts
------------------------------------------------------------

namespace Script

/-
  A position in the bytes of a script stands between two of
  its segments or inside one of them.
-/
theorem whole_or_partial
    {script : Script}
    {count : Nat}
    (hCount : count ≤ storedLength script) :
    (∃ whole ≤ script.length,
      count = storedLength (script.take whole)) ∨
      ∃ whole command,
        script[whole]? = some command ∧
          storedLength (script.take whole) < count ∧
          count <
            storedLength (script.take whole) +
              command.opcode.segmentLength := by
  induction script generalizing count with
  | nil =>
      exact .inl ⟨0, Nat.le_refl 0, by simpa using hCount⟩
  | cons command script ih =>
      rw [storedLength] at hCount
      by_cases hZero : count = 0
      · exact .inl ⟨0, Nat.zero_le _, by simpa using hZero⟩
      · by_cases hInside :
          count < command.opcode.segmentLength
        · refine .inr ⟨0, command, rfl, ?_⟩
          simp only [List.take_zero, storedLength]
          omega
        · have hLater :
              count - command.opcode.segmentLength ≤
                storedLength script := by
            omega
          rcases ih hLater with
            ⟨whole, hWhole, hSame⟩ |
              ⟨whole, other, hOther, hAbove, hBelow⟩
          · refine .inl ⟨whole + 1, ?_, ?_⟩
            · rw [List.length_cons]
              omega
            · rw [List.take_succ_cons, storedLength]
              omega
          · refine .inr ⟨whole + 1, other, hOther, ?_⟩
            rw [List.take_succ_cons, storedLength]
            omega

variable {bytes : List UInt8}
variable {table : LineTable}
variable {script : Script}

/- A cut between two segments leaves the commands before it. -/
theorem decode_take_whole
    (hDecode : decode bytes table false = .ok script)
    (whole : Nat) :
    decode (bytes.take (storedLength (script.take whole)))
        table false =
      .ok (script.take whole) := by
  have hSpells := decode_eq_ok_iff_spells.mp hDecode
  exact
    decode_eq_ok_iff_spells.mpr (hSpells.cut whole).1

/- A segment that was cut off is refused on its own. -/
theorem decode_take_segment
    {command : Command}
    {segment : List UInt8}
    (hSegment : IsSegment table command segment)
    {count : Nat}
    (hSome : 0 < count)
    (hCut : count < command.opcode.segmentLength) :
    decode (segment.take count) table false =
      .error
        (.truncated 0
          (if count = 1 then
            2
          else
            command.opcode.segmentLength)
          count) := by
  rcases hSegment.exists_payload 0 with ⟨payload, rfl, _⟩
  have hLength :
      command.opcode.segmentLength =
        payload.opcode.segmentLength := by
    rw [← hSegment.length_eq, Segment.length_bytes]
  rw [hLength] at hCut ⊢
  have hRest : (Segment.bytes payload).take count ≠ [] := by
    rw [ne_eq, List.take_eq_nil_iff]
    rintro (hNone | hNil)
    · omega
    · exact hSegment.ne_nil hNil
  rw [decode_eq_readAll, Cursor.start,
    Reader.readAll_of_ne_nil table.boxes hRest,
    Reader.readCommand_take table.boxes payload hSome hCut]
  rfl

/- A segment that was cut off is refused where it starts. -/
theorem decode_take_partial
    (hDecode : decode bytes table false = .ok script)
    {whole count : Nat}
    {command : Command}
    (hCommand : script[whole]? = some command)
    (hAbove : storedLength (script.take whole) < count)
    (hBelow :
      count <
        storedLength (script.take whole) +
          command.opcode.segmentLength) :
    decode (bytes.take count) table false =
      .error
        (.truncated (storedLength (script.take whole))
          (if count - storedLength (script.take whole) = 1 then
            2
          else
            command.opcode.segmentLength)
          (count - storedLength (script.take whole))) := by
  let offset := storedLength (script.take whole)
  let inside := count - offset
  have hSpells := decode_eq_ok_iff_spells.mp hDecode
  rcases hSpells.cut whole with ⟨hFront, hBack⟩
  have hDrop :
      script.drop whole =
        command :: script.drop (whole + 1) := by
    rw [List.drop_eq_getElem?_toList_append, hCommand]
    rfl
  rw [hDrop] at hBack
  rcases Spells.cons_iff.mp hBack with
    ⟨segment, later, hSegment, _, hBytes⟩
  have hInside : inside < command.opcode.segmentLength := by
    omega
  have hFits : inside ≤ segment.length := by
    rw [hSegment.length_eq]
    omega
  have hCut :
      bytes.take count =
        bytes.take offset ++ segment.take inside := by
    rw [← List.take_append_of_le_length hFits, ← hBytes,
      ← List.take_add]
    congr 1
    omega
  have hRefused :=
    decode_take_segment hSegment (by omega) hInside
  have hMoved :=
    (decode_append (decode_take_whole hDecode whole)).2 _
      hRefused
  rw [hCut, hMoved, hFront.length_eq]
  simp only [DecodeError.shift, Nat.zero_add]
  rfl

/-
  A script file that was cut off is never misread.  Between
  two segments it is decoded to the commands in front of the
  cut.  Inside a segment the segment is reported, with the
  bytes that it needs and those that are left.
-/
theorem decode_take
    (hDecode : decode bytes table false = .ok script)
    {count : Nat}
    (hCount : count ≤ bytes.length) :
    (∀ whole ≤ script.length,
      count = storedLength (script.take whole) →
        decode (bytes.take count) table false =
          .ok (script.take whole)) ∧
      (∀ whole command,
        script[whole]? = some command →
          let offset := storedLength (script.take whole)
          offset < count →
            count < offset + command.opcode.segmentLength →
              decode (bytes.take count) table false =
                .error
                  (.truncated offset
                    (if count - offset = 1 then
                      2
                    else
                      command.opcode.segmentLength)
                    (count - offset))) ∧
      ((∃ whole ≤ script.length,
        count = storedLength (script.take whole)) ∨
        ∃ whole command,
          script[whole]? = some command ∧
            storedLength (script.take whole) < count ∧
            count <
              storedLength (script.take whole) +
                command.opcode.segmentLength) := by
  have hLength :=
    (decode_eq_ok_iff_spells.mp hDecode).length_eq
  refine ⟨?_, ?_, ?_⟩
  · rintro whole _ rfl
    exact decode_take_whole hDecode whole
  · intro whole command hCommand offset hAbove hBelow
    exact
      decode_take_partial hDecode hCommand hAbove hBelow
  · exact whole_or_partial (hLength ▸ hCount)

/-
  A wait, a fade and an end, cut behind the fade, behind its
  marker and inside its payload.
-/
theorem decode_take_fade :
    ∃ (bytes : List UInt8) (table : LineTable),
      bytes =
          [0x23, 0x0F, 0x32, 0x00,
            0x23, 0x15, 0x01, 0x02, 0x03, 0x04,
            0x23, 0xFE] ∧
        decode bytes table false =
          .ok [.wait 50, .fadeIn 1 2 3 4, .finish] ∧
        10 ≤ bytes.length ∧
        decode (bytes.take 10) table false =
          .ok [.wait 50, .fadeIn 1 2 3 4] ∧
        decode (bytes.take 5) table false =
          .error (.truncated 4 2 1) ∧
        decode (bytes.take 7) table false =
          .error (.truncated 4 6 3) := by
  let table : LineTable := .empty
  have hWord : Word.IsMadeOf 50 0x32 0x00 := rfl
  have hDecode :
      decode
          [0x23, 0x0F, 0x32, 0x00,
            0x23, 0x15, 0x01, 0x02, 0x03, 0x04,
            0x23, 0xFE] table false =
        .ok [.wait 50, .fadeIn 1 2 3 4, .finish] :=
    decode_eq_ok_iff_spells.mpr
      ⟨_, .cons (.wait hWord)
        (.cons .fadeIn (.cons .finish .nil)), rfl⟩
  refine ⟨_, table, rfl, hDecode, by decide, ?_, ?_, ?_⟩
  · exact
      (decode_take hDecode (by decide)).1 2 (by decide) rfl
  · exact
      (decode_take hDecode (by decide)).2.1 1 _ rfl
        (by decide) (by decide)
  · exact
      (decode_take hDecode (by decide)).2.1 1 _ rfl
        (by decide) (by decide)

end Script

end SceneScript
