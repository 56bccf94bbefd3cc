import SceneScript.Proofs.Composition

/-
  Reading a script one command at a time.

  Key definitions include:
    * `DecodeError.offset?`
    * `Payload.Refused`
    * `Reader.after`
    * `Reader.standing`
    * `Reader.Halts`

  Correctness is stated by:
    * `Reader.offset?_of_readCommand`
    * `Reader.after_standing`
    * `Reader.next_after_standing`
    * `Reader.readToEnd_standing`
    * `Reader.next_agrees_with_decode`

  Every byte string is that of a script in front of a rest,
  where a reader halts.  Either nothing is left there, or the
  next segment is refused, and a reader that failed once
  never goes on.
-/

namespace SceneScript

------------------------------------------------------------
-- Places of Failures
------------------------------------------------------------

/- The place that a failure names, if it names one. -/
def DecodeError.offset? : DecodeError → Option Nat
| markerMismatch offset _ => some offset
| unknownOpcode offset _ => some offset
| unknownSymbol offset _ _ => some offset
| unknownPlacement offset _ => some offset
| outOfRange offset _ _ => some offset
| truncated offset _ _ => some offset
| exhausted offset => some offset
| missingEnd => none

/-
  Why a payload stands for no command.  A segment refers to
  one line or to one code, and a character also to a place.
-/
inductive Payload.Refused
    (offset : Nat) : Payload → DecodeError → Prop where
  | index
      (index : UInt16)
      (size : Nat) :
      Refused offset (.dialogue index)
        (.outOfRange offset index size)
  | sound (code : UInt16) :
      Refused offset (.sound code)
        (.unknownSymbol offset .sound code)
  | transition
      (unknown code : UInt8)
      (speed : Int16) :
      Refused offset (.transition unknown code speed)
        (.unknownSymbol offset .transition code.toUInt16)
  | background (unknown code : UInt8) :
      Refused offset (.background unknown code)
        (.unknownSymbol offset .background code.toUInt16)
  | character (placement code : UInt16) :
      Refused offset (.character placement code)
        (.unknownSymbol offset .character code)
  | placement (placement code : UInt16) :
      Refused offset (.character placement code)
        (.unknownPlacement offset placement)

/- A code is refused only for having no name. -/
theorem Catalog.eq_of_resolve_eq_error
    {Code : Type}
    [DecidableEq Code]
    {catalog : Catalog Code}
    {widen : Code → UInt16}
    {offset : Nat}
    {code : Code}
    {error : DecodeError}
    (hResolve :
      catalog.resolve widen offset code = .error error) :
    error =
      .unknownSymbol offset catalog.kind (widen code) := by
  unfold resolve at hResolve
  split at hResolve
  · cases hResolve
  · cases hResolve
    rfl

/- A payload that is not resolved is refused for a reason. -/
theorem Payload.refused_of_resolve
    {boxes : Array Dialogue}
    {offset : Nat}
    {payload : Payload}
    {error : DecodeError}
    (hResolve :
      payload.resolve boxes offset = .error error) :
    Refused offset payload error := by
  cases payload with
  | dialogue index =>
      simp only [resolve] at hResolve
      split at hResolve
      · cases hResolve
      · cases hResolve
        exact .index index boxes.size
  | wait _ | fadeIn _ _ _ _ | finish => cases hResolve
  | sound code =>
      rcases bind_eq_error_iff.mp hResolve with
        hName | ⟨name, _, hCommand⟩
      · rw [Catalog.eq_of_resolve_eq_error hName]
        exact .sound code
      · cases hCommand
  | transition unknown code speed =>
      rcases bind_eq_error_iff.mp hResolve with
        hName | ⟨name, _, hCommand⟩
      · rw [Catalog.eq_of_resolve_eq_error hName]
        exact .transition unknown code speed
      · cases hCommand
  | background unknown code =>
      rcases bind_eq_error_iff.mp hResolve with
        hName | ⟨name, _, hCommand⟩
      · rw [Catalog.eq_of_resolve_eq_error hName]
        exact .background unknown code
      · cases hCommand
  | character placement code =>
      rcases bind_eq_error_iff.mp hResolve with
        hName | ⟨name, _, hCommand⟩
      · rw [Catalog.eq_of_resolve_eq_error hName]
        exact .character placement code
      · split at hCommand
        · cases hCommand
        · cases hCommand
          exact .placement placement code

/- A payload without a meaning is reported at its segment. -/
theorem Payload.offset?_of_resolve
    {boxes : Array Dialogue}
    {offset : Nat}
    {payload : Payload}
    {error : DecodeError}
    (hResolve :
      payload.resolve boxes offset = .error error) :
    error.offset? = some offset := by
  cases refused_of_resolve hResolve <;> rfl

/- A segment that is refused is reported where it starts. -/
theorem Reader.offset?_of_readCommand
    {boxes : Array Dialogue}
    {start : Cursor}
    {error : DecodeError}
    (hRead : (readCommand boxes start).1 = .error error) :
    error.offset? = some start.offset := by
  obtain ⟨bytes, offset⟩ := start
  cases Segment.start bytes with
  | nothing =>
      cases hRead
      rfl
  | unmarked hMarker rest =>
      rw [readCommand_unmarked boxes rest offset hMarker]
        at hRead
      cases hRead
      rfl
  | markerOnly =>
      cases hRead
      rfl
  | unlisted hByte rest =>
      rw [readCommand_unlisted boxes rest offset hByte]
        at hRead
      cases hRead
      rfl
  | cutOff hShort =>
      rw [readCommand_cutOff boxes offset hShort] at hRead
      cases hRead
      rfl
  | whole payload rest =>
      rw [readCommand_bytes] at hRead
      exact Payload.offset?_of_resolve hRead

namespace Reader

------------------------------------------------------------
-- Repeated Calls
------------------------------------------------------------

/- The reader after `next` was called so many times. -/
def after (reader : Reader) : Nat → Reader
| 0 => reader
| count + 1 => reader.next.2.after count

/- More calls go on from the reader that is left. -/
theorem after_add
    (reader : Reader)
    (count more : Nat) :
    reader.after (count + more) =
      (reader.after count).after more := by
  induction count generalizing reader with
  | zero => rw [Nat.zero_add, after]
  | succ count ih =>
      rw [Nat.add_right_comm, after, after, ih]

/- A reader at the end or behind a failure. -/
def IsDone (reader : Reader) : Prop :=
  reader.failed = true ∨ reader.cursor.rest = []

/- A reader that is done yields nothing and stays. -/
theorem next_of_isDone
    {reader : Reader}
    (hDone : reader.IsDone) :
    reader.next = (none, reader) := by
  unfold next
  rcases hDone with hFailed | hRest
  · simp [hFailed]
  · simp [hRest]

/- A reader that is done stays, however often it is called. -/
theorem after_of_isDone
    {reader : Reader}
    (hDone : reader.IsDone)
    (count : Nat) :
    reader.after count = reader := by
  induction count with
  | zero => rfl
  | succ count ih => rw [after, next_of_isDone hDone, ih]

------------------------------------------------------------
-- Readers That Stand in Front of Bytes
------------------------------------------------------------

/- A reader that has not failed, with bytes in front of it. -/
def standing
    (table : LineTable)
    (rest : List UInt8)
    (offset : Nat) : Reader where
  boxes := table.boxes
  cursor := { rest, offset }
  failed := false

variable {table : LineTable}
variable {script : Script}
variable {front rest : List UInt8}
variable {offset : Nat}

/- A reader in front of bytes looks at one segment. -/
theorem next_standing (hRest : rest ≠ []) :
    (standing table rest offset).next =
      let step := readCommand table.boxes { rest, offset }
      (some step.1,
        { boxes := table.boxes
          cursor := step.2
          failed := !step.1.isOk }) := by
  have hEmpty : rest.isEmpty = false := by
    simpa using hRest
  simp [next, standing, hEmpty]

/- A reader in front of a script yields its first command. -/
theorem next_standing_cons
    {command : Command}
    (hSpells : Spells table (command :: script) front)
    (rest : List UInt8)
    (offset : Nat) :
    ∃ later,
      Spells table script later ∧
        front.drop command.opcode.segmentLength = later ∧
        (standing table (front ++ rest) offset).next =
          (some (.ok command),
            standing table (later ++ rest)
              (offset + command.opcode.segmentLength)) := by
  rcases Spells.cons_iff.mp hSpells with
    ⟨segment, later, hSegment, hLater, rfl⟩
  have hRest : segment ++ (later ++ rest) ≠ [] := by
    simp [hSegment.ne_nil]
  refine ⟨later, hLater, ?_, ?_⟩
  · rw [← hSegment.length_eq, List.drop_left]
  · rw [List.append_assoc, next_standing hRest,
      readCommand_of_isSegment hSegment,
      ← hSegment.length_eq]
    rfl

/-
  A reader in front of a script has the others in front of it
  when some of the commands were read.
-/
theorem after_standing
    (hSpells : Spells table script front)
    {count : Nat}
    (hCount : count ≤ script.length)
    (rest : List UInt8)
    (offset : Nat) :
    (standing table (front ++ rest) offset).after count =
      standing table
        (front.drop (Script.storedLength (script.take count)) ++
          rest)
        (offset +
          Script.storedLength (script.take count)) := by
  induction count generalizing script front offset with
  | zero => rfl
  | succ count ih =>
      cases script with
      | nil => simp at hCount
      | cons command script =>
          rcases next_standing_cons hSpells rest offset with
            ⟨later, hLater, hDrop, hNext⟩
          have hOthers :=
            ih hLater (Nat.le_of_succ_le_succ hCount)
              (offset + command.opcode.segmentLength)
          rw [after, hNext, hOthers, ← hDrop,
            List.drop_drop, Nat.add_assoc,
            List.take_succ_cons, Script.storedLength]

------------------------------------------------------------
-- Halting
------------------------------------------------------------

/-
  No command is read in front of the rest.  Nothing is left,
  or the next segment is refused.
-/
def Halts
    (table : LineTable)
    (rest : List UInt8)
    (offset : Nat) : Option DecodeError → Prop
| none => rest = []
| some error =>
    rest ≠ [] ∧
      (readCommand table.boxes { rest, offset }).1 =
        .error error

/- Every reader halts behind the segments of some script. -/
theorem exists_halts
    (table : LineTable)
    (bytes : List UInt8)
    (offset : Nat) :
    ∃ script front rest failure,
      bytes = front ++ rest ∧
        Spells table script front ∧
        Halts table rest (offset + front.length) failure := by
  -- Each segment takes bytes, so the induction is on how many
  -- of them are left.
  induction hLength : bytes.length using Nat.strongRecOn
    generalizing bytes offset with
  | ind length ih =>
      by_cases hBytes : bytes = []
      · exact
          ⟨[], [], bytes, none, rfl, Spells.nil_iff.mpr rfl,
            hBytes⟩
      · rcases hStep :
            readCommand table.boxes
              { rest := bytes, offset } with
          ⟨result, next⟩
        cases result with
        | error error =>
            refine
              ⟨[], [], bytes, some error, rfl,
                Spells.nil_iff.mpr rfl, hBytes, ?_⟩
            rw [List.length_nil, Nat.add_zero, hStep]
        | ok command =>
            rcases readCommand_eq_ok_iff.mp hStep with
              ⟨segment, hSegment, hRest, hOffset⟩
            simp only at hRest hOffset
            have hShorter : next.rest.length < length := by
              have hSome :=
                List.length_pos_iff.mpr hSegment.ne_nil
              rw [← hLength, hRest, List.length_append]
              omega
            rcases ih _ hShorter next.rest next.offset rfl with
              ⟨script, front, rest, failure, hFront, hSpells,
                hHalts⟩
            refine
              ⟨command :: script, segment ++ front, rest,
                failure, ?_, ?_, ?_⟩
            · rw [hRest, hFront, List.append_assoc]
            · exact
                Spells.cons_iff.mpr
                  ⟨segment, front, hSegment, hSpells, rfl⟩
            · rw [List.length_append, ← Nat.add_assoc,
                ← hOffset]
              exact hHalts

/- The outcomes of calls, each command and then a failure. -/
def outcomes
    (script : Script)
    (failure : Option DecodeError) :
    List (Except DecodeError Command) :=
  script.map .ok ++ failure.toList.map .error

/- A failure ends what a reader yields. -/
theorem next_standing_of_halts
    {error : DecodeError}
    (hHalts : Halts table rest offset (some error)) :
    ∃ last : Reader,
      (standing table rest offset).next =
          (some (.error error), last) ∧
        last.failed = true := by
  refine
    ⟨{ boxes := table.boxes
       cursor :=
        (readCommand table.boxes { rest, offset }).2
       failed := true }, ?_, rfl⟩
  rw [next_standing hHalts.1]
  simp only [hHalts.2]
  rfl

variable {failure : Option DecodeError}

/- A reader yields its commands, then its failure. -/
theorem next_after_standing
    (hSpells : Spells table script front)
    (hHalts :
      Halts table rest (offset + front.length) failure)
    (count : Nat) :
    ((standing table (front ++ rest) offset).after
        count).next.1 =
      (outcomes script failure)[count]? := by
  induction script generalizing front offset count with
  | nil =>
      have hFront := Spells.nil_iff.mp hSpells
      subst hFront
      rw [List.nil_append]
      rw [List.length_nil, Nat.add_zero] at hHalts
      cases failure with
      | none =>
          have hDone : (standing table rest offset).IsDone :=
            .inr hHalts
          rw [after_of_isDone hDone, next_of_isDone hDone]
          rfl
      | some error =>
          rcases next_standing_of_halts hHalts with
            ⟨last, hNext, hFailed⟩
          cases count with
          | zero =>
              rw [after, hNext]
              rfl
          | succ count =>
              have hDone : last.IsDone := .inl hFailed
              rw [after, hNext, after_of_isDone hDone,
                next_of_isDone hDone]
              rfl
  | cons command script ih =>
      rcases next_standing_cons hSpells rest offset with
        ⟨later, hLater, hDrop, hNext⟩
      cases count with
      | zero =>
          rw [after, hNext]
          rfl
      | succ count =>
          have hLength := hSpells.length_eq
          rw [Script.storedLength, ← hLater.length_eq]
            at hLength
          rw [hLength, ← Nat.add_assoc] at hHalts
          rw [after, hNext]
          exact ih hLater hHalts count

/- A reader has failed as soon as its failure was yielded. -/
theorem failed_after_standing
    (hSpells : Spells table script front)
    {error : DecodeError}
    (hHalts :
      Halts table rest (offset + front.length) (some error))
    {count : Nat}
    (hCount : script.length < count) :
    ((standing table (front ++ rest) offset).after
        count).failed =
      true := by
  have hSplit :
      count = script.length + (count - script.length) := by
    omega
  have hBehind :=
    after_standing hSpells (Nat.le_refl script.length) rest
      offset
  rw [List.take_length, ← hSpells.length_eq,
    List.drop_length, List.nil_append] at hBehind
  rcases next_standing_of_halts hHalts with
    ⟨last, hNext, hFailed⟩
  rw [hSplit, after_add, hBehind]
  cases hMore : count - script.length with
  | zero => omega
  | succ more =>
      rw [after, hNext, after_of_isDone (.inl hFailed)]
      exact hFailed

------------------------------------------------------------
-- Reading On
------------------------------------------------------------

/- The bytes in front of a reader are decoded as on their own. -/
theorem readToEnd_standing (requireEnd : Bool) :
    (standing table rest offset).readToEnd requireEnd =
      (Script.decode rest table requireEnd).mapError
        (DecodeError.shift offset) := by
  have hBoxes :
      (standing table rest offset).boxes = table.boxes :=
    rfl
  have hMoved :
      (standing table rest offset).cursor =
        (Cursor.start rest).shift offset := by
    simp [standing, Cursor.shift, Cursor.start]
  rw [readToEnd_of_not_failed rfl, Script.decode_eq, hBoxes,
    hMoved, readAll_shift]
  cases readAll table.boxes (Cursor.start rest) with
  | error error => rfl
  | ok script =>
      cases hEnd : requireEnd && !script.isTerminated <;>
        simp [Except.mapError, DecodeError.shift, hEnd]

/- A reader that failed has nothing more to read. -/
theorem readToEnd_of_failed
    {reader : Reader}
    (hFailed : reader.failed = true)
    (requireEnd : Bool) :
    reader.readToEnd requireEnd =
      if requireEnd then
        .error .missingEnd
      else
        .ok [] := by
  rw [readToEnd, hFailed]
  cases requireEnd <;> rfl

/- What a reader fails with is what decoding fails with. -/
theorem decode_of_halts
    (hSpells : Spells table script front)
    {error : DecodeError}
    (hHalts : Halts table rest front.length (some error))
    (requireEnd : Bool) :
    Script.decode (front ++ rest) table requireEnd =
      .error error := by
  have hRead :
      readAll table.boxes (Cursor.start (front ++ rest)) =
        .error error := by
    rw [Cursor.start, readAll_append hSpells, Nat.zero_add,
      readAll_of_ne_nil _ hHalts.1, hHalts.2]
    rfl
  rw [Script.decode_eq, hRead]

/-
  Reading command by command agrees with decoding at once.
  The calls yield some commands, then at most one failure and
  nothing ever after.  The reader stands behind what the
  commands take, and the failure names that place.  Decoding
  ends in the failure, or in the commands if they meet the
  demand made.  The rest of a script is decoded from where the
  reader stands, and behind a failure there is none.
-/
theorem next_agrees_with_decode
    (bytes : List UInt8)
    (table : LineTable) :
    ∃ (script : Script) (failure : Option DecodeError),
      (∀ count,
        ((start bytes table).after count).next.1 =
          (outcomes script failure)[count]?) ∧
        (∀ count ≤ script.length,
          ((start bytes table).after count).offset =
            Script.storedLength (script.take count)) ∧
        (∀ error,
          failure = some error →
            error.offset? = some script.storedLength) ∧
        (∀ requireEnd,
          Script.decode bytes table requireEnd =
            match failure with
            | some error => .error error
            | none =>
                if requireEnd && !script.isTerminated then
                  .error .missingEnd
                else
                  .ok script) ∧
        (∀ count ≤ script.length, ∀ requireEnd,
          let reader := (start bytes table).after count
          reader.readToEnd requireEnd =
            (Script.decode (bytes.drop reader.offset) table
                requireEnd).mapError
              (DecodeError.shift reader.offset)) ∧
        ∀ error,
          failure = some error →
            ∀ count, script.length < count →
              ∀ requireEnd,
                ((start bytes table).after count).readToEnd
                    requireEnd =
                  if requireEnd then
                    .error .missingEnd
                  else
                    .ok [] := by
  rcases exists_halts table bytes 0 with
    ⟨script, front, rest, failure, rfl, hSpells, hHalts⟩
  have hStart :
      start (front ++ rest) table =
        standing table (front ++ rest) 0 :=
    rfl
  refine
    ⟨script, failure, fun count => ?_, fun count hCount => ?_,
      ?_, fun requireEnd => ?_,
      fun count hCount requireEnd => ?_, ?_⟩
  · rw [hStart]
    exact next_after_standing hSpells hHalts count
  · rw [hStart, after_standing hSpells hCount]
    exact Nat.zero_add _
  · rintro error rfl
    have hPlace := offset?_of_readCommand hHalts.2
    rw [hPlace, Nat.zero_add, hSpells.length_eq]
  · rw [Nat.zero_add] at hHalts
    cases failure with
    | some error =>
        exact decode_of_halts hSpells hHalts requireEnd
    | none =>
        have hRest : rest = [] := hHalts
        subst hRest
        rw [List.append_nil]
        exact Script.decode_of_spells hSpells requireEnd
  · have hInside :
        Script.storedLength (script.take count) ≤
          front.length := by
      rw [hSpells.length_eq]
      exact Script.storedLength_take_le script count
    rw [hStart, after_standing hSpells hCount, Nat.zero_add,
      ← List.drop_append_of_le_length hInside]
    exact readToEnd_standing requireEnd
  · rintro error rfl count hCount requireEnd
    rw [hStart]
    exact
      readToEnd_of_failed
        (failed_after_standing hSpells hHalts hCount)
        requireEnd

/-
  A wait in front of an opcode that is not known.  The calls
  yield both and then nothing, although an end would follow.
-/
theorem next_agrees_with_decode_unknown_opcode :
    ∃ (bytes : List UInt8) (table : LineTable),
      bytes =
          [0x23, 0x0F, 0x32, 0x00,
            0x23, 0x14, 0x23, 0xFE] ∧
        (∀ count,
          ((start bytes table).after count).next.1 =
            [.ok (.wait 50),
              .error (.unknownOpcode 4 0x14)][count]?) ∧
        ((start bytes table).after 1).offset = 4 ∧
        Script.decode bytes table false =
          .error (.unknownOpcode 4 0x14) ∧
        ((start bytes table).after 1).readToEnd false =
          .error (.unknownOpcode 4 0x14) ∧
        ((start bytes table).after 2).readToEnd true =
          .error .missingEnd := by
  let bytes : List UInt8 :=
    [0x23, 0x0F, 0x32, 0x00, 0x23, 0x14, 0x23, 0xFE]
  let table : LineTable := .empty
  rcases next_agrees_with_decode bytes table with
    ⟨script, failure, hNext, hOffset, _, hDecode, hRest,
      hFailed⟩
  -- The first two calls tell what the script and the failure
  -- are.
  have hFirst :
      (outcomes script failure)[0]? =
        some (.ok (.wait 50)) :=
    (hNext 0).symm
  have hSecond :
      (outcomes script failure)[1]? =
        some (.error (.unknownOpcode 4 0x14)) :=
    (hNext 1).symm
  match script, failure, hFirst, hSecond with
  | [command], some error, hFirst, hSecond =>
      have hCommand : command = .wait 50 := by
        simpa [outcomes] using hFirst
      have hError : error = .unknownOpcode 4 0x14 := by
        simpa [outcomes] using hSecond
      subst hCommand hError
      have hOne := hOffset 1 (Nat.le_refl 1)
      have hAlone :
          Script.decode (bytes.drop 4) table false =
            .error (.unknownOpcode 0 0x14) := by
        rw [Script.decode_eq_readAll,
          readAll_of_ne_nil _
            (by simp [bytes, Cursor.start])]
        rfl
      have hOn := hRest 1 (Nat.le_refl 1) false
      simp only [hOne] at hOn
      refine
        ⟨bytes, table, rfl, hNext, hOne, hDecode false, ?_,
          hFailed _ rfl 2 (Nat.lt_succ_self 1) true⟩
      exact hOn.trans (congrArg _ hAlone)
  | [], none, hFirst, _ => simp [outcomes] at hFirst
  | [], some _, hFirst, _ => simp [outcomes] at hFirst
  | [_], none, _, hSecond => simp [outcomes] at hSecond
  | _ :: _ :: _, _, _, hSecond => simp [outcomes] at hSecond

end Reader

end SceneScript
