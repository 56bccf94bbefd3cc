import SceneScript.Proofs.Grammar

/-
  Scripts in front of other bytes.

  Key definitions include:
    * `Script.storedLength`

  Correctness is stated by:
    * `Reader.readCommand_of_isSegment`
    * `Spells.append_iff`
    * `Spells.length_eq`
    * `Spells.cut`

  A segment is as long as its opcode says, so the commands of
  a script tell where each of them starts in its bytes.
-/

namespace SceneScript

------------------------------------------------------------
-- Segments
------------------------------------------------------------

/- The segment of a command is as long as its opcode says. -/
theorem IsSegment.length_eq
    {table : LineTable}
    {command : Command}
    {segment : List UInt8}
    (hSegment : IsSegment table command segment) :
    segment.length = command.opcode.segmentLength := by
  cases hSegment <;> rfl

/- A segment is read off the front of whatever follows it. -/
theorem Reader.readCommand_of_isSegment
    {table : LineTable}
    {command : Command}
    {segment : List UInt8}
    (hSegment : IsSegment table command segment)
    (rest : List UInt8)
    (offset : Nat) :
    readCommand table.boxes
        { rest := segment ++ rest, offset } =
      (.ok command,
        { rest, offset := offset + segment.length }) :=
  readCommand_eq_ok_iff.mpr ⟨segment, hSegment, rfl, rfl⟩

------------------------------------------------------------
-- Scripts in Front of Scripts
------------------------------------------------------------

/- The segments of a later script follow the earlier ones. -/
theorem Spells.append_iff
    {table : LineTable}
    {script later : Script}
    {bytes : List UInt8} :
    Spells table (script ++ later) bytes ↔
      ∃ front rest,
        Spells table script front ∧
          Spells table later rest ∧
          bytes = front ++ rest := by
  induction script generalizing bytes with
  | nil =>
      simp only [List.nil_append, Spells.nil_iff]
      constructor
      · intro hLater
        exact ⟨[], bytes, rfl, hLater, rfl⟩
      · rintro ⟨_, rest, rfl, hLater, rfl⟩
        exact hLater
  | cons command script ih =>
      rw [List.cons_append, Spells.cons_iff]
      constructor
      · rintro ⟨segment, _, hSegment, hOthers, rfl⟩
        rcases ih.mp hOthers with
          ⟨front, rest, hScript, hLater, rfl⟩
        refine ⟨segment ++ front, rest, ?_, hLater, ?_⟩
        · exact
            Spells.cons_iff.mpr
              ⟨segment, front, hSegment, hScript, rfl⟩
        · rw [List.append_assoc]
      · rintro ⟨_, rest, hScript, hLater, rfl⟩
        rcases Spells.cons_iff.mp hScript with
          ⟨segment, front, hSegment, hFront, rfl⟩
        refine ⟨segment, front ++ rest, hSegment, ?_, ?_⟩
        · exact ih.mpr ⟨front, rest, hFront, hLater, rfl⟩
        · rw [List.append_assoc]

------------------------------------------------------------
-- Lengths
------------------------------------------------------------

namespace Script

/-
  The number of bytes that a script takes, which is the sum
  over the segments of its commands.
-/
@[simp]
def storedLength : Script → Nat
| [] => 0
| command :: rest =>
    command.opcode.segmentLength + storedLength rest

/- A later script takes its bytes behind the earlier one. -/
@[simp]
theorem storedLength_append (script later : Script) :
    storedLength (script ++ later) =
      storedLength script + storedLength later := by
  induction script with
  | nil => simp
  | cons command script ih =>
      rw [List.cons_append, storedLength, storedLength, ih,
        Nat.add_assoc]

/- The first commands take no more bytes than all of them. -/
theorem storedLength_take_le
    (script : Script)
    (whole : Nat) :
    storedLength (script.take whole) ≤
      storedLength script := by
  have hBoth :=
    storedLength_append (script.take whole)
      (script.drop whole)
  rw [List.take_append_drop] at hBoth
  omega

end Script

------------------------------------------------------------
-- Parts of Spelled Scripts
------------------------------------------------------------

namespace Spells

variable {table : LineTable}
variable {script : Script}
variable {bytes : List UInt8}

/- A script is spelled with as many bytes as it takes. -/
theorem length_eq
    (hSpells : Spells table script bytes) :
    bytes.length = script.storedLength := by
  induction script generalizing bytes with
  | nil =>
      rw [nil_iff.mp hSpells]
      rfl
  | cons command script ih =>
      rcases cons_iff.mp hSpells with
        ⟨segment, rest, hSegment, hRest, rfl⟩
      rw [List.length_append, Script.storedLength,
        hSegment.length_eq, ih hRest]

/-
  The bytes of a script are cut between two commands where
  the earlier commands end.
-/
theorem cut
    (hSpells : Spells table script bytes)
    (whole : Nat) :
    let length := Script.storedLength (script.take whole)
    Spells table (script.take whole) (bytes.take length) ∧
      Spells table (script.drop whole)
        (bytes.drop length) := by
  intro length
  rw [← List.take_append_drop whole script] at hSpells
  rcases append_iff.mp hSpells with
    ⟨front, rest, hFront, hRest, rfl⟩
  have hLength : length = front.length :=
    hFront.length_eq.symm
  rw [hLength, List.take_left, List.drop_left]
  exact ⟨hFront, hRest⟩

end Spells

end SceneScript
