import SceneScript.Proofs.Fronts

/-
  Reading byte strings that stand one behind the other.

  Key definitions include:
    * `Cursor.shift`

  Correctness is stated by:
    * `Reader.readCommand_shift`
    * `Reader.readAll_shift`
    * `Reader.readAll_append`
    * `Script.decode_append`

  Offsets are counted and reported, but nothing is decided by
  them.  So a reader that starts further behind reads the
  same, and its failures are moved as far as it was.
-/

namespace SceneScript

------------------------------------------------------------
-- Moved Cursors and Payloads
------------------------------------------------------------

/- The same bytes at an offset that is larger by `count`. -/
def Cursor.shift
    (count : Nat)
    (cursor : Cursor) : Cursor where
  rest := cursor.rest
  offset := cursor.offset + count

variable (count : Nat)

/- A name is found alike at any offset. -/
theorem Catalog.resolve_shift
    {Code : Type}
    [DecidableEq Code]
    (catalog : Catalog Code)
    (widen : Code → UInt16)
    (offset : Nat)
    (code : Code) :
    catalog.resolve widen (offset + count) code =
      (catalog.resolve widen offset code).mapError
        (DecodeError.shift count) := by
  unfold resolve
  cases catalog.name? code <;> rfl

/- A failure is moved in whichever step it arises. -/
theorem mapError_bind
    {ε ε' α β : Type}
    (f : ε → ε')
    (first : Except ε α)
    (next : α → Except ε β) :
    (first >>= next).mapError f =
      first.mapError f >>= fun value =>
        (next value).mapError f := by
  cases first <;> rfl

/- A payload means the same at any offset. -/
theorem Payload.resolve_shift
    (boxes : Array Dialogue)
    (offset : Nat)
    (payload : Payload) :
    payload.resolve boxes (offset + count) =
      (payload.resolve boxes offset).mapError
        (DecodeError.shift count) := by
  cases payload with
  | dialogue index =>
      simp only [resolve]
      cases boxes[index.toNat]? <;> rfl
  | character placement code =>
      simp only [resolve, mapError_bind,
        Catalog.resolve_shift]
      cases Placement.ofCode? placement <;> rfl
  | sound _ | transition _ _ _ | background _ _ =>
      simp only [resolve, mapError_bind,
        Catalog.resolve_shift]
      rfl
  | _ => rfl

------------------------------------------------------------
-- Moved Readers
------------------------------------------------------------

namespace Reader

variable (boxes : Array Dialogue)

/- A segment is read alike at any offset. -/
theorem readCommand_shift (start : Cursor) :
    readCommand boxes (start.shift count) =
      Prod.map (Except.mapError (DecodeError.shift count))
        (Cursor.shift count) (readCommand boxes start) := by
  obtain ⟨bytes, offset⟩ := start
  have hMoved :
      Cursor.shift count { rest := bytes, offset } =
        { rest := bytes, offset := offset + count } :=
    rfl
  rw [hMoved]
  cases Segment.start bytes with
  | nothing =>
      rw [readCommand_nothing, readCommand_nothing]
      rfl
  | unmarked hMarker rest =>
      rw [readCommand_unmarked boxes rest _ hMarker,
        readCommand_unmarked boxes rest _ hMarker,
        Nat.add_right_comm]
      rfl
  | markerOnly =>
      rw [readCommand_markerOnly, readCommand_markerOnly,
        Nat.add_right_comm]
      rfl
  | unlisted hByte rest =>
      rw [readCommand_unlisted boxes rest _ hByte,
        readCommand_unlisted boxes rest _ hByte,
        Nat.add_right_comm]
      rfl
  | cutOff hShort =>
      rw [readCommand_cutOff boxes _ hShort,
        readCommand_cutOff boxes _ hShort,
        Nat.add_right_comm]
      rfl
  | whole payload rest =>
      rw [readCommand_bytes, readCommand_bytes,
        Payload.resolve_shift, Nat.add_right_comm]
      rfl

/- Where bytes are left, a segment is read in front of others. -/
theorem readAll_of_ne_nil
    {cursor : Cursor}
    (hRest : cursor.rest ≠ []) :
    readAll boxes cursor = do
      let command ← (readCommand boxes cursor).1
      let script ←
        readAll boxes (readCommand boxes cursor).2
      return command :: script := by
  rw [readAll, dif_neg hRest]
  obtain ⟨result, next⟩ := readCommand boxes cursor
  cases result with
  | error error => rfl
  | ok command =>
      simp only
      cases readAll boxes next <;> rfl

/- The remaining segments are read alike at any offset. -/
theorem readAll_shift (cursor : Cursor) :
    readAll boxes (cursor.shift count) =
      (readAll boxes cursor).mapError
        (DecodeError.shift count) := by
  induction hLength : cursor.rest.length
    using Nat.strongRecOn generalizing cursor with
  | ind length ih =>
      by_cases hRest : cursor.rest = []
      · have hMoved : (cursor.shift count).rest = [] := hRest
        rw [readAll, readAll, dif_pos hMoved, dif_pos hRest]
        rfl
      · have hMoved : (cursor.shift count).rest ≠ [] := hRest
        have hLater :=
          ih _ (hLength ▸ length_readCommand_lt boxes hRest)
            (readCommand boxes cursor).2 rfl
        rw [readAll_of_ne_nil boxes hMoved,
          readAll_of_ne_nil boxes hRest,
          readCommand_shift, Prod.map_fst, Prod.map_snd,
          hLater]
        simp only [mapError_bind]
        rfl

/-
  The segments of a script are read whatever follows them.
  Reading goes on behind them.
-/
theorem readAll_append
    {table : LineTable}
    {script : Script}
    {bytes : List UInt8}
    (hSpells : Spells table script bytes)
    (rest : List UInt8)
    (offset : Nat) :
    readAll table.boxes { rest := bytes ++ rest, offset } =
      (readAll table.boxes
        { rest, offset := offset + bytes.length }).map
          (script ++ ·) := by
  induction script generalizing bytes offset with
  | nil =>
      rw [Spells.nil_iff.mp hSpells, List.nil_append,
        List.length_nil, Nat.add_zero]
      cases readAll table.boxes { rest, offset } <;> rfl
  | cons command script ih =>
      rcases Spells.cons_iff.mp hSpells with
        ⟨segment, later, hSegment, hLater, rfl⟩
      have hRest : segment ++ (later ++ rest) ≠ [] := by
        simp [hSegment.ne_nil]
      rw [List.append_assoc, readAll_of_ne_nil _ hRest,
        readCommand_of_isSegment hSegment]
      simp only [ih hLater, List.length_append,
        Nat.add_assoc]
      cases readAll table.boxes
        { rest
          offset :=
            offset + (segment.length + later.length) } <;>
        rfl

end Reader

------------------------------------------------------------
-- Whole Scripts
------------------------------------------------------------

namespace Script

variable {left right : List UInt8}
variable {table : LineTable}
variable {script : Script}

/-
  Without a demand for an end, decoding is nothing but
  reading every segment.
-/
theorem decode_eq_readAll
    (bytes : List UInt8)
    (table : LineTable) :
    decode bytes table false =
      Reader.readAll table.boxes (Cursor.start bytes) := by
  rw [decode_eq]
  cases Reader.readAll table.boxes (Cursor.start bytes) <;>
    rfl

/- Other bytes are decoded behind those of a script. -/
theorem decode_append_eq
    (hLeft : decode left table false = .ok script)
    (right : List UInt8) :
    decode (left ++ right) table false =
      ((decode right table false).mapError
        (DecodeError.shift left.length)).map
          (script ++ ·) := by
  have hSpells := decode_eq_ok_iff_spells.mp hLeft
  have hStart :
      Cursor.mk right (0 + left.length) =
        (Cursor.start right).shift left.length :=
    rfl
  rw [decode_eq_readAll, decode_eq_readAll, Cursor.start,
    Reader.readAll_append hSpells, hStart,
    Reader.readAll_shift]

/-
  A script that is followed by other bytes is decoded in
  front of them.  What the other bytes are decoded to alone
  comes behind it, and so does the failure, moved by the
  bytes of the script.
-/
theorem decode_append
    (hLeft : decode left table false = .ok script) :
    (∀ later : Script,
      decode right table false = .ok later →
        decode (left ++ right) table false =
          .ok (script ++ later)) ∧
      ∀ error : DecodeError,
        decode right table false = .error error →
          decode (left ++ right) table false =
            .error (error.shift left.length) := by
  rw [decode_append_eq hLeft]
  constructor
  · intro later hRight
    rw [hRight]
    rfl
  · intro error hRight
    rw [hRight]
    rfl

/-
  Behind a wait, an end is decoded and a sound that is not
  listed is reported four bytes later than alone.
-/
theorem decode_append_wait :
    ∃ (left : List UInt8) (table : LineTable),
      left = [0x23, 0x0F, 0x32, 0x00] ∧
        decode left table false = .ok [.wait 50] ∧
        decode [0x23, 0xFE] table false = .ok [.finish] ∧
        decode (left ++ [0x23, 0xFE]) table false =
          .ok [.wait 50, .finish] ∧
        decode [0x23, 0x13, 0x3D, 0x00] table false =
          .error (.unknownSymbol 0 .sound 0x003D) ∧
        decode (left ++ [0x23, 0x13, 0x3D, 0x00]) table
            false =
          .error (.unknownSymbol 4 .sound 0x003D) := by
  let table : LineTable := .empty
  have hWord : Word.IsMadeOf 50 0x32 0x00 := rfl
  have hLeft :
      decode [0x23, 0x0F, 0x32, 0x00] table false =
        .ok [.wait 50] :=
    decode_eq_ok_iff_spells.mpr
      ⟨_, .cons (.wait hWord) .nil, rfl⟩
  have hEnd :
      decode [0x23, 0xFE] table false = .ok [.finish] :=
    decode_eq_ok_iff_spells.mpr
      ⟨_, .cons .finish .nil, rfl⟩
  have hSound :
      decode [0x23, 0x13, 0x3D, 0x00] table false =
        .error (.unknownSymbol 0 .sound 0x003D) := by
    rw [decode_eq_readAll,
      Reader.readAll_of_ne_nil _ (by simp [Cursor.start])]
    rfl
  exact
    ⟨_, table, rfl, hLeft, hEnd,
      (decode_append hLeft).1 _ hEnd, hSound,
      (decode_append hLeft).2 _ hSound⟩

end Script

end SceneScript
