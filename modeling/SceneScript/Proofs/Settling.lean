import Mathlib.Data.List.Find
import SceneScript.Proofs.Damage
import SceneScript.Proofs.FilePair
import SceneScript.Proofs.Widths

/-
  Writing a table again that was read from a file.

  Key definitions include:
    * `LineTable.IsFirstUncoded`

  Correctness is stated by:
    * `LineTable.encodeFrom_eq_error_iff`
    * `LineTable.exists_encode_iff`
    * `Width.encodeChar_fullChar_halfChar`
    * `LineTable.encode_decode_settles`

  What was read has no line break in a line and no character
  that comes back as another one.  It is refused only for a
  character that the file did not encode, and otherwise its
  file is written the same ever after.
-/

namespace SceneScript

------------------------------------------------------------
-- Decoded Characters
------------------------------------------------------------

namespace Width

/- The full-width form of a pair has a code. -/
theorem encodeChar_full :
    ∀ pair ∈ pairs, ShiftJis.encodeChar pair.full ≠ none := by
  decide +kernel

/-
  A decoded character that became half-width is stored with a
  code exactly when the character itself has one.
-/
theorem encodeChar_fullChar_halfChar
    {c : Char}
    (hForeign : ShiftJis.isForeign c.toNat = false) :
    ShiftJis.encodeChar (fullChar (halfChar c)) = none ↔
      ShiftJis.encodeChar c = none := by
  rw [fullChar_halfChar (ne_readOnly_of_not_isForeign hForeign)]
  cases role c with
  | half hPair =>
      have hAscii := half_lt _ hPair
      rw [fullChar_half hPair]
      exact
        iff_of_false (encodeChar_full _ hPair)
          (ShiftJis.encodeChar_ne_none_of_le (by omega))
  | full hPair => rw [fullChar_full hPair]
  | unlisted hHalf _ => rw [fullChar_of_ne hHalf]

/- A character without a code has no other width. -/
theorem fullChar_of_isUncoded
    {c : Char}
    (hUncoded : ShiftJis.IsUncoded c) :
    fullChar c = c := by
  apply fullChar_of_ne
  rintro pair hPair rfl
  have hAscii := half_lt pair hPair
  exact ShiftJis.not_isUncoded_of_le (by omega) hUncoded

/-
  Becoming half-width neither makes nor removes a character
  without a code.
-/
theorem isUncoded_halfChar_iff
    {c : Char}
    (hForeign : ShiftJis.isForeign c.toNat = false) :
    ShiftJis.IsUncoded (halfChar c) ↔
      ShiftJis.IsUncoded c := by
  cases role c with
  | half hPair => rw [halfChar_half hPair]
  | full hPair =>
      rw [halfChar_full hPair]
      rcases List.mem_append.mp hPair with hBoth | hReadOnly
      · have hAscii := half_lt _ hBoth
        refine
          iff_of_false
            (ShiftJis.not_isUncoded_of_le (by omega)) ?_
        intro hUncoded
        exact
          encodeChar_full _ hBoth
            (ShiftJis.encodeChar_of_isUncoded hUncoded)
      · exact
          (ne_readOnly_of_not_isForeign hForeign _ hReadOnly
            rfl).elim
  | unlisted _ hFull => rw [halfChar_of_ne hFull]

end Width

namespace LineTable

------------------------------------------------------------
-- Failures of Tables
------------------------------------------------------------

/- A line without a line break fails only by a character. -/
theorem encodeLine_of_unbroken
    (index : Nat)
    {line : Text}
    (hLine : Text.hasLineBreak line = false) :
    encodeLine index line =
      (ShiftJis.encode line.toFull).mapError
        (.unencodable index) := by
  rw [encodeLine_eq, hLine]
  cases ShiftJis.encode line.toFull <;> rfl

/- Lines fail at the first one or behind it. -/
theorem encodeFrom_cons_eq_error_iff
    (index : Nat)
    {line : Text}
    {rest : List Text}
    {error : Error} :
    encodeFrom index (line :: rest) = .error error ↔
      encodeLine index line = .error error ∨
        (∃ bytes, IsStored line bytes) ∧
          encodeFrom (index + 1) rest = .error error := by
  rw [encodeFrom]
  simp only [← encodeLine_eq_ok_iff index]
  cases encodeLine index line with
  | error failure => simp
  | ok bytes => cases encodeFrom (index + 1) rest <;> simp

/-
  The first line that cannot be stored decides how a table
  fails.
-/
theorem encodeFrom_eq_error_iff
    (index : Nat)
    {lines : List Text}
    {error : Error} :
    encodeFrom index lines = .error error ↔
      ∃ position line,
        lines[position]? = some line ∧
          encodeLine (index + position) line =
            .error error ∧
          ∀ earlier ∈ lines.take position,
            ∃ bytes, IsStored earlier bytes := by
  induction lines generalizing index with
  | nil => simp [encodeFrom]
  | cons line rest ih =>
      rw [encodeFrom_cons_eq_error_iff, ih]
      constructor
      · rintro (hFails | ⟨hStored, position, other, hOther,
          hFails, hEarlier⟩)
        · exact ⟨0, line, rfl, hFails, by simp⟩
        · refine ⟨position + 1, other, hOther, ?_, ?_⟩
          · rwa [Nat.add_right_comm] at hFails
          · rw [List.take_succ_cons, List.forall_mem_cons]
            exact ⟨hStored, hEarlier⟩
      · rintro ⟨position, other, hOther, hFails, hEarlier⟩
        cases position with
        | zero =>
            rw [List.getElem?_cons_zero, Option.some.injEq]
              at hOther
            rw [← hOther] at hFails
            exact .inl hFails
        | succ position =>
            rw [List.take_succ_cons, List.forall_mem_cons]
              at hEarlier
            refine
              .inr
                ⟨hEarlier.1, position, other, hOther, ?_,
                  hEarlier.2⟩
            rwa [Nat.add_right_comm]

/- A table fails as its lines do. -/
theorem encode_eq_error_iff
    {table : LineTable}
    {error : Error} :
    table.encode = .error error ↔
      ∃ position line,
        table.toList[position]? = some line ∧
          encodeLine position line = .error error ∧
          ∀ earlier ∈ table.toList.take position,
            ∃ bytes, IsStored earlier bytes := by
  have hLines :
      table.encode = .error error ↔
        encodeFrom 0 table.toList = .error error := by
    unfold encode
    cases encodeFrom 0 table.toList <;> simp [Except.map]
  rw [hLines, encodeFrom_eq_error_iff]
  simp only [Nat.zero_add]

/- A table is encoded when each of its lines is stored. -/
theorem exists_encode_iff {table : LineTable} :
    (∃ bytes, table.encode = .ok bytes) ↔
      ∀ line ∈ table.toList,
        ∃ bytes, IsStored line bytes := by
  constructor
  · rintro ⟨bytes, hEncode⟩ line hLine
    rcases encode_eq_ok_iff.mp hEncode with
      ⟨parts, hStored, _⟩
    rcases exists_of_mem_left hStored hLine with
      ⟨part, _, hLineStored⟩
    exact ⟨part, hLineStored⟩
  · intro hStored
    cases hEncode : table.encode with
    | ok bytes => exact ⟨bytes, rfl⟩
    | error error =>
        rcases encode_eq_error_iff.mp hEncode with
          ⟨position, line, hLine, hFails, _⟩
        rcases hStored line (List.mem_of_getElem? hLine) with
          ⟨bytes, hBytes⟩
        rw [← encodeLine_eq_ok_iff position, hFails] at hBytes
        simp at hBytes

/- Tables with the same lines have the same file. -/
theorem encode_congr
    {left right : LineTable}
    (hLines : left.toList = right.toList) :
    left.encode = right.encode := by
  rw [encode, encode, hLines]

------------------------------------------------------------
-- Lines That Were Read
------------------------------------------------------------

variable {bytes : List UInt8}

/- A line that was read holds no line break. -/
theorem hasLineBreak_of_mem_decode
    {line : Text}
    (hLine : line ∈ (decode bytes).toList) :
    Text.hasLineBreak line = false := by
  rw [toList_decode_eq] at hLine
  rcases List.mem_map.mp hLine with ⟨piece, hPiece, rfl⟩
  have hSame :
      Text.hasLineBreak (lineOf piece) =
        Text.hasLineBreak (ShiftJis.decode piece) :=
    Text.hasLineBreak_map_of_keepsInert
      Width.keepsInert_halfChar (ShiftJis.decode piece)
  rw [hSame, ← Bool.not_eq_true]
  intro hBreak
  exact
    not_infix_of_mem_pieces hPiece
      (infix_of_hasLineBreak_decode hBreak)

/- A character that was read has a code unless it is refused. -/
theorem encodeChar_eq_none_iff_of_mem_line
    {line : Text}
    (hLine : line ∈ (decode bytes).toList)
    {c : Char}
    (hMem : c ∈ line) :
    ShiftJis.encodeChar (Width.fullChar c) = none ↔
      ShiftJis.IsUncoded c := by
  rcases exists_halfChar_of_mem_decode hLine hMem with
    ⟨d, hDecoded, rfl⟩
  have hForeign :=
    ShiftJis.not_isForeign_of_mem_decode hDecoded
  rw [Width.encodeChar_fullChar_halfChar hForeign,
    ShiftJis.encodeChar_eq_none_iff_of_mem_decode hDecoded,
    Width.isUncoded_halfChar_iff hForeign]

/- A line that was read is stored if it has nothing refused. -/
theorem exists_isStored_iff_of_mem_decode
    {line : Text}
    (hLine : line ∈ (decode bytes).toList) :
    (∃ stored, IsStored line stored) ↔
      ∀ c ∈ line, ¬ShiftJis.IsUncoded c := by
  have hCodes :
      (∃ stored, IsStored line stored) ↔
        ∀ c ∈ line.toFull, ShiftJis.encodeChar c ≠ none := by
    rw [← ShiftJis.exists_encode_iff]
    simp [IsStored, hasLineBreak_of_mem_decode hLine]
  rw [hCodes, Text.toFull, List.forall_mem_map]
  apply forall₂_congr
  intro c hMem
  rw [ne_eq, encodeChar_eq_none_iff_of_mem_line hLine hMem]

/-
  A line that was read fails with the first character that is
  refused.
-/
theorem encodeLine_eq_error_iff_of_mem_decode
    {line : Text}
    (hLine : line ∈ (decode bytes).toList)
    {position : Nat}
    {error : Error} :
    encodeLine position line = .error error ↔
      ∃ c,
        line.find? (ShiftJis.IsUncoded ·) = some c ∧
          error = .unencodable position c := by
  have hRefused (c : Char) :
      ShiftJis.encode line.toFull = .error c ↔
        line.find? (ShiftJis.IsUncoded ·) = some c := by
    have hFind :
        line.find?
            ((fun c => decide (ShiftJis.encodeChar c = none)) ∘
              Width.fullChar) =
          line.find? (ShiftJis.IsUncoded ·) := by
      apply List.find?_congr
      intro d hMem
      rw [Function.comp_apply, decide_eq_decide]
      exact encodeChar_eq_none_iff_of_mem_line hLine hMem
    rw [ShiftJis.encode_eq_error_iff, Text.toFull,
      List.find?_map, hFind]
    cases hFound : line.find? (ShiftJis.IsUncoded ·) with
    | none => simp
    | some d =>
        have hUncoded : ShiftJis.IsUncoded d := by
          simpa using List.find?_some hFound
        rw [Option.map_some,
          Width.fullChar_of_isUncoded hUncoded]
  rw [encodeLine_of_unbroken position
    (hasLineBreak_of_mem_decode hLine)]
  simp only [← hRefused]
  cases ShiftJis.encode line.toFull <;>
    simp [Except.mapError, eq_comm]

------------------------------------------------------------
-- Settled Tables
------------------------------------------------------------

/-
  The first character of some lines that is refused.  No
  earlier line holds one, and it is the first in its line.
-/
def IsFirstUncoded
    (lines : List Text)
    (index : Nat)
    (c : Char) : Prop :=
  ∃ line,
    lines[index]? = some line ∧
      line.find? (ShiftJis.IsUncoded ·) = some c ∧
      ∀ earlier ∈ lines.take index,
        ∀ d ∈ earlier, ¬ShiftJis.IsUncoded d

/- A table that was read fails at the first such character. -/
theorem encode_decode_eq_error_iff {error : Error} :
    (decode bytes).encode = .error error ↔
      ∃ index c,
        IsFirstUncoded (decode bytes).toList index c ∧
          error = .unencodable index c := by
  have hEarlier (position : Nat) :
      (∀ earlier ∈ (decode bytes).toList.take position,
        ∃ stored, IsStored earlier stored) ↔
        ∀ earlier ∈ (decode bytes).toList.take position,
          ∀ d ∈ earlier, ¬ShiftJis.IsUncoded d := by
    apply forall₂_congr
    intro earlier hMem
    exact
      exists_isStored_iff_of_mem_decode
        (List.mem_of_mem_take hMem)
  rw [encode_eq_error_iff]
  constructor
  · rintro ⟨position, line, hLine, hFails, hStored⟩
    rw [encodeLine_eq_error_iff_of_mem_decode
      (List.mem_of_getElem? hLine)] at hFails
    rcases hFails with ⟨c, hFirst, rfl⟩
    exact
      ⟨position, c,
        ⟨line, hLine, hFirst, (hEarlier position).mp hStored⟩,
        rfl⟩
  · rintro ⟨position, c, ⟨line, hLine, hFirst, hCoded⟩, rfl⟩
    refine
      ⟨position, line, hLine, ?_,
        (hEarlier position).mpr hCoded⟩
    rw [encodeLine_eq_error_iff_of_mem_decode
      (List.mem_of_getElem? hLine)]
    exact ⟨c, hFirst, rfl⟩

/- A table that was read is encoded unless one is refused. -/
theorem exists_encode_decode_iff :
    (∃ again, (decode bytes).encode = .ok again) ↔
      ∀ line ∈ (decode bytes).toList,
        ∀ c ∈ line, ¬ShiftJis.IsUncoded c := by
  rw [exists_encode_iff]
  apply forall₂_congr
  intro line hLine
  exact exists_isStored_iff_of_mem_decode hLine

/- A table that was read fails exactly when one is refused. -/
theorem exists_encode_decode_error_iff :
    (∃ index c,
      (decode bytes).encode =
        .error (.unencodable index c)) ↔
      ∃ line ∈ (decode bytes).toList,
        ∃ c ∈ line, ShiftJis.IsUncoded c := by
  have hSucceeds := @exists_encode_decode_iff bytes
  constructor
  · rintro ⟨index, c, hFails⟩
    by_contra hNone
    have hCoded :
        ∀ line ∈ (decode bytes).toList,
          ∀ c ∈ line, ¬ShiftJis.IsUncoded c := by
      intro line hLine d hMem hUncoded
      exact hNone ⟨line, hLine, d, hMem, hUncoded⟩
    rcases hSucceeds.mpr hCoded with ⟨again, hEncode⟩
    simp [hFails] at hEncode
  · rintro ⟨line, hLine, c, hMem, hUncoded⟩
    cases hEncode : (decode bytes).encode with
    | ok again =>
        have hCoded := hSucceeds.mp ⟨again, hEncode⟩
        exact (hCoded line hLine c hMem hUncoded).elim
    | error error =>
        rcases encode_decode_eq_error_iff.mp hEncode with
          ⟨index, d, _, rfl⟩
        exact ⟨index, d, rfl⟩

/- A table that was read comes back as it is. -/
theorem same_decode_of_encode_decode
    {again : List UInt8}
    (hEncode : (decode bytes).encode = .ok again) :
    (decode again).Same (decode bytes) := by
  have hNonempty : (decode bytes).toList ≠ [] := by
    rcases exists_pieces_eq_cons bytes with
      ⟨first, others, hPieces⟩
    simp [toList_decode_eq, hPieces]
  have hDisk :
      (decode bytes).toList.map Text.onDisk =
        (decode bytes).toList :=
    map_eq_self_iff.mpr fun _ =>
      onDisk_eq_self_of_mem_decode
  rw [same_iff, toList_decode_of_encode hEncode,
    if_neg hNonempty, hDisk]

/-
  A table that was read never fails for a line break.  It
  fails exactly when it holds a replacement or a private-use
  character, and names the first one.  Otherwise its file is
  read as the same table, and is written the same again.
-/
theorem encode_decode_settles (bytes : List UInt8) :
    (∀ index,
      (decode bytes).encode ≠ .error (.lineBreak index)) ∧
      ((∃ index c,
        (decode bytes).encode =
          .error (.unencodable index c)) ↔
        ∃ line ∈ (decode bytes).toList,
          ∃ c ∈ line, ShiftJis.IsUncoded c) ∧
      (∀ index c,
        (decode bytes).encode =
            .error (.unencodable index c) ↔
          IsFirstUncoded (decode bytes).toList index c) ∧
      ((∀ line ∈ (decode bytes).toList,
          ∀ c ∈ line, ¬ShiftJis.IsUncoded c) →
        ∃ again,
          (decode bytes).encode = .ok again ∧
            (decode again).Same (decode bytes) ∧
            (decode again).encode = .ok again) := by
  refine ⟨?_, exists_encode_decode_error_iff, ?_, ?_⟩
  · intro index hFails
    rcases encode_decode_eq_error_iff.mp hFails with
      ⟨_, _, _, hError⟩
    simp at hError
  · intro index c
    rw [encode_decode_eq_error_iff]
    constructor
    · rintro ⟨_, _, hFirst, hError⟩
      cases hError
      exact hFirst
    · intro hFirst
      exact ⟨index, c, hFirst, rfl⟩
  · intro hCoded
    rcases exists_encode_decode_iff.mpr hCoded with
      ⟨again, hEncode⟩
    have hSame := same_decode_of_encode_decode hEncode
    refine ⟨again, hEncode, hSame, ?_⟩
    rw [encode_congr ((same_iff _ _).mp hSame), hEncode]

/-
  A half-width letter, a character with two codes and the
  same line twice.  The bytes change once and then no more.
-/
theorem encode_decode_settles_second_code :
    ∃ bytes again : List UInt8,
      bytes =
          [0x41, 0x87, 0x90, 0x0D, 0x0A,
            0x82, 0x60, 0x81, 0xE0] ∧
        (∀ line ∈ (decode bytes).toList,
          ∀ c ∈ line, ¬ShiftJis.IsUncoded c) ∧
        (decode bytes).encode = .ok again ∧
        again =
          [0x82, 0x60, 0x81, 0xE0, 0x0D, 0x0A,
            0x82, 0x60, 0x81, 0xE0] ∧
        (decode again).Same (decode bytes) ∧
        (decode again).encode = .ok again := by
  let bytes : List UInt8 :=
    [0x41, 0x87, 0x90, 0x0D, 0x0A, 0x82, 0x60, 0x81, 0xE0]
  have hLines :
      (decode bytes).toList = [['A', '≒'], ['A', '≒']] := by
    rw [toList_decode_eq]
    decide
  have hCoded :
      ∀ line ∈ (decode bytes).toList,
        ∀ c ∈ line, ¬ShiftJis.IsUncoded c := by
    rw [hLines]
    simp [ShiftJis.IsUncoded]
  have hEncode :
      (decode bytes).encode =
        .ok
          [0x82, 0x60, 0x81, 0xE0, 0x0D, 0x0A,
            0x82, 0x60, 0x81, 0xE0] := by
    rw [encode, hLines]
    decide
  rcases (encode_decode_settles bytes).2.2.2 hCoded with
    ⟨again, hAgain, hSame, hSettled⟩
  rw [hEncode, Except.ok.injEq] at hAgain
  exact
    ⟨bytes, again, rfl, hCoded, hAgain ▸ hEncode,
      hAgain.symm, hSame, hSettled⟩

end LineTable

end SceneScript
