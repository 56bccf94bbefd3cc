import Mathlib.Data.List.Forall2
import SceneScript.LineTable.Codec
import SceneScript.Proofs.DiskForm
import SceneScript.Proofs.Tables

/-
  What comes back from a table file.

  Key definitions include:
    * `LineTable.IsStored`

  Correctness is stated by:
    * `LineTable.encode_eq_ok_iff`
    * `LineTable.decode_intercalate`
    * `LineTable.toList_decode_of_encode`
    * `LineTable.IsStored.onDisk`
    * `LineTable.decode_of_encode`

  The file is decoded as a whole, and it is cut into lines
  only after that.  The code of a stored line ends where the
  line ends, so that decoding goes line by line all the same.
-/

namespace SceneScript

------------------------------------------------------------
-- Encodable Texts
------------------------------------------------------------

/- Every character of a text that was encoded has a code. -/
theorem ShiftJis.encodeChar_ne_none_of_mem
    {text : Text}
    {bytes : List UInt8}
    (hBytes : encode text = .ok bytes)
    {c : Char}
    (hMem : c ∈ text) :
    encodeChar c ≠ none := by
  induction text generalizing bytes with
  | nil => simp at hMem
  | cons first later ih =>
      unfold encode at hBytes
      split at hBytes
      · simp at hBytes
      · rename_i code hCode
        split at hBytes
        · simp at hBytes
        · rename_i laterBytes hLater
          rcases List.mem_cons.mp hMem with rfl | hRest
          · simp [hCode]
          · exact ih hLater hRest

/- Texts whose characters have equal codes are encoded alike. -/
theorem ShiftJis.encode_map_congr
    {f g : Char → Char}
    {text : Text}
    (hCodes :
      ∀ c ∈ text, encodeChar (f c) = encodeChar (g c))
    {bytes : List UInt8}
    (hBytes : encode (text.map f) = .ok bytes) :
    encode (text.map g) = .ok bytes := by
  induction text generalizing bytes with
  | nil => exact hBytes
  | cons c later ih =>
      have hHead := hCodes c (by simp)
      rw [List.map_cons, encode] at hBytes ⊢
      rw [← hHead]
      split at hBytes
      · simp at hBytes
      · split at hBytes
        · simp at hBytes
        · rename_i laterBytes hLater
          cases hBytes
          rw [ih
            (fun d hMem =>
              hCodes d (List.mem_cons_of_mem _ hMem))
            hLater]

namespace LineTable

------------------------------------------------------------
-- Stored Lines
------------------------------------------------------------

/- A line without a line break is stored as some bytes. -/
def IsStored
    (line : Text)
    (bytes : List UInt8) : Prop :=
  Text.hasLineBreak line = false ∧
    ShiftJis.encode line.toFull = .ok bytes

/- A line is encoded as what it is stored as. -/
theorem encodeLine_eq_ok_iff
    (index : Nat)
    {line : Text}
    {bytes : List UInt8} :
    encodeLine index line = .ok bytes ↔
      IsStored line bytes := by
  rw [encodeLine_eq, IsStored]
  cases Text.hasLineBreak line with
  | true => simp
  | false =>
      cases ShiftJis.encode line.toFull <;> simp

/- Lines are encoded as what each of them is stored as. -/
theorem encodeFrom_eq_ok_iff
    (index : Nat)
    {lines : List Text}
    {parts : List (List UInt8)} :
    encodeFrom index lines = .ok parts ↔
      List.Forall₂ IsStored lines parts := by
  induction lines generalizing index parts with
  | nil =>
      rw [encodeFrom, List.forall₂_nil_left_iff,
        Except.ok.injEq, eq_comm]
  | cons line rest ih =>
      rw [List.forall₂_cons_left_iff, encodeFrom]
      simp only [← encodeLine_eq_ok_iff index,
        ← ih (index + 1)]
      cases encodeLine index line with
      | error error => simp
      | ok bytes =>
          cases encodeFrom (index + 1) rest with
          | error error => simp
          | ok later => simp [eq_comm]

/- A table is encoded as its stored lines with line breaks. -/
theorem encode_eq_ok_iff
    {table : LineTable}
    {bytes : List UInt8} :
    table.encode = .ok bytes ↔
      ∃ parts,
        List.Forall₂ IsStored table.toList parts ∧
          breakBytes.intercalate parts = bytes := by
  simp only [← encodeFrom_eq_ok_iff 0]
  unfold encode
  cases encodeFrom 0 table.toList <;> simp [Except.map]

/- A stored line holds no wave dash, which has no code. -/
theorem IsStored.waveDash_not_mem
    {line : Text}
    {bytes : List UInt8}
    (hStored : IsStored line bytes) :
    '〜' ∉ line := by
  intro hMem
  have hFull : Width.fullChar '〜' ∈ line.toFull :=
    List.mem_map_of_mem hMem
  have hSelf : Width.fullChar '〜' = '〜' := by
    decide
  rw [hSelf] at hFull
  exact
    ShiftJis.encodeChar_ne_none_of_mem hStored.2 hFull
      ShiftJis.encodeChar_waveDash

/- The characters of a stored line come back half-width. -/
theorem IsStored.toHalf_map
    {line : Text}
    {bytes : List UInt8}
    (hStored : IsStored line bytes) :
    Text.toHalf (line.map Width.storedChar) =
      line.onDisk := by
  unfold Text.toHalf Text.onDisk
  rw [List.map_map]
  apply List.map_congr_left
  intro c hMem
  rw [Function.comp_apply]
  apply Width.halfChar_storedChar
  rintro rfl
  exact hStored.waveDash_not_mem hMem

/-
  The disk form of a line is stored as the line is, except
  for an overline.
-/
theorem IsStored.onDisk
    {line : Text}
    {bytes : List UInt8}
    (hStored : IsStored line bytes)
    (hOverline : '‾' ∉ line) :
    IsStored line.onDisk bytes := by
  rcases hStored with ⟨hBreak, hBytes⟩
  constructor
  · rw [← hBreak]
    exact
      Text.hasLineBreak_map_of_keepsInert
        Width.keepsInert_diskChar line
  · rw [Text.toFull, Text.onDisk, List.map_map]
    refine ShiftJis.encode_map_congr ?_ hBytes
    intro c hMem
    exact
      (Width.encodeChar_fullChar_diskChar fun hSame =>
        hOverline (hSame ▸ hMem)).symm

------------------------------------------------------------
-- Decoding
------------------------------------------------------------

/- A line break is decoded by itself, whatever surrounds it. -/
theorem units_append_breakBytes
    (front rest : List UInt8) :
    ShiftJis.units (front ++ breakBytes ++ rest) =
      ShiftJis.units front ++
        some '\r' :: some '\n' :: ShiftJis.units rest := by
  have hCr : (0x0D : UInt8) < 0x40 := by
    decide
  rw [List.append_assoc, breakBytes, List.cons_append,
    List.cons_append, List.nil_append,
    ShiftJis.units_append_cons_of_lt hCr,
    ShiftJis.units_cons_of_single? rfl,
    ShiftJis.units_cons_of_single? rfl]
  rfl

/- The bytes between line breaks are decoded one by one. -/
theorem decode_intercalate (parts : List (List UInt8)) :
    ShiftJis.decode (breakBytes.intercalate parts) =
      Text.joinWith Text.lineBreak
        (parts.map ShiftJis.decode) := by
  induction parts with
  | nil => rfl
  | cons part later ih =>
      cases later with
      | nil =>
          rw [List.intercalate_singleton]
          rfl
      | cons next others =>
          rw [List.map_cons] at ih
          rw [List.map_cons, List.map_cons,
            Text.joinWith_cons_cons, ← ih,
            List.intercalate_cons_cons, ShiftJis.decode,
            units_append_breakBytes]
          simp [ShiftJis.decode, Text.lineBreak]

/-
  What stands between line breaks is well-formed when the
  whole is.
-/
theorem isWellFormed_intercalate
    (parts : List (List UInt8)) :
    ShiftJis.isWellFormed (breakBytes.intercalate parts) =
      parts.all ShiftJis.isWellFormed := by
  induction parts with
  | nil => rfl
  | cons part later ih =>
      cases later with
      | nil =>
          rw [List.intercalate_singleton]
          simp
      | cons next others =>
          rw [List.all_cons, ← ih,
            List.intercalate_cons_cons,
            ShiftJis.isWellFormed, units_append_breakBytes]
          simp [ShiftJis.isWellFormed]

/- The bytes of a stored line stand for its characters. -/
theorem IsStored.units_eq
    {line : Text}
    {bytes : List UInt8}
    (hStored : IsStored line bytes) :
    ShiftJis.units bytes =
      line.map fun c => some (Width.storedChar c) := by
  have hUnits := ShiftJis.units_encode_append hStored.2 []
  rw [List.append_nil, Text.toFull, List.map_map] at hUnits
  rw [hUnits, ShiftJis.units, List.append_nil]
  rfl

/- A stored line is decoded to its stored characters. -/
theorem IsStored.decode_eq
    {line : Text}
    {bytes : List UInt8}
    (hStored : IsStored line bytes) :
    ShiftJis.decode bytes = line.map Width.storedChar := by
  rw [ShiftJis.decode, hStored.units_eq, List.map_map]
  rfl

/- A stored line holds no malformed sequence. -/
theorem IsStored.isWellFormed
    {line : Text}
    {bytes : List UInt8}
    (hStored : IsStored line bytes) :
    ShiftJis.isWellFormed bytes = true := by
  rw [ShiftJis.isWellFormed, hStored.units_eq]
  simp

/- Stored lines are decoded to their stored characters. -/
theorem map_decode_of_isStored
    {lines : List Text}
    {parts : List (List UInt8)}
    (hStored : List.Forall₂ IsStored lines parts) :
    parts.map ShiftJis.decode =
      lines.map (List.map Width.storedChar) := by
  induction hStored with
  | nil => rfl
  | cons hFirst _ ih =>
      rw [List.map_cons, List.map_cons, hFirst.decode_eq, ih]

/-
  The lines that a file is cut into are the stored ones.  A
  file without lines still has an empty one.
-/
theorem splitLines_decode_intercalate
    {lines : List Text}
    {parts : List (List UInt8)}
    (hStored : List.Forall₂ IsStored lines parts)
    (hNonempty : lines ≠ []) :
    Text.splitLines
        (ShiftJis.decode (breakBytes.intercalate parts)) =
      lines.map (List.map Width.storedChar) := by
  rw [decode_intercalate, map_decode_of_isStored hStored]
  apply Text.splitLines_joinWith
  · simpa using hNonempty
  · intro line hLine
    rcases List.mem_map.mp hLine with ⟨source, hSource, rfl⟩
    rcases exists_of_mem_left hStored hSource with
      ⟨_, _, hLineStored⟩
    rw [Text.hasLineBreak_stored, hLineStored.1]

/- The characters of a table file are stored characters. -/
theorem exists_storedChar_of_mem_decode
    {table : LineTable}
    {bytes : List UInt8}
    (hEncode : table.encode = .ok bytes)
    {c : Char}
    (hBreak : c ∉ Text.lineBreak)
    (hMem : c ∈ ShiftJis.decode bytes) :
    ∃ d, c = Width.storedChar d := by
  rcases encode_eq_ok_iff.mp hEncode with
    ⟨parts, hStored, rfl⟩
  rw [decode_intercalate, map_decode_of_isStored hStored,
    Text.mem_joinWith_iff hBreak] at hMem
  rcases hMem with ⟨piece, hPiece, hChar⟩
  rcases List.mem_map.mp hPiece with ⟨line, _, rfl⟩
  rcases List.mem_map.mp hChar with ⟨d, _, rfl⟩
  exact ⟨d, rfl⟩

/-
  Every line of a table comes back in its disk form and at
  its position.  A table without lines comes back with one
  empty line.
-/
theorem toList_decode_of_encode
    {table : LineTable}
    {bytes : List UInt8}
    (hEncode : table.encode = .ok bytes) :
    (decode bytes).toList =
      if table.toList = [] then
        [[]]
      else
        table.toList.map Text.onDisk := by
  rcases encode_eq_ok_iff.mp hEncode with
    ⟨parts, hStored, rfl⟩
  rw [decode, toList_ofList]
  split
  · rename_i hNil
    rw [hNil, List.forall₂_nil_left_iff] at hStored
    rw [hStored]
    rfl
  · rename_i hNonempty
    rw [splitLines_decode_intercalate hStored hNonempty,
      List.map_map]
    apply List.map_congr_left
    intro line hLine
    rcases exists_of_mem_left hStored hLine with
      ⟨_, _, hLineStored⟩
    exact hLineStored.toHalf_map

/-
  The characters of a table that was read are the half-width
  forms of decoded ones.
-/
theorem exists_halfChar_of_mem_decode
    {bytes : List UInt8}
    {line : Text}
    (hLine : line ∈ (decode bytes).toList)
    {c : Char}
    (hMem : c ∈ line) :
    ∃ d ∈ ShiftJis.decode bytes, Width.halfChar d = c := by
  rw [decode, toList_ofList] at hLine
  rcases List.mem_map.mp hLine with ⟨source, hSource, rfl⟩
  rcases List.mem_map.mp hMem with ⟨d, hChar, hHalf⟩
  exact ⟨d, Text.mem_of_mem_splitLines hSource hChar, hHalf⟩

/-
  What is encoded is well-formed, and it is read back line by
  line in disk form, repeated lines and lone CR or LF
  included.  A table without lines is the only one that comes
  back with another number of lines.
-/
theorem decode_of_encode
    {table : LineTable}
    {bytes : List UInt8}
    (hEncode : table.encode = .ok bytes) :
    ShiftJis.isWellFormed bytes = true ∧
      (decode bytes).toList =
        if table.toList = [] then
          [[]]
        else
          table.toList.map Text.onDisk := by
  refine ⟨?_, toList_decode_of_encode hEncode⟩
  rcases encode_eq_ok_iff.mp hEncode with
    ⟨parts, hStored, rfl⟩
  rw [isWellFormed_intercalate, List.all_eq_true]
  intro part hPart
  rcases exists_of_mem_right hStored hPart with
    ⟨line, _, hLine⟩
  exact hLine.isWellFormed

/-
  Lines that end in CR and begin with LF, one line twice, and
  two characters that share a code.
-/
theorem decode_of_encode_lone_breaks :
    ∃ (table : LineTable) (bytes : List UInt8),
      table =
          .ofList
            [['a', '\r'], ['\n', 'Ａ'], ['a', '\r'],
              ['¥', '‾']] ∧
        table.encode = .ok bytes ∧
        ShiftJis.isWellFormed bytes = true ∧
        (decode bytes).toList =
          [['a', '\r'], ['\n', 'A'], ['a', '\r'],
            ['\\', '~']] := by
  let table : LineTable :=
    .ofList
      [['a', '\r'], ['\n', 'Ａ'], ['a', '\r'],
        ['¥', '‾']]
  have hEncode :
      table.encode =
        .ok
          [0x82, 0x81, 0x0D, 0x0D, 0x0A,
            0x0A, 0x82, 0x60, 0x0D, 0x0A,
            0x82, 0x81, 0x0D, 0x0D, 0x0A,
            0x5C, 0x7E] := by
    decide
  have hRead := decode_of_encode hEncode
  refine ⟨table, _, rfl, hEncode, hRead.1, ?_⟩
  rw [hRead.2, toList_ofList]
  decide

end LineTable

end SceneScript
