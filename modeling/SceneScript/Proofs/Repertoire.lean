import SceneScript.Proofs.ShiftJis

/-
  Which characters of a decoded text can be encoded.

  Key definitions include:
    * `ShiftJis.IsUncoded`
    * `ShiftJis.isListed`

  Correctness is stated by:
    * `ShiftJis.of_single?`
    * `ShiftJis.of_pair?`
    * `ShiftJis.not_isForeign_of_mem_decode`
    * `ShiftJis.findPair?_ne_none_of_mem_codes`
    * `ShiftJis.encodeChar_eq_none_iff_of_mem_decode`
    * `ShiftJis.encode_eq_error_iff`
    * `ShiftJis.exists_encode_iff`

  A decoded character comes from one byte, from a row of the
  code page or from the private-use rows, or it replaces a
  malformed sequence.  The first two kinds have a code and
  the others have none.
-/

namespace SceneScript

namespace ShiftJis

------------------------------------------------------------
-- Characters Without a Code
------------------------------------------------------------

/-
  The characters that decoding makes but encoding refuses,
  which are the replacement for a malformed sequence and the
  private-use characters.
-/
def IsUncoded (c : Char) : Prop :=
  c = '\uFFFD' ∨ (0xE000 ≤ c.toNat ∧ c.toNat ≤ 0xE757)

instance : DecidablePred IsUncoded := by
  intro c
  unfold IsUncoded
  infer_instance

/- An ASCII character is not one of them. -/
theorem not_isUncoded_of_le
    {c : Char}
    (hSmall : c.toNat ≤ 0x80) :
    ¬IsUncoded c := by
  rintro (rfl | ⟨hFrom, _⟩)
  · simp at hSmall
  · omega

------------------------------------------------------------
-- Codes in Rows
------------------------------------------------------------

/-
  A cell of the code page is empty or holds a character
  outside ASCII, the surrogates and private use.
-/
def isListed (code : Nat) : Bool :=
  Nat.beq code 0 ||
    (Nat.blt 0x80 code && Nat.blt code 0xD800) ||
      (Nat.ble 0xF900 code && Nat.blt code 0xFFFD)

/- The rows have no other cells. -/
theorem isListed_of_mem_rows :
    ∀ row ∈ rows, row.codes.all isListed = true := by
  decide +kernel

/- What is known of a character in a row. -/
theorem bounds_of_mem_codes
    {row : Row}
    {code : Nat}
    (hRow : row ∈ rows)
    (hCode : code ∈ row.codes)
    (hFilled : code ≠ 0) :
    (0x80 < code ∧ code < 0xD800) ∨
      (0xF900 ≤ code ∧ code < 0xFFFD) := by
  have hListed :=
    List.all_eq_true.mp (isListed_of_mem_rows row hRow)
      code hCode
  simp [isListed, hFilled, Nat.blt] at hListed
  omega

/- A scalar value is the number of its character. -/
theorem toNat_ofNat
    {code : Nat}
    (hValid : code.isValidChar) :
    (Char.ofNat code).toNat = code := by
  rw [Char.ofNat, dif_pos hValid]
  rfl

/- The character in a cell is listed in the row. -/
theorem toNat_mem_codes_of_char?
    {row : Row}
    {cell : Nat}
    {c : Char}
    (hRow : row ∈ rows)
    (hChar : row.char? cell = some c) :
    c.toNat ∈ row.codes ∧ c.toNat ≠ 0 := by
  unfold Row.char? at hChar
  split at hChar
  · simp at hChar
  · simp at hChar
  · rename_i code hEmpty hCell
    have hFilled : code ≠ 0 := hEmpty
    have hMem := List.mem_of_getElem? hCell
    have hBounds := bounds_of_mem_codes hRow hMem hFilled
    have hValid : code.isValidChar := by
      unfold Nat.isValidChar
      omega
    rw [← Option.some.inj hChar, toNat_ofNat hValid]
    exact ⟨hMem, hFilled⟩

------------------------------------------------------------
-- What Bytes Stand For
------------------------------------------------------------

/-
  A byte stands for the ASCII character that it numbers or for
  a half-width katakana.
-/
theorem of_single?
    {byte : UInt8}
    {c : Char}
    (hSingle : single? byte = some c) :
    (c.toNat ≤ 0x80 ∧ c.toNat = byte.toNat) ∨
      (0xFF61 ≤ c.toNat ∧ c.toNat ≤ 0xFF9F) := by
  unfold single? at hSingle
  split at hSingle
  · rename_i hSmall
    rw [UInt8.le_iff_toNat_le] at hSmall
    have hLimit : (0x80 : UInt8).toNat = 0x80 := rfl
    have hValid : byte.toNat.isValidChar := by
      unfold Nat.isValidChar
      omega
    rw [← Option.some.inj hSingle, toNat_ofNat hValid]
    omega
  · split at hSingle
    · rename_i hRange
      rw [UInt8.le_iff_toNat_le, UInt8.le_iff_toNat_le]
        at hRange
      have hFrom : (0xA1 : UInt8).toNat = 0xA1 := rfl
      have hTo : (0xDF : UInt8).toNat = 0xDF := rfl
      have hValid :
          (0xFF61 + (byte.toNat - 0xA1)).isValidChar := by
        unfold Nat.isValidChar
        omega
      rw [← Option.some.inj hSingle, toNat_ofNat hValid]
      omega
    · simp at hSingle

/- A trail byte selects one of the cells of a row. -/
theorem lt_cellCount_of_cellOfTrail?
    {trail : UInt8}
    {cell : Nat}
    (hCell : cellOfTrail? trail = some cell) :
    cell < cellCount := by
  have hTrail := trail.toNat_lt
  unfold cellOfTrail? at hCell
  split at hCell
  · rename_i hLow
    have hTo : (0x7E : UInt8).toNat = 0x7E := rfl
    rw [UInt8.le_iff_toNat_le, UInt8.le_iff_toNat_le] at hLow
    rw [← Option.some.inj hCell, cellCount]
    omega
  · split at hCell
    · rename_i hHigh
      have hTo : (0xFC : UInt8).toNat = 0xFC := rfl
      rw [UInt8.le_iff_toNat_le, UInt8.le_iff_toNat_le]
        at hHigh
      rw [← Option.some.inj hCell, cellCount]
      omega
    · simp at hCell

/-
  A pair stands for a private-use character or for one that a
  row lists.
-/
theorem of_pair?
    {lead trail : UInt8}
    {c : Char}
    (hPair : pair? lead trail = some c) :
    (0xE000 ≤ c.toNat ∧ c.toNat ≤ 0xE757) ∨
      ∃ row ∈ rows, c.toNat ∈ row.codes ∧ c.toNat ≠ 0 := by
  unfold pair? at hPair
  split at hPair
  · simp at hPair
  · rename_i cell hCell
    have hInside := lt_cellCount_of_cellOfTrail? hCell
    split at hPair
    · rename_i hLead
      rw [UInt8.le_iff_toNat_le, UInt8.le_iff_toNat_le]
        at hLead
      have hFrom : (0xF0 : UInt8).toNat = 0xF0 := rfl
      have hTo : (0xF9 : UInt8).toNat = 0xF9 := rfl
      rw [cellCount] at hInside
      have hValid :
          (0xE000 + 188 * (lead.toNat - 0xF0) +
            cell).isValidChar := by
        unfold Nat.isValidChar
        omega
      rw [← Option.some.inj hPair, toNat_ofNat hValid]
      omega
    · split at hPair
      · simp at hPair
      · rename_i row hFind
        have hRow := List.mem_of_find?_eq_some hFind
        exact
          .inr
            ⟨row, hRow,
              toNat_mem_codes_of_char? hRow hPair⟩

/- No pair stands for an ASCII character. -/
theorem lt_of_pair?
    {lead trail : UInt8}
    {c : Char}
    (hPair : pair? lead trail = some c) :
    0x80 < c.toNat := by
  rcases of_pair? hPair with
    hPrivate | ⟨row, hRow, hCode, hFilled⟩
  · omega
  · have hBounds := bounds_of_mem_codes hRow hCode hFilled
    omega

/- A unit stands for a single byte or for a pair. -/
theorem of_mem_units
    {bytes : List UInt8}
    {c : Char}
    (hUnit : some c ∈ units bytes) :
    (∃ byte, single? byte = some c) ∨
      ∃ lead trail, pair? lead trail = some c := by
  fun_induction units bytes with
  | case1 => simp at hUnit
  | case2 byte rest first hSingle ih =>
      rcases List.mem_cons.mp hUnit with hFirst | hRest
      · cases hFirst
        exact .inl ⟨byte, hSingle⟩
      · exact ih hRest
  | case3 => simp at hUnit
  | case4 byte hSingle hLead trail rest first hPair ih =>
      rcases List.mem_cons.mp hUnit with hFirst | hRest
      · cases hFirst
        exact .inr ⟨byte, trail, hPair⟩
      · exact ih hRest
  | case5 | case6 | case7 =>
      rename_i ih
      rcases List.mem_cons.mp hUnit with hFirst | hRest
      · simp at hFirst
      · exact ih hRest

------------------------------------------------------------
-- Foreign Characters
------------------------------------------------------------

/- No byte stands for a foreign character. -/
theorem not_isForeign_of_single?
    {byte : UInt8}
    {c : Char}
    (hSingle : single? byte = some c) :
    isForeign c.toNat = false := by
  have hFound := of_single? hSingle
  rw [isForeign_eq_false_iff]
  omega

/- No pair stands for a foreign character. -/
theorem not_isForeign_of_pair?
    {lead trail : UInt8}
    {c : Char}
    (hPair : pair? lead trail = some c) :
    isForeign c.toNat = false := by
  rcases of_pair? hPair with
    hPrivate | ⟨row, hRow, hCode, _⟩
  · rw [isForeign_eq_false_iff]
    omega
  · exact not_isForeign_of_mem_codes hRow hCode

/- No byte string decodes to a foreign character. -/
theorem not_isForeign_of_mem_decode
    {bytes : List UInt8}
    {c : Char}
    (hMem : c ∈ decode bytes) :
    isForeign c.toNat = false := by
  rcases List.mem_map.mp hMem with ⟨unit, hUnit, hChar⟩
  cases unit with
  | none =>
      subst hChar
      rfl
  | some d =>
      cases hChar
      rcases of_mem_units hUnit with
        ⟨byte, hSingle⟩ | ⟨lead, trail, hPair⟩
      · exact not_isForeign_of_single? hSingle
      · exact not_isForeign_of_pair? hPair

------------------------------------------------------------
-- Repeated Rows
------------------------------------------------------------

/-
  The rows ED and EE hold characters of the rows from FA on.
  Only the last fourteen of them stand in front there.
-/
theorem repeated_sublist :
    (((rowED.codes ++ rowEE.codes).filter (· ≠ 0)).drop 360 ++
      ((rowED.codes ++ rowEE.codes).filter (· ≠ 0)).take
        360).Sublist
      (rowFA.codes ++ rowFB.codes ++ rowFC.codes) := by
  decide +kernel

/- A row that is left out is one of the two. -/
theorem eq_of_isRepeatedRow
    {row : Row}
    (hRow : row ∈ rows)
    (hRepeated : isRepeatedRow row = true) :
    row = rowED ∨ row = rowEE := by
  have hSame {other : Row}
      (hOther : other ∈ rows)
      (hLead : row.lead = other.lead) :
      row = other :=
    List.inj_on_of_nodup_map nodup_leads hRow hOther hLead
  simp only [isRepeatedRow, Bool.or_eq_true, beq_iff_eq]
    at hRepeated
  rcases hRepeated with hED | hEE
  · exact .inl (hSame (by simp [rows]) hED)
  · exact .inr (hSame (by simp [rows]) hEE)

/- A character of any row is one of a row that is kept. -/
theorem exists_kept_row
    {row : Row}
    {code : Nat}
    (hRow : row ∈ rows)
    (hCode : code ∈ row.codes)
    (hFilled : code ≠ 0) :
    ∃ kept ∈ rows,
      isRepeatedRow kept = false ∧ code ∈ kept.codes := by
  by_cases hRepeated : isRepeatedRow row = true
  · have hBoth : code ∈ rowED.codes ++ rowEE.codes := by
      rcases eq_of_isRepeatedRow hRow hRepeated with rfl | rfl
      · exact List.mem_append_left _ hCode
      · exact List.mem_append_right _ hCode
    have hKept :
        code ∈ (rowED.codes ++ rowEE.codes).filter (· ≠ 0) := by
      rw [List.mem_filter]
      exact ⟨hBoth, by simpa using hFilled⟩
    rw [← List.take_append_drop 360
        ((rowED.codes ++ rowEE.codes).filter (· ≠ 0)),
      List.mem_append, or_comm, ← List.mem_append] at hKept
    have hLate := repeated_sublist.subset hKept
    rw [List.mem_append, List.mem_append] at hLate
    rcases hLate with (hFA | hFB) | hFC
    · exact ⟨rowFA, by simp [rows], rfl, hFA⟩
    · exact ⟨rowFB, by simp [rows], rfl, hFB⟩
    · exact ⟨rowFC, by simp [rows], rfl, hFC⟩
  · exact ⟨row, hRow, by simpa using hRepeated, hCode⟩

------------------------------------------------------------
-- Codes of Decoded Characters
------------------------------------------------------------

/- A pair is found for the characters of the rows. -/
theorem findPair?_ne_none_of_mem_codes
    {row : Row}
    {c : Char}
    (hRow : row ∈ rows)
    (hCode : c.toNat ∈ row.codes)
    (hFilled : c.toNat ≠ 0) :
    findPair? c ≠ none := by
  rcases exists_kept_row hRow hCode hFilled with
    ⟨kept, hKept, hNot, hMem⟩
  intro hNone
  rw [findPair?, List.findSome?_eq_none_iff] at hNone
  have hCell := hNone kept hKept
  rw [if_neg (by simp [hNot]), Option.map_eq_none_iff,
    Row.cell?, List.idxOf?_eq_none_iff] at hCell
  exact hCell hMem

/- A character for which a pair is found has a code. -/
theorem encodeChar_ne_none_of_findPair?
    {c : Char}
    (hMinus : c ≠ '−')
    (hFound : findPair? c ≠ none) :
    encodeChar c ≠ none := by
  unfold encodeChar
  rw [if_neg hMinus]
  split_ifs <;> simp [hFound]

/- A character of one byte has a code. -/
theorem encodeChar_ne_none_of_le
    {c : Char}
    (hSmall : c.toNat ≤ 0x80) :
    encodeChar c ≠ none := by
  rw [encodeChar, if_pos hSmall]
  simp

/- A half-width katakana has a code. -/
theorem encodeChar_ne_none_of_katakana
    {c : Char}
    (hFrom : 0xFF61 ≤ c.toNat)
    (hTo : c.toNat ≤ 0xFF9F) :
    encodeChar c ≠ none := by
  rw [encodeChar, if_neg (by omega)]
  simp only [hFrom, hTo, and_self, if_true]
  split_ifs <;> simp

/- Private use and the replacement have no code. -/
theorem encodeChar_of_isUncoded
    {c : Char}
    (hUncoded : IsUncoded c) :
    encodeChar c = none := by
  have hRange :
      (0xE000 ≤ c.toNat ∧ c.toNat ≤ 0xE757) ∨
        c.toNat = 0xFFFD := by
    rcases hUncoded with rfl | hPrivate
    · exact .inr rfl
    · exact .inl hPrivate
  have hNone : findPair? c = none := by
    rw [findPair?, List.findSome?_eq_none_iff]
    intro row hRow
    split
    · rfl
    · rw [Option.map_eq_none_iff, Row.cell?,
        List.idxOf?_eq_none_iff]
      intro hCode
      have hBounds :=
        bounds_of_mem_codes hRow hCode (by omega)
      omega
  have hYen : c ≠ '¥' := by
    rintro rfl
    simp at hRange
  have hOverline : c ≠ '‾' := by
    rintro rfl
    simp at hRange
  have hMinus : c ≠ '−' := by
    rintro rfl
    simp at hRange
  unfold encodeChar
  rw [if_neg (by omega), if_neg hYen, if_neg hOverline,
    if_neg (by omega), if_neg hMinus, hNone]

/- A pair that is not for private use stands for a code. -/
theorem encodeChar_of_pair?
    {lead trail : UInt8}
    {c : Char}
    (hPair : pair? lead trail = some c)
    (hCoded : ¬IsUncoded c) :
    encodeChar c ≠ none := by
  have hForeign := not_isForeign_of_pair? hPair
  rw [isForeign_eq_false_iff] at hForeign
  have hMinus : c ≠ '−' := by
    rintro rfl
    simp at hForeign
  rcases of_pair? hPair with
    hPrivate | ⟨row, hRow, hCode, hFilled⟩
  · exact (hCoded (.inr hPrivate)).elim
  · exact
      encodeChar_ne_none_of_findPair? hMinus
        (findPair?_ne_none_of_mem_codes hRow hCode hFilled)

/- A byte stands for a character with a code. -/
theorem encodeChar_of_single?
    {byte : UInt8}
    {c : Char}
    (hSingle : single? byte = some c) :
    encodeChar c ≠ none := by
  rcases of_single? hSingle with ⟨hSmall, _⟩ | ⟨hFrom, hTo⟩
  · exact encodeChar_ne_none_of_le hSmall
  · exact encodeChar_ne_none_of_katakana hFrom hTo

/- Every unit that is not for private use has a code. -/
theorem encodeChar_of_mem_units
    {bytes : List UInt8}
    {c : Char}
    (hUnit : some c ∈ units bytes)
    (hCoded : ¬IsUncoded c) :
    encodeChar c ≠ none := by
  rcases of_mem_units hUnit with
    ⟨byte, hSingle⟩ | ⟨lead, trail, hPair⟩
  · exact encodeChar_of_single? hSingle
  · exact encodeChar_of_pair? hPair hCoded

/-
  Of the characters of a decoded text, only the replacement
  and those for private use have no code.
-/
theorem encodeChar_eq_none_iff_of_mem_decode
    {bytes : List UInt8}
    {c : Char}
    (hMem : c ∈ decode bytes) :
    encodeChar c = none ↔ IsUncoded c := by
  constructor
  · intro hNone
    by_contra hCoded
    rcases List.mem_map.mp hMem with ⟨unit, hUnit, hChar⟩
    cases unit with
    | none => exact hCoded (.inl hChar.symm)
    | some d =>
        cases hChar
        exact encodeChar_of_mem_units hUnit hCoded hNone
  · exact encodeChar_of_isUncoded

------------------------------------------------------------
-- Encoding Texts
------------------------------------------------------------

/- The first character without a code is the one refused. -/
theorem encode_eq_error_iff
    {text : Text}
    {c : Char} :
    encode text = .error c ↔
      text.find? (encodeChar · = none) = some c := by
  induction text with
  | nil => simp [encode]
  | cons first later ih =>
      rw [encode, List.find?_cons]
      cases hFirst : encodeChar first with
      | none => simp
      | some code =>
          simp only [reduceCtorEq, decide_false, ← ih]
          cases encode later <;> simp

/- A text is encoded when each of its characters has a code. -/
theorem exists_encode_iff {text : Text} :
    (∃ bytes, encode text = .ok bytes) ↔
      ∀ c ∈ text, encodeChar c ≠ none := by
  have hFails :
      (∃ bytes, encode text = .ok bytes) ↔
        ∀ c, encode text ≠ .error c := by
    cases encode text <;> simp
  rw [hFails]
  simp only [ne_eq, encode_eq_error_iff]
  rw [← Option.eq_none_iff_forall_ne_some,
    List.find?_eq_none]
  simp

end ShiftJis

end SceneScript
