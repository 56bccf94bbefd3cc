import SceneScript.Proofs.Lookup
import SceneScript.Text.ShiftJis

/-
  What encoded texts decode to.

  Key definitions include:
    * `ShiftJis.written`
    * `ShiftJis.isForeign`
    * `ShiftJis.isRegular`

  Correctness is stated by:
    * `ShiftJis.units_append_cons_of_lt`
    * `ShiftJis.units_encodeChar_append`
    * `ShiftJis.units_encode_append`
    * `ShiftJis.encodeChar_waveDash`

  The code of a character is a whole unit of every byte
  string that starts with it, whatever follows.  Two places
  of the table carry this: every row has a lead byte of its
  own, and no character stands behind the last cell that a
  trail byte selects.
-/

namespace SceneScript

namespace ShiftJis

------------------------------------------------------------
-- Rows
------------------------------------------------------------

/- The number of cells that trail bytes select. -/
def cellCount : Nat := 188

/-
  Yen sign, overline, minus sign and wave dash.  Other code
  pages have them in places that this one gives to `\`, `~`,
  `－` and `～`.
-/
def isForeign (code : Nat) : Bool :=
  Nat.beq code 0xA5 || Nat.beq code 0x203E ||
    Nat.beq code 0x2212 || Nat.beq code 0x301C

/-
  The first cells of a row hold no foreign character, and the
  cells behind them are empty.
-/
def isRegular :
    Nat → List Nat → Bool
  | _, [] => true
  | 0, code :: rest => Nat.beq code 0 && isRegular 0 rest
  | cells + 1, code :: rest =>
      !isForeign code && isRegular cells rest

/- What a regular row has in a cell that is not empty. -/
theorem of_isRegular
    {cells cell code : Nat}
    {codes : List Nat}
    (hRegular : isRegular cells codes = true)
    (hCode : codes[cell]? = some code)
    (hFilled : code ≠ 0) :
    cell < cells ∧ isForeign code = false := by
  fun_induction isRegular cells codes generalizing cell with
  | case1 => simp at hCode
  | case2 first rest ih =>
      rw [Bool.and_eq_true, Nat.beq_eq] at hRegular
      cases cell with
      | zero =>
          have hFirst : first = code := by simpa using hCode
          exact (hFilled (hFirst ▸ hRegular.1)).elim
      | succ cell =>
          have hLater : rest[cell]? = some code := by
            simpa using hCode
          exact absurd (ih hRegular.2 hLater).1
            (Nat.not_lt_zero cell)
  | case3 cells first rest ih =>
      rw [Bool.and_eq_true, Bool.not_eq_true'] at hRegular
      cases cell with
      | zero =>
          have hFirst : first = code := by simpa using hCode
          exact ⟨Nat.succ_pos cells, hFirst ▸ hRegular.1⟩
      | succ cell =>
          have hLater : rest[cell]? = some code := by
            simpa using hCode
          have hRest := ih hRegular.2 hLater
          exact ⟨Nat.succ_lt_succ hRest.1, hRest.2⟩

/- Every row of the code page is regular. -/
theorem isRegular_of_mem_rows :
    ∀ row ∈ rows, isRegular cellCount row.codes = true := by
  decide +kernel

/- Every row has a lead byte of its own. -/
theorem nodup_leads : (rows.map (·.lead)).Nodup := by
  decide

/-
  The lead byte of a row opens a pair and does not belong to
  the private-use rows.
-/
theorem lead_of_mem_rows :
    ∀ row ∈ rows,
      single? row.lead = none ∧
        isLead row.lead = true ∧
        ¬(0xF0 ≤ row.lead ∧ row.lead ≤ 0xF9) := by
  decide

------------------------------------------------------------
-- Units
------------------------------------------------------------

/- A byte that stands for a character is a unit. -/
theorem units_cons_of_single?
    {byte : UInt8}
    {c : Char}
    (hSingle : single? byte = some c)
    (rest : List UInt8) :
    units (byte :: rest) = some c :: units rest := by
  cases rest <;> simp [units, hSingle]

/- A pair that stands for a character is a unit. -/
theorem units_cons_of_pair?
    {lead trail : UInt8}
    {c : Char}
    (hSingle : single? lead = none)
    (hLead : isLead lead = true)
    (hPair : pair? lead trail = some c)
    (rest : List UInt8) :
    units (lead :: trail :: rest) =
      some c :: units rest := by
  simp [units, hSingle, hLead, hPair]

/- A byte that stands for nothing is malformed by itself. -/
theorem units_cons_of_not_isLead
    {byte : UInt8}
    (hSingle : single? byte = none)
    (hLead : ¬isLead byte = true)
    (rest : List UInt8) :
    units (byte :: rest) = none :: units rest := by
  cases rest <;> simp [units, hSingle, hLead]

/- A byte below 40 is no trail byte. -/
theorem pair?_of_lt
    (lead : UInt8)
    {trail : UInt8}
    (hTrail : trail < 0x40) :
    pair? lead trail = none := by
  have hCell : cellOfTrail? trail = none := by
    unfold cellOfTrail?
    rw [UInt8.lt_iff_toNat_lt] at hTrail
    simp only [UInt8.le_iff_toNat_le]
    have hFirst : (0x40 : UInt8).toNat = 0x40 := rfl
    have hSecond : (0x80 : UInt8).toNat = 0x80 := rfl
    rw [if_neg (by omega), if_neg (by omega)]
  rw [pair?, hCell]

/-
  A byte below 40 starts a unit, whatever stands in front of
  it.  A lead byte in front of it is malformed, and does not
  take it along.
-/
theorem units_append_cons_of_lt
    {byte : UInt8}
    (hByte : byte < 0x40)
    (front rest : List UInt8) :
    units (front ++ byte :: rest) =
      units front ++ units (byte :: rest) := by
  fun_induction units front with
  | case1 => rfl
  | case2 first later c hSingle ih =>
      rw [List.cons_append, units_cons_of_single? hSingle,
        ih]
      rfl
  | case3 lead hSingle hLead =>
      have hAscii : byte < 0x80 := by
        rw [UInt8.lt_iff_toNat_lt] at hByte ⊢
        exact Nat.lt_trans hByte (by decide)
      simp [units, hSingle, hLead, pair?_of_lt lead hByte,
        hAscii]
  | case4 lead hSingle hLead trail later c hPair ih =>
      rw [List.cons_append, List.cons_append,
        units_cons_of_pair? hSingle hLead hPair, ih]
      rfl
  | case5 lead hSingle hLead trail later hPair hAscii ih =>
      rw [List.cons_append] at ih
      rw [List.cons_append, List.cons_append, units]
      simp [hSingle, hLead, hPair, hAscii, ih]
  | case6 lead hSingle hLead trail later hPair hHigh ih =>
      rw [List.cons_append, List.cons_append, units]
      simp [hSingle, hLead, hPair, hHigh, ih]
  | case7 first later hSingle hLead ih =>
      rw [List.cons_append,
        units_cons_of_not_isLead hSingle hLead, ih]
      rfl

------------------------------------------------------------
-- Pairs
------------------------------------------------------------

/- The trail byte of a cell selects that cell. -/
theorem cellOfTrail?_trailOfCell :
    ∀ cell < cellCount,
      cellOfTrail? (trailOfCell cell) = some cell := by
  decide +kernel

/- A cell in which a character is found holds it. -/
theorem getElem?_of_cell?
    {row : Row}
    {c : Char}
    {cell : Nat}
    (hCell : row.cell? c = some cell) :
    row.codes[cell]? = some c.toNat := by
  rcases List.idxOf?_eq_some_iff.mp hCell with
    ⟨hLength, hCode, _⟩
  rw [List.getElem?_eq_getElem hLength, hCode]

/-
  A character that is found in a row is the one that the lead
  byte of the row and the trail byte of its cell stand for.
-/
theorem pair?_of_cell?
    {row : Row}
    {c : Char}
    {cell : Nat}
    (hRow : row ∈ rows)
    (hCell : row.cell? c = some cell)
    (hFilled : c.toNat ≠ 0) :
    pair? row.lead (trailOfCell cell) = some c := by
  have hCode := getElem?_of_cell? hCell
  have hInside :=
    (of_isRegular (isRegular_of_mem_rows row hRow)
      hCode hFilled).1
  have hFind := find?_eq_some_of_nodup nodup_leads hRow
  rw [pair?, cellOfTrail?_trailOfCell cell hInside]
  simp only [if_neg (lead_of_mem_rows row hRow).2.2, hFind]
  rw [Row.char?, hCode]
  simp

/- A pair that is found for a character is a unit. -/
theorem units_findPair?_append
    {c : Char}
    {code : List UInt8}
    (hCode : findPair? c = some code)
    (hFilled : c.toNat ≠ 0)
    (rest : List UInt8) :
    units (code ++ rest) = some c :: units rest := by
  unfold findPair? at hCode
  rcases List.exists_of_findSome?_eq_some hCode with
    ⟨row, hRow, hFound⟩
  split at hFound
  · simp at hFound
  · rcases Option.map_eq_some_iff.mp hFound with
      ⟨cell, hCell, hBytes⟩
    subst hBytes
    have hLead := lead_of_mem_rows row hRow
    exact
      units_cons_of_pair? hLead.1 hLead.2.1
        (pair?_of_cell? hRow hCell hFilled) rest

------------------------------------------------------------
-- Characters
------------------------------------------------------------

/-
  The character that the code of a character stands for.  It
  is another one where two characters share a code.
-/
def written (c : Char) : Char :=
  if c = '¥' then
    '\\'
  else if c = '‾' then
    '~'
  else if c = '−' then
    '－'
  else
    c

/- A byte up to 80 stands for the character it numbers. -/
theorem single?_ofNat_toNat
    {c : Char}
    (hSmall : c.toNat ≤ 0x80) :
    single? (UInt8.ofNat c.toNat) = some c := by
  have hByte : (UInt8.ofNat c.toNat).toNat = c.toNat := by
    rw [UInt8.toNat_ofNat']
    omega
  have hLe : UInt8.ofNat c.toNat ≤ 0x80 := by
    rw [UInt8.le_iff_toNat_le, hByte]
    exact hSmall
  rw [single?, if_pos hLe, hByte, Char.ofNat_toNat]

/- A byte from A1 to DF stands for a half-width katakana. -/
theorem single?_katakana
    {c : Char}
    (hFrom : 0xFF61 ≤ c.toNat)
    (hTo : c.toNat ≤ 0xFF9F) :
    single? (UInt8.ofNat (c.toNat - 0xFF61 + 0xA1)) =
      some c := by
  have hByte :
      (UInt8.ofNat (c.toNat - 0xFF61 + 0xA1)).toNat =
        c.toNat - 0xFF61 + 0xA1 := by
    rw [UInt8.toNat_ofNat']
    omega
  have hNotSmall :
      ¬UInt8.ofNat (c.toNat - 0xFF61 + 0xA1) ≤ 0x80 := by
    have hLimit : (0x80 : UInt8).toNat = 0x80 := rfl
    rw [UInt8.le_iff_toNat_le, hByte, hLimit]
    omega
  have hRange :
      0xA1 ≤ UInt8.ofNat (c.toNat - 0xFF61 + 0xA1) ∧
        UInt8.ofNat (c.toNat - 0xFF61 + 0xA1) ≤ 0xDF := by
    rw [UInt8.le_iff_toNat_le, UInt8.le_iff_toNat_le, hByte]
    simp
    omega
  have hChar :
      0xFF61 + (c.toNat - 0xFF61 + 0xA1 - 0xA1) =
        c.toNat := by
    omega
  rw [single?, if_neg hNotSmall, if_pos hRange, hByte,
    hChar, Char.ofNat_toNat]

/- The code of a character is a unit. -/
theorem units_encodeChar_append
    {c : Char}
    {code : List UInt8}
    (hCode : encodeChar c = some code)
    (rest : List UInt8) :
    units (code ++ rest) = some (written c) :: units rest := by
  unfold encodeChar at hCode
  split at hCode
  · rename_i hSmall
    cases hCode
    have hSelf : written c = c := by
      have hYen : c ≠ '¥' := by
        rintro rfl
        simp at hSmall
      have hOverline : c ≠ '‾' := by
        rintro rfl
        simp at hSmall
      have hMinus : c ≠ '−' := by
        rintro rfl
        simp at hSmall
      simp [written, hYen, hOverline, hMinus]
    rw [hSelf]
    exact
      units_cons_of_single? (single?_ofNat_toNat hSmall) rest
  · rename_i hLarge
    have hFilled : c.toNat ≠ 0 := by omega
    split at hCode
    · rename_i hYen
      cases hCode
      subst hYen
      exact units_cons_of_single? rfl rest
    · rename_i hYen
      split at hCode
      · rename_i hOverline
        cases hCode
        subst hOverline
        exact units_cons_of_single? rfl rest
      · rename_i hOverline
        split at hCode
        · rename_i hKana
          cases hCode
          have hMinus : c ≠ '−' := by
            rintro rfl
            simp at hKana
          have hSelf : written c = c := by
            simp [written, hYen, hOverline, hMinus]
          rw [hSelf]
          exact
            units_cons_of_single?
              (single?_katakana hKana.1 hKana.2) rest
        · split at hCode
          · rename_i hMinus
            simpa [written, hMinus] using
              units_findPair?_append hCode (by decide) rest
          · rename_i hMinus
            simpa [written, hYen, hOverline, hMinus] using
              units_findPair?_append hCode hFilled rest

------------------------------------------------------------
-- Texts
------------------------------------------------------------

/-
  The bytes of a text decode to the written text, and what
  follows them decodes by itself.
-/
theorem units_encode_append
    {text : Text}
    {bytes : List UInt8}
    (hBytes : encode text = .ok bytes)
    (rest : List UInt8) :
    units (bytes ++ rest) =
      text.map (fun c => some (written c)) ++ units rest := by
  induction text generalizing bytes with
  | nil =>
      cases hBytes
      simp
  | cons c later ih =>
      unfold encode at hBytes
      split at hBytes
      · simp at hBytes
      · rename_i code hCode
        split at hBytes
        · simp at hBytes
        · rename_i laterBytes hLater
          cases hBytes
          rw [List.append_assoc,
            units_encodeChar_append hCode, ih hLater]
          simp

------------------------------------------------------------
-- Foreign Characters
------------------------------------------------------------

/- Foreign codes, one by one. -/
theorem isForeign_eq_false_iff (code : Nat) :
    isForeign code = false ↔
      code ≠ 0xA5 ∧ code ≠ 0x203E ∧
        code ≠ 0x2212 ∧ code ≠ 0x301C := by
  rw [← Bool.not_eq_true]
  simp [isForeign, and_assoc]

/- A row holds no foreign character. -/
theorem not_isForeign_of_mem_codes
    {row : Row}
    {code : Nat}
    (hRow : row ∈ rows)
    (hCode : code ∈ row.codes) :
    isForeign code = false := by
  by_cases hFilled : code = 0
  · rw [hFilled]
    rfl
  · rcases List.getElem?_of_mem hCode with ⟨cell, hCell⟩
    exact
      (of_isRegular (isRegular_of_mem_rows row hRow)
        hCell hFilled).2

/- No pair is found for a foreign character. -/
theorem findPair?_of_isForeign
    {c : Char}
    (hForeign : isForeign c.toNat = true) :
    findPair? c = none := by
  rw [findPair?, List.findSome?_eq_none_iff]
  intro row hRow
  split
  · rfl
  · have hAbsent : c.toNat ∉ row.codes := by
      intro hMem
      have hNot := not_isForeign_of_mem_codes hRow hMem
      simp [hForeign] at hNot
    rw [Row.cell?, List.idxOf?_eq_none_iff.mpr hAbsent]
    rfl

/- The wave dash has no code. -/
theorem encodeChar_waveDash : encodeChar '〜' = none := by
  have hNone : findPair? '〜' = none :=
    findPair?_of_isForeign rfl
  simp [encodeChar, hNone]

end ShiftJis

end SceneScript
