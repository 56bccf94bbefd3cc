import SceneScript.Json.Lexeme
import SceneScript.Json.Printer
import SceneScript.Proofs.Numerals

/-
  Strings and numbers are read as they were printed.

  Key definitions include:
    * `Json.IsDelimited`
    * `Json.InRange`

  Correctness is stated by:
    * `Json.stringBody_escapeChar`
    * `Json.stringRest_printed`
    * `Json.integerPart_decimal`
    * `Json.exceedsDouble_eq_false`
    * `Json.number_signedDecimal`

  A string ends with its own quotation mark.  A number has no
  end of its own, so that what follows it must not look like
  more of it.
-/

namespace SceneScript

namespace Json

------------------------------------------------------------
-- Strings
------------------------------------------------------------

/- A control without a letter is printed in two digits. -/
theorem hexDigit?_digitChar
    {n : Nat}
    (hControl : n < 0x20) :
    Numeral.padded 2 '0' (Nat.toDigits 16 n) =
        [Nat.digitChar (n / 16), Nat.digitChar (n % 16)] ∧
      hexDigit? (Nat.digitChar (n / 16)) = some (n / 16) ∧
      hexDigit? (Nat.digitChar (n % 16)) = some (n % 16) := by
  revert n
  decide

/- A control is read back from its digits. -/
theorem escape_digits
    {c : Char}
    (hControl : c.toNat < 0x20)
    (rest : Text) :
    escape
        (['u', '0', '0'] ++
          Numeral.padded 2 '0' (Nat.toDigits 16 c.toNat) ++
          rest) =
      .ok (c, rest) := by
  rcases hexDigit?_digitChar hControl with
    ⟨hDigits, hHigh, hLow⟩
  have hZero : hexDigit? '0' = some 0 := by decide
  have hUnit :
      fourHex
          ('0' :: '0' :: Nat.digitChar (c.toNat / 16) ::
            Nat.digitChar (c.toNat % 16) :: rest) =
        .ok (c.toNat, rest) := by
    simp only [fourHex, hZero, hHigh, hLow]
    congr 2
    omega
  have hNotLow : isLowSurrogate c.toNat = false := by
    simp only [isLowSurrogate, Bool.and_eq_false_iff,
      decide_eq_false_iff_not]
    omega
  have hNotHigh : isHighSurrogate c.toNat = false := by
    simp only [isHighSurrogate, Bool.and_eq_false_iff,
      decide_eq_false_iff_not]
    omega
  rw [hDigits]
  change
    unicodeEscape
        ('0' :: '0' :: Nat.digitChar (c.toNat / 16) ::
          Nat.digitChar (c.toNat % 16) :: rest) =
      .ok (c, rest)
  simp only [unicodeEscape, hUnit, bind, Except.bind,
    hNotLow, hNotHigh, Bool.false_eq_true, if_false, pure,
    Except.pure, Char.ofNat_toNat]

/- An escape inside a string stands for one character. -/
theorem stringBody_escape
    {input rest : Text}
    {c : Char}
    (hEscape : escape input = .ok (c, rest)) :
    stringBody ('\\' :: input) =
      (stringBody rest).map fun (later, rest) =>
        (c :: later, rest) := by
  rw [stringBody, if_neg (by decide), if_pos rfl]
  split
  · rename_i hError
    rw [hEscape] at hError
    cases hError
  · rename_i hOk
    rw [hEscape] at hOk
    cases hOk
    cases stringBody rest <;> rfl

/- A printed character inside a string is read back. -/
theorem stringBody_escapeChar
    (c : Char)
    (rest : Text) :
    stringBody (escapeChar c ++ rest) =
      (stringBody rest).map fun (later, rest) =>
        (c :: later, rest) := by
  unfold escapeChar
  split
  case h_8 hQuote hBackslash _ _ _ _ _ =>
    split
    · rename_i hControl
      exact stringBody_escape (escape_digits hControl rest)
    · rename_i hPlain
      rw [List.singleton_append, stringBody,
        if_neg hQuote, if_neg hBackslash, if_neg hPlain]
      cases stringBody rest <;> rfl
  all_goals exact stringBody_escape rfl

/- A printed text is read up to the quotation mark. -/
theorem stringBody_printed
    (text rest : Text) :
    stringBody (text.flatMap escapeChar ++ '"' :: rest) =
      .ok (text, rest) := by
  induction text with
  | nil =>
      rw [List.flatMap_nil, List.nil_append, stringBody,
        if_pos rfl]
  | cons c later ih =>
      rw [List.flatMap_cons, List.append_assoc,
        stringBody_escapeChar, ih]
      rfl

/- A printed string is read behind its quotation mark. -/
theorem stringRest_printed
    (text : String)
    (rest : Text) :
    stringRest (text.toList.flatMap escapeChar ++ '"' :: rest) =
      .ok (text, rest) := by
  rw [stringRest, stringBody_printed]
  change Except.ok (String.ofList text.toList, rest) = _
  rw [String.ofList_toList]

/- What a printed string looks like in front of a text. -/
theorem quoted_append
    (text : String)
    (rest : Text) :
    quoted text ++ rest =
      '"' :: (text.toList.flatMap escapeChar ++ '"' :: rest) := by
  simp [quoted]

------------------------------------------------------------
-- Numbers
------------------------------------------------------------

/- Nothing in front of a text continues a number. -/
def IsDelimited (rest : Text) : Prop :=
  ∀ c ∈ rest.head?, c ∈ [',', ']', '}', '\n']

/- The end of a text delimits a number. -/
theorem isDelimited_nil : IsDelimited [] := by
  simp [IsDelimited]

/- A comma, a bracket or a new line delimits a number. -/
theorem isDelimited_cons
    {c : Char}
    (hDelimiter : c ∈ [',', ']', '}', '\n'])
    (rest : Text) :
    IsDelimited (c :: rest) := by
  intro d hHead
  rw [List.head?_cons, Option.mem_some_iff] at hHead
  rw [← hHead]
  exact hDelimiter

/- A delimiter is not a digit. -/
theorem IsDelimited.not_isDigit_head
    {rest : Text}
    (hRest : IsDelimited rest) :
    ∀ c ∈ rest.head?, c.isDigit = false := by
  intro c hHead
  have hAll :
      ∀ c ∈ [',', ']', '}', '\n'], c.isDigit = false := by
    simp
  exact hAll c (hRest c hHead)

/- The digits of a number are its integer part. -/
theorem integerPart_decimal
    (n : Nat)
    {rest : Text}
    (hRest : IsDelimited rest) :
    integerPart (Numeral.decimal n ++ rest) =
      .ok (Numeral.decimal n, rest) := by
  have hDigits :
      digits (Numeral.decimal n ++ rest) =
        (Numeral.decimal n, rest) := by
    rw [digits,
      Numeral.takeWhile_decimal_append n
        hRest.not_isDigit_head,
      Numeral.dropWhile_decimal_append n
        hRest.not_isDigit_head]
  by_cases hZero : n = 0
  · subst hZero
    cases rest with
    | nil => rfl
    | cons c later =>
        have hDigit := hRest.not_isDigit_head c rfl
        change integerPart ('0' :: c :: later) = _
        simp only [integerPart, hDigit, Bool.false_eq_true,
          if_false]
        rfl
  · cases hDecimal : Numeral.decimal n with
    | nil => exact (Nat.toDigits_ne_nil hDecimal).elim
    | cons c later =>
        have hHead : c ≠ '0' := by
          rintro rfl
          apply hZero
          apply Numeral.eq_zero_of_head_decimal
          rw [hDecimal]
          rfl
        have hDigit : c.isDigit = true := by
          apply Numeral.isDigit_of_mem_decimal (n := n)
          simp [hDecimal]
        rw [hDecimal] at hDigits
        rw [List.cons_append] at hDigits ⊢
        rw [integerPart, if_pos hDigit, hDigits]
        exact hHead

/- Nothing looks like a fraction. -/
theorem IsDelimited.fractionPart_eq
    {rest : Text}
    (hRest : IsDelimited rest) :
    fractionPart rest = .ok (none, rest) := by
  unfold fractionPart
  split
  · rename_i later
    have hPoint := hRest '.' rfl
    exact absurd hPoint (by decide)
  · rfl

/- Nothing looks like an exponent. -/
theorem IsDelimited.exponentPart_eq
    {rest : Text}
    (hRest : IsDelimited rest) :
    exponentPart rest = .ok (none, rest) := by
  cases rest with
  | nil => rfl
  | cons c later =>
      have hAll :
          ∀ c ∈ [',', ']', '}', '\n'],
            ¬(c = 'e' ∨ c = 'E') := by
        simp
      unfold exponentPart
      simp only
      rw [if_neg (hAll c (hRest c rfl))]

/- More digits do not make a number smaller. -/
theorem le_ofDigitChars
    (n : Nat)
    (ds : Text) :
    n ≤ Nat.ofDigitChars 10 ds n := by
  induction ds generalizing n with
  | nil => exact Nat.le_refl n
  | cons c later ih =>
      rw [Nat.ofDigitChars_cons]
      calc
        n ≤ 10 * n + (c.toNat - '0'.toNat) := by omega
        _ ≤ _ := ih _

/- All digits of a number below the bound are significant. -/
theorem significand_eq
    {n : Nat}
    {ds : Text}
    (hBound :
      Nat.ofDigitChars 10 ds n < significandBound) :
    significand n 0 ds = (Nat.ofDigitChars 10 ds n, 0) := by
  induction ds generalizing n with
  | nil => rfl
  | cons c later ih =>
      rw [Nat.ofDigitChars_cons] at hBound ⊢
      have hNext :
          10 * n + digitValue c < significandBound :=
        Nat.lt_of_le_of_lt (le_ofDigitChars _ later) hBound
      rw [significand, if_pos ⟨rfl, hNext⟩]
      exact ih hBound

/- Rounding at most doubles a number. -/
theorem roundToDouble_le (n : Nat) :
    roundToDouble n ≤ 2 * n := by
  unfold roundToDouble
  split
  · omega
  · rename_i hLarge
    have hUnit : Nat.pow 2 (Nat.log2 n - 52) ≤ n := by
      have hPositive : n ≠ 0 := by
        rintro rfl
        exact hLarge (by decide)
      calc
        Nat.pow 2 (Nat.log2 n - 52)
        _ ≤ 2 ^ Nat.log2 n :=
            Nat.pow_le_pow_right (by decide) (by omega)
        _ ≤ n := Nat.log2_self_le hPositive
    have hLow :
        n / Nat.pow 2 (Nat.log2 n - 52) *
            Nat.pow 2 (Nat.log2 n - 52) ≤ n :=
      Nat.div_mul_le_self _ _
    simp only
    split
    · rw [Nat.add_mul]
      omega
    · omega

/- No integer of 64 bits is too large. -/
theorem exceedsDouble_eq_false
    {n : Nat}
    (hBound : n ≤ Nat.pow 2 64) :
    exceedsDouble n 0 = false := by
  unfold exceedsDouble
  split
  · rfl
  · rw [if_neg (by decide)]
    have hPower : roundToDouble (Nat.pow 10 (0 : Int).toNat) = 1 := by
      decide
    have hOnce := roundToDouble_le n
    have hTwice :=
      roundToDouble_le (roundToDouble n * 1)
    have hLimit : 4 * Nat.pow 2 64 < Nat.pow 2 1024 := by
      decide +kernel
    simp only [hPower, decide_eq_false_iff_not]
    omega

/- An integer fits 64 bits, with a sign if it has one. -/
def InRange (n : Int) : Prop :=
  -Nat.pow 2 63 ≤ n ∧ n < Nat.pow 2 64

/- A word fits, and so does a signed word. -/
theorem inRange_of_word
    {n : Int}
    (hLower : -0x10000 ≤ n)
    (hUpper : n < 0x10000) :
    InRange n := by
  rw [InRange, Nat.pow_eq, Nat.pow_eq]
  constructor <;> omega

/- The digits of a number are read back. -/
theorem unsignedNumber_decimal
    (negative : Bool)
    {n : Nat}
    (hBound : n < Nat.pow 2 64)
    {rest : Text}
    (hRest : IsDelimited rest) :
    unsignedNumber negative (Numeral.decimal n ++ rest) =
      .ok (integerValue negative n, rest) := by
  have hValue :
      Nat.ofDigitChars 10 (Numeral.decimal n) 0 = n :=
    Nat.ofDigitChars_ten_toDigits
  have hSignificand :
      significand 0 0 (Numeral.decimal n) = (n, 0) := by
    rw [significand_eq (by rw [hValue]; exact hBound), hValue]
  have hFits : exceedsDouble n 0 = false :=
    exceedsDouble_eq_false (Nat.le_of_lt hBound)
  have hDigits : digitsValue (Numeral.decimal n) = n := hValue
  simp only [unsignedNumber, integerPart_decimal n hRest,
    hRest.fractionPart_eq, hRest.exponentPart_eq, bind,
    Except.bind, hSignificand, Option.getD_none,
    extendSignificand]
  simp [hFits, hDigits, pure, Except.pure]

/- A printed integer is read back. -/
theorem number_signedDecimal
    {n : Int}
    (hRange : InRange n)
    {rest : Text}
    (hRest : IsDelimited rest) :
    number (Numeral.signedDecimal n ++ rest) =
      .ok (int n, rest) := by
  have hLower := hRange.1
  have hUpper := hRange.2
  rw [Nat.pow_eq] at hLower hUpper
  unfold Numeral.signedDecimal
  split
  · rename_i hNegative
    change
      unsignedNumber true
          (Numeral.decimal n.natAbs ++ rest) = _
    rw [unsignedNumber_decimal true
      (by simp only [Nat.pow_eq]; omega) hRest,
      integerValue, if_pos rfl, if_pos]
    · congr 3
      omega
    · simp only [Nat.pow_eq]
      omega
  · rename_i hPositive
    have hUnsigned :
        number (Numeral.decimal n.natAbs ++ rest) =
          unsignedNumber false
            (Numeral.decimal n.natAbs ++ rest) := by
      unfold number
      split
      · rename_i later hSign
        cases hDecimal : Numeral.decimal n.natAbs with
        | nil => exact (Nat.toDigits_ne_nil hDecimal).elim
        | cons c digits =>
            rw [hDecimal] at hSign
            have hHead := (List.cons.inj hSign).1
            rw [hHead] at hDecimal
            exact
              (Numeral.decimal_ne_sign_cons _ _
                hDecimal).elim
      · rfl
    rw [hUnsigned,
      unsignedNumber_decimal false
        (by simp only [Nat.pow_eq]; omega) hRest,
      integerValue, if_neg (by decide), if_pos]
    · congr 3
      omega
    · simp only [Nat.pow_eq]
      omega

end Json

end SceneScript
