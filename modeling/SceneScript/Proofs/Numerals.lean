import Mathlib.Data.List.Basic
import Mathlib.Data.List.Nodup
import SceneScript.Text.Numeral

/-
  Numbers are told apart by their written forms.

  Key definitions include:
    * `Numeral.decimals`

  Correctness is stated by:
    * `Numeral.decimal_injective`
    * `Numeral.eq_zero_of_head_decimal`
    * `Numeral.signedDecimal_injective`
    * `Numeral.hundredths_injective`

  The digits of a number are followed by nothing, or by a
  character that is not a digit, so they end where the next
  other character stands.
-/

namespace SceneScript

namespace Numeral

------------------------------------------------------------
-- Integers
------------------------------------------------------------

/- A number is written in digits. -/
theorem isDigit_of_mem_decimal
    {n : Nat}
    {c : Char}
    (hMem : c ∈ decimal n) :
    c.isDigit = true :=
  Nat.isDigit_of_mem_toDigits (by decide) (by decide) hMem

/- Numbers with the same digits are equal. -/
theorem decimal_injective
    {n k : Nat}
    (hDigits : decimal n = decimal k) :
    n = k := by
  have hRead :=
    congrArg (fun ds => Nat.ofDigitChars 10 ds 0) hDigits
  simpa [decimal] using hRead

/- Only zero is written with a zero in front. -/
theorem eq_zero_of_head_decimal
    {n : Nat}
    (hHead : (decimal n).head? = some '0') :
    n = 0 := by
  induction n using Nat.strongRecOn with
  | ind n ih =>
      rw [decimal, Nat.toDigits_eq_if (by decide)] at hHead
      split at hHead
      · rename_i hSmall
        have hZero :
            ∀ digit < 10,
              Nat.digitChar digit = '0' → digit = 0 := by
          decide
        exact hZero n hSmall (Option.some.inj hHead)
      · rename_i hLarge
        rw [List.head?_append_of_ne_nil _ Nat.toDigits_ne_nil]
          at hHead
        have hQuotient : n / 10 = 0 :=
          ih (n / 10) (by omega) hHead
        omega

/- The digits in front of another character are cut off. -/
theorem takeWhile_decimal_append
    (n : Nat)
    {rest : Text}
    (hRest : ∀ c ∈ rest.head?, c.isDigit = false) :
    (decimal n ++ rest).takeWhile Char.isDigit =
      decimal n := by
  rw [List.takeWhile_append_of_pos fun c hMem =>
    isDigit_of_mem_decimal hMem]
  cases rest with
  | nil => simp
  | cons c later =>
      rw [List.takeWhile_cons_of_neg, List.append_nil]
      simpa using hRest c

/- What follows the digits is left when they are cut off. -/
theorem dropWhile_decimal_append
    (n : Nat)
    {rest : Text}
    (hRest : ∀ c ∈ rest.head?, c.isDigit = false) :
    (decimal n ++ rest).dropWhile Char.isDigit = rest := by
  have hWhole :
      (decimal n ++ rest).takeWhile Char.isDigit ++
          (decimal n ++ rest).dropWhile Char.isDigit =
        decimal n ++ rest :=
    List.takeWhile_append_dropWhile
  rw [takeWhile_decimal_append n hRest] at hWhole
  exact List.append_cancel_left hWhole

/- A signed number has digits and perhaps a sign. -/
theorem mem_signedDecimal
    {n : Int}
    {c : Char}
    (hMem : c ∈ signedDecimal n) :
    c = '-' ∨ c.isDigit = true := by
  unfold signedDecimal at hMem
  split at hMem
  · rcases List.mem_cons.mp hMem with rfl | hDigit
    · exact .inl rfl
    · exact .inr (isDigit_of_mem_decimal hDigit)
  · exact .inr (isDigit_of_mem_decimal hMem)

/- A sign is not the first digit of a number. -/
theorem decimal_ne_sign_cons
    (n : Nat)
    (later : Text) :
    decimal n ≠ '-' :: later := by
  intro hSign
  have hMem : '-' ∈ decimal n := by simp [hSign]
  exact absurd (isDigit_of_mem_decimal hMem) (by decide)

/- Signed numbers with the same written form are equal. -/
theorem signedDecimal_injective
    {n k : Int}
    (hWritten : signedDecimal n = signedDecimal k) :
    n = k := by
  unfold signedDecimal at hWritten
  split at hWritten <;> split at hWritten
  · have hSize := decimal_injective (List.cons.inj hWritten).2
    omega
  · exact (decimal_ne_sign_cons _ _ hWritten.symm).elim
  · exact (decimal_ne_sign_cons _ _ hWritten).elim
  · have hSize := decimal_injective hWritten
    omega

------------------------------------------------------------
-- Hundredths
------------------------------------------------------------

/- The point and the decimals of some hundredths of a unit. -/
def decimals (part : Nat) : Text :=
  if part = 0 then
    []
  else if part % 10 = 0 then
    '.' :: decimal (part / 10)
  else
    '.' :: padded 2 '0' (decimal part)

/- Hundredths are units followed by decimals. -/
theorem hundredths_eq (n : Nat) :
    hundredths n = decimal (n / 100) ++ decimals (n % 100) := by
  unfold hundredths decimals
  simp only
  split
  · simp
  · split <;> simp

/- No digit stands in front of the point. -/
theorem not_isDigit_head_decimals
    (part : Nat) :
    ∀ c ∈ (decimals part).head?, c.isDigit = false := by
  intro c hHead
  unfold decimals at hHead
  split at hHead
  · simp at hHead
  · have hPoint : c = '.' := by
      split at hHead <;> simpa using hHead.symm
    rw [hPoint]
    rfl

/- The parts of a unit have different decimals. -/
theorem nodup_decimals :
    ((List.range 100).map decimals).Nodup := by
  decide +kernel

/- Hundredths with the same written form are equal. -/
theorem hundredths_injective
    {n k : Nat}
    (hWritten : hundredths n = hundredths k) :
    n = k := by
  rw [hundredths_eq, hundredths_eq] at hWritten
  have hUnits : n / 100 = k / 100 := by
    apply decimal_injective
    rw [← takeWhile_decimal_append (n / 100)
        (not_isDigit_head_decimals (n % 100)),
      hWritten,
      takeWhile_decimal_append (k / 100)
        (not_isDigit_head_decimals (k % 100))]
  have hPart : n % 100 = k % 100 := by
    rw [hUnits] at hWritten
    exact
      List.inj_on_of_nodup_map nodup_decimals
        (List.mem_range.mpr (Nat.mod_lt n (by decide)))
        (List.mem_range.mpr (Nat.mod_lt k (by decide)))
        (List.append_cancel_left hWritten)
  omega

/- Hundredths have digits and perhaps a point. -/
theorem mem_hundredths
    {n : Nat}
    {c : Char}
    (hMem : c ∈ hundredths n) :
    c = '.' ∨ c.isDigit = true := by
  rw [hundredths_eq, List.mem_append] at hMem
  rcases hMem with hUnits | hDecimals
  · exact .inr (isDigit_of_mem_decimal hUnits)
  · have hDigits :
        ∀ width n, c ∈ padded width '0' (decimal n) →
          c.isDigit = true := by
      intro width n hPadded
      rcases List.mem_append.mp hPadded with hFill | hDigit
      · rw [List.eq_of_mem_replicate hFill]
        rfl
      · exact isDigit_of_mem_decimal hDigit
    unfold decimals at hDecimals
    split at hDecimals
    · simp at hDecimals
    · split at hDecimals
      · rcases List.mem_cons.mp hDecimals with rfl | hDigit
        · exact .inl rfl
        · exact .inr (isDigit_of_mem_decimal hDigit)
      · rcases List.mem_cons.mp hDecimals with rfl | hDigit
        · exact .inl rfl
        · exact .inr (hDigits _ _ hDigit)

end Numeral

end SceneScript
