import SceneScript.Json.Value
import SceneScript.Text.Width

/-
  The smallest pieces of JSON texts: space, words, numbers
  and strings.

  Key definitions include:
    * `Json.skipSpace`
    * `Json.word`
    * `Json.number`
    * `Json.stringBody`

  A reader takes a text and gives a value with the rest of
  the text, or the first fault in reading order.
-/

namespace SceneScript

namespace Json

/- A function that reads a value off the front of a text. -/
abbrev ReadFn (α : Type) :=
  Text → Except Fault (α × Text)

------------------------------------------------------------
-- Space and Words
------------------------------------------------------------

/- The characters that may stand between tokens. -/
def isSpace (c : Char) : Bool :=
  c == ' ' || c == '\t' || c == '\n' || c == '\r'

/- The text without the space in front of it. -/
def skipSpace (input : Text) : Text :=
  input.dropWhile isSpace

/- Read the characters of a word. -/
def word
    {α : Type}
    (value : α)
    (letters : Text) : ReadFn α :=
  fun input =>
    match letters, input with
    | [], rest => .ok (value, rest)
    | _ :: _, [] => .error .unfinished
    | letter :: letters, c :: rest =>
        if c = letter then
          word value letters rest
        else
          .error .malformed

------------------------------------------------------------
-- Numbers
------------------------------------------------------------

/- The digits in front of a text, and what follows them. -/
def digits (input : Text) : Text × Text :=
  (input.takeWhile Char.isDigit,
    input.dropWhile Char.isDigit)

/- The value of a digit. -/
def digitValue (c : Char) : Nat :=
  c.toNat - '0'.toNat

/- The number that digits denote. -/
def digitsValue (ds : Text) : Nat :=
  ds.foldl (fun n c => 10 * n + digitValue c) 0

/- Read the integer part, which has no leading zeros. -/
def integerPart : ReadFn Text
| [] => .error .unfinished
| '0' :: rest =>
    match rest with
    | [] => .ok (['0'], rest)
    | c :: _ =>
        if c.isDigit then
          .error .malformed
        else
          .ok (['0'], rest)
| c :: rest =>
    if c.isDigit then
      .ok (digits (c :: rest))
    else
      .error .malformed

/- Read digits of which there has to be at least one. -/
def someDigits (input : Text) :
    Except Fault (Text × Text) :=
  match digits input with
  | ([], []) => .error .unfinished
  | ([], _ :: _) => .error .malformed
  | found => .ok found

/- Read the fraction, if there is one. -/
def fractionPart : ReadFn (Option Text)
| '.' :: rest => do
    let (ds, rest) ← someDigits rest
    return (some ds, rest)
| input => .ok (none, input)

/- Read the exponent, if there is one. -/
def exponentPart : ReadFn (Option Int)
| [] => .ok (none, [])
| c :: rest =>
    if c = 'e' ∨ c = 'E' then
      let (negative, rest) :=
        match rest with
        | '+' :: rest => (false, rest)
        | '-' :: rest => (true, rest)
        | _ => (false, rest)
      do
        let (ds, rest) ← someDigits rest
        let size : Int := digitsValue ds
        return (some (if negative then -size else size), rest)
    else
      .ok (none, c :: rest)

/- The bound of a significand. -/
def significandBound : Nat := Nat.pow 2 64

/-
  The significand of an integer part, with the number of
  digits for which it has no room.
-/
def significand
    (n : Nat)
    (dropped : Nat) : Text → Nat × Nat
| [] => (n, dropped)
| c :: rest =>
    if dropped = 0 ∧
        10 * n + digitValue c < significandBound then
      significand (10 * n + digitValue c) 0 rest
    else
      significand n (dropped + 1) rest

/-
  The significand continued by a fraction, with the number
  of digits that it takes up.
-/
def extendSignificand
    (n : Nat)
    (taken : Nat) : Text → Nat × Nat
| [] => (n, taken)
| c :: rest =>
    if 10 * n + digitValue c < significandBound then
      extendSignificand (10 * n + digitValue c)
        (taken + 1) rest
    else
      (n, taken)

/-
  A number rounded to 53 significant bits, half to even, as
  in double precision.
-/
def roundToDouble (n : Nat) : Nat :=
  if n < Nat.pow 2 53 then
    n
  else
    let shift := Nat.log2 n - 52
    let unit := Nat.pow 2 shift
    let low := n / unit
    let part := n % unit
    let up :=
      unit < 2 * part || (2 * part == unit && low % 2 == 1)
    (if up then low + 1 else low) * unit

/-
  A significand times a power of ten leaves the range of
  double precision.  Both are rounded before they are
  multiplied.
-/
def exceedsDouble
    (n : Nat)
    (exponent : Int) : Bool :=
  if n = 0 ∨ exponent < 0 then
    false
  else if 308 < exponent then
    true
  else
    let power :=
      roundToDouble (Nat.pow 10 exponent.toNat)
    Nat.pow 2 1024 ≤ roundToDouble (roundToDouble n * power)

/-
  The value of an integer literal.  Beyond 64 bits, and for a
  negative zero, it is not an integer any more.
-/
def integerValue
    (negative : Bool)
    (n : Nat) : Json :=
  if negative then
    if 0 < n ∧ n ≤ Nat.pow 2 63 then int (-n) else real
  else
    if n < Nat.pow 2 64 then int n else real

/- Read the part of a number behind its sign. -/
def unsignedNumber
    (negative : Bool) : ReadFn Json :=
  fun input => do
    let (whole, rest) ← integerPart input
    let (fraction, rest) ← fractionPart rest
    let (exponent, rest) ← exponentPart rest
    let (n, dropped) := significand 0 0 whole
    let (n, taken) := extendSignificand n 0 (fraction.getD [])
    let scale : Int := exponent.getD 0 + dropped - taken
    if exceedsDouble n scale then
      throw .malformed
    match fraction, exponent with
    | none, none =>
        return (integerValue negative (digitsValue whole), rest)
    | _, _ => return (real, rest)

/- Read a number. -/
def number : ReadFn Json
| '-' :: rest => unsignedNumber true rest
| input => unsignedNumber false input

------------------------------------------------------------
-- Strings
------------------------------------------------------------

/- The value of a hexadecimal digit. -/
def hexDigit? (c : Char) : Option Nat :=
  if '0' ≤ c ∧ c ≤ '9' then
    some (c.toNat - '0'.toNat)
  else if 'a' ≤ c ∧ c ≤ 'f' then
    some (c.toNat - 'a'.toNat + 10)
  else if 'A' ≤ c ∧ c ≤ 'F' then
    some (c.toNat - 'A'.toNat + 10)
  else
    none

/-
  Read four hexadecimal digits.  A text of less than four
  bytes ends too early whatever it holds.
-/
def fourHex : ReadFn Nat
| a :: b :: c :: d :: rest =>
    match hexDigit? a, hexDigit? b,
        hexDigit? c, hexDigit? d with
    | some a, some b, some c, some d =>
        .ok (((a * 16 + b) * 16 + c) * 16 + d, rest)
    | _, _, _, _ => .error .malformed
| few =>
    if few.foldr (fun c size => c.utf8Size + size) 0 < 4 then
      .error .unfinished
    else
      .error .malformed

/- The first half of a surrogate pair. -/
def isHighSurrogate (unit : Nat) : Bool :=
  0xD800 ≤ unit && unit ≤ 0xDBFF

/- The second half of a surrogate pair. -/
def isLowSurrogate (unit : Nat) : Bool :=
  0xDC00 ≤ unit && unit ≤ 0xDFFF

/- Read the second half that has to follow a first half. -/
def lowSurrogate : ReadFn Nat
| [] => .error .unfinished
| ['\\'] => .error .unfinished
| '\\' :: 'u' :: rest => do
    let (unit, rest) ← fourHex rest
    if isLowSurrogate unit then
      return (unit, rest)
    else
      throw .malformed
| _ => .error .malformed

/-
  Read the character of a `\u` escape.  Halves of surrogate
  pairs have to come in pairs.
-/
def unicodeEscape : ReadFn Char :=
  fun input => do
    let (unit, rest) ← fourHex input
    if isLowSurrogate unit then
      throw .malformed
    else if isHighSurrogate unit then
      let (low, rest) ← lowSurrogate rest
      let offset := (unit - 0xD800) * 0x400 + (low - 0xDC00)
      return (Char.ofNat (0x10000 + offset), rest)
    else
      return (Char.ofNat unit, rest)

/- Read what follows a backslash. -/
def escape : ReadFn Char
| [] => .error .unfinished
| c :: rest =>
    match c with
    | '"' => .ok ('"', rest)
    | '\\' => .ok ('\\', rest)
    | '/' => .ok ('/', rest)
    | 'b' => .ok ('\x08', rest)
    | 'f' => .ok ('\x0C', rest)
    | 'n' => .ok ('\n', rest)
    | 'r' => .ok ('\r', rest)
    | 't' => .ok ('\t', rest)
    | 'u' => unicodeEscape rest
    | _ => .error .malformed

/- Four digits are taken off the front. -/
theorem length_of_fourHex
    {input rest : Text}
    {unit : Nat}
    (hRead : fourHex input = .ok (unit, rest)) :
    rest.length < input.length := by
  unfold fourHex at hRead
  split at hRead
  · split at hRead
    · simp only [Except.ok.injEq, Prod.mk.injEq] at hRead
      rw [← hRead.2]
      simp only [List.length_cons]
      omega
    · simp at hRead
  · split at hRead <;> simp at hRead

/- The second half is taken off the front. -/
theorem length_of_lowSurrogate
    {input rest : Text}
    {unit : Nat}
    (hRead : lowSurrogate input = .ok (unit, rest)) :
    rest.length < input.length := by
  unfold lowSurrogate at hRead
  split at hRead
  · simp at hRead
  · simp at hRead
  · rename_i digits
    cases hHex : fourHex digits with
    | error fault =>
        simp [hHex, bind, Except.bind] at hRead
    | ok found =>
        have hLess := length_of_fourHex hHex
        simp only [hHex, bind, Except.bind] at hRead
        split at hRead
        · simp only [pure, Except.pure, Except.ok.injEq,
            Prod.mk.injEq] at hRead
          rw [← hRead.2]
          simp only [List.length_cons]
          omega
        · simp [throw, throwThe, MonadExceptOf.throw] at hRead
  · simp at hRead

/- A unicode escape is taken off the front. -/
theorem length_of_unicodeEscape
    {input rest : Text}
    {c : Char}
    (hRead : unicodeEscape input = .ok (c, rest)) :
    rest.length < input.length := by
  unfold unicodeEscape at hRead
  cases hHex : fourHex input with
  | error fault =>
      simp [hHex, bind, Except.bind] at hRead
  | ok found =>
      have hLess := length_of_fourHex hHex
      simp only [hHex, bind, Except.bind] at hRead
      split at hRead
      · simp [throw, throwThe, MonadExceptOf.throw] at hRead
      · split at hRead
        · cases hLow : lowSurrogate found.2 with
          | error fault => simp [hLow] at hRead
          | ok low =>
              have hLow' := length_of_lowSurrogate hLow
              simp only [hLow, pure, Except.pure,
                Except.ok.injEq, Prod.mk.injEq] at hRead
              rw [← hRead.2]
              omega
        · simp only [pure, Except.pure, Except.ok.injEq,
            Prod.mk.injEq] at hRead
          rw [← hRead.2]
          exact hLess

/- An escape is taken off the front. -/
theorem length_of_escape
    {input rest : Text}
    {c : Char}
    (hRead : escape input = .ok (c, rest)) :
    rest.length < input.length := by
  unfold escape at hRead
  split at hRead
  · simp at hRead
  · rename_i first later
    split at hRead
    case h_9 =>
      have hLess := length_of_unicodeEscape hRead
      simp only [List.length_cons]
      omega
    case h_10 => simp at hRead
    all_goals
      simp only [Except.ok.injEq, Prod.mk.injEq] at hRead
      rw [← hRead.2]
      simp

/-
  Read the characters of a string up to the closing quotation
  mark, which is taken too.  Raw controls are refused.
-/
def stringBody (input : Text) :
    Except Fault (Text × Text) :=
  match input with
  | [] => .error .unfinished
  | c :: rest =>
      if c = '"' then
        .ok ([], rest)
      else if c = '\\' then
        match _hEscape : escape rest with
        | .error fault => .error fault
        | .ok (shown, rest') =>
            match stringBody rest' with
            | .error fault => .error fault
            | .ok (later, rest'') => .ok (shown :: later, rest'')
      else if c.toNat < 0x20 then
        .error .malformed
      else
        match stringBody rest with
        | .error fault => .error fault
        | .ok (later, rest') => .ok (c :: later, rest')
termination_by input.length
decreasing_by
  · have hLess := length_of_escape _hEscape
    simp only [List.length_cons]
    omega
  · simp

/- Read a string behind its opening quotation mark. -/
def stringRest : ReadFn String :=
  fun input => do
    let (chars, rest) ← stringBody input
    return (String.ofList chars, rest)

end Json

end SceneScript
