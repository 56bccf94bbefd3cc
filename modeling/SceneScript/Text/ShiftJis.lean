import SceneScript.Text.Width
import SceneScript.Text.ShiftJis.Rows

/-
  Shift_JIS texts.

  Key definitions include:
    * `ShiftJis.pair?`
    * `ShiftJis.units`
    * `ShiftJis.decode`
    * `ShiftJis.isWellFormed`
    * `ShiftJis.encodeChar`
    * `ShiftJis.encode`
    * `ShiftJis.encodeLossy`

  Correctness is stated by:
    * `ShiftJis.encode_append`
    * `ShiftJis.encodeLossy_of_ok`
    * `ShiftJis.encodeLossy_of_error`

  Decoding never fails.  A malformed sequence becomes one
  replacement character, and a trail byte below 0x80 that has
  no character with its lead byte is decoded again by itself,
  so that a damaged pair never hides an ASCII character.

  Encoding fails at the first character that has no code.  It
  may also go on with a reference in place of the character,
  and tell only that there was one.  A character with several
  codes takes the first one in byte order outside the rows ED
  and EE, which only repeat characters of later rows.
-/

namespace SceneScript

namespace ShiftJis

------------------------------------------------------------
-- Cells and Trail Bytes
------------------------------------------------------------

/- The cell that a trail byte selects in its row. -/
def cellOfTrail? (trail : UInt8) : Option Nat :=
  if 0x40 ≤ trail ∧ trail ≤ 0x7E then
    some (trail.toNat - 0x40)
  else if 0x80 ≤ trail ∧ trail ≤ 0xFC then
    some (trail.toNat - 0x41)
  else
    none

/- The trail byte that selects a cell. -/
def trailOfCell (cell : Nat) : UInt8 :=
  if cell < 63 then
    UInt8.ofNat (0x40 + cell)
  else
    UInt8.ofNat (0x41 + cell)

------------------------------------------------------------
-- Decoding
------------------------------------------------------------

/- What stands for a malformed sequence in decoded text. -/
def replacement : Char := '\uFFFD'

/- The character of a byte that is not part of a pair. -/
def single? (byte : UInt8) : Option Char :=
  if byte ≤ 0x80 then
    some (Char.ofNat byte.toNat)
  else if 0xA1 ≤ byte ∧ byte ≤ 0xDF then
    some (Char.ofNat (0xFF61 + (byte.toNat - 0xA1)))
  else
    none

/- A byte that opens a pair. -/
def isLead (byte : UInt8) : Bool :=
  (0x81 ≤ byte && byte ≤ 0x9F) ||
    (0xE0 ≤ byte && byte ≤ 0xFC)

/-
  The character of a pair.  The lead bytes from F0 to F9 hold
  private-use characters in one run.
-/
def pair?
    (lead trail : UInt8) : Option Char :=
  match cellOfTrail? trail with
  | none => none
  | some cell =>
      if 0xF0 ≤ lead ∧ lead ≤ 0xF9 then
        let row := lead.toNat - 0xF0
        some (Char.ofNat (0xE000 + 188 * row + cell))
      else
        match rows.find? (·.lead == lead) with
        | none => none
        | some row => row.char? cell

/-
  The characters of a byte string in order, with `none` for
  each malformed sequence.
-/
def units : List UInt8 → List (Option Char)
  | [] => []
  | byte :: rest =>
      match single? byte with
      | some c => some c :: units rest
      | none =>
          if isLead byte then
            match rest with
            | [] => [none]
            | trail :: rest' =>
                match pair? byte trail with
                | some c => some c :: units rest'
                | none =>
                    if trail < 0x80 then
                      none :: units (trail :: rest')
                    else
                      none :: units rest'
          else
            none :: units rest

/- Decode with a replacement for each malformed sequence. -/
def decode (bytes : List UInt8) : Text :=
  (units bytes).map (·.getD replacement)

/- No sequence of a byte string is malformed. -/
def isWellFormed (bytes : List UInt8) : Bool :=
  (units bytes).all (·.isSome)

------------------------------------------------------------
-- Encoding
------------------------------------------------------------

/- Rows that are left out when a character is looked up. -/
def isRepeatedRow (row : Row) : Bool :=
  row.lead == 0xED || row.lead == 0xEE

/- The first pair that holds a character. -/
def findPair? (c : Char) : Option (List UInt8) :=
  rows.findSome? fun row =>
    if isRepeatedRow row then
      none
    else
      (row.cell? c).map fun cell =>
        [row.lead, trailOfCell cell]

/-
  The code of a character.  Yen sign and overline take the
  places of `\` and `~`, and the minus sign is written like
  the full-width hyphen.
-/
def encodeChar (c : Char) : Option (List UInt8) :=
  if c.toNat ≤ 0x80 then
    some [UInt8.ofNat c.toNat]
  else if c = '¥' then
    some [0x5C]
  else if c = '‾' then
    some [0x7E]
  else if 0xFF61 ≤ c.toNat ∧ c.toNat ≤ 0xFF9F then
    some [UInt8.ofNat (c.toNat - 0xFF61 + 0xA1)]
  else if c = '−' then
    findPair? '－'
  else
    findPair? c

/-
  The codes of the characters of a text, or the first
  character that has no code.
-/
def encode : Text → Except Char (List UInt8)
  | [] => .ok []
  | c :: rest =>
      match encodeChar c with
      | none => .error c
      | some code =>
          match encode rest with
          | .error bad => .error bad
          | .ok bytes => .ok (code ++ bytes)

/- Texts behind each other are encoded one after the other. -/
theorem encode_append (front rest : Text) :
    encode (front ++ rest) =
      match encode front with
      | .error bad => .error bad
      | .ok bytes => (encode rest).map (bytes ++ ·) := by
  induction front with
  | nil =>
      rw [List.nil_append, encode]
      cases encode rest <;> rfl
  | cons c later ih =>
      rw [List.cons_append, encode, encode, ih]
      cases encodeChar c with
      | none => rfl
      | some code =>
          cases encode later with
          | error bad => rfl
          | ok bytes =>
              cases encode rest <;> simp [Except.map]

------------------------------------------------------------
-- References
------------------------------------------------------------

/- The number of a character, written as a reference. -/
def reference (c : Char) : List UInt8 :=
  let digits := (toString c.toNat).toList
  let written := ['&', '#'] ++ digits ++ [';']
  written.map fun mark => UInt8.ofNat mark.toNat

/-
  The codes of the characters of a text, with a reference for
  each character that has none, and whether there was one.
-/
def encodeLossy : Text → List UInt8 × Bool
  | [] => ([], false)
  | c :: rest =>
      let (bytes, failed) := encodeLossy rest
      match encodeChar c with
      | none => (reference c ++ bytes, true)
      | some code => (code ++ bytes, failed)

/- A text that is encoded needs no reference. -/
theorem encodeLossy_of_ok
    {text : Text}
    {bytes : List UInt8}
    (hBytes : encode text = .ok bytes) :
    encodeLossy text = (bytes, false) := by
  induction text generalizing bytes with
  | nil =>
      cases hBytes
      rfl
  | cons c rest ih =>
      rw [encode] at hBytes
      rw [encodeLossy]
      split at hBytes
      · simp at hBytes
      · rename_i code hCode
        split at hBytes
        · simp at hBytes
        · rename_i later hLater
          cases hBytes
          rw [ih hLater]

/- One character needs a reference if it has no code. -/
theorem encodeLossy_singleton (c : Char) :
    (encodeLossy [c]).2 = (encodeChar c).isNone := by
  rw [encodeLossy]
  cases encodeChar c <;> rfl

/-
  A text that is not encoded needs a reference, and the first
  character that needs one by itself is to blame.
-/
theorem encodeLossy_of_error
    {text : Text}
    {bad : Char}
    (hBad : encode text = .error bad) :
    (encodeLossy text).2 = true ∧
      text.find? (fun c => (encodeLossy [c]).2) =
        some bad := by
  induction text with
  | nil => simp [encode] at hBad
  | cons c rest ih =>
      rw [encode] at hBad
      rw [encodeLossy, List.find?_cons,
        encodeLossy_singleton]
      split at hBad
      · rename_i hNone
        rw [Except.error.injEq] at hBad
        rw [hNone, hBad]
        exact ⟨rfl, rfl⟩
      · rename_i code hCode
        split at hBad
        · rename_i later hLater
          rw [Except.error.injEq] at hBad
          rw [hCode]
          exact ih (hBad ▸ hLater)
        · simp at hBad

end ShiftJis

end SceneScript
