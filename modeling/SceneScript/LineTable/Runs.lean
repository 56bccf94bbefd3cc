import SceneScript.LineTable.Error
import SceneScript.Text.Offsets
import SceneScript.Text.ShiftJis

/-
  The bytes of a line of text.  Two glyphs have bytes of
  their own, and the runs of text between them are encoded as
  a whole.

  Key definitions include:
    * `LineTable.overrides`
    * `LineTable.encodeRun`
    * `LineTable.encodeRuns?`
    * `LineTable.encodeText`

  Correctness is stated by:
    * `LineTable.encodeRun_eq`
    * `LineTable.encodeRuns?_eq`
    * `LineTable.encodeText_eq`

  The runs are cut out at byte offsets.  Every cut stands
  between two characters, so that the line can be encoded.
-/

namespace SceneScript

namespace LineTable

------------------------------------------------------------
-- Overrides
------------------------------------------------------------

/-
  The glyphs that other mappings of the code page disagree
  about, with the pairs of bytes they are written as.
-/
def overrides : List (Char × List UInt8) :=
  [('～', [0x81, 0x60]), ('－', [0x81, 0x7C])]

/- The bytes of a glyph that has bytes of its own. -/
def override? (c : Char) : Option (List UInt8) :=
  (overrides.find? (·.1 == c)).map (·.2)

/- The glyphs have the code that the code page gives them. -/
theorem encodeChar_of_override?
    {c : Char}
    {code : List UInt8}
    (hOverride : override? c = some code) :
    ShiftJis.encodeChar c = some code := by
  have hListed :
      ∀ entry ∈ overrides,
        ShiftJis.encodeChar entry.1 = some entry.2 := by
    decide
  rcases Option.map_eq_some_iff.mp hOverride with
    ⟨⟨glyph, bytes⟩, hFound, hBytes⟩
  have hGlyph := List.find?_some hFound
  have hCode := hListed _ (List.mem_of_find?_eq_some hFound)
  simp only [beq_iff_eq] at hGlyph hBytes hCode
  rw [← hGlyph, ← hBytes]
  exact hCode

------------------------------------------------------------
-- Runs
------------------------------------------------------------

/-
  Append the bytes of a run.  When the run cannot be encoded
  as a whole, its characters are tried one by one to find the
  one to blame.
-/
def encodeRun
    (index : Nat)
    (run : Text)
    (written : Array UInt8) :
    Except Error (Array UInt8) :=
  if run.isEmpty then
    .ok written
  else
    let (bytes, failed) := ShiftJis.encodeLossy run
    if failed then
      let blamed? := run.find? fun c =>
        (ShiftJis.encodeLossy [c]).2
      let blamed := blamed?.getD ShiftJis.replacement
      .error (.unencodable index blamed)
    else
      .ok (written ++ bytes)

/-
  Append the bytes of a line from the offset `start` on.  The
  characters that follow are looked at one by one, and a run
  ends in front of each glyph with bytes of its own.  There
  is no result if an end of a run is inside a character.
-/
def encodeRuns?
    (index : Nat)
    (text : Text) :
    List (Nat × Char) → Nat → Array UInt8 →
      Option (Except Error (Array UInt8))
  | [], start, written => do
      let run ← text.slice? start text.byteLength
      return encodeRun index run written
  | (offset, c) :: rest, start, written =>
      match override? c with
      | none => encodeRuns? index text rest start written
      | some code => do
          let run ← text.slice? start offset
          match encodeRun index run written with
          | .error error => return .error error
          | .ok written =>
              encodeRuns? index text rest
                (offset + c.utf8Size) (written ++ code)

------------------------------------------------------------
-- Runs Against Characters
------------------------------------------------------------

/- A run is appended as its characters are encoded. -/
theorem encodeRun_eq
    (index : Nat)
    (run : Text)
    (written : Array UInt8) :
    encodeRun index run written =
      match ShiftJis.encode run with
      | .error bad => .error (.unencodable index bad)
      | .ok bytes => .ok (written ++ bytes) := by
  cases run with
  | nil => simp [encodeRun, ShiftJis.encode]
  | cons c rest =>
      rw [encodeRun, if_neg (by simp)]
      cases hEncode : ShiftJis.encode (c :: rest) with
      | error bad =>
          have hLossy := ShiftJis.encodeLossy_of_error hEncode
          simp only [hLossy.1, hLossy.2]
          rfl
      | ok bytes =>
          rw [ShiftJis.encodeLossy_of_ok hEncode]
          rfl

/-
  What is left of a line is appended as its characters are
  encoded.  The text in front of the run is done, the run was
  looked at, and the rest is still to be looked at.
-/
theorem encodeRuns?_eq
    (index : Nat)
    (front run rest : Text)
    (written : Array UInt8) :
    encodeRuns? index (front ++ (run ++ rest))
        (Text.charOffsets (front ++ run).byteLength rest)
        front.byteLength written =
      some
        (match ShiftJis.encode (run ++ rest) with
          | .error bad => .error (.unencodable index bad)
          | .ok bytes => .ok (written ++ bytes)) := by
  -- The run grows over plain characters.  At a glyph with
  -- bytes of its own it is done, and an empty one begins.
  induction rest generalizing front run written with
  | nil =>
      have hSlice := Text.slice?_append front run []
      rw [List.append_nil] at hSlice ⊢
      simp only [Text.charOffsets, encodeRuns?, bind,
        Option.bind, hSlice, encodeRun_eq]
      rfl
  | cons c later ih =>
      rw [Text.charOffsets, encodeRuns?]
      cases hOverride : override? c with
      | none =>
          have hRest := ih front (run ++ [c]) written
          rw [← List.append_assoc front run [c],
            Text.byteLength_concat] at hRest
          rw [List.append_cons run c later]
          exact hRest
      | some code =>
          have hSlice :=
            Text.slice?_append front run (c :: later)
          simp only [bind, Option.bind, hSlice, encodeRun_eq,
            ShiftJis.encode_append run (c :: later)]
          cases ShiftJis.encode run with
          | error bad => rfl
          | ok bytes =>
              have hRest :=
                ih (front ++ run ++ [c]) []
                  (written ++ bytes ++ code)
              have hCode := encodeChar_of_override? hOverride
              rw [List.append_nil, List.nil_append,
                List.append_assoc (front ++ run) [c] later,
                List.append_assoc front run,
                List.singleton_append,
                Text.byteLength_concat] at hRest
              simp only [hRest, ShiftJis.encode, hCode]
              cases ShiftJis.encode later with
              | error bad => rfl
              | ok more => simp [Except.map, ← Array.toList_inj]

------------------------------------------------------------
-- Lines of Text
------------------------------------------------------------

/- The runs of a text, from its first character to its end. -/
theorem encodeRuns?_charOffsets
    (index : Nat)
    (text : Text) :
    encodeRuns? index text (Text.charOffsets 0 text) 0 #[] =
      some
        (match ShiftJis.encode text with
          | .error bad => .error (.unencodable index bad)
          | .ok bytes => .ok ((#[] : Array UInt8) ++ bytes)) :=
  encodeRuns?_eq index [] [] text #[]

/-
  The bytes of a text.  Its runs have results, since each of
  their ends is the offset of a character.
-/
def encodeText
    (index : Nat)
    (text : Text) : Except Error (List UInt8) :=
  let runs? :=
    encodeRuns? index text (Text.charOffsets 0 text) 0 #[]
  let written := runs?.get <| by
    simp [runs?, encodeRuns?_charOffsets]
  written.map Array.toList

/- A text is encoded character by character. -/
theorem encodeText_eq
    (index : Nat)
    (text : Text) :
    encodeText index text =
      match ShiftJis.encode text with
      | .error bad => .error (.unencodable index bad)
      | .ok bytes => .ok bytes := by
  simp only [encodeText, encodeRuns?_charOffsets,
    Option.get_some]
  cases ShiftJis.encode text with
  | error bad => rfl
  | ok bytes => simp [Except.map]

end LineTable

end SceneScript
