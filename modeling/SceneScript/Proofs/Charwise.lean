import SceneScript.Proofs.Settling

/-
  A table file character by character.

  Key definitions include:
    * `LineTable.charBytes`
    * `LineTable.IsWritable`
    * `LineTable.Refuses`

  Correctness is stated by:
    * `LineTable.isStored_iff`
    * `LineTable.encodeLine_eq_error_iff`
    * `LineTable.encode_charwise`

  A line is cut into runs when it is encoded, and a run is
  encoded as a whole.  Neither the bytes nor the character
  that is blamed depend on where the runs end.
-/

namespace SceneScript

------------------------------------------------------------
-- Characters
------------------------------------------------------------

/- The codes of the characters of a text make up its bytes. -/
theorem ShiftJis.encode_of_coded
    {text : Text}
    (hCodes : ∀ c ∈ text, encodeChar c ≠ none) :
    encode text =
      .ok (text.flatMap fun c => (encodeChar c).getD []) := by
  induction text with
  | nil => rfl
  | cons c rest ih =>
      rw [List.forall_mem_cons] at hCodes
      rw [encode, ih hCodes.2, List.flatMap_cons]
      cases hCode : encodeChar c with
      | none => exact (hCodes.1 hCode).elim
      | some code => rfl

/- A text is encoded exactly if its characters have codes. -/
theorem ShiftJis.encode_eq_ok_iff
    {text : Text}
    {bytes : List UInt8} :
    encode text = .ok bytes ↔
      (∀ c ∈ text, encodeChar c ≠ none) ∧
        bytes =
          text.flatMap fun c => (encodeChar c).getD [] := by
  constructor
  · intro hBytes
    have hCodes := exists_encode_iff.mp ⟨bytes, hBytes⟩
    rw [encode_of_coded hCodes, Except.ok.injEq] at hBytes
    exact ⟨hCodes, hBytes.symm⟩
  · rintro ⟨hCodes, rfl⟩
    exact encode_of_coded hCodes

namespace LineTable

/-
  The bytes of a character in a table file.  Two glyphs have
  bytes of their own, and a character without a code has no
  bytes.
-/
def charBytes (c : Char) : List UInt8 :=
  if c = '～' then
    [0x81, 0x60]
  else if c = '－' then
    [0x81, 0x7C]
  else
    (ShiftJis.encodeChar c).getD []

/- The bytes of a character are its code. -/
theorem charBytes_eq (c : Char) :
    charBytes c = (ShiftJis.encodeChar c).getD [] := by
  unfold charBytes
  split
  · rename_i hTilde
    rw [hTilde]
    decide
  · split
    · rename_i hHyphen
      rw [hHyphen]
      decide
    · rfl

------------------------------------------------------------
-- Lines
------------------------------------------------------------

/-
  A line that can be written.  It holds no line break, and
  its characters have codes once they are full-width.
-/
def IsWritable (line : Text) : Prop :=
  ¬Text.lineBreak <:+: line ∧
    ∀ c ∈ line.toFull, ShiftJis.encodeChar c ≠ none

/- A look at each character tells whether it can be written. -/
theorem isWritable_iff (line : Text) :
    IsWritable line ↔
      (!line.hasLineBreak && line.toFull.all fun c =>
        (ShiftJis.encodeChar c).isSome) = true := by
  rw [IsWritable, ← Text.hasLineBreak_iff_infix]
  simp [Option.isSome_iff_ne_none]

instance (line : Text) : Decidable (IsWritable line) :=
  decidable_of_iff' _ (isWritable_iff line)

/- Why a line is refused that cannot be written. -/
inductive Refuses
    (index : Nat)
    (line : Text) : Error → Prop
| lineBreak
    (hBreak : Text.lineBreak <:+: line) :
    Refuses index line (.lineBreak index)
| unencodable
    {c : Char}
    (hUnbroken : ¬Text.lineBreak <:+: line)
    (hFirst :
      line.toFull.find? (ShiftJis.encodeChar · = none) =
        some c) :
    Refuses index line (.unencodable index c)

/- A line is stored as the bytes of its characters. -/
theorem isStored_iff
    {line : Text}
    {bytes : List UInt8} :
    IsStored line bytes ↔
      IsWritable line ∧
        bytes = line.toFull.flatMap charBytes := by
  rw [IsStored, IsWritable, ShiftJis.encode_eq_ok_iff,
    ← Text.hasLineBreak_iff_infix, Bool.not_eq_true,
    funext charBytes_eq, and_assoc]

/- Lines are stored one by one as their characters are. -/
theorem forall₂_isStored_iff
    {lines : List Text}
    {parts : List (List UInt8)} :
    List.Forall₂ IsStored lines parts ↔
      (∀ line ∈ lines, IsWritable line) ∧
        parts =
          lines.map fun line =>
            line.toFull.flatMap charBytes := by
  rw [← forall₂_and_eq_iff]
  constructor
  · apply List.Forall₂.imp
    intro line bytes hStored
    exact isStored_iff.mp hStored
  · apply List.Forall₂.imp
    intro line bytes hWritable
    exact isStored_iff.mpr hWritable

/- A line fails as it is refused. -/
theorem encodeLine_eq_error_iff
    (index : Nat)
    {line : Text}
    {error : Error} :
    encodeLine index line = .error error ↔
      Refuses index line error := by
  have hBreaks := Text.hasLineBreak_iff_infix line
  rw [encodeLine_eq]
  by_cases hBreak : Text.lineBreak <:+: line
  · rw [if_pos (hBreaks.mpr hBreak), Except.error.injEq]
    constructor
    · rintro rfl
      exact .lineBreak hBreak
    · rintro (_ | hUnbroken)
      · rfl
      · exact (hUnbroken hBreak).elim
  · rw [if_neg (hBreak ∘ hBreaks.mp)]
    constructor
    · intro hFails
      cases hEncode : ShiftJis.encode line.toFull with
      | ok bytes => simp [hEncode] at hFails
      | error c =>
          rw [hEncode, Except.error.injEq] at hFails
          rw [← hFails]
          apply Refuses.unencodable hBreak
          exact ShiftJis.encode_eq_error_iff.mp hEncode
    · rintro (hBroken | ⟨_, hFirst⟩)
      · exact (hBreak hBroken).elim
      · rw [ShiftJis.encode_eq_error_iff.mpr hFirst]

/- Only a line with a replacement character is blamed for it. -/
theorem Refuses.replacement_mem
    {index : Nat}
    {line : Text}
    (hRefuses :
      Refuses index line
        (.unencodable index ShiftJis.replacement)) :
    ShiftJis.replacement ∈ line := by
  have hInert : ShiftJis.replacement ∉ Width.active := by
    decide
  rcases hRefuses with _ | ⟨_, hFirst⟩
  have hMem := List.mem_of_find?_eq_some hFirst
  rcases List.mem_map.mp hMem with ⟨c, hChar, hFull⟩
  rw [Width.keepsInert_fullChar.eq_iff hInert] at hFull
  exact hFull ▸ hChar

------------------------------------------------------------
-- Tables
------------------------------------------------------------

/-
  A table is encoded exactly if all its lines can be written,
  and then as the bytes of their characters with a line break
  between neighbouring lines.  Otherwise the first line that
  cannot be written decides the failure, for its line break
  or for its first character without a code.  The replacement
  character is blamed only where the line holds it.
-/
theorem encode_charwise (table : LineTable) :
    (∀ bytes,
      table.encode = .ok bytes ↔
        (∀ line ∈ table.toList, IsWritable line) ∧
          bytes =
            breakBytes.intercalate
              (table.toList.map fun line =>
                line.toFull.flatMap charBytes)) ∧
      (∀ error,
        table.encode = .error error ↔
          ∃ index line,
            table.toList[index]? = some line ∧
              Refuses index line error ∧
              ∀ earlier ∈ table.toList.take index,
                IsWritable earlier) ∧
      ∀ index,
        table.encode =
            .error
              (.unencodable index ShiftJis.replacement) →
          ∃ line,
            table.toList[index]? = some line ∧
              ShiftJis.replacement ∈ line := by
  have hFails (error : Error) :
      table.encode = .error error ↔
        ∃ index line,
          table.toList[index]? = some line ∧
            Refuses index line error ∧
            ∀ earlier ∈ table.toList.take index,
              IsWritable earlier := by
    simp only [encode_eq_error_iff, encodeLine_eq_error_iff,
      isStored_iff, exists_and_left, exists_eq, and_true]
  refine ⟨?_, hFails, ?_⟩
  · intro bytes
    rw [encode_eq_ok_iff]
    simp only [forall₂_isStored_iff]
    constructor
    · rintro ⟨_, ⟨hWritable, rfl⟩, rfl⟩
      exact ⟨hWritable, rfl⟩
    · rintro ⟨hWritable, rfl⟩
      exact ⟨_, ⟨hWritable, rfl⟩, rfl⟩
  · intro index hEncode
    rcases (hFails _).mp hEncode with
      ⟨position, line, hLine, hRefuses, _⟩
    have hIndex : position = index := by
      cases hRefuses
      rfl
    subst hIndex
    exact ⟨line, hLine, hRefuses.replacement_mem⟩

/-
  Glyphs with bytes of their own at both ends of a run, next
  to each other and behind wider characters.  Behind that line
  a character without a code is blamed, and not the one that
  follows it.
-/
theorem encode_charwise_neighbouring_glyphs :
    ∃ (line refused : Text) (bytes : List UInt8),
      line = ['あ', '～', '-', '~', 'a', '|', '－'] ∧
        refused = ['b', '-', '〜', '~', '🎵'] ∧
        bytes =
          [0x82, 0xA0, 0x81, 0x60, 0x81, 0x7C, 0x81, 0x60,
            0x82, 0x81, 0x7C, 0x81, 0x7C, 0x0D, 0x0A] ∧
        (ofList [line, []]).encode = .ok bytes ∧
        (ofList [line, refused]).encode =
          .error (.unencodable 1 '〜') := by
  let line : Text := ['あ', '～', '-', '~', 'a', '|', '－']
  let refused : Text := ['b', '-', '〜', '~', '🎵']
  have hLine : IsWritable line := by
    decide
  have hEmpty : IsWritable [] := by
    decide
  have hFirst :
      refused.toFull.find? (ShiftJis.encodeChar · = none) =
        some '〜' := by
    have hFull :
        refused.toFull = ['ｂ', '－', '〜', '～', '🎵'] := by
      decide
    rw [hFull, List.find?_cons_of_neg (by decide),
      List.find?_cons_of_neg (by decide),
      List.find?_cons_of_pos
        (by simp [ShiftJis.encodeChar_waveDash])]
  refine ⟨line, refused, _, rfl, rfl, rfl, ?_, ?_⟩
  · apply ((encode_charwise _).1 _).mpr
    rw [toList_ofList]
    exact ⟨by simp [hLine, hEmpty], by decide⟩
  · apply ((encode_charwise _).2.1 _).mpr
    rw [toList_ofList]
    refine
      ⟨1, refused, rfl, .unencodable (by decide) hFirst, ?_⟩
    intro earlier hEarlier
    rw [List.mem_singleton.mp hEarlier]
    exact hLine

end LineTable

end SceneScript
