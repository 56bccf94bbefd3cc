import SceneScript.Proofs.Repertoire
import SceneScript.Proofs.TableFile

/-
  Damage to a table file stays in its line.

  Key definitions include:
    * `LineTable.pieces`
    * `LineTable.breakCount`

  Correctness is stated by:
    * `LineTable.intercalate_pieces`
    * `LineTable.length_pieces`
    * `LineTable.infix_of_hasLineBreak_decode`
    * `LineTable.toList_decode_intercalate`
    * `LineTable.toList_decode_pieces`

  A file is decoded before it is cut into lines.  It could as
  well be cut first, since CR and LF are never part of a pair
  and no other byte stands for them.
-/

namespace SceneScript

namespace LineTable

------------------------------------------------------------
-- Pieces
------------------------------------------------------------

/- The bytes between the line breaks of a file. -/
def pieces : List UInt8 → List (List UInt8)
  | [] => [[]]
  | 0x0D :: 0x0A :: rest => [] :: pieces rest
  | byte :: rest => (pieces rest).modifyHead (byte :: ·)

/- The number of places where a line break stands. -/
def breakCount (bytes : List UInt8) : Nat :=
  (List.range bytes.length).countP fun index =>
    bytes[index]? = some 0x0D ∧ bytes[index + 1]? = some 0x0A

/- There is always a piece, if only an empty one. -/
theorem exists_pieces_eq_cons (bytes : List UInt8) :
    ∃ first others, pieces bytes = first :: others := by
  fun_induction pieces bytes with
  | case1 => exact ⟨[], [], rfl⟩
  | case2 rest ih => exact ⟨[], _, rfl⟩
  | case3 byte rest hNot ih =>
      rcases ih with ⟨first, others, hPieces⟩
      exact ⟨byte :: first, others, by rw [hPieces]; rfl⟩

/- The pieces of a file make up the file. -/
theorem intercalate_pieces (bytes : List UInt8) :
    breakBytes.intercalate (pieces bytes) = bytes := by
  fun_induction pieces bytes with
  | case1 => rfl
  | case2 rest ih =>
      rcases exists_pieces_eq_cons rest with
        ⟨first, others, hPieces⟩
      rw [hPieces] at ih ⊢
      rw [List.intercalate_cons_cons, ih]
      rfl
  | case3 byte rest hNot ih =>
      rcases exists_pieces_eq_cons rest with
        ⟨first, others, hPieces⟩
      rw [hPieces] at ih ⊢
      rw [List.modifyHead_cons]
      cases others with
      | nil =>
          rw [List.intercalate_singleton] at ih ⊢
          rw [ih]
      | cons next later =>
          rw [List.intercalate_cons_cons] at ih ⊢
          rw [List.cons_append, List.cons_append, ih]

/- A file starts with its first piece. -/
theorem exists_append_of_pieces
    {bytes first : List UInt8}
    {others : List (List UInt8)}
    (hPieces : pieces bytes = first :: others) :
    ∃ rest, bytes = first ++ rest := by
  have hBytes := intercalate_pieces bytes
  rw [hPieces] at hBytes
  cases others with
  | nil =>
      rw [List.intercalate_singleton] at hBytes
      exact ⟨[], by rw [List.append_nil, hBytes]⟩
  | cons next later =>
      rw [List.intercalate_cons_cons, List.append_assoc]
        at hBytes
      exact ⟨_, hBytes.symm⟩

/- No piece holds a line break. -/
theorem not_infix_of_mem_pieces
    {bytes piece : List UInt8}
    (hPiece : piece ∈ pieces bytes) :
    ¬breakBytes <:+: piece := by
  fun_induction pieces bytes generalizing piece with
  | case1 =>
      rw [List.mem_singleton] at hPiece
      simp [hPiece, breakBytes]
  | case2 rest ih =>
      rcases List.mem_cons.mp hPiece with rfl | hRest
      · simp [breakBytes]
      · exact ih hRest
  | case3 byte rest hNot ih =>
      rcases exists_pieces_eq_cons rest with
        ⟨first, others, hPieces⟩
      rw [hPieces, List.modifyHead_cons] at hPiece
      rw [hPieces] at ih
      rcases List.mem_cons.mp hPiece with rfl | hOther
      · rw [List.infix_cons_iff]
        rintro (hFront | hFirst)
        · rw [breakBytes, List.cons_prefix_cons] at hFront
          rcases hFront with ⟨rfl, later, hLater⟩
          rcases exists_append_of_pieces hPieces with
            ⟨after, hRest⟩
          rw [← hLater] at hRest
          exact hNot _ rfl hRest
        · exact ih List.mem_cons_self hFirst
      · exact ih (List.mem_cons_of_mem _ hOther)

/- A line break is counted where it starts. -/
theorem breakCount_cons
    (byte : UInt8)
    (rest : List UInt8) :
    breakCount (byte :: rest) =
      breakCount rest +
        if byte = 0x0D ∧ rest[0]? = some 0x0A then 1 else 0 := by
  unfold breakCount
  rw [List.length_cons, List.range_succ_eq_map,
    List.countP_cons, List.countP_map]
  simp [Function.comp_def]

/- There is one piece more than there are line breaks. -/
theorem length_pieces (bytes : List UInt8) :
    (pieces bytes).length = breakCount bytes + 1 := by
  fun_induction pieces bytes with
  | case1 => rfl
  | case2 rest ih =>
      rw [List.length_cons, ih, breakCount_cons,
        breakCount_cons]
      simp
  | case3 byte rest hNot ih =>
      have hNone : ¬(byte = 0x0D ∧ rest[0]? = some 0x0A) := by
        rintro ⟨hCr, hLf⟩
        cases rest with
        | nil => simp at hLf
        | cons next later =>
            rw [List.getElem?_cons_zero, Option.some.injEq]
              at hLf
            exact hNot later hCr (by rw [hLf])
      rw [List.length_modifyHead, ih, breakCount_cons,
        if_neg hNone, Nat.add_zero]

------------------------------------------------------------
-- Line Breaks of Decoded Texts
------------------------------------------------------------

/- Only one byte stands for a given ASCII character. -/
theorem eq_ofNat_of_single?
    {byte : UInt8}
    {c : Char}
    (hSingle : ShiftJis.single? byte = some c)
    (hAscii : c.toNat ≤ 0x80) :
    byte = UInt8.ofNat c.toNat := by
  rcases ShiftJis.of_single? hSingle with
    ⟨_, hByte⟩ | ⟨hFrom, _⟩
  · rw [hByte, UInt8.ofNat_toNat]
  · omega

/- A text that starts with LF was decoded from that byte. -/
theorem exists_cons_of_head?_decode
    {bytes : List UInt8}
    (hHead : (ShiftJis.decode bytes).head? = some '\n') :
    ∃ rest, bytes = 0x0A :: rest := by
  rw [ShiftJis.decode, List.head?_map] at hHead
  have hReplacement :
      ShiftJis.replacement ≠ '\n' := by
    decide
  fun_cases ShiftJis.units bytes with
  | case1 => simp [ShiftJis.units] at hHead
  | case2 byte rest c hSingle =>
      rw [ShiftJis.units_cons_of_single? hSingle] at hHead
      have hLf : c = '\n' := by simpa using hHead
      subst hLf
      have hByte := eq_ofNat_of_single? hSingle (by decide)
      exact ⟨rest, by rw [hByte]; rfl⟩
  | case3 lead hSingle hLead =>
      simp [ShiftJis.units, hSingle, hLead, hReplacement]
        at hHead
  | case4 lead hSingle hLead trail rest c hPair =>
      rw [ShiftJis.units_cons_of_pair? hSingle hLead hPair]
        at hHead
      have hLf : c = '\n' := by simpa using hHead
      subst hLf
      have hLarge := ShiftJis.lt_of_pair? hPair
      simp at hLarge
  | case5 lead hSingle hLead trail rest hPair hAscii =>
      simp [ShiftJis.units, hSingle, hLead, hPair, hAscii,
        hReplacement] at hHead
  | case6 lead hSingle hLead trail rest hPair hHigh =>
      simp [ShiftJis.units, hSingle, hLead, hPair, hHigh,
        hReplacement] at hHead
  | case7 byte rest hSingle hLead =>
      rw [ShiftJis.units_cons_of_not_isLead hSingle hLead]
        at hHead
      simp [hReplacement] at hHead

/-
  A line break in a decoded text was one in the bytes.  A
  pair is no CR, and a replaced sequence is none either.
-/
theorem infix_of_hasLineBreak_decode
    {bytes : List UInt8}
    (hBreak :
      Text.hasLineBreak (ShiftJis.decode bytes) = true) :
    breakBytes <:+: bytes := by
  have hBehind {rest : Text}
      (hRest :
        Text.hasLineBreak (ShiftJis.replacement :: rest) =
          true) :
      Text.hasLineBreak rest = true := by
    rw [Text.hasLineBreak_cons_iff] at hRest
    exact hRest.resolve_left fun hFront => by
      simp [ShiftJis.replacement] at hFront
  unfold ShiftJis.decode at hBreak
  fun_induction ShiftJis.units bytes with
  | case1 => simp [Text.hasLineBreak] at hBreak
  | case2 byte rest c hSingle ih =>
      rw [List.map_cons, Text.hasLineBreak_cons_iff] at hBreak
      rcases hBreak with ⟨hCr, hLf⟩ | hLater
      · have hChar : c = '\r' := hCr
        subst hChar
        have hByte := eq_ofNat_of_single? hSingle (by decide)
        rcases exists_cons_of_head?_decode hLf with
          ⟨later, rfl⟩
        rw [hByte]
        exact ⟨[], later, rfl⟩
      · exact List.infix_cons (ih hLater)
  | case3 lead hSingle hLead =>
      exact absurd (hBehind hBreak) (by simp [Text.hasLineBreak])
  | case4 lead hSingle hLead trail rest c hPair ih =>
      rw [List.map_cons, Text.hasLineBreak_cons_iff] at hBreak
      rcases hBreak with ⟨hCr, _⟩ | hLater
      · have hChar : c = '\r' := hCr
        subst hChar
        have hLarge := ShiftJis.lt_of_pair? hPair
        simp at hLarge
      · exact List.infix_cons (List.infix_cons (ih hLater))
  | case5 lead hSingle hLead trail rest hPair hAscii ih =>
      exact List.infix_cons (ih (hBehind hBreak))
  | case6 lead hSingle hLead trail rest hPair hHigh ih =>
      have hRest := ih (hBehind hBreak)
      exact List.infix_cons (List.infix_cons hRest)
  | case7 byte rest hSingle hLead ih =>
      exact List.infix_cons (ih (hBehind hBreak))

------------------------------------------------------------
-- Lines of Files
------------------------------------------------------------

/- The line that some bytes without a line break hold. -/
def lineOf (piece : List UInt8) : Text :=
  Text.toHalf (ShiftJis.decode piece)

/- Pieces without line breaks are the lines of their file. -/
theorem toList_decode_intercalate
    {parts : List (List UInt8)}
    (hNonempty : parts ≠ [])
    (hParts : ∀ part ∈ parts, ¬breakBytes <:+: part) :
    (decode (breakBytes.intercalate parts)).toList =
      parts.map lineOf := by
  have hUnbroken :
      ∀ line ∈ parts.map ShiftJis.decode,
        Text.hasLineBreak line = false := by
    intro line hLine
    rcases List.mem_map.mp hLine with ⟨part, hPart, rfl⟩
    rw [← Bool.not_eq_true]
    intro hBreak
    exact hParts part hPart (infix_of_hasLineBreak_decode hBreak)
  rw [decode, toList_ofList, decode_intercalate,
    Text.splitLines_joinWith (by simpa using hNonempty)
      hUnbroken,
    List.map_map]
  rfl

/- The lines of a file are those of its pieces. -/
theorem toList_decode_eq (bytes : List UInt8) :
    (decode bytes).toList = (pieces bytes).map lineOf := by
  have hNonempty : pieces bytes ≠ [] := by
    rcases exists_pieces_eq_cons bytes with
      ⟨first, others, hPieces⟩
    simp [hPieces]
  have hLines :=
    toList_decode_intercalate hNonempty
      fun _ => not_infix_of_mem_pieces
  rwa [intercalate_pieces] at hLines

/- Another piece in the place of one changes that line only. -/
theorem toList_decode_set
    (bytes : List UInt8)
    (index : Nat)
    {piece : List UInt8}
    (hPiece : ¬breakBytes <:+: piece) :
    (decode
        (breakBytes.intercalate
          ((pieces bytes).set index piece))).toList =
      (decode bytes).toList.set index (lineOf piece) := by
  rw [toList_decode_eq bytes, ← List.map_set]
  apply toList_decode_intercalate
  · rcases exists_pieces_eq_cons bytes with
      ⟨first, others, hPieces⟩
    rw [hPieces]
    cases index <;> simp
  · intro part hPart
    rcases List.mem_or_eq_of_mem_set hPart with hOld | rfl
    · exact not_infix_of_mem_pieces hOld
    · exact hPiece

/-
  The lines of a file are those of the pieces between its line
  breaks, each decoded by itself.  There is one line more than
  there are line breaks, and other bytes in one piece change
  no line but that one.
-/
theorem toList_decode_pieces (bytes : List UInt8) :
    breakBytes.intercalate (pieces bytes) = bytes ∧
      (∀ piece ∈ pieces bytes, ¬breakBytes <:+: piece) ∧
      (decode bytes).toList =
        (pieces bytes).map
          (fun piece => Text.toHalf (ShiftJis.decode piece)) ∧
      (decode bytes).size = breakCount bytes + 1 ∧
      ∀ (index : Nat) (piece : List UInt8),
        ¬breakBytes <:+: piece →
          (decode
              (breakBytes.intercalate
                ((pieces bytes).set index piece))).toList =
            (decode bytes).toList.set index
              (Text.toHalf (ShiftJis.decode piece)) := by
  refine
    ⟨intercalate_pieces bytes,
      fun _ => not_infix_of_mem_pieces,
      toList_decode_eq bytes, ?_, ?_⟩
  · rw [← length_toList, toList_decode_eq, List.length_map,
      length_pieces]
  · intro index piece hPiece
    exact toList_decode_set bytes index hPiece

/-
  A lead byte in front of a line break, and one more put into
  the next piece.  Neither swallows a line.
-/
theorem toList_decode_pieces_lead_bytes :
    ∃ bytes : List UInt8,
      bytes =
          [0x82, 0x0D, 0x0A, 0x61, 0x0D, 0x0D, 0x0A, 0x0A] ∧
        pieces bytes = [[0x82], [0x61, 0x0D], [0x0A]] ∧
        (decode bytes).toList =
          [['\uFFFD'], ['a', '\r'], ['\n']] ∧
        ¬breakBytes <:+: [0x83] ∧
        (decode
            (breakBytes.intercalate
              ((pieces bytes).set 1 [0x83]))).toList =
          [['\uFFFD'], ['\uFFFD'], ['\n']] := by
  have hPiece : ¬breakBytes <:+: [0x83] := by
    decide
  rcases toList_decode_pieces
      [0x82, 0x0D, 0x0A, 0x61, 0x0D, 0x0D, 0x0A, 0x0A] with
    ⟨_, _, hLines, _, hChanged⟩
  refine ⟨_, rfl, rfl, ?_, hPiece, ?_⟩
  · rw [hLines]
    decide
  · rw [hChanged 1 [0x83] hPiece, hLines]
    decide

end LineTable

end SceneScript
