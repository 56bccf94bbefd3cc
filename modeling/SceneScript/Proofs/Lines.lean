import Mathlib.Data.List.Basic
import SceneScript.Text.Lines

/-
  Cutting a text undoes joining one.  Pieces that do not hold
  the separator, and lines that do not hold a line break, come
  back as they were joined.

  Key definitions include:
    * `Text.IsStripped`

  Correctness is stated by:
    * `Text.splitOn_joinWith`
    * `Text.joinWith_splitOn`
    * `Text.splitOn_map`
    * `Text.splitLines_joinWith`
    * `Text.hasLineBreak_iff_infix`
    * `Text.hasLineBreak_map`
    * `Text.IsStripped.hasLineBreak_eq`

  A line may end in CR or begin with LF.  The line break
  behind or in front of it is still the one that cuts.
-/

namespace SceneScript

namespace Text

------------------------------------------------------------
-- Pieces
------------------------------------------------------------

/- A text without the separator is its only piece. -/
theorem splitOn_of_not_mem
    {separator : Char}
    {text : Text}
    (hText : separator ∉ text) :
    splitOn separator text = [text] := by
  induction text with
  | nil => rfl
  | cons c rest ih =>
      have hHead : c ≠ separator := by
        intro h
        exact hText (by simp [h])
      have hRest : separator ∉ rest := by
        intro h
        exact hText (by simp [h])
      rw [splitOn, if_neg hHead, ih hRest]
      rfl

/- A character stays in front when pieces follow. -/
theorem consToFirst_append
    (c : Char)
    {pieces : List Text}
    (hNonempty : pieces ≠ [])
    (later : List Text) :
    consToFirst c (pieces ++ later) =
      consToFirst c pieces ++ later := by
  cases pieces with
  | nil => exact (hNonempty rfl).elim
  | cons piece rest => rfl

/- The text on both sides of a separator is cut by itself. -/
theorem splitOn_append_cons
    (separator : Char)
    (text rest : Text) :
    splitOn separator (text ++ separator :: rest) =
      splitOn separator text ++ splitOn separator rest := by
  induction text with
  | nil => simp [splitOn]
  | cons c later ih =>
      rw [List.cons_append, splitOn, splitOn, ih]
      by_cases hHead : c = separator
      · rw [if_pos hHead, if_pos hHead]
        rfl
      · rw [if_neg hHead, if_neg hHead]
        exact
          consToFirst_append c
            (splitOn_ne_nil separator later) _

/- Only the first piece stands in front of the separator. -/
theorem joinWith_cons_cons
    (separator piece next : Text)
    (later : List Text) :
    joinWith separator (piece :: next :: later) =
      piece ++ separator ++
        joinWith separator (next :: later) :=
  rfl

/- Every piece but the first has the separator in front. -/
theorem joinWith_cons
    (separator piece : Text)
    (pieces : List Text) :
    joinWith separator (piece :: pieces) =
      piece ++ pieces.flatMap fun next => separator ++ next := by
  induction pieces generalizing piece with
  | nil => simp [joinWith]
  | cons next later ih =>
      rw [joinWith_cons_cons, ih, List.flatMap_cons,
        List.append_assoc, List.append_assoc]

/- A character in front of some pieces is the only new one. -/
theorem mem_of_mem_consToFirst
    {c d : Char}
    {pieces : List Text}
    {piece : Text}
    (hPiece : piece ∈ consToFirst d pieces)
    (hMem : c ∈ piece) :
    c = d ∨ ∃ other ∈ pieces, c ∈ other := by
  cases pieces with
  | nil =>
      rw [consToFirst, List.mem_singleton] at hPiece
      subst hPiece
      exact .inl (List.mem_singleton.mp hMem)
  | cons first later =>
      rcases List.mem_cons.mp hPiece with rfl | hLater
      · rcases List.mem_cons.mp hMem with hHead | hFirst
        · exact .inl hHead
        · exact .inr ⟨first, List.mem_cons_self, hFirst⟩
      · exact
          .inr
            ⟨piece, List.mem_cons_of_mem _ hLater, hMem⟩

/- The pieces of a text have no other characters. -/
theorem mem_of_mem_splitOn
    {separator c : Char}
    {text piece : Text}
    (hPiece : piece ∈ splitOn separator text)
    (hMem : c ∈ piece) :
    c ∈ text := by
  induction text generalizing piece with
  | nil =>
      rw [splitOn, List.mem_singleton] at hPiece
      subst hPiece
      exact hMem
  | cons d rest ih =>
      rw [splitOn] at hPiece
      split at hPiece
      · rcases List.mem_cons.mp hPiece with rfl | hRest
        · simp at hMem
        · exact List.mem_cons_of_mem _ (ih hRest hMem)
      · rcases mem_of_mem_consToFirst hPiece hMem with
          rfl | ⟨other, hOther, hChar⟩
        · exact List.mem_cons_self
        · exact List.mem_cons_of_mem _ (ih hOther hChar)

/-
  Joined pieces are cut at the separators between them and
  where each piece is cut by itself.
-/
theorem splitOn_joinWith_eq_flatMap
    {separator : Char}
    {pieces : List Text}
    (hNonempty : pieces ≠ []) :
    splitOn separator (joinWith [separator] pieces) =
      pieces.flatMap (splitOn separator) := by
  induction pieces with
  | nil => exact (hNonempty rfl).elim
  | cons piece rest ih =>
      cases rest with
      | nil => simp [joinWith]
      | cons next later =>
          rw [joinWith_cons_cons, List.append_assoc,
            List.singleton_append, splitOn_append_cons,
            ih (by simp)]
          rfl

/- Pieces without the separator survive being joined. -/
theorem splitOn_joinWith
    {separator : Char}
    {pieces : List Text}
    (hNonempty : pieces ≠ [])
    (hPieces : ∀ piece ∈ pieces, separator ∉ piece) :
    splitOn separator (joinWith [separator] pieces) =
      pieces := by
  rw [splitOn_joinWith_eq_flatMap hNonempty]
  calc
    pieces.flatMap (splitOn separator)
    _ = pieces.flatMap fun piece => [piece] :=
        List.flatMap_congr fun piece hPiece =>
          splitOn_of_not_mem (hPieces piece hPiece)
    _ = pieces := List.flatMap_singleton' pieces

/- The first piece takes a character that is put in front. -/
theorem joinWith_consToFirst
    (separator : Text)
    (c : Char)
    {pieces : List Text}
    (hNonempty : pieces ≠ []) :
    joinWith separator (consToFirst c pieces) =
      c :: joinWith separator pieces := by
  cases pieces with
  | nil => exact (hNonempty rfl).elim
  | cons piece rest => cases rest <;> rfl

/- The pieces of a text are joined to the text again. -/
theorem joinWith_splitOn
    (separator : Char)
    (text : Text) :
    joinWith [separator] (splitOn separator text) = text := by
  induction text with
  | nil => rfl
  | cons c rest ih =>
      have hPieces := splitOn_ne_nil separator rest
      rw [splitOn]
      by_cases hHead : c = separator
      · rw [if_pos hHead, hHead]
        cases hSplit : splitOn separator rest with
        | nil => exact (hPieces hSplit).elim
        | cons next later =>
            rw [joinWith_cons_cons, ← hSplit, ih]
            rfl
      · rw [if_neg hHead, joinWith_consToFirst _ _ hPieces,
          ih]

/- A piece is not longer than all pieces together. -/
theorem length_le_joinWith
    (separator : Text)
    {pieces : List Text}
    {piece : Text}
    (hPiece : piece ∈ pieces) :
    piece.length ≤ (joinWith separator pieces).length := by
  induction pieces with
  | nil => simp at hPiece
  | cons first rest ih =>
      cases rest with
      | nil =>
          rw [List.mem_singleton.mp hPiece]
          exact Nat.le_refl _
      | cons next later =>
          rw [joinWith_cons_cons, List.length_append,
            List.length_append]
          rcases List.mem_cons.mp hPiece with rfl | hRest
          · omega
          · have hLater := ih hRest
            omega

/- The separators between pieces take up characters. -/
theorem length_le_length_joinWith
    {separator : Text}
    (hSeparator : separator ≠ [])
    (pieces : List Text) :
    pieces.length ≤ (joinWith separator pieces).length + 1 := by
  have hPositive := List.length_pos_iff.mpr hSeparator
  induction pieces with
  | nil => simp
  | cons piece rest ih =>
      cases rest with
      | nil => simp
      | cons next later =>
          rw [joinWith_cons_cons, List.length_append,
            List.length_append, List.length_cons]
          omega

/- A map of characters applies to the first piece. -/
theorem map_consToFirst
    (f : Char → Char)
    (c : Char)
    (pieces : List Text) :
    (consToFirst c pieces).map (List.map f) =
      consToFirst (f c) (pieces.map (List.map f)) := by
  cases pieces <;> rfl

/- The joined text has the characters of its pieces. -/
theorem mem_joinWith_iff
    {separator : Text}
    {c : Char}
    (hSeparator : c ∉ separator)
    (pieces : List Text) :
    c ∈ joinWith separator pieces ↔
      ∃ piece ∈ pieces, c ∈ piece := by
  induction pieces with
  | nil => simp [joinWith]
  | cons piece rest ih =>
      cases rest with
      | nil => simp [joinWith]
      | cons next later =>
          rw [joinWith_cons_cons, List.mem_append,
            List.mem_append, ih]
          simp [hSeparator]

/-
  A map of characters that neither makes nor removes a
  separator leaves the cuts where they are.
-/
theorem splitOn_map
    {separator : Char}
    {f : Char → Char}
    (hSeparator : ∀ c, f c = separator ↔ c = separator)
    (text : Text) :
    splitOn separator (text.map f) =
      (splitOn separator text).map (List.map f) := by
  induction text with
  | nil => rfl
  | cons c rest ih =>
      rw [List.map_cons, splitOn, splitOn, ih]
      by_cases hHead : c = separator
      · rw [if_pos ((hSeparator c).mpr hHead),
          if_pos hHead]
        rfl
      · have hImage : f c ≠ separator := fun h =>
          hHead ((hSeparator c).mp h)
        rw [if_neg hImage, if_neg hHead, map_consToFirst]

/- A map of characters passes through joining. -/
theorem joinWith_map
    {separator : Text}
    {f : Char → Char}
    (hSeparator : separator.map f = separator)
    (pieces : List Text) :
    joinWith separator (pieces.map (List.map f)) =
      (joinWith separator pieces).map f := by
  induction pieces with
  | nil => rfl
  | cons piece rest ih =>
      cases rest with
      | nil => rfl
      | cons next later =>
          rw [List.map_cons] at ih
          rw [List.map_cons, List.map_cons,
            joinWith_cons_cons, ih, joinWith_cons_cons,
            List.map_append, List.map_append, hSeparator]

------------------------------------------------------------
-- Line Breaks
------------------------------------------------------------

/- A line break stands at the front of a text or behind it. -/
theorem hasLineBreak_cons_iff
    (c : Char)
    (rest : Text) :
    hasLineBreak (c :: rest) = true ↔
      (c = '\r' ∧ rest.head? = some '\n') ∨
        hasLineBreak rest = true := by
  by_cases hFront : c = '\r' ∧ rest.head? = some '\n'
  · rcases hFront with ⟨rfl, hLf⟩
    rcases List.head?_eq_some_iff.mp hLf with ⟨later, rfl⟩
    simp [hasLineBreak]
  · rw [hasLineBreak]
    · simp [hFront]
    · intro later hCr hLf
      exact hFront ⟨hCr, by rw [hLf]; rfl⟩

/- A text has a line break where CR LF stands in it. -/
theorem hasLineBreak_iff_infix (text : Text) :
    hasLineBreak text = true ↔ lineBreak <:+: text := by
  induction text with
  | nil => simp [hasLineBreak, lineBreak]
  | cons c rest ih =>
      rw [hasLineBreak_cons_iff, List.infix_cons_iff, ih]
      apply or_congr_left
      cases rest with
      | nil => simp [lineBreak]
      | cons d later =>
          simp [lineBreak, List.cons_prefix_cons, eq_comm]

/- A text without a line break is its only line. -/
theorem splitLines_of_unbroken
    {line : Text}
    (hLine : hasLineBreak line = false) :
    splitLines line = [line] := by
  fun_induction hasLineBreak line with
  | case1 => rfl
  | case2 => simp at hLine
  | case3 c rest hNot ih =>
      rw [splitLines, ih hLine]
      · rfl
      · exact hNot

/-
  The first line break ends the first line.  A CR at the end
  of the line stays with the line, since the line break has a
  CR of its own.
-/
theorem splitLines_append_lineBreak
    {line : Text}
    (hLine : hasLineBreak line = false)
    (rest : Text) :
    splitLines (line ++ lineBreak ++ rest) =
      line :: splitLines rest := by
  fun_induction hasLineBreak line with
  | case1 => simp [lineBreak, splitLines]
  | case2 => simp at hLine
  | case3 c later hNot ih =>
      rw [List.cons_append, List.cons_append, splitLines,
        ih hLine]
      · rfl
      · intro after hCr hAfter
        cases later with
        | nil => simp [lineBreak] at hAfter
        | cons d others =>
            simp only [List.cons_append,
              List.cons.injEq] at hAfter
            exact hNot others hCr (by rw [hAfter.1])

/- Lines without a line break survive being joined. -/
theorem splitLines_joinWith
    {lines : List Text}
    (hNonempty : lines ≠ [])
    (hLines : ∀ line ∈ lines, hasLineBreak line = false) :
    splitLines (joinWith lineBreak lines) = lines := by
  induction lines with
  | nil => exact (hNonempty rfl).elim
  | cons line rest ih =>
      have hLine : hasLineBreak line = false :=
        hLines line (by simp)
      cases rest with
      | nil => exact splitLines_of_unbroken hLine
      | cons next later =>
          have hRest :
              ∀ other ∈ next :: later,
                hasLineBreak other = false := by
            intro other hOther
            exact hLines other
              (List.mem_cons_of_mem _ hOther)
          rw [joinWith_cons_cons,
            splitLines_append_lineBreak hLine,
            ih (by simp) hRest]

/- The lines of a text have no other characters. -/
theorem mem_of_mem_splitLines
    {text line : Text}
    {c : Char}
    (hLine : line ∈ splitLines text)
    (hMem : c ∈ line) :
    c ∈ text := by
  fun_induction splitLines text generalizing line with
  | case1 =>
      rw [List.mem_singleton] at hLine
      subst hLine
      exact hMem
  | case2 rest ih =>
      rcases List.mem_cons.mp hLine with rfl | hRest
      · simp at hMem
      · have hLater := ih hRest hMem
        simp [hLater]
  | case3 d rest _ ih =>
      rcases mem_of_mem_consToFirst hLine hMem with
        rfl | ⟨other, hOther, hChar⟩
      · exact List.mem_cons_self
      · exact List.mem_cons_of_mem _ (ih hOther hChar)

/-
  A map of characters that neither makes nor removes a CR or
  an LF keeps a text broken or unbroken.
-/
theorem hasLineBreak_map
    {f : Char → Char}
    (hCr : ∀ c, f c = '\r' ↔ c = '\r')
    (hLf : ∀ c, f c = '\n' ↔ c = '\n')
    (text : Text) :
    hasLineBreak (text.map f) = hasLineBreak text := by
  fun_induction hasLineBreak text with
  | case1 => rfl
  | case2 rest =>
      rw [List.map_cons, List.map_cons, (hCr _).mpr rfl,
        (hLf _).mpr rfl, hasLineBreak]
  | case3 c rest hNot ih =>
      rw [List.map_cons, hasLineBreak, ih]
      intro after hHead hAfter
      cases rest with
      | nil => simp at hAfter
      | cons d others =>
          simp only [List.map_cons, List.cons.injEq]
            at hAfter
          exact hNot others ((hCr c).mp hHead)
            (by rw [(hLf d).mp hAfter.1])

------------------------------------------------------------
-- Removed Line Breaks
------------------------------------------------------------

/- A text has no CR and no LF. -/
def IsStripped (text : Text) : Prop :=
  '\r' ∉ text ∧ '\n' ∉ text

/- Nothing is left to remove when all was removed. -/
theorem isStripped_stripBreaks (text : Text) :
    (stripBreaks text).IsStripped := by
  simp [IsStripped, stripBreaks]

/- A text without CR and LF is left as it is. -/
theorem IsStripped.stripBreaks_eq
    {text : Text}
    (hText : text.IsStripped) :
    stripBreaks text = text := by
  rw [stripBreaks, List.filter_eq_self]
  intro c hMem
  have hCr : c ≠ '\r' := by
    rintro rfl
    exact hText.1 hMem
  have hLf : c ≠ '\n' := by
    rintro rfl
    exact hText.2 hMem
  simp [hCr, hLf]

/- A text with no other characters has no CR and LF either. -/
theorem IsStripped.of_subset
    {text other : Text}
    (hText : text.IsStripped)
    (hSubset : other ⊆ text) :
    other.IsStripped :=
  ⟨fun hCr => hText.1 (hSubset hCr),
    fun hLf => hText.2 (hSubset hLf)⟩

/- A text without a CR has no line break. -/
theorem IsStripped.hasLineBreak_eq
    {text : Text}
    (hText : text.IsStripped) :
    hasLineBreak text = false := by
  rw [Bool.eq_false_iff, ne_eq, hasLineBreak_iff_infix]
  intro hBreak
  have hCr : '\r' ∈ text :=
    hBreak.subset List.mem_cons_self
  exact hText.1 hCr

/- Pieces are joined to a text without CR and LF. -/
theorem isStripped_joinWith
    {separator : Text}
    (hSeparator : separator.IsStripped)
    {pieces : List Text}
    (hPieces : ∀ piece ∈ pieces, piece.IsStripped) :
    (joinWith separator pieces).IsStripped := by
  constructor
  · rw [mem_joinWith_iff hSeparator.1]
    rintro ⟨piece, hPiece, hCr⟩
    exact (hPieces piece hPiece).1 hCr
  · rw [mem_joinWith_iff hSeparator.2]
    rintro ⟨piece, hPiece, hLf⟩
    exact (hPieces piece hPiece).2 hLf

end Text

end SceneScript
