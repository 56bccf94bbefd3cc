import SceneScript.Proofs.Substitution

/-
  Laws of the width substitution.

  Key definitions include:
    * `Width.Role`

  Correctness is stated by:
    * `Width.halfChar_fullChar`
    * `Width.halfChar_halfChar`
    * `Width.fullChar_fullChar`
    * `Width.fullChar_halfChar`
    * `Width.fullChar_halfChar_ne`
    * `Width.KeepsInert.getElem?_map_eq_some_iff`
    * `Text.width_laws`

  The two directions use different tables.  The laws hold as
  no character is listed in two places, apart from the two
  half-width forms that have a second full-width form, which
  is read and never written.
-/

namespace SceneScript

namespace Width

------------------------------------------------------------
-- Places in the Tables
------------------------------------------------------------

/-
  Where the tables list a character: as the half-width form
  of a pair, as a full-width form that is read, or nowhere.
-/
inductive Role : Char → Prop where
  | half {pair : Pair} (hPair : pair ∈ pairs) :
      Role pair.half
  | full {pair : Pair} (hPair : pair ∈ pairs ++ readOnlyPairs) :
      Role pair.full
  | unlisted {c : Char}
      (hHalf : ∀ pair ∈ pairs, pair.half ≠ c)
      (hFull :
        ∀ pair ∈ pairs ++ readOnlyPairs, pair.full ≠ c) :
      Role c

/- Every character has one of the roles. -/
theorem role (c : Char) : Role c := by
  by_cases hHalf : ∃ pair ∈ pairs, pair.half = c
  · rcases hHalf with ⟨pair, hPair, rfl⟩
    exact .half hPair
  by_cases hFull :
    ∃ pair ∈ pairs ++ readOnlyPairs, pair.full = c
  · rcases hFull with ⟨pair, hPair, rfl⟩
    exact .full hPair
  apply Role.unlisted
  · intro pair hPair h
    exact hHalf ⟨pair, hPair, h⟩
  · intro pair hPair h
    exact hFull ⟨pair, hPair, h⟩

/- What is only read has the half-width form of a pair. -/
theorem exists_pair_of_readOnly :
    ∀ pair ∈ readOnlyPairs,
      ∃ other ∈ pairs, other.half = pair.half := by
  decide

/- What is read becomes the half-width form of a pair. -/
theorem exists_pair_of_full
    {pair : Pair}
    (hPair : pair ∈ pairs ++ readOnlyPairs) :
    ∃ other ∈ pairs, other.half = pair.half := by
  rcases List.mem_append.mp hPair with hBoth | hReadOnly
  · exact ⟨pair, hBoth, rfl⟩
  · exact exists_pair_of_readOnly pair hReadOnly

/- No full-width form is both written and only read. -/
theorem full_ne_readOnly
    {pair other : Pair}
    (hPair : pair ∈ pairs)
    (hOther : other ∈ readOnlyPairs) :
    pair.full ≠ other.full := by
  have hKeys := nodup_fulls
  rw [List.map_append] at hKeys
  intro h
  apply List.disjoint_of_nodup_append hKeys
    (List.mem_map_of_mem hPair)
  rw [h]
  exact List.mem_map_of_mem hOther

/- What is only read is no character that a code stands for. -/
theorem ne_readOnly_of_not_isForeign
    {c : Char}
    (hForeign : ShiftJis.isForeign c.toNat = false) :
    ∀ other ∈ readOnlyPairs, c ≠ other.full := by
  have hReadOnly :
      ∀ pair ∈ readOnlyPairs,
        ShiftJis.isForeign pair.full.toNat = true := by
    decide
  rintro other hOther rfl
  rw [hReadOnly other hOther] at hForeign
  cases hForeign

------------------------------------------------------------
-- Laws of Characters
------------------------------------------------------------

/- A half-width form is not lost by writing it full-width. -/
theorem halfChar_fullChar (c : Char) :
    halfChar (fullChar c) = halfChar c := by
  cases role c with
  | half hPair =>
      rw [fullChar_half hPair, halfChar_half hPair]
      exact halfChar_full (List.mem_append_left _ hPair)
  | full hPair => rw [fullChar_full hPair]
  | unlisted hHalf _ => rw [fullChar_of_ne hHalf]

/- A half-width form has no other half-width form. -/
theorem halfChar_halfChar (c : Char) :
    halfChar (halfChar c) = halfChar c := by
  cases role c with
  | half hPair => rw [halfChar_half hPair, halfChar_half hPair]
  | full hPair =>
      rcases exists_pair_of_full hPair with
        ⟨other, hOther, hSame⟩
      rw [halfChar_full hPair, ← hSame, halfChar_half hOther]
  | unlisted _ hFull =>
      rw [halfChar_of_ne hFull, halfChar_of_ne hFull]

/- A full-width form has no other full-width form. -/
theorem fullChar_fullChar (c : Char) :
    fullChar (fullChar c) = fullChar c := by
  cases role c with
  | half hPair =>
      rw [fullChar_half hPair]
      exact fullChar_full (List.mem_append_left _ hPair)
  | full hPair => rw [fullChar_full hPair, fullChar_full hPair]
  | unlisted hHalf _ =>
      rw [fullChar_of_ne hHalf, fullChar_of_ne hHalf]

/-
  A character that is written is written in the same way
  after it was read.
-/
theorem fullChar_halfChar
    {c : Char}
    (hWritten : ∀ other ∈ readOnlyPairs, c ≠ other.full) :
    fullChar (halfChar c) = fullChar c := by
  cases role c with
  | half hPair => rw [halfChar_half hPair]
  | full hPair =>
      rcases List.mem_append.mp hPair with hBoth | hReadOnly
      · rw [halfChar_full hPair, fullChar_half hBoth,
          fullChar_full hPair]
      · exact (hWritten _ hReadOnly rfl).elim
  | unlisted _ hFull => rw [halfChar_of_ne hFull]

/- A character that is only read is written as another one. -/
theorem fullChar_halfChar_ne
    {pair : Pair}
    (hPair : pair ∈ readOnlyPairs) :
    fullChar (halfChar pair.full) ≠ fullChar pair.full := by
  have hFull : pair ∈ pairs ++ readOnlyPairs :=
    List.mem_append_right _ hPair
  rcases exists_pair_of_readOnly pair hPair with
    ⟨written, hWritten, hSame⟩
  rw [halfChar_full hFull, fullChar_full hFull, ← hSame,
    fullChar_half hWritten]
  exact full_ne_readOnly hWritten hPair

------------------------------------------------------------
-- Positions in Texts
------------------------------------------------------------

/-
  A substitution leaves a character that takes no part in it
  where it is, and puts it nowhere else.
-/
theorem KeepsInert.getElem?_map_eq_some_iff
    {f : Char → Char}
    (hKeeps : KeepsInert f)
    {inert : Char}
    (hInert : inert ∉ active)
    (text : Text)
    (index : Nat) :
    (text.map f)[index]? = some inert ↔
      text[index]? = some inert := by
  rw [List.getElem?_map, Option.map_eq_some_iff]
  constructor
  · rintro ⟨c, hSome, hSame⟩
    rw [hSome, (hKeeps.eq_iff hInert c).mp hSame]
  · intro hSome
    exact ⟨inert, hSome, (hKeeps.eq_iff hInert inert).mpr rfl⟩

end Width

------------------------------------------------------------
-- Laws of Texts
------------------------------------------------------------

namespace Text

open Width

/-
  Reading a text before writing it changes what is written
  only where a character is never written.
-/
theorem toFull_toHalf_eq_iff (text : Text) :
    text.toHalf.toFull = text.toFull ↔
      '\u301c' ∉ text ∧ '\u2212' ∉ text := by
  have hTilde : ⟨'~', '\u301c'⟩ ∈ readOnlyPairs := by
    decide
  have hHyphen : ⟨'-', '\u2212'⟩ ∈ readOnlyPairs := by
    decide
  rw [toHalf, toFull, toFull, List.map_map,
    List.map_inj_left]
  constructor
  · intro hSame
    constructor
    · intro hWaveDash
      exact fullChar_halfChar_ne hTilde (hSame _ hWaveDash)
    · intro hMinus
      exact fullChar_halfChar_ne hHyphen (hSame _ hMinus)
  · rintro ⟨hWaveDash, hMinus⟩ c hMem
    apply fullChar_halfChar
    rintro other hOther rfl
    simp only [readOnlyPairs, List.mem_cons,
      List.not_mem_nil, or_false] at hOther
    rcases hOther with rfl | rfl
    · exact hWaveDash hMem
    · exact hMinus hMem

/-
  The algebra of the width substitution.  What is read does
  not depend on whether it was made full-width before, a
  second substitution in the same direction changes nothing,
  and no character is added or removed, least of all one that
  ends a line or a row of a box.  Reading before writing makes
  a difference for the wave dash and the minus sign only.
-/
theorem width_laws (text : Text) :
    text.toFull.toHalf = text.toHalf ∧
      text.toHalf.toHalf = text.toHalf ∧
      text.toFull.toFull = text.toFull ∧
      text.toHalf.length = text.length ∧
      text.toFull.length = text.length ∧
      (∀ mark ∈ ['\r', '\n', Dialogue.separator],
        ∀ index : Nat,
          (text.toHalf[index]? = some mark ↔
              text[index]? = some mark) ∧
            (text.toFull[index]? = some mark ↔
              text[index]? = some mark)) ∧
      (text.toHalf.toFull = text.toFull ↔
        '\u301c' ∉ text ∧ '\u2212' ∉ text) := by
  refine
    ⟨?_, ?_, ?_, List.length_map _, List.length_map _, ?_, ?_⟩
  · rw [toFull, toHalf, toHalf, List.map_map,
      List.map_inj_left]
    intro c _
    rw [Function.comp_apply, halfChar_fullChar]
  · rw [toHalf, toHalf, List.map_map, List.map_inj_left]
    intro c _
    rw [Function.comp_apply, halfChar_halfChar]
  · rw [toFull, toFull, List.map_map, List.map_inj_left]
    intro c _
    rw [Function.comp_apply, fullChar_fullChar]
  · intro mark hMark index
    have hInert := not_mem_active_of_mem_marks hMark
    rw [toHalf, toFull]
    constructor
    · exact
        keepsInert_halfChar.getElem?_map_eq_some_iff hInert
          text index
    · exact
        keepsInert_fullChar.getElem?_map_eq_some_iff hInert
          text index
  · exact toFull_toHalf_eq_iff text

/-
  A text with both widths, a line break and the wave dash.
  The wave dash is lost when the text is read before it is
  written.
-/
theorem width_laws_wave_dash :
    ∃ text half : Text,
      text = ['Ａ', '\u301c', '\n', 'b', ','] ∧
        half = ['A', '~', '\n', 'b', ','] ∧
        text.toHalf = half ∧
        text.toFull.toHalf = half ∧
        half.toHalf = half ∧
        text.toFull.length = 5 ∧
        text[2]? = some '\n' ∧
        text.toHalf[2]? = some '\n' ∧
        text.toFull[2]? = some '\n' ∧
        '\u301c' ∈ text ∧
        text.toHalf.toFull ≠ text.toFull := by
  let text : Text := ['Ａ', '\u301c', '\n', 'b', ',']
  let half : Text := ['A', '~', '\n', 'b', ',']
  have hHalf : text.toHalf = half := by
    decide
  have hWaveDash : '\u301c' ∈ text := by
    decide
  rcases width_laws text with
    ⟨hBoth, hTwice, _, _, hLength, hMarks, hLost⟩
  have hBreak := hMarks '\n' (by decide) 2
  rw [hHalf] at hBoth hTwice
  refine
    ⟨text, half, rfl, rfl, hHalf, hBoth, hTwice, hLength,
      rfl, hBreak.1.mpr rfl, hBreak.2.mpr rfl, hWaveDash, ?_⟩
  intro hSame
  exact (hLost.mp hSame).1 hWaveDash

end Text

end SceneScript
