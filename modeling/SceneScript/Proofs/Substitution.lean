import SceneScript.Dialogue
import SceneScript.Proofs.ShiftJis

/-
  The character that a character becomes in a table file.

  Key definitions include:
    * `Width.diskChar`
    * `Width.storedChar`
    * `Width.Shape`
    * `Width.KeepsInert`

  Correctness is stated by:
    * `Width.halfChar_storedChar`
    * `Width.encodeChar_fullChar_diskChar`
    * `Width.diskChar_halfChar`
    * `Width.KeepsInert.eq_iff`

  A character is stored full-width and read half-width.  Some
  characters share a code, and the code decodes to one of
  them.  The overline is the only one that is then stored
  with another code than before.
-/

namespace SceneScript

------------------------------------------------------------
-- Width Pairs
------------------------------------------------------------

namespace Width

/- No half-width form belongs to two pairs. -/
theorem nodup_halves : (pairs.map (·.half)).Nodup := by
  decide

/- No full-width form belongs to two pairs. -/
theorem nodup_fulls :
    ((pairs ++ readOnlyPairs).map (·.full)).Nodup := by
  decide

/- Half-width forms are ASCII characters. -/
theorem half_lt :
    ∀ pair ∈ pairs, pair.half.toNat < 0x80 := by
  decide

/- Full-width forms are not ASCII characters. -/
theorem le_full :
    ∀ pair ∈ pairs ++ readOnlyPairs,
      0x80 ≤ pair.full.toNat := by
  decide

/- No character has both a half-width and a full-width form. -/
theorem half_ne_full
    {pair other : Pair}
    (hPair : pair ∈ pairs)
    (hOther : other ∈ pairs ++ readOnlyPairs) :
    pair.half ≠ other.full := by
  intro h
  have hHalf := half_lt pair hPair
  have hFull := le_full other hOther
  rw [h] at hHalf
  omega

/- The half-width form of a pair becomes the full-width one. -/
theorem fullChar_half
    {pair : Pair}
    (hPair : pair ∈ pairs) :
    fullChar pair.half = pair.full := by
  rw [fullChar, find?_eq_some_of_nodup nodup_halves hPair]

/- The full-width form of a pair becomes the half-width one. -/
theorem halfChar_full
    {pair : Pair}
    (hPair : pair ∈ pairs ++ readOnlyPairs) :
    halfChar pair.full = pair.half := by
  rw [halfChar, find?_eq_some_of_nodup nodup_fulls hPair]

/- Other characters than half-width forms stay full-width. -/
theorem fullChar_of_ne
    {c : Char}
    (hOther : ∀ pair ∈ pairs, pair.half ≠ c) :
    fullChar c = c := by
  rw [fullChar, find?_eq_none_iff_forall_ne.mpr hOther]

/- Other characters than full-width forms stay half-width. -/
theorem halfChar_of_ne
    {c : Char}
    (hOther :
      ∀ pair ∈ pairs ++ readOnlyPairs, pair.full ≠ c) :
    halfChar c = c := by
  rw [halfChar, find?_eq_none_iff_forall_ne.mpr hOther]

/- A full-width form stays as it is. -/
theorem fullChar_full
    {pair : Pair}
    (hPair : pair ∈ pairs ++ readOnlyPairs) :
    fullChar pair.full = pair.full :=
  fullChar_of_ne fun _ hOther =>
    half_ne_full hOther hPair

/- A half-width form stays as it is. -/
theorem halfChar_half
    {pair : Pair}
    (hPair : pair ∈ pairs) :
    halfChar pair.half = pair.half :=
  halfChar_of_ne fun _ hOther =>
    (half_ne_full hPair hOther).symm

------------------------------------------------------------
-- Disk Forms of Characters
------------------------------------------------------------

/-
  The character that comes back from a table file.  Pairs come
  back half-width, and three characters come back as the one
  whose code they are written with.
-/
def diskChar (c : Char) : Char :=
  match pairs.find? (·.full == c) with
  | some pair => pair.half
  | none =>
      if c = '¥' then
        '\\'
      else if c = '‾' then
        '~'
      else if c = '−' then
        '-'
      else
        c

/- The character whose code stands for a character in a file. -/
def storedChar (c : Char) : Char :=
  ShiftJis.written (fullChar c)

/-
  What there is to tell about a character: it is the half or
  the full form of a pair, it shares a code, it is the wave
  dash, or it is none of these.
-/
inductive Shape : Char → Prop where
  | half {pair : Pair} (hPair : pair ∈ pairs) :
      Shape pair.half
  | full {pair : Pair} (hPair : pair ∈ pairs) :
      Shape pair.full
  | yen : Shape '¥'
  | overline : Shape '‾'
  | minus : Shape '−'
  | waveDash : Shape '〜'
  | plain {c : Char}
      (hHalf : ∀ pair ∈ pairs, pair.half ≠ c)
      (hFull : ∀ pair ∈ pairs, pair.full ≠ c)
      (hYen : c ≠ '¥')
      (hOverline : c ≠ '‾')
      (hMinus : c ≠ '−')
      (hWaveDash : c ≠ '〜') : Shape c

/- Every character has one of the shapes. -/
theorem shape (c : Char) : Shape c := by
  by_cases hHalf : ∃ pair ∈ pairs, pair.half = c
  · rcases hHalf with ⟨pair, hPair, rfl⟩
    exact .half hPair
  by_cases hFull : ∃ pair ∈ pairs, pair.full = c
  · rcases hFull with ⟨pair, hPair, rfl⟩
    exact .full hPair
  by_cases hYen : c = '¥'
  · exact hYen ▸ .yen
  by_cases hOverline : c = '‾'
  · exact hOverline ▸ .overline
  by_cases hMinus : c = '−'
  · exact hMinus ▸ .minus
  by_cases hWaveDash : c = '〜'
  · exact hWaveDash ▸ .waveDash
  exact
    .plain
      (fun pair hPair h => hHalf ⟨pair, hPair, h⟩)
      (fun pair hPair h => hFull ⟨pair, hPair, h⟩)
      hYen hOverline hMinus hWaveDash

/- A pair comes back half-width from its full-width form. -/
theorem diskChar_full
    {pair : Pair}
    (hPair : pair ∈ pairs) :
    diskChar pair.full = pair.half := by
  have hKeys := nodup_fulls
  rw [List.map_append] at hKeys
  rw [diskChar,
    find?_eq_some_of_nodup hKeys.of_append_left hPair]

/- A character without a special shape comes back as it is. -/
theorem diskChar_of_plain
    {c : Char}
    (hFull : ∀ pair ∈ pairs, pair.full ≠ c)
    (hYen : c ≠ '¥')
    (hOverline : c ≠ '‾')
    (hMinus : c ≠ '−') :
    diskChar c = c := by
  rw [diskChar, find?_eq_none_iff_forall_ne.mpr hFull]
  simp [hYen, hOverline, hMinus]

/- A pair comes back half-width from its half-width form. -/
theorem diskChar_half
    {pair : Pair}
    (hPair : pair ∈ pairs) :
    diskChar pair.half = pair.half := by
  have hAscii := half_lt pair hPair
  apply diskChar_of_plain
  · intro other hOther
    exact
      (half_ne_full hPair
        (List.mem_append_left _ hOther)).symm
  · intro h
    simp [h] at hAscii
  · intro h
    simp [h] at hAscii
  · intro h
    simp [h] at hAscii

/- The codes of full-width forms stand for themselves. -/
theorem written_full :
    ∀ pair ∈ pairs,
      ShiftJis.written pair.full = pair.full := by
  decide

/- The full-width forms include those that are only read. -/
theorem full_ne_of_plain
    {c : Char}
    (hFull : ∀ pair ∈ pairs, pair.full ≠ c)
    (hMinus : c ≠ '−')
    (hWaveDash : c ≠ '〜') :
    ∀ pair ∈ pairs ++ readOnlyPairs, pair.full ≠ c := by
  intro pair hPair
  rcases List.mem_append.mp hPair with hBoth | hReadOnly
  · exact hFull pair hBoth
  · simp only [readOnlyPairs, List.mem_cons,
      List.not_mem_nil, or_false] at hReadOnly
    rcases hReadOnly with hTilde | hHyphen
    · rw [hTilde]
      exact Ne.symm hWaveDash
    · rw [hHyphen]
      exact Ne.symm hMinus

/-
  The stored character is read as the disk form.  Only the
  wave dash, which has no code, is read otherwise.
-/
theorem halfChar_storedChar
    {c : Char}
    (hWaveDash : c ≠ '〜') :
    halfChar (storedChar c) = diskChar c := by
  unfold storedChar
  cases shape c with
  | half hPair =>
      rw [fullChar_half hPair, written_full _ hPair,
        halfChar_full (List.mem_append_left _ hPair),
        diskChar_half hPair]
  | full hPair =>
      rw [fullChar_full (List.mem_append_left _ hPair),
        written_full _ hPair,
        halfChar_full (List.mem_append_left _ hPair),
        diskChar_full hPair]
  | yen => decide
  | overline => decide
  | minus => decide
  | waveDash => exact (hWaveDash rfl).elim
  | plain hHalf hFull hYen hOverline hMinus hWave =>
      rw [fullChar_of_ne hHalf,
        diskChar_of_plain hFull hYen hOverline hMinus]
      simp only [ShiftJis.written, hYen, hOverline, hMinus,
        ↓reduceIte]
      exact
        halfChar_of_ne
          (full_ne_of_plain hFull hMinus hWave)

/-
  Only the overline is stored with another code after it was
  read back.
-/
theorem encodeChar_fullChar_diskChar
    {c : Char}
    (hOverline : c ≠ '‾') :
    ShiftJis.encodeChar (fullChar (diskChar c)) =
      ShiftJis.encodeChar (fullChar c) := by
  cases shape c with
  | half hPair => rw [diskChar_half hPair]
  | full hPair =>
      rw [diskChar_full hPair, fullChar_half hPair,
        fullChar_full (List.mem_append_left _ hPair)]
  | yen => decide
  | overline => exact (hOverline rfl).elim
  | minus => decide
  | waveDash =>
      have hSelf : diskChar '〜' = '〜' := by
        decide
      rw [hSelf]
  | plain _ hFull hYen hOver hMinus _ =>
      rw [diskChar_of_plain hFull hYen hOver hMinus]

/- What the overline is read as is not stored like it. -/
theorem storedChar_diskChar_overline :
    storedChar (diskChar '‾') ≠ storedChar '‾' := by
  decide

/-
  No character is stored as a number sign, which is stored
  full-width itself.
-/
theorem storedChar_ne_numberSign (c : Char) :
    storedChar c ≠ '#' := by
  have hOther {pair : Pair} (hPair : pair ∈ pairs) :
      pair.full ≠ '#' := by
    intro h
    have hFull := le_full pair (List.mem_append_left _ hPair)
    rw [h] at hFull
    exact absurd hFull (by decide)
  unfold storedChar
  cases shape c with
  | half hPair =>
      rw [fullChar_half hPair, written_full _ hPair]
      exact hOther hPair
  | full hPair =>
      rw [fullChar_full (List.mem_append_left _ hPair),
        written_full _ hPair]
      exact hOther hPair
  | yen => decide
  | overline => decide
  | minus => decide
  | waveDash => decide
  | plain hHalf _ hYen hOverline hMinus _ =>
      rw [fullChar_of_ne hHalf]
      simp only [ShiftJis.written, hYen, hOverline, hMinus,
        ↓reduceIte]
      rintro rfl
      exact hHalf ⟨'#', '＃'⟩ (by decide) rfl

/-
  A character that no text holds in another form is its own
  disk form as soon as it is half-width.
-/
theorem diskChar_halfChar
    {c : Char}
    (hForeign : ShiftJis.isForeign c.toNat = false) :
    diskChar (halfChar c) = halfChar c := by
  cases shape c with
  | half hPair =>
      rw [halfChar_half hPair, diskChar_half hPair]
  | full hPair =>
      rw [halfChar_full (List.mem_append_left _ hPair),
        diskChar_half hPair]
  | yen => simp [ShiftJis.isForeign] at hForeign
  | overline => simp [ShiftJis.isForeign] at hForeign
  | minus => simp [ShiftJis.isForeign] at hForeign
  | waveDash => simp [ShiftJis.isForeign] at hForeign
  | plain _ hFull hYen hOverline hMinus hWaveDash =>
      rw [halfChar_of_ne
          (full_ne_of_plain hFull hMinus hWaveDash),
        diskChar_of_plain hFull hYen hOverline hMinus]

------------------------------------------------------------
-- Inert Characters
------------------------------------------------------------

/- The characters that take part in a substitution. -/
def active : List Char :=
  (pairs ++ readOnlyPairs).map (·.half) ++
    (pairs ++ readOnlyPairs).map (·.full) ++
      ['\\', '¥', '‾']

/- Both forms of a pair are active. -/
theorem mem_active_of_pair
    {pair : Pair}
    (hPair : pair ∈ pairs ++ readOnlyPairs) :
    pair.half ∈ active ∧ pair.full ∈ active := by
  refine
    ⟨List.mem_append_left _ (List.mem_append_left _ ?_),
      List.mem_append_left _ (List.mem_append_right _ ?_)⟩
  · exact List.mem_map_of_mem hPair
  · exact List.mem_map_of_mem hPair

/- A substitution exchanges active characters only. -/
def KeepsInert (f : Char → Char) : Prop :=
  ∀ c, f c = c ∨ (c ∈ active ∧ f c ∈ active)

namespace KeepsInert

/- What exchanges active characters keeps the others apart. -/
theorem eq_iff
    {f : Char → Char}
    (hKeeps : KeepsInert f)
    {inert : Char}
    (hInert : inert ∉ active)
    (c : Char) :
    f c = inert ↔ c = inert := by
  rcases hKeeps c with hSame | ⟨hFrom, hTo⟩
  · rw [hSame]
  · constructor
    · intro h
      exact (hInert (h ▸ hTo)).elim
    · intro h
      exact (hInert (h ▸ hFrom)).elim

/- Two substitutions in a row make one. -/
theorem comp
    {f g : Char → Char}
    (hF : KeepsInert f)
    (hG : KeepsInert g) :
    KeepsInert fun c => f (g c) := by
  intro c
  change f (g c) = c ∨ c ∈ active ∧ f (g c) ∈ active
  rcases hG c with hSame | ⟨hFrom, hTo⟩
  · rw [hSame]
    exact hF c
  · rcases hF (g c) with hSame | ⟨_, hLast⟩
    · rw [hSame]
      exact .inr ⟨hFrom, hTo⟩
    · exact .inr ⟨hFrom, hLast⟩

end KeepsInert

/- Making characters full-width exchanges active ones. -/
theorem keepsInert_fullChar : KeepsInert fullChar := by
  intro c
  unfold fullChar
  split
  · rename_i pair hFind
    rcases mem_of_find?_key hFind with ⟨hPair, rfl⟩
    have hBoth := List.mem_append_left readOnlyPairs hPair
    exact .inr (mem_active_of_pair hBoth)
  · exact .inl rfl

/- Making characters half-width exchanges active ones. -/
theorem keepsInert_halfChar : KeepsInert halfChar := by
  intro c
  unfold halfChar
  split
  · rename_i pair hFind
    rcases mem_of_find?_key hFind with ⟨hPair, rfl⟩
    exact .inr (mem_active_of_pair hPair).symm
  · exact .inl rfl

/- Writing and reading a code exchanges active characters. -/
theorem keepsInert_written :
    KeepsInert ShiftJis.written := by
  intro c
  unfold ShiftJis.written
  split
  · rename_i hYen
    subst hYen
    exact .inr (by decide)
  · split
    · rename_i hOverline
      subst hOverline
      exact .inr (by decide)
    · split
      · rename_i hMinus
        subst hMinus
        exact .inr (by decide)
      · exact .inl rfl

/- Storing a character exchanges active ones. -/
theorem keepsInert_storedChar : KeepsInert storedChar :=
  keepsInert_written.comp keepsInert_fullChar

/- Coming back from a file exchanges active characters. -/
theorem keepsInert_diskChar : KeepsInert diskChar := by
  intro c
  unfold diskChar
  split
  · rename_i pair hFind
    rcases mem_of_find?_key hFind with ⟨hPair, rfl⟩
    have hBoth := List.mem_append_left readOnlyPairs hPair
    exact .inr (mem_active_of_pair hBoth).symm
  · split
    · rename_i hYen
      subst hYen
      exact .inr (by decide)
    · split
      · rename_i hOverline
        subst hOverline
        exact .inr (by decide)
      · split
        · rename_i hMinus
          subst hMinus
          exact .inr (by decide)
        · exact .inl rfl

/- The characters that structure a text are not substituted. -/
theorem not_mem_active_of_mem_marks
    {mark : Char}
    (hMark : mark ∈ ['\r', '\n', Dialogue.separator]) :
    mark ∉ active := by
  simp only [List.mem_cons, List.not_mem_nil, or_false]
    at hMark
  rcases hMark with rfl | rfl | rfl
  · decide
  · decide
  · decide

/- A substitution keeps the structure of a text. -/
theorem KeepsInert.eq_mark_iff
    {f : Char → Char}
    (hKeeps : KeepsInert f)
    {mark : Char}
    (hMark : mark ∈ ['\r', '\n', Dialogue.separator])
    (c : Char) :
    f c = mark ↔ c = mark :=
  hKeeps.eq_iff (not_mem_active_of_mem_marks hMark) c

end Width

end SceneScript
