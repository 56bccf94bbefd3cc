import SceneScript.Json.Reader
import SceneScript.Proofs.Lexemes
import SceneScript.Proofs.Lines

/-
  Arrays and objects are read as they were printed, with or
  without space between their parts.

  Key definitions include:
    * `Json.IsGap`
    * `Json.Reads`
    * `Json.ReadsEntry`
    * `Json.enclosed`

  Correctness is stated by:
    * `Json.moreItems_printed`
    * `Json.arrayRest_printed`
    * `Json.moreEntries_printed`
    * `Json.objectRest_printed`
    * `Json.whole_of_reads`

  A reader is given what was printed for a part with the rest
  of the text behind it.  The parts are read one by one, and
  what is behind each of them does not look like more of it.
-/

namespace SceneScript

namespace Json

------------------------------------------------------------
-- Space
------------------------------------------------------------

/- Space that is empty or starts on a new line. -/
def IsGap (gap : Text) : Prop :=
  (∀ c ∈ gap, isSpace c = true) ∧ ∀ c ∈ gap.head?, c = '\n'

/- Space in front of another character is skipped. -/
theorem skipSpace_append
    {gap : Text}
    (hGap : ∀ c ∈ gap, isSpace c = true)
    {c : Char}
    (hStart : isSpace c = false)
    (rest : Text) :
    skipSpace (gap ++ c :: rest) = c :: rest := by
  rw [skipSpace, List.dropWhile_append_of_pos hGap,
    List.dropWhile_cons_of_neg (by simp [hStart])]

/- Space in front of a printed value is skipped. -/
theorem skipSpace_gap
    {gap : Text}
    (hGap : ∀ c ∈ gap, isSpace c = true)
    {c : Char}
    (hStart : isSpace c = false)
    (later rest : Text) :
    skipSpace (gap ++ (c :: later) ++ rest) =
      c :: (later ++ rest) := by
  rw [List.append_assoc]
  exact skipSpace_append hGap hStart (later ++ rest)

/- A delimiter behind a gap delimits what is in front of it. -/
theorem IsGap.isDelimited
    {gap : Text}
    (hGap : IsGap gap)
    {c : Char}
    (hDelimiter : c ∈ [',', ']', '}', '\n'])
    (rest : Text) :
    IsDelimited (gap ++ c :: rest) := by
  cases gap with
  | nil => exact isDelimited_cons hDelimiter rest
  | cons d later =>
      rw [hGap.2 d rfl]
      exact isDelimited_cons (by decide) _

------------------------------------------------------------
-- Parts
------------------------------------------------------------

/-
  A reader takes a text for a value, whatever delimiter stands
  behind it.  The text does not look like the end of an array.
-/
structure Reads
    {α : Type}
    (reader : ReadFn α)
    (text : Text)
    (found : α) : Prop where
  starts :
    ∃ c later,
      text = c :: later ∧ isSpace c = false ∧ c ≠ ']'
  reads :
    ∀ rest,
      IsDelimited rest →
        reader (text ++ rest) = .ok (found, rest)

/-
  Pieces between two brackets, each with the same space in
  front of it.
-/
def enclosed
    (gap closing : Text)
    (pieces : List Text) : Text :=
  match pieces with
  | [] => []
  | _ :: _ =>
      gap ++ Text.joinWith (',' :: gap) pieces ++ closing

/- The first piece between brackets and the others. -/
theorem enclosed_cons
    (gap closing piece : Text)
    (pieces : List Text) :
    enclosed gap closing (piece :: pieces) =
      gap ++
        (piece ++
          ((pieces.flatMap fun next => ',' :: gap ++ next) ++
            closing)) := by
  simp [enclosed, Text.joinWith_cons]

/- There are not many more pieces than characters. -/
theorem length_le_length_enclosed
    (gap closing : Text)
    (pieces : List Text) :
    pieces.length ≤ (enclosed gap closing pieces).length + 1 := by
  have hJoined :=
    Text.length_le_length_joinWith
      (List.cons_ne_nil ',' gap) pieces
  cases pieces with
  | nil => simp
  | cons piece later =>
      simp only [enclosed, List.length_append] at hJoined ⊢
      omega

/- A piece is not longer than all pieces together. -/
theorem length_le_enclosed
    (gap closing : Text)
    {pieces : List Text}
    {piece : Text}
    (hPiece : piece ∈ pieces) :
    piece.length ≤ (enclosed gap closing pieces).length := by
  have hJoined := Text.length_le_joinWith (',' :: gap) hPiece
  cases pieces with
  | nil => simp at hPiece
  | cons first later =>
      simp only [enclosed, List.length_append]
      omega

/- What stands behind an item delimits it. -/
theorem isDelimited_behind
    (gap : Text)
    {closing : Text}
    (hClosing : IsGap closing)
    {c : Char}
    (hDelimiter : c ∈ [',', ']', '}', '\n'])
    (pieces : List Text)
    (rest : Text) :
    IsDelimited
      ((pieces.flatMap fun next => ',' :: gap ++ next) ++
        (closing ++ c :: rest)) := by
  cases pieces with
  | nil => exact hClosing.isDelimited hDelimiter rest
  | cons next later => exact isDelimited_cons (by decide) _

------------------------------------------------------------
-- Arrays
------------------------------------------------------------

section Arrays

variable {α β : Type}
variable {item : ReadFn α}
variable {print : β → Text} {value : β → α}
variable {gap closing : Text}

/- An item in front of a text is found behind a comma. -/
theorem moreItems_comma
    (hGap : ∀ c ∈ gap, isSpace c = true)
    {text : Text}
    {found : α}
    (hItem : Reads item text found)
    (fuel : Nat)
    {rest : Text}
    (hRest : IsDelimited rest) :
    moreItems item (fuel + 1) (',' :: gap ++ text ++ rest) =
      (moreItems item fuel rest).map fun (later, rest) =>
        (found :: later, rest) := by
  rcases hItem.starts with ⟨c, later, rfl, hStart, hNotEnd⟩
  have hComma :
      skipSpace (',' :: gap ++ (c :: later) ++ rest) =
        ',' :: (gap ++ (c :: later) ++ rest) :=
    rfl
  have hSkip := skipSpace_gap hGap hStart later rest
  have hRead :
      item (c :: (later ++ rest)) = .ok (found, rest) :=
    hItem.reads rest hRest
  rw [moreItems, hComma]
  simp only [hSkip]
  split
  · rename_i hNil
    cases hNil
  · rename_i hEnd
    exact (hNotEnd (List.cons.inj hEnd).1).elim
  · simp only [hRead, bind, Except.bind]
    cases moreItems item fuel rest <;> rfl

/- Printed items are read up to the closing bracket. -/
theorem moreItems_printed
    (hGap : ∀ c ∈ gap, isSpace c = true)
    (hClosing : IsGap closing)
    {items : List β}
    (hItems :
      ∀ part ∈ items, Reads item (print part) (value part))
    {fuel : Nat}
    (hFuel : items.length < fuel)
    (rest : Text) :
    moreItems item fuel
        (((items.map print).flatMap fun next =>
            ',' :: gap ++ next) ++
          (closing ++ ']' :: rest)) =
      .ok (items.map value, rest) := by
  induction items generalizing fuel with
  | nil =>
      cases fuel with
      | zero => simp at hFuel
      | succ fuel =>
          have hSkip :
              skipSpace (closing ++ ']' :: rest) =
                ']' :: rest :=
            skipSpace_append hClosing.1 (by decide) rest
          rw [List.map_nil, List.flatMap_nil,
            List.nil_append, moreItems, hSkip]
          rfl
  | cons part later ih =>
      cases fuel with
      | zero => simp at hFuel
      | succ fuel =>
          rw [List.forall_mem_cons] at hItems
          rw [List.map_cons, List.flatMap_cons,
            List.append_assoc,
            moreItems_comma hGap hItems.1 fuel
              (isDelimited_behind gap hClosing (by decide) _
                rest),
            ih hItems.2 (by simpa using hFuel)]
          rfl

/- A printed array is read behind its opening bracket. -/
theorem arrayRest_printed
    (hGap : ∀ c ∈ gap, isSpace c = true)
    (hClosing : IsGap closing)
    {items : List β}
    (hItems :
      ∀ part ∈ items, Reads item (print part) (value part))
    {limit : Nat}
    (hLimit : items.length ≤ limit)
    (rest : Text) :
    arrayRest limit item
        (enclosed gap closing (items.map print) ++
          ']' :: rest) =
      .ok (items.map value, rest) := by
  cases items with
  | nil => rfl
  | cons part later =>
      rw [List.forall_mem_cons] at hItems
      have hBehind :
          IsDelimited
            (((later.map print).flatMap fun next =>
                ',' :: gap ++ next) ++
              (closing ++ ']' :: rest)) :=
        isDelimited_behind gap hClosing (by decide) _ rest
      have hRead := hItems.1.reads _ hBehind
      have hFuel : later.length < limit := hLimit
      have hLater :=
        moreItems_printed hGap hClosing hItems.2 hFuel rest
      rcases hItems.1.starts with
        ⟨c, text, hText, hStart, hNotEnd⟩
      rw [List.map_cons, enclosed_cons]
      simp only [List.append_assoc]
      rw [hText] at hRead ⊢
      rw [arrayRest, List.cons_append,
        skipSpace_append hGap hStart]
      split
      · rename_i hNil
        cases hNil
      · rename_i hEnd
        exact (hNotEnd (List.cons.inj hEnd).1).elim
      · rw [List.cons_append] at hRead
        rw [hRead]
        simp only [bind, Except.bind, hLater]
        rfl

end Arrays

------------------------------------------------------------
-- Objects
------------------------------------------------------------

section Objects

variable {α β σ : Type}
variable {entry : σ → String → ReadFn σ}
variable {gap closing : Text}

/-
  A reader of entries takes a text behind a key and goes from
  one state to another.
-/
def ReadsEntry
    (entry : σ → String → ReadFn σ)
    (state : σ)
    (key : String)
    (text : Text)
    (reached : σ) : Prop :=
  ∀ rest,
    IsDelimited rest →
      entry state key (text ++ rest) = .ok (reached, rest)

/- The value behind a colon is read, with space or without. -/
theorem afterColon_printed
    {item : ReadFn α}
    (hGap : ∀ c ∈ gap, isSpace c = true)
    {text : Text}
    {found : α}
    (hItem : Reads item text found)
    {rest : Text}
    (hRest : IsDelimited rest) :
    afterColon item (':' :: gap ++ text ++ rest) =
      .ok (found, rest) := by
  rcases hItem.starts with ⟨c, later, rfl, hStart, _⟩
  have hColon :
      colon (':' :: gap ++ (c :: later) ++ rest) =
        .ok ((), gap ++ (c :: later) ++ rest) :=
    rfl
  have hSkip := skipSpace_gap hGap hStart later rest
  simp only [afterColon, hColon, bind, Except.bind, hSkip]
  exact hItem.reads rest hRest

/- An entry in front of a text is found behind a comma. -/
theorem moreEntries_comma
    (hGap : ∀ c ∈ gap, isSpace c = true)
    {state reached : σ}
    {key : String}
    {text : Text}
    (hEntry : ReadsEntry entry state key text reached)
    (fuel : Nat)
    {rest : Text}
    (hRest : IsDelimited rest) :
    moreEntries entry (fuel + 1) state
        (',' :: gap ++ (quoted key ++ text) ++ rest) =
      moreEntries entry fuel reached rest := by
  have hComma :
      skipSpace (',' :: gap ++ (quoted key ++ text) ++ rest) =
        ',' :: (gap ++ (quoted key ++ text) ++ rest) :=
    rfl
  have hSkip :
      skipSpace (gap ++ (quoted key ++ text) ++ rest) =
        '"' ::
          (key.toList.flatMap escapeChar ++
            '"' :: (text ++ rest)) := by
    rw [List.append_assoc, List.append_assoc, quoted_append]
    exact skipSpace_append hGap (by decide) _
  rw [moreEntries, hComma]
  simp only [hSkip, stringRest_printed, bind, Except.bind,
    hEntry rest hRest]

variable (tail : β → Text) (next : σ → String × β → σ)

/- Printed entries are read up to the closing brace. -/
theorem moreEntries_printed
    (hGap : ∀ c ∈ gap, isSpace c = true)
    (hClosing : IsGap closing)
    {entries : List (String × β)}
    (hEntries :
      ∀ part ∈ entries,
        ∀ state,
          ReadsEntry entry state part.1 (tail part.2)
            (next state part))
    {fuel : Nat}
    (hFuel : entries.length < fuel)
    (state : σ)
    (rest : Text) :
    moreEntries entry fuel state
        (((entries.map fun part =>
              quoted part.1 ++ tail part.2).flatMap
            fun piece => ',' :: gap ++ piece) ++
          (closing ++ '}' :: rest)) =
      .ok (entries.foldl next state, rest) := by
  induction entries generalizing fuel state with
  | nil =>
      cases fuel with
      | zero => simp at hFuel
      | succ fuel =>
          have hSkip :
              skipSpace (closing ++ '}' :: rest) =
                '}' :: rest :=
            skipSpace_append hClosing.1 (by decide) rest
          rw [List.map_nil, List.flatMap_nil,
            List.nil_append, moreEntries, hSkip]
          rfl
  | cons part later ih =>
      cases fuel with
      | zero => simp at hFuel
      | succ fuel =>
          rw [List.forall_mem_cons] at hEntries
          rw [List.map_cons, List.flatMap_cons,
            List.append_assoc,
            moreEntries_comma hGap (hEntries.1 state) fuel
              (isDelimited_behind gap hClosing (by decide) _
                rest),
            ih hEntries.2 (by simpa using hFuel)]
          rfl

/-
  A printed object with an entry is read behind its opening
  brace.  The first entry may be taken in another way than the
  later ones.
-/
theorem objectRest_printed
    (hGap : ∀ c ∈ gap, isSpace c = true)
    (hClosing : IsGap closing)
    {state reached : σ}
    {first : String × β}
    (hFirst :
      ReadsEntry entry state first.1 (tail first.2) reached)
    {entries : List (String × β)}
    (hEntries :
      ∀ part ∈ entries,
        ∀ state,
          ReadsEntry entry state part.1 (tail part.2)
            (next state part))
    {limit : Nat}
    (hLimit : entries.length < limit)
    (rest : Text) :
    objectRest limit entry state
        (enclosed gap closing
            ((first :: entries).map fun part =>
              quoted part.1 ++ tail part.2) ++
          '}' :: rest) =
      .ok (entries.foldl next reached, rest) := by
  have hBehind :
      IsDelimited
        (((entries.map fun part =>
              quoted part.1 ++ tail part.2).flatMap
            fun piece => ',' :: gap ++ piece) ++
          (closing ++ '}' :: rest)) :=
    isDelimited_behind gap hClosing (by decide) _ rest
  have hLater :=
    moreEntries_printed tail next hGap hClosing hEntries
      hLimit reached rest
  rw [List.map_cons, enclosed_cons]
  simp only [List.append_assoc]
  rw [objectRest, quoted_append,
    skipSpace_append hGap (by decide)]
  simp only [stringRest_printed, bind, Except.bind,
    hFirst _ hBehind]
  exact hLater

end Objects

------------------------------------------------------------
-- Texts
------------------------------------------------------------

/- A text of one value is read as a whole. -/
theorem whole_of_reads
    {α : Type}
    {item : Nat → ReadFn α}
    {text : Text}
    {found : α}
    (hItem : Reads (item text.length) text found) :
    whole item text = .ok found := by
  have hRead := hItem.reads [] isDelimited_nil
  rcases hItem.starts with ⟨c, later, rfl, hStart, _⟩
  rw [List.append_nil] at hRead
  have hSkip : skipSpace ([] ++ c :: later) = c :: later :=
    skipSpace_append (by simp) hStart later
  rw [List.nil_append] at hSkip
  simp only [whole, hSkip, hRead, bind, Except.bind]
  rfl

end Json

end SceneScript
