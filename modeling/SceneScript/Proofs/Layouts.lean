import SceneScript.Json.Reader
import SceneScript.Proofs.Enclosed

/-
  JSON values are read as they were printed, on one line or
  on indented lines.

  Key definitions include:
    * `Json.Layout`
    * `Json.Layout.compact`
    * `Json.Layout.pretty`
    * `Json.Fits`

  Correctness is stated by:
    * `Json.Layout.reads_value`
    * `Json.Layout.read_print`

  The two printers differ only in the space between tokens, so
  that values are followed once for both.
-/

namespace SceneScript

namespace Json

------------------------------------------------------------
-- Layouts
------------------------------------------------------------

/-
  A way to print values.  Parts stand behind a gap that
  depends on their level, and the closing bracket behind the
  gap of the level that the value stands at.
-/
structure Layout where
  print : Nat → Json → Text
  gap : Nat → Text
  space : Text
  isGap : ∀ level, IsGap (gap level)
  isSpace : ∀ c ∈ space, Json.isSpace c = true
  print_null :
    ∀ level, print level null = ['n', 'u', 'l', 'l']
  print_true :
    ∀ level, print level (bool true) = ['t', 'r', 'u', 'e']
  print_false :
    ∀ level,
      print level (bool false) = ['f', 'a', 'l', 's', 'e']
  print_int :
    ∀ level n,
      print level (int n) = Numeral.signedDecimal n
  print_str :
    ∀ level text, print level (str text) = quoted text
  print_arr :
    ∀ level items,
      print level (arr items) =
        '[' ::
          (enclosed (gap (level + 1)) (gap level)
              (items.map (print (level + 1))) ++
            [']'])
  print_obj :
    ∀ level entries,
      print level (obj entries) =
        '{' ::
          (enclosed (gap (level + 1)) (gap level)
              (entries.map fun entry =>
                quoted entry.1 ++
                  (':' :: space ++
                    print (level + 1) entry.2)) ++
            ['}'])

/- A printer that goes on item by item prints every item. -/
theorem eq_map_of_cons
    {α β : Type}
    {print : List α → List β}
    {printOne : α → β}
    (hNil : print [] = [])
    (hCons :
      ∀ item rest,
        print (item :: rest) = printOne item :: print rest)
    (items : List α) :
    print items = items.map printOne := by
  induction items with
  | nil => exact hNil
  | cons item rest ih => rw [hCons, ih, List.map_cons]

/- Items are printed one by one. -/
theorem compactItems_eq_map (items : List Json) :
    compactItems items = items.map Json.compact :=
  eq_map_of_cons rfl (fun _ _ => rfl) items

/- Entries are printed one by one. -/
theorem compactEntries_eq_map
    (entries : List (String × Json)) :
    compactEntries entries =
      entries.map fun entry =>
        quoted entry.1 ++ (':' :: Json.compact entry.2) := by
  apply eq_map_of_cons rfl
  intro entry rest
  rw [compactEntries, List.append_assoc]
  rfl

/- Items on lines are printed one by one. -/
theorem prettyItems_eq_map
    (level : Nat)
    (items : List Json) :
    prettyItems level items = items.map (prettyAt level) :=
  eq_map_of_cons rfl (fun _ _ => rfl) items

/- Entries on lines are printed one by one. -/
theorem prettyEntries_eq_map
    (level : Nat)
    (entries : List (String × Json)) :
    prettyEntries level entries =
      entries.map fun entry =>
        quoted entry.1 ++
          (':' :: [' '] ++ prettyAt level entry.2) := by
  apply eq_map_of_cons rfl
  intro entry rest
  rw [prettyEntries, List.append_assoc]

/- Without gaps, pieces are joined with commas. -/
theorem enclosed_nil (pieces : List Text) :
    enclosed [] [] pieces = Text.joinWith [','] pieces := by
  cases pieces with
  | nil => rfl
  | cons piece later => simp [enclosed]

/- A block has its pieces between two brackets. -/
theorem block_eq
    (level : Nat)
    (opening closing : Char)
    (pieces : List Text) :
    block level opening closing pieces =
      opening ::
        (enclosed (newLine (level + 1)) (newLine level)
            pieces ++
          [closing]) := by
  cases pieces with
  | nil => rfl
  | cons piece later => simp [block, enclosed]

namespace Layout

/- Values on one line. -/
def compact : Layout where
  print := fun _ => Json.compact
  gap := fun _ => []
  space := []
  isGap := by simp [IsGap]
  isSpace := by simp
  print_null := fun _ => rfl
  print_true := fun _ => rfl
  print_false := fun _ => rfl
  print_int := fun _ _ => rfl
  print_str := fun _ _ => rfl
  print_arr := by
    intro level items
    rw [Json.compact, compactItems_eq_map, enclosed_nil]
    rfl
  print_obj := by
    intro level entries
    rw [Json.compact, compactEntries_eq_map, enclosed_nil]
    rfl

/- Values on indented lines. -/
def pretty : Layout where
  print := prettyAt
  gap := newLine
  space := [' ']
  isGap := by
    intro level
    refine ⟨fun c hMem => ?_, fun c hHead => ?_⟩
    · rcases List.mem_cons.mp hMem with rfl | hIndent
      · rfl
      · rw [List.eq_of_mem_replicate hIndent]
        rfl
    · simpa [newLine] using hHead.symm
  isSpace := by
    intro c hMem
    rw [List.mem_singleton.mp hMem]
    rfl
  print_null := fun _ => rfl
  print_true := fun _ => rfl
  print_false := fun _ => rfl
  print_int := fun _ _ => rfl
  print_str := fun _ _ => rfl
  print_arr := by
    intro level items
    rw [prettyAt, block_eq, prettyItems_eq_map]
  print_obj := by
    intro level entries
    rw [prettyAt, block_eq, prettyEntries_eq_map]

------------------------------------------------------------
-- Parts of Values
------------------------------------------------------------

variable (layout : Layout)

/- A printed array starts with a bracket. -/
theorem starts_arr
    (level : Nat)
    (items : List Json) :
    ∃ c later,
      layout.print level (arr items) = c :: later ∧
        Json.isSpace c = false ∧ c ≠ ']' :=
  ⟨'[', _, layout.print_arr level items, by decide,
    by decide⟩

/- A printed object starts with a brace. -/
theorem starts_obj
    (level : Nat)
    (entries : List (String × Json)) :
    ∃ c later,
      layout.print level (obj entries) = c :: later ∧
        Json.isSpace c = false ∧ c ≠ ']' :=
  ⟨'{', _, layout.print_obj level entries, by decide,
    by decide⟩

/- What stands behind the key of a value. -/
def behindKey
    (level : Nat)
    (json : Json) : Text :=
  ':' :: layout.space ++ layout.print level json

/-
  A printed array is read behind its opening bracket.  The
  limit that is enough for the array is enough for its items.
-/
theorem arrayRest_print
    {α β : Type}
    {item : ReadFn α}
    {part : β → Json}
    {value : β → α}
    {parts : List β}
    {level limit : Nat}
    (hLimit :
      (layout.print level (arr (parts.map part))).length ≤
        limit)
    (hParts :
      ∀ source ∈ parts,
        (layout.print (level + 1) (part source)).length ≤
            limit →
          Reads item (layout.print (level + 1) (part source))
            (value source))
    (rest : Text) :
    ∃ text,
      layout.print level (arr (parts.map part)) ++ rest =
          '[' :: text ∧
        arrayRest limit item text =
          .ok (parts.map value, rest) := by
  let print (source : β) : Text :=
    layout.print (level + 1) (part source)
  let body : Text :=
    enclosed (layout.gap (level + 1)) (layout.gap level)
      (parts.map print)
  have hPrint :
      layout.print level (arr (parts.map part)) =
        '[' :: (body ++ [']']) := by
    rw [layout.print_arr, List.map_map]
    rfl
  have hBody : body.length < limit := by
    rw [hPrint] at hLimit
    simp only [List.length_cons, List.length_append,
      List.length_nil] at hLimit
    omega
  have hEach :
      ∀ source ∈ parts,
        Reads item (print source) (value source) := by
    intro source hSource
    have hLength : (print source).length ≤ body.length :=
      length_le_enclosed _ _ (List.mem_map_of_mem hSource)
    exact
      hParts source hSource
        (Nat.le_of_lt (Nat.lt_of_le_of_lt hLength hBody))
  have hCount : parts.length ≤ body.length + 1 := by
    have hPieces :=
      length_le_length_enclosed (layout.gap (level + 1))
        (layout.gap level) (parts.map print)
    rw [List.length_map] at hPieces
    exact hPieces
  refine ⟨body ++ ']' :: rest, ?_, ?_⟩
  · rw [hPrint, List.cons_append, List.append_assoc]
    rfl
  · exact
      arrayRest_printed (layout.isGap (level + 1)).1
        (layout.isGap level) hEach (by omega) rest

/-
  A printed object with an entry is read behind its opening
  brace.  The limit that is enough for the object is enough
  for its values.
-/
theorem objectRest_print
    {σ : Type}
    {entry : σ → String → ReadFn σ}
    {next : σ → String × Json → σ}
    {state reached : σ}
    {first : String × Json}
    {entries : List (String × Json)}
    {level limit : Nat}
    (hLimit :
      (layout.print level (obj (first :: entries))).length ≤
        limit)
    (hFirst :
      (layout.print (level + 1) first.2).length ≤ limit →
        ReadsEntry entry state first.1
          (layout.behindKey (level + 1) first.2) reached)
    (hEntries :
      ∀ part ∈ entries,
        (layout.print (level + 1) part.2).length ≤ limit →
          ∀ state,
            ReadsEntry entry state part.1
              (layout.behindKey (level + 1) part.2)
              (next state part))
    (rest : Text) :
    ∃ text,
      layout.print level (obj (first :: entries)) ++ rest =
          '{' :: text ∧
        objectRest limit entry state text =
          .ok (entries.foldl next reached, rest) := by
  let piece (part : String × Json) : Text :=
    quoted part.1 ++ layout.behindKey (level + 1) part.2
  let body : Text :=
    enclosed (layout.gap (level + 1)) (layout.gap level)
      ((first :: entries).map piece)
  have hPrint :
      layout.print level (obj (first :: entries)) =
        '{' :: (body ++ ['}']) :=
    layout.print_obj level (first :: entries)
  have hBody : body.length < limit := by
    rw [hPrint] at hLimit
    simp only [List.length_cons, List.length_append,
      List.length_nil] at hLimit
    omega
  have hLength :
      ∀ part ∈ first :: entries,
        (layout.print (level + 1) part.2).length ≤ limit := by
    intro part hPart
    have hPiece : (piece part).length ≤ body.length :=
      length_le_enclosed _ _ (List.mem_map_of_mem hPart)
    simp only [piece, behindKey, List.length_append,
      List.length_cons] at hPiece
    omega
  have hCount : (first :: entries).length ≤ body.length + 1 := by
    have hPieces :=
      length_le_length_enclosed (layout.gap (level + 1))
        (layout.gap level) ((first :: entries).map piece)
    rw [List.length_map] at hPieces
    exact hPieces
  rw [List.forall_mem_cons] at hLength
  rw [List.length_cons] at hCount
  refine ⟨body ++ '}' :: rest, ?_, ?_⟩
  · rw [hPrint, List.cons_append, List.append_assoc]
    rfl
  · exact
      objectRest_printed (layout.behindKey (level + 1)) next
        (layout.isGap (level + 1)).1 (layout.isGap level)
        (hFirst hLength.1)
        (fun part hPart =>
          hEntries part hPart (hLength.2 part hPart))
        (by omega) rest

end Layout

------------------------------------------------------------
-- Values
------------------------------------------------------------

/-
  A value can be read back with some levels of nesting.  Its
  integers fit 64 bits.
-/
inductive Fits : Nat → Json → Prop
| null {room : Nat} : Fits room null
| bool {room : Nat} (value : Bool) : Fits room (bool value)
| int {room : Nat} {n : Int} (hRange : InRange n) :
    Fits room (int n)
| str {room : Nat} (text : String) : Fits room (str text)
| arr {room : Nat} {items : List Json}
    (hItems : ∀ item ∈ items, Fits room item) :
    Fits (room + 1) (arr items)
| obj {room : Nat} {entries : List (String × Json)}
    (hEntries : ∀ entry ∈ entries, Fits room entry.2) :
    Fits (room + 1) (obj entries)

/- A value without brackets is a scalar. -/
theorem value_eq_scalar
    (limit room : Nat)
    {c : Char}
    (hArray : c ≠ '[')
    (hObject : c ≠ '{')
    (rest : Text) :
    value limit room (c :: rest) = scalar (c :: rest) := by
  cases room with
  | zero =>
      unfold value
      split
      · rename_i hStart
        exact (hArray (List.cons.inj hStart).1).elim
      · rename_i hStart
        exact (hObject (List.cons.inj hStart).1).elim
      · rfl
  | succ room =>
      unfold value
      split
      · rename_i hStart
        exact (hArray (List.cons.inj hStart).1).elim
      · rename_i hStart
        exact (hObject (List.cons.inj hStart).1).elim
      · rfl

/- A text that is read as a scalar is read as a value. -/
theorem reads_scalar
    {c : Char}
    {later : Text}
    {json : Json}
    (hSpace : Json.isSpace c = false)
    (hBracket : c ≠ ']' ∧ c ≠ '[' ∧ c ≠ '{')
    (hScalar :
      ∀ rest,
        IsDelimited rest →
          scalar (c :: later ++ rest) = .ok (json, rest))
    (limit room : Nat) :
    Reads (value limit room) (c :: later) json := by
  refine ⟨⟨c, later, rfl, hSpace, hBracket.1⟩, ?_⟩
  intro rest hRest
  rw [List.cons_append,
    value_eq_scalar limit room hBracket.2.1 hBracket.2.2]
  exact hScalar rest hRest

/- A number starts with a digit or a sign. -/
theorem exists_head_signedDecimal (n : Int) :
    ∃ c later,
      Numeral.signedDecimal n = c :: later ∧
        (c = '-' ∨ c.isDigit = true) := by
  cases hWritten : Numeral.signedDecimal n with
  | nil =>
      unfold Numeral.signedDecimal at hWritten
      split at hWritten
      · cases hWritten
      · exact (Nat.toDigits_ne_nil hWritten).elim
  | cons c later =>
      refine ⟨c, later, rfl, ?_⟩
      apply Numeral.mem_signedDecimal (n := n)
      simp [hWritten]

/- Other characters do not start a number. -/
theorem ne_of_starts_number
    {c d : Char}
    (hHead : c = '-' ∨ c.isDigit = true)
    (hOther : ¬(d = '-' ∨ d.isDigit = true)) :
    c ≠ d := by
  rintro rfl
  exact hOther hHead

/- A scalar that starts like a number is one. -/
theorem scalar_eq_number
    {c : Char}
    (hHead : c = '-' ∨ c.isDigit = true)
    (rest : Text) :
    scalar (c :: rest) = number (c :: rest) := by
  rw [scalar, if_pos hHead]
  -- Neither a word nor a string starts like a number.
  all_goals
    exact ne_of_starts_number hHead (by decide)

/- A printed integer is read as a value. -/
theorem reads_int
    {n : Int}
    (hRange : InRange n)
    (limit room : Nat) :
    Reads (value limit room) (Numeral.signedDecimal n)
      (int n) := by
  rcases exists_head_signedDecimal n with
    ⟨c, later, hWritten, hHead⟩
  have hSpace : Json.isSpace c = false := by
    simp only [Json.isSpace, Bool.or_eq_false_iff,
      beq_eq_false_iff_ne]
    refine ⟨⟨⟨?_, ?_⟩, ?_⟩, ?_⟩
    all_goals
      exact ne_of_starts_number hHead (by decide)
  have hBracket : c ≠ ']' ∧ c ≠ '[' ∧ c ≠ '{' := by
    refine ⟨?_, ?_, ?_⟩
    all_goals
      exact ne_of_starts_number hHead (by decide)
  rw [hWritten]
  apply reads_scalar hSpace hBracket
  intro rest hRest
  rw [List.cons_append, scalar_eq_number hHead,
    ← List.cons_append, ← hWritten]
  exact number_signedDecimal hRange hRest

/- A printed string is read where a string is right. -/
theorem reads_strictString (text : String) :
    Reads strictString (quoted text) text := by
  constructor
  · exact ⟨'"', _, rfl, by decide, by decide⟩
  · intro rest _
    rw [quoted_append]
    exact stringRest_printed text rest

/- A printed string is read as a value. -/
theorem reads_str
    (text : String)
    (limit room : Nat) :
    Reads (value limit room) (quoted text) (str text) := by
  apply reads_scalar (by decide) (by decide)
  intro rest _
  change scalar (quoted text ++ rest) = _
  rw [quoted_append]
  simp only [scalar, stringRest_printed, bind, Except.bind]
  rfl

/- A value behind a colon is added to the entries. -/
theorem readsEntry_anyEntry
    {item : ReadFn Json}
    {gap : Text}
    (hGap : ∀ c ∈ gap, isSpace c = true)
    {text : Text}
    {json : Json}
    (hItem : Reads item text json)
    (entries : List (String × Json))
    (key : String) :
    ReadsEntry (anyEntry item) entries key
      (':' :: gap ++ text) ((key, json) :: entries) := by
  intro rest hRest
  simp only [anyEntry, afterColon_printed hGap hItem hRest,
    bind, Except.bind]
  rfl

namespace Layout

variable (layout : Layout)

/- A printed value is read back if it fits. -/
theorem reads_value
    {room : Nat}
    {json : Json}
    (hFits : Fits room json)
    {level limit : Nat}
    (hLimit : (layout.print level json).length ≤ limit) :
    Reads (value limit room) (layout.print level json)
      json := by
  induction hFits generalizing level with
  | null =>
      rw [layout.print_null]
      exact
        reads_scalar (by decide) (by decide)
          (fun _ _ => rfl) limit _
  | bool flag =>
      cases flag with
      | true =>
          rw [layout.print_true]
          exact
            reads_scalar (by decide) (by decide)
              (fun _ _ => rfl) limit _
      | false =>
          rw [layout.print_false]
          exact
            reads_scalar (by decide) (by decide)
              (fun _ _ => rfl) limit _
  | int hRange =>
      rw [layout.print_int]
      exact reads_int hRange limit _
  | str text =>
      rw [layout.print_str]
      exact reads_str text limit _
  | @arr room items hItems ih =>
      refine ⟨layout.starts_arr level items, ?_⟩
      intro rest _
      rw [← List.map_id items] at hLimit ⊢
      rcases layout.arrayRest_print hLimit
          (fun item hItem hLength => ih item hItem hLength)
          rest with
        ⟨text, hPrint, hRead⟩
      rw [hPrint]
      simp only [value, hRead, bind, Except.bind]
      rfl
  | @obj room entries hEntries ih =>
      refine ⟨layout.starts_obj level entries, ?_⟩
      intro rest _
      cases entries with
      | nil =>
          rw [layout.print_obj]
          rfl
      | cons first later =>
          have hParts :
              ∀ part ∈ first :: later,
                (layout.print (level + 1) part.2).length ≤
                    limit →
                  ∀ state,
                    ReadsEntry (anyEntry (value limit room))
                      state part.1
                      (layout.behindKey (level + 1) part.2)
                      (part :: state) := by
            intro part hPart hLength state
            exact
              readsEntry_anyEntry layout.isSpace
                (ih part hPart hLength) state part.1
          rw [List.forall_mem_cons] at hParts
          rcases layout.objectRest_print hLimit
              (fun hLength => hParts.1 hLength []) hParts.2
              rest with
            ⟨text, hPrint, hRead⟩
          have hOrder :
              (later.foldl (fun state part => part :: state)
                  [first]).reverse =
                first :: later :=
            List.reverse_foldl (l := first :: later)
          rw [hPrint]
          simp only [value, hRead, bind, Except.bind, hOrder]
          rfl

/- A printed value is read back as a whole text. -/
theorem read_print
    {json : Json}
    (hFits : Fits maxNesting json) :
    read (layout.print 0 json) = .ok json :=
  whole_of_reads
    (layout.reads_value hFits (Nat.le_refl _))

end Layout

end Json

end SceneScript
