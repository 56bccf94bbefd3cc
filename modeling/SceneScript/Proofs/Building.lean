import SceneScript.Json.Script
import SceneScript.LineTable.Codec
import SceneScript.Proofs.Tables

/-
  Looking lines up in a table, however it was built.

  Key definitions include:
    * `LineTable.jsonStrings`
    * `LineTable.IsBuilt`

  Correctness is stated by:
    * `LineTable.IsBuilt.toList_eq`
    * `LineTable.get_add_of_get`
    * `LineTable.getElem?_of_repeated_add`
    * `LineTable.indexOf?_of_isBuilt`

  The positions that a table knows are filled in two ways.
  Collecting lines keeps the repeated ones and their first
  positions, while adding a line repeats none.  Any mixture of
  the two finds what a search from the front would find.
-/

namespace SceneScript

namespace LineTable

------------------------------------------------------------
-- Tables That Can Arise
------------------------------------------------------------

/- The strings of a text that is a JSON array of strings. -/
def jsonStrings
    (input : Text) : Except Json.Fault (List String) :=
  Json.whole
    (fun limit => Json.strictArray limit Json.strictString)
    input

/- A table is read from JSON by collecting the strings. -/
theorem ofJsonText_eq (input : Text) :
    ofJsonText input =
      (jsonStrings input).map fun strings =>
        ofList (strings.map String.toList) := by
  unfold ofJsonText jsonStrings
  cases Json.whole
      (fun limit =>
        Json.strictArray limit Json.strictString)
      input <;> rfl

/-
  A table that can arise, with the lines that were put into
  it.  It starts empty, as a collection of lines, as a JSON
  text or as a file, and lines are added to it.
-/
inductive IsBuilt : LineTable → List Text → Prop
| empty : IsBuilt .empty []
| collected (lines : List Text) :
    IsBuilt (.ofList lines) lines
| parsed
    {input : Text}
    {strings : List String}
    {table : LineTable}
    (hStrings : jsonStrings input = .ok strings)
    (hTable : ofJsonText input = .ok table) :
    IsBuilt table (strings.map String.toList)
| decoded (bytes : List UInt8) :
    IsBuilt (.decode bytes)
      ((Text.splitLines (ShiftJis.decode bytes)).map
        Text.toHalf)
| added
    {table : LineTable}
    {lines : List Text}
    (hBuilt : IsBuilt table lines)
    (line : Text) :
    IsBuilt (table.add line).2
      (if line ∈ lines then lines else lines ++ [line])

/- A table holds the lines that were put into it, in order. -/
theorem IsBuilt.toList_eq
    {table : LineTable}
    {lines : List Text}
    (hBuilt : IsBuilt table lines) :
    table.toList = lines := by
  induction hBuilt with
  | empty => exact toList_empty
  | collected lines => exact toList_ofList lines
  | parsed hStrings hTable =>
      rw [ofJsonText_eq, hStrings] at hTable
      cases hTable
      exact toList_ofList _
  | decoded bytes => exact toList_ofList _
  | added hBuilt line ih => rw [toList_add, ih]

------------------------------------------------------------
-- Adding to a Table
------------------------------------------------------------

/- A line that is handed out is the one in the list. -/
theorem get_eq_ok_iff
    {table : LineTable}
    {index : Nat}
    {line : Text} :
    table.get index = .ok line ↔
      table.toList[index]? = some line := by
  rw [get, get?_eq_getElem?_toList]
  cases table.toList[index]? <;> simp

/- A line keeps its position when another one is added. -/
theorem get_add_of_get
    {table : LineTable}
    {index : Nat}
    {line : Text}
    (hLine : table.get index = .ok line)
    (text : Text) :
    (table.add text).2.get index = .ok line := by
  rw [get_eq_ok_iff] at hLine ⊢
  rcases prefix_add table text with ⟨later, hGrown⟩
  rw [← hGrown]
  have hBound := (List.getElem?_eq_some_iff.mp hLine).1
  rw [List.getElem?_append_left hBound]
  exact hLine

/- A line that is repeated now was repeated there before. -/
theorem getElem?_of_repeated_add
    {table : LineTable}
    {text line : Text}
    {first later : Nat}
    (hOrder : first < later)
    (hFirst :
      (table.add text).2.toList[first]? = some line)
    (hLater :
      (table.add text).2.toList[later]? = some line) :
    table.toList[later]? = some line := by
  rw [toList_add] at hFirst hLater
  split at hLater
  · exact hLater
  · rename_i hAbsent
    rw [if_neg hAbsent] at hFirst
    have hBound := (List.getElem?_eq_some_iff.mp hLater).1
    rw [List.length_append, List.length_singleton] at hBound
    rw [List.getElem?_append_left (by omega)] at hFirst
    by_cases hOld : later < table.toList.length
    · rwa [List.getElem?_append_left hOld] at hLater
    · -- The later one is the line just added, so the earlier
      -- one would be a line that the table held already.
      have hLast : later = table.toList.length := by
        omega
      rw [hLast, List.getElem?_concat_length,
        Option.some.injEq] at hLater
      rw [← hLater] at hFirst
      exact (hAbsent (List.mem_of_getElem? hFirst)).elim

------------------------------------------------------------
-- Looking Up
------------------------------------------------------------

/-
  A table finds the first position of each of its lines and
  of no other line.  Adding hands out a position of the line,
  appends the line only if the table does not hold it, moves
  nothing and repeats nothing.  Two tables are the same
  exactly if they hold the same lines.
-/
theorem indexOf?_of_isBuilt
    {table : LineTable}
    {lines : List Text}
    (hBuilt : IsBuilt table lines) :
    table.toList = lines ∧
      (∀ text index,
        table.indexOf? text = some index ↔
          lines[index]? = some text ∧
            text ∉ lines.take index) ∧
      (∀ text,
        table.indexOf? text = none ↔ text ∉ lines) ∧
      (∀ text,
        let index := (table.add text).1
        let grown := (table.add text).2
        grown.get index = .ok text ∧
          grown.toList =
            (if text ∈ lines then
              lines
            else
              lines ++ [text]) ∧
          (∀ position line,
            table.get position = .ok line →
              grown.get position = .ok line) ∧
          ∀ (first later : Nat) (line : Text),
            first < later →
              grown.toList[first]? = some line →
              grown.toList[later]? = some line →
              lines[later]? = some line) ∧
      ∀ other others,
        IsBuilt other others →
          (table.Same other ↔ lines = others) := by
  have hLines := hBuilt.toList_eq
  refine ⟨hLines, ?_, ?_, ?_, ?_⟩
  · intro text index
    rw [indexOf?_eq, hLines]
    exact idxOf?_eq_some_iff
  · intro text
    rw [indexOf?_eq, hLines]
    exact List.idxOf?_eq_none_iff
  · intro text index grown
    refine ⟨?_, ?_, ?_, ?_⟩
    · exact get_eq_ok_iff.mpr (getElem?_add table text)
    · rw [← hLines]
      exact toList_add table text
    · intro position line hLine
      exact get_add_of_get hLine text
    · intro first later line hOrder hFirst hLater
      rw [← hLines]
      exact getElem?_of_repeated_add hOrder hFirst hLater
  · intro other others hOther
    rw [same_iff, hLines, hOther.toList_eq]

/-
  A repeated line is collected, and a new line is added behind
  it.  The repeated line is still found in front.
-/
theorem indexOf?_of_isBuilt_repeated :
    ∃ (table : LineTable) (lines : List Text),
      IsBuilt table lines ∧
        lines = [['x'], ['x'], ['y']] ∧
        table.indexOf? ['x'] = some 0 ∧
        table.indexOf? ['y'] = some 2 ∧
        table.indexOf? ['z'] = none ∧
        (table.add ['y']).2.toList = lines ∧
        (table.add ['z']).2.get 1 = .ok ['x'] := by
  let start : LineTable := .ofList [['x'], ['x']]
  have hBuilt :
      IsBuilt (start.add ['y']).2 [['x'], ['x'], ['y']] :=
    .added (.collected [['x'], ['x']]) ['y']
  rcases indexOf?_of_isBuilt hBuilt with
    ⟨hLines, hFirst, hAbsent, hAdd, _⟩
  refine ⟨_, _, hBuilt, rfl, ?_, ?_, ?_, ?_, ?_⟩
  · exact (hFirst _ _).mpr (by decide)
  · exact (hFirst _ _).mpr (by decide)
  · exact (hAbsent _).mpr (by decide)
  · exact (hAdd ['y']).2.1
  · apply (hAdd ['z']).2.2.1
    rw [get_eq_ok_iff, hLines]
    rfl

end LineTable

end SceneScript
