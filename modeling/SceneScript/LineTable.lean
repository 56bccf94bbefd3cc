import Std.Data.TreeMap.Lemmas
import SceneScript.LineTable.Error
import SceneScript.Text.Width

/-
  Line tables.  A script refers to its dialogue by the
  position of a line in the table saved beside it.

  Key definitions include:
    * `LineTable`
    * `LineTable.indexOf?`
    * `LineTable.get`
    * `LineTable.push`
    * `LineTable.append`
    * `LineTable.add`
    * `LineTable.ofList`
    * `LineTable.Same`

  Correctness is stated by:
    * `LineTable.indexOf?_eq`
    * `LineTable.toList_push`
    * `LineTable.toList_append`
    * `LineTable.toList_ofList`
    * `LineTable.same_iff`

  Every table knows the first position of each of its lines,
  so that looking a line up does not search the table.  The
  positions are those that a search from the front finds.
-/

namespace SceneScript

------------------------------------------------------------
-- Tables
------------------------------------------------------------

/-
  Lines in order of position, with the first position of
  each line.
-/
structure LineTable where
  lines : Array Text
  firsts : Std.TreeMap Text Nat
  firsts_eq :
    ∀ text : Text,
      firsts[text]? = lines.toList.idxOf? text

namespace LineTable

/- The lines of a table in order of position. -/
def toList (table : LineTable) : List Text :=
  table.lines.toList

/- The number of lines. -/
def size (table : LineTable) : Nat :=
  table.lines.size

/- The table without lines. -/
def empty : LineTable where
  lines := #[]
  firsts := ∅
  firsts_eq := by
    intro text
    simp [List.idxOf?]

instance : Inhabited LineTable :=
  ⟨empty⟩

------------------------------------------------------------
-- Looking Up
------------------------------------------------------------

/- The first position of a line. -/
def indexOf?
    (table : LineTable)
    (text : Text) : Option Nat :=
  table.firsts[text]?

/- Looking a line up agrees with searching for it. -/
theorem indexOf?_eq
    (table : LineTable)
    (text : Text) :
    table.indexOf? text = table.toList.idxOf? text :=
  table.firsts_eq text

/- The line at a position, if the table has one there. -/
def get?
    (table : LineTable)
    (index : Nat) : Option Text :=
  table.lines[index]?

/- The line at a position. -/
def get
    (table : LineTable)
    (index : Nat) : Except Error Text :=
  match table.get? index with
  | some text => .ok text
  | none => .error (.outOfRange index table.size)

/-
  The positions that repeat an earlier line, each with the
  first position of that line.
-/
def repeats (table : LineTable) : List (Nat × Nat) :=
  table.toList.zipIdx.filterMap fun (text, index) =>
    match table.indexOf? text with
    | some first =>
        if first = index then none else some (index, first)
    | none => none

------------------------------------------------------------
-- Adding Lines
------------------------------------------------------------

/- The first position of a text after a line was appended. -/
theorem idxOf?_append_singleton
    (lines : List Text)
    (line text : Text) :
    (lines ++ [line]).idxOf? text =
      match lines.idxOf? text with
      | some index => some index
      | none =>
          if line = text then some lines.length else none := by
  simp only [List.idxOf?, List.findIdx?_append]
  cases lines.findIdx? (· == text) with
  | some index => simp
  | none =>
      by_cases hEq : line = text <;>
        simp [List.findIdx?_cons, hEq]

/-
  Append a line, even if the table holds an equal one.  Its
  position is taken before the lines change, so that the
  lines are extended in place.
-/
def push
    (table : LineTable)
    (line : Text) : LineTable :=
  let firsts :=
    table.firsts.insertIfNew line table.lines.size
  { lines := table.lines.push line
    firsts := firsts
    firsts_eq := by
      intro text
      rw [Std.TreeMap.getElem?_insertIfNew,
        Array.toList_push, idxOf?_append_singleton,
        table.firsts_eq text]
      by_cases hEq : line = text
      · subst hEq
        have hGet := table.firsts_eq line
        cases hFirst : table.lines.toList.idxOf? line with
        | some index =>
            rw [hFirst] at hGet
            have hMem : line ∈ table.firsts := by
              rw [Std.TreeMap.mem_iff_isSome_getElem?, hGet]
              rfl
            simp [hMem]
        | none =>
            rw [hFirst] at hGet
            have hNot : line ∉ table.firsts := by
              rw [Std.TreeMap.mem_iff_isSome_getElem?, hGet]
              simp
            simp [hNot]
      · have hCmp : compare line text ≠ .eq := by
          simpa using hEq
        cases table.lines.toList.idxOf? text <;>
          simp [hCmp, hEq] }

/- Appending puts the line behind the others. -/
@[simp]
theorem toList_push
    (table : LineTable)
    (line : Text) :
    (table.push line).toList = table.toList ++ [line] := by
  simp [toList, push]

/-
  Append a line that the table does not hold, so that its
  position is recorded without asking for an earlier one.
-/
def append
    (table : LineTable)
    (line : Text)
    (hNew : table.indexOf? line = none) : LineTable :=
  let firsts := table.firsts.insert line table.lines.size
  { lines := table.lines.push line
    firsts := firsts
    firsts_eq := by
      intro text
      rw [Std.TreeMap.getElem?_insert, Array.toList_push,
        idxOf?_append_singleton]
      by_cases hEq : line = text
      · subst hEq
        rw [indexOf?_eq, toList] at hNew
        simp [hNew]
      · have hCmp : compare line text ≠ .eq := by
          simpa using hEq
        rw [table.firsts_eq text]
        cases table.lines.toList.idxOf? text <;>
          simp [hCmp, hEq] }

/- A line that is recorded at once stands behind the others. -/
@[simp]
theorem toList_append
    (table : LineTable)
    (line : Text)
    (hNew : table.indexOf? line = none) :
    (table.append line hNew).toList =
      table.toList ++ [line] := by
  simp [toList, append]

/-
  The position of a line, which is appended first if the
  table does not hold it.
-/
def add
    (table : LineTable)
    (line : Text) : Nat × LineTable :=
  match hIndex : table.indexOf? line with
  | some index => (index, table)
  | none => (table.size, table.append line hIndex)

/- A line that is found is not appended. -/
theorem add_of_indexOf?_eq_some
    {table : LineTable}
    {line : Text}
    {index : Nat}
    (hIndex : table.indexOf? line = some index) :
    table.add line = (index, table) := by
  unfold add
  split
  · rename_i found hFound
    rw [hIndex, Option.some.injEq] at hFound
    rw [hFound]
  · rename_i hNew
    simp [hIndex] at hNew

/- A line that is not found is appended. -/
theorem add_of_indexOf?_eq_none
    {table : LineTable}
    {line : Text}
    (hNew : table.indexOf? line = none) :
    table.add line = (table.size, table.append line hNew) := by
  unfold add
  split
  · rename_i found hFound
    simp [hNew] at hFound
  · rfl

/- The table of the given lines, repeated ones included. -/
def ofList (lines : List Text) : LineTable :=
  lines.foldl push empty

/- Pushing lines one by one keeps their order. -/
theorem toList_foldl_push
    (lines : List Text)
    (table : LineTable) :
    (lines.foldl push table).toList =
      table.toList ++ lines := by
  induction lines generalizing table with
  | nil => simp
  | cons line rest ih => simp [ih]

/- A table built from lines holds exactly those lines. -/
@[simp]
theorem toList_ofList (lines : List Text) :
    (ofList lines).toList = lines := by
  rw [ofList, toList_foldl_push]
  rfl

------------------------------------------------------------
-- Equality
------------------------------------------------------------

/- Two tables hold the same lines at the same positions. -/
def Same (left right : LineTable) : Prop :=
  left.lines = right.lines ∧
    ∀ text : Text, left.indexOf? text = right.indexOf? text

/- The first positions follow from the lines. -/
theorem same_iff (left right : LineTable) :
    left.Same right ↔ left.toList = right.toList := by
  constructor
  · intro hSame
    exact congrArg Array.toList hSame.1
  · intro hLines
    refine ⟨Array.toList_inj.mp hLines, fun text => ?_⟩
    rw [indexOf?_eq, indexOf?_eq, hLines]

instance
    (left right : LineTable) :
    Decidable (left.Same right) :=
  decidable_of_iff' _ (same_iff left right)

end LineTable

end SceneScript
