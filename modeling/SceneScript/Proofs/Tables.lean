import SceneScript.LineTable
import SceneScript.Proofs.Lists

/-
  What adding a line does to a table.

  Correctness is stated by:
    * `LineTable.fst_add`
    * `LineTable.toList_add`
    * `LineTable.getElem?_add`
    * `LineTable.prefix_add`
    * `LineTable.nodup_add`
    * `LineTable.toList_add_eq_eraseDups`
    * `LineTable.add_map`

  The position that is handed out is the first one of the
  line, and no position that was handed out before moves.
  Positions depend only on which lines are equal.
-/

namespace SceneScript

namespace LineTable

/- The table without lines has none. -/
@[simp]
theorem toList_empty : empty.toList = [] :=
  rfl

/- A table has as many lines as its list. -/
theorem length_toList (table : LineTable) :
    table.toList.length = table.size := by
  simp [toList, size]

/- A line is looked up in the list of lines. -/
theorem get?_eq_getElem?_toList
    (table : LineTable)
    (index : Nat) :
    table.get? index = table.toList[index]? := by
  simp [get?, toList]

/- A line of a table is looked up to its first position. -/
theorem indexOf?_of_mem
    {table : LineTable}
    {line : Text}
    (hLine : line ∈ table.toList) :
    table.indexOf? line = some (table.toList.idxOf line) := by
  rw [indexOf?_eq, idxOf?_of_mem hLine]

/- A line is found exactly if the table holds it. -/
theorem isSome_indexOf?_iff
    (table : LineTable)
    (line : Text) :
    (table.indexOf? line).isSome ↔ line ∈ table.toList := by
  rw [indexOf?_eq, List.isSome_idxOf?]

/- The position of a line is the first one that it has. -/
theorem fst_add
    (table : LineTable)
    (line : Text) :
    (table.add line).1 = table.toList.idxOf line := by
  rw [List.idxOf_eq_getD_idxOf?, ← indexOf?_eq]
  cases hIndex : table.indexOf? line with
  | some index =>
      rw [add_of_indexOf?_eq_some hIndex]
      rfl
  | none =>
      rw [add_of_indexOf?_eq_none hIndex]
      exact (length_toList table).symm

/- A line is appended only if the table does not hold it. -/
theorem toList_add
    (table : LineTable)
    (line : Text) :
    (table.add line).2.toList =
      if line ∈ table.toList then
        table.toList
      else
        table.toList ++ [line] := by
  have hMem := isSome_indexOf?_iff table line
  cases hIndex : table.indexOf? line with
  | some index =>
      rw [hIndex] at hMem
      rw [add_of_indexOf?_eq_some hIndex,
        if_pos (hMem.mp rfl)]
  | none =>
      rw [hIndex] at hMem
      rw [add_of_indexOf?_eq_none hIndex, toList_append,
        if_neg fun hLine => by simp [hLine] at hMem]

/- The lines that a table holds stay in front. -/
theorem prefix_add
    (table : LineTable)
    (line : Text) :
    table.toList <+: (table.add line).2.toList := by
  rw [toList_add]
  split
  · exact List.prefix_rfl
  · exact List.prefix_append _ _

/- The position that is handed out holds the line. -/
theorem getElem?_add
    (table : LineTable)
    (line : Text) :
    (table.add line).2.toList[(table.add line).1]? =
      some line := by
  rw [fst_add, toList_add]
  split
  · rename_i hMem
    exact List.getElem?_idxOf hMem
  · rename_i hAbsent
    rw [List.idxOf_eq_length hAbsent,
      List.getElem?_append_right (Nat.le_refl _),
      Nat.sub_self]
    rfl

/- A table holds its earlier lines and the one added. -/
theorem mem_add_iff
    (table : LineTable)
    (line other : Text) :
    other ∈ (table.add line).2.toList ↔
      other ∈ table.toList ∨ other = line := by
  rw [toList_add]
  split
  · rename_i hMem
    constructor
    · exact .inl
    · rintro (hOther | rfl)
      · exact hOther
      · exact hMem
  · rw [List.mem_append, List.mem_singleton]

/- Adding never repeats a line. -/
theorem nodup_add
    {table : LineTable}
    (hNodup : table.toList.Nodup)
    (line : Text) :
    (table.add line).2.toList.Nodup := by
  rw [toList_add]
  split
  · exact hNodup
  · rename_i hAbsent
    rw [List.nodup_append]
    refine ⟨hNodup, List.nodup_singleton line, ?_⟩
    intro left hLeft right hRight hSame
    rw [List.mem_singleton] at hRight
    exact hAbsent (hRight ▸ hSame ▸ hLeft)

/- A line that a table holds is not added again. -/
theorem add_of_mem
    {table : LineTable}
    {line : Text}
    (hLine : line ∈ table.toList) :
    table.add line = (table.toList.idxOf line, table) :=
  add_of_indexOf?_eq_some (indexOf?_of_mem hLine)

/- The position that is handed out is the first one from now. -/
theorem idxOf_add
    (table : LineTable)
    (line : Text) :
    (table.add line).2.toList.idxOf line =
      (table.add line).1 := by
  rw [fst_add, toList_add]
  split
  · rfl
  · rename_i hAbsent
    rw [List.idxOf_append_of_notMem hAbsent,
      List.idxOf_cons_self, Nat.add_zero,
      List.idxOf_eq_length hAbsent]

/-
  Adding lines one after the other keeps the first of equal
  ones.
-/
theorem toList_add_eq_eraseDups
    {table : LineTable}
    {lines : List Text}
    (hLines : table.toList = lines.eraseDups)
    (line : Text) :
    (table.add line).2.toList =
      (lines ++ [line]).eraseDups := by
  rw [toList_add, hLines, eraseDups_concat]
  simp only [List.mem_eraseDups]

------------------------------------------------------------
-- Changed Lines
------------------------------------------------------------

/- A change of lines that keeps different ones different. -/
def Separates
    (f : Text → Text)
    (lines : List Text) : Prop :=
  ∀ left ∈ lines, ∀ right ∈ lines,
    f left = f right → left = right

/- Fewer lines are easier to keep apart. -/
theorem Separates.mono
    {f : Text → Text}
    {lines fewer : List Text}
    (hSeparates : Separates f lines)
    (hFewer : fewer ⊆ lines) :
    Separates f fewer := by
  intro left hLeft right hRight hSame
  exact
    hSeparates left (hFewer hLeft) right (hFewer hRight)
      hSame

/- Adding a changed line to changed lines keeps positions. -/
theorem add_map
    {table changed : LineTable}
    {f : Text → Text}
    {line : Text}
    (hLines : changed.toList = table.toList.map f)
    (hSeparates : Separates f (table.add line).2.toList) :
    (changed.add (f line)).1 = (table.add line).1 ∧
      (changed.add (f line)).2.toList =
        (table.add line).2.toList.map f := by
  have hApart :
      ∀ other ∈ table.toList, f other = f line →
        other = line := by
    intro other hOther hSame
    exact
      hSeparates other
        ((mem_add_iff table line other).mpr (.inl hOther))
        line
        ((mem_add_iff table line line).mpr (.inr rfl))
        hSame
  constructor
  · rw [fst_add, fst_add, hLines, idxOf_map hApart]
  · have hMem :
        f line ∈ changed.toList ↔ line ∈ table.toList := by
      rw [hLines, List.mem_map]
      constructor
      · rintro ⟨other, hOther, hSame⟩
        exact hApart other hOther hSame ▸ hOther
      · intro hLine
        exact ⟨line, hLine, rfl⟩
    rw [toList_add, toList_add]
    simp only [hMem]
    split
    · exact hLines
    · rw [hLines, List.map_append]
      rfl

end LineTable

end SceneScript
