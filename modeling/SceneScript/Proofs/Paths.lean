import SceneScript.Document
import SceneScript.Proofs.Lines

/-
  Paths by what stands behind their last slash.

  Key definitions include:
    * `Path.IsFront`
    * `Path.EndsIn`
    * `Document.tableNameOf`

  Correctness is stated by:
    * `Path.exists_endsIn`
    * `Path.EndsIn.parts_eq`
    * `Path.EndsIn.exists_splitOn`
    * `Document.endsIn_tablePathOf`
    * `Document.ne_freshName_of_endsIn_tablePathOf`

  The table of a script stands in the same directory.  Its
  name is made from the name of the script alone.
-/

namespace SceneScript

namespace Path

------------------------------------------------------------
-- Last Parts
------------------------------------------------------------

/- What stands in front of the last part of a path. -/
def IsFront (front : Text) : Prop :=
  front = [] ∨ ∃ before, front = before ++ ['/']

/- A path ends in a part behind its last slash. -/
structure EndsIn
    (path : Path)
    (front last : Text) : Prop where
  text_eq : path.text = front ++ last
  isFront : IsFront front
  slash_not_mem : '/' ∉ last

/- Cutting at the last slash gives the last part. -/
theorem cutReversed_reverse
    {front last : Text}
    (hFront : IsFront front)
    (hLast : '/' ∉ last) :
    cutReversed (front ++ last).reverse = (front, last) := by
  have hOthers :
      ∀ c ∈ last.reverse, decide (c ≠ '/') = true := by
    intro c hMem
    rw [decide_eq_true_eq]
    rintro rfl
    exact hLast (List.mem_reverse.mp hMem)
  rw [cutReversed, List.reverse_append,
    List.dropWhile_append_of_pos hOthers,
    List.takeWhile_append_of_pos hOthers]
  rcases hFront with rfl | ⟨before, rfl⟩ <;> simp

/- Every path ends in some part, if only in an empty one. -/
theorem exists_endsIn (path : Path) :
    ∃ front last, path.EndsIn front last := by
  by_cases hSlash : '/' ∈ path.text.reverse
  · rcases List.eq_append_cons_of_mem hSlash with
      ⟨later, before, hText, hLater⟩
    refine
      ⟨before.reverse ++ ['/'], later.reverse, ?_,
        .inr ⟨_, rfl⟩, ?_⟩
    · rw [← List.reverse_reverse path.text, hText]
      simp
    · rwa [List.mem_reverse]
  · rw [List.mem_reverse] at hSlash
    exact ⟨[], path.text, rfl, .inl rfl, hSlash⟩

namespace EndsIn

/- A path has one last part. -/
theorem unique
    {path : Path}
    {front last otherFront otherLast : Text}
    (hEnds : path.EndsIn front last)
    (hOther : path.EndsIn otherFront otherLast) :
    front = otherFront ∧ last = otherLast := by
  have hCut :=
    cutReversed_reverse hEnds.isFront hEnds.slash_not_mem
  rw [← hEnds.text_eq, hOther.text_eq,
    cutReversed_reverse hOther.isFront
      hOther.slash_not_mem] at hCut
  exact ⟨(Prod.mk.inj hCut).1.symm, (Prod.mk.inj hCut).2.symm⟩

/-
  The segments of a path are those in front of its last part
  and that part.
-/
theorem exists_splitOn
    {path : Path}
    {front last : Text}
    (hEnds : path.EndsIn front last) :
    ∃ segments,
      Text.splitOn '/' front = segments ++ [[]] ∧
        Text.splitOn '/' path.text = segments ++ [last] := by
  have hLast := Text.splitOn_of_not_mem hEnds.slash_not_mem
  rw [hEnds.text_eq]
  rcases hEnds.isFront with rfl | ⟨before, rfl⟩
  · exact ⟨[], rfl, hLast⟩
  · refine ⟨Text.splitOn '/' before, ?_, ?_⟩
    · exact Text.splitOn_append_cons '/' before []
    · rw [List.append_assoc, List.singleton_append,
        Text.splitOn_append_cons, hLast]

/- A path ends in the part behind the cut. -/
theorem of_cutReversed
    {path : Path}
    {front last : Text}
    (hCut : cutReversed path.text.reverse = (front, last)) :
    path.EndsIn front last := by
  rcases path.exists_endsIn with
    ⟨otherFront, otherLast, hOther⟩
  have hOtherCut :=
    cutReversed_reverse hOther.isFront hOther.slash_not_mem
  rw [← hOther.text_eq, hCut] at hOtherCut
  cases hOtherCut
  exact hOther

------------------------------------------------------------
-- Names
------------------------------------------------------------

/- A name has a last character, and none of it is a slash. -/
theorem exists_reverse
    {path : Path}
    {front name : Text}
    (hEnds : path.EndsIn front name)
    (hName : IsName name) :
    ∃ c later,
      name.reverse = c :: later ∧
        ∀ d ∈ c :: later, d ≠ '/' := by
  cases hReversed : name.reverse with
  | nil =>
      exact
        (hName.1 (List.reverse_eq_nil_iff.mp hReversed)).elim
  | cons c later =>
      refine ⟨c, later, rfl, ?_⟩
      rw [← hReversed]
      rintro d hMem rfl
      exact hEnds.slash_not_mem (List.mem_reverse.mp hMem)

/- A name ends in neither a slash nor a lone dot. -/
theorem trimReversed_eq
    {path : Path}
    {front name : Text}
    (hEnds : path.EndsIn front name)
    (hName : IsName name) :
    trimReversed path.text.reverse = path.text.reverse := by
  rcases hEnds.exists_reverse hName with
    ⟨c, later, hReversed, hOther⟩
  have hFirst : c ≠ '/' := hOther c (by simp)
  rw [hEnds.text_eq, List.reverse_append, hReversed]
  cases later with
  | nil =>
      have hDot : c ≠ '.' := by
        rintro rfl
        exact hName.2.1 (List.reverse_inj.mp hReversed)
      unfold trimReversed
      split
      · rename_i hText
        exact (hFirst (List.cons.inj hText).1).elim
      · rename_i hText
        exact (hDot (List.cons.inj hText).1).elim
      · rfl
  | cons d others =>
      have hSecond : d ≠ '/' := hOther d (by simp)
      unfold trimReversed
      split
      · rename_i hText
        exact (hFirst (List.cons.inj hText).1).elim
      · rename_i hText
        have hRest := (List.cons.inj hText).2
        exact (hSecond (List.cons.inj hRest).1).elim
      · rfl

/- The parts of a path that ends in a name. -/
theorem parts_eq
    {path : Path}
    {front name : Text}
    (hEnds : path.EndsIn front name)
    (hName : IsName name) :
    path.parts = (front, name) := by
  rw [parts, hEnds.trimReversed_eq hName, hEnds.text_eq]
  exact cutReversed_reverse hEnds.isFront hEnds.slash_not_mem

/- The name of a path that ends in one. -/
theorem fileName?_eq
    {path : Path}
    {front name : Text}
    (hEnds : path.EndsIn front name)
    (hName : IsName name) :
    path.fileName? = some name := by
  rw [fileName?, hEnds.parts_eq hName]
  exact if_pos hName

/- The directory of a path that ends in a name. -/
theorem directory_text
    {path : Path}
    {front name : Text}
    (hEnds : path.EndsIn front name)
    (hName : IsName name) :
    path.directory.text =
      if front = [] then ['.'] else front := by
  rw [directory, hEnds.parts_eq hName]

end EndsIn

/- Neither part of a path is cut in the wrong place. -/
theorem isFront_parts (path : Path) :
    IsFront path.parts.1 ∧ '/' ∉ path.parts.2 := by
  let trimmed : Path :=
    { text := (trimReversed path.text.reverse).reverse }
  have hEnds :
      trimmed.EndsIn path.parts.1 path.parts.2 := by
    apply EndsIn.of_cutReversed
    rw [List.reverse_reverse]
    rfl
  exact ⟨hEnds.isFront, hEnds.slash_not_mem⟩

/- The stem of a name has no other characters than the name. -/
theorem mem_of_mem_splitName
    {name : Text}
    {c : Char}
    (hMem : c ∈ (splitName name).1) :
    c ∈ name := by
  unfold splitName at hMem
  simp only at hMem
  split at hMem
  · rename_i first d front hDrop
    have hSuffix : name.reverse.dropWhile (· ≠ '.') <:+ _ :=
      List.dropWhile_suffix _
    rw [hDrop] at hSuffix
    have hReversed : c ∈ d :: front :=
      List.mem_reverse.mp hMem
    exact
      List.mem_reverse.mp
        (hSuffix.subset (List.mem_cons_of_mem _ hReversed))
  · exact hMem

/-
  A name has no extension, or the extension stands behind a
  dot.
-/
theorem splitName_cases (name : Text) :
    splitName name = (name, none) ∨
      ∃ stem extension,
        splitName name = (stem, some extension) ∧
          name = stem ++ '.' :: extension := by
  unfold splitName
  simp only
  split
  · rename_i first c front hDrop
    refine .inr ⟨_, _, rfl, ?_⟩
    have hFirst : first = '.' := by
      have hNonempty :
          name.reverse.dropWhile (· ≠ '.') ≠ [] := by
        rw [hDrop]
        simp
      have hHead :=
        List.head_dropWhile_not (· ≠ '.') hNonempty
      simp only [hDrop, List.head_cons] at hHead
      simpa using hHead
    have hCut :
        name.reverse.takeWhile (· ≠ '.') ++
            name.reverse.dropWhile (· ≠ '.') =
          name.reverse :=
      List.takeWhile_append_dropWhile
    rw [hDrop, hFirst] at hCut
    have hName := congrArg List.reverse hCut
    rw [List.reverse_reverse] at hName
    simpa using hName.symm
  · exact .inl rfl

/- A name is known from its stem and its extension. -/
theorem splitName_injective : Function.Injective splitName := by
  intro left right hSame
  rcases splitName_cases left with
    hLeft | ⟨stem, extension, hLeft, hLeftName⟩ <;>
    rcases splitName_cases right with
      hRight | ⟨otherStem, other, hRight, hRightName⟩ <;>
    rw [hLeft, hRight] at hSame <;>
    cases hSame
  · rfl
  · rw [hLeftName, hRightName]

/- A name with an extension ends in it, behind a dot. -/
theorem eq_append_of_splitName
    {name extension : Text}
    (hExtension : (splitName name).2 = some extension) :
    name = (splitName name).1 ++ '.' :: extension := by
  rcases splitName_cases name with
    hNone | ⟨stem, other, hSplit, hName⟩
  · rw [hNone] at hExtension
    simp at hExtension
  · rw [hSplit] at hExtension ⊢
    cases hExtension
    exact hName

/- The extension of a path is that of its name. -/
theorem EndsIn.extension?_eq
    {path : Path}
    {front name : Text}
    (hEnds : path.EndsIn front name)
    (hName : IsName name) :
    path.extension? = (splitName name).2 := by
  rw [extension?, hEnds.fileName?_eq hName]
  rfl

end Path

------------------------------------------------------------
-- Tables
------------------------------------------------------------

namespace Document

/- The name of the table of a script. -/
def tableNameOf (name : Text) : Text :=
  let stem := (Path.splitName name).1
  if stem = ['.'] then
    ['.', '.']
  else
    stem ++ '.' :: tableExtension

/- A table that has a name has the extension of tables. -/
theorem tableNameOf_of_isName
    {name : Text}
    (hTable : Path.IsName (tableNameOf name)) :
    tableNameOf name =
      (Path.splitName name).1 ++ '.' :: tableExtension := by
  unfold tableNameOf at hTable ⊢
  simp only at hTable ⊢
  split
  · rename_i hStem
    rw [if_pos hStem] at hTable
    exact (hTable.2.2 rfl).elim
  · rfl

/-
  A script has the name of its table exactly when its name has
  the extension of tables.
-/
theorem tableNameOf_eq_self_iff
    {name : Text}
    (hTable : Path.IsName (tableNameOf name)) :
    tableNameOf name = name ↔
      (Path.splitName name).2 = some tableExtension := by
  rw [tableNameOf_of_isName hTable]
  rcases Path.splitName_cases name with
    hNone | ⟨stem, extension, hSplit, hName⟩
  · rw [hNone]
    simp
  · rw [hSplit, hName]
    simp [eq_comm]

/- Names with one extension do not share a table. -/
theorem eq_of_tableNameOf_eq
    {name other : Text}
    (hTable : Path.IsName (tableNameOf name))
    (hExtension :
      (Path.splitName name).2 = (Path.splitName other).2)
    (hSame : tableNameOf name = tableNameOf other) :
    name = other := by
  have hOther : Path.IsName (tableNameOf other) := by
    rwa [← hSame]
  rw [tableNameOf_of_isName hTable,
    tableNameOf_of_isName hOther] at hSame
  have hStems := List.append_cancel_right hSame
  exact Path.splitName_injective (Prod.ext hStems hExtension)

/- The extension of tables brings no slash into a name. -/
theorem slash_not_mem_withExtension
    {name : Text}
    (hName : '/' ∉ name) :
    '/' ∉ (Path.splitName name).1 ++ '.' :: tableExtension := by
  rw [List.mem_append]
  rintro (hStem | hExtension)
  · exact hName (Path.mem_of_mem_splitName hStem)
  · exact absurd hExtension (by decide)

/- The table of a script stands beside the script. -/
theorem endsIn_tablePathOf
    {path : Path}
    {front name : Text}
    (hEnds : path.EndsIn front name)
    (hName : Path.IsName name) :
    (tablePathOf path).EndsIn front (tableNameOf name) := by
  have hFileName := hEnds.fileName?_eq hName
  have hText :
      (tablePathOf path).text = front ++ tableNameOf name := by
    rw [tablePathOf, Path.withExtension, hFileName,
      hEnds.parts_eq hName, tableNameOf, hEnds.text_eq]
    by_cases hStem : (Path.splitName name).1 = ['.'] <;>
      simp [hStem]
  refine ⟨hText, hEnds.isFront, ?_⟩
  unfold tableNameOf
  simp only
  split
  · decide
  · exact slash_not_mem_withExtension hEnds.slash_not_mem

/-
  Where the path of a table ends in a name, that name holds
  the extension of tables.
-/
theorem extension_mem_of_endsIn_tablePathOf
    {path : Path}
    {front name : Text}
    (hEnds : (tablePathOf path).EndsIn front name)
    (hName : Path.IsName name) :
    'h' ∈ name := by
  rcases path.isFront_parts with ⟨hFront, hLast⟩
  unfold tablePathOf Path.withExtension at hEnds
  split at hEnds
  · -- The path ends in no name and is the path of its table.
    rename_i hNone
    rw [hEnds.fileName?_eq hName] at hNone
    simp at hNone
  · rename_i base hBase
    have hSame : path.parts.2 = base := by
      unfold Path.fileName? at hBase
      split at hBase
      · exact Option.some.inj hBase
      · simp at hBase
    simp only at hEnds
    split at hEnds
    · have hUp :
          Path.EndsIn
            { text := path.parts.1 ++ ['.', '.'] }
            path.parts.1 ['.', '.'] :=
        ⟨rfl, hFront, by decide⟩
      exact (hName.2.2 (hEnds.unique hUp).2).elim
    · have hTable :
          Path.EndsIn
            { text :=
                path.parts.1 ++ (Path.splitName base).1 ++
                  '.' :: tableExtension }
            path.parts.1
            ((Path.splitName base).1 ++
              '.' :: tableExtension) :=
        ⟨List.append_assoc _ _ _, hFront,
          slash_not_mem_withExtension (hSame ▸ hLast)⟩
      rw [(hEnds.unique hTable).2]
      simp [tableExtension]

/- A temporary file does not have the extension of tables. -/
theorem extension_not_mem_freshName (tree : FileTree) :
    'h' ∉ tree.freshName := by
  simp [FileTree.freshName]

/- No table is moved to the place of a temporary file. -/
theorem ne_freshName_of_endsIn_tablePathOf
    {path : Path}
    {front name : Text}
    (hEnds : (tablePathOf path).EndsIn front name)
    (hName : Path.IsName name)
    (tree : FileTree) :
    name ≠ tree.freshName := by
  rintro rfl
  exact
    extension_not_mem_freshName tree
      (extension_mem_of_endsIn_tablePathOf hEnds hName)

/- The name of a table is never that of a temporary file. -/
theorem tableNameOf_ne_freshName
    (tree : FileTree)
    (name : Text) :
    tableNameOf name ≠ tree.freshName := by
  have hFresh : 't' ∈ tree.freshName := by
    simp [FileTree.freshName]
  intro hSame
  rw [← hSame, tableNameOf] at hFresh
  split at hFresh
  · exact absurd hFresh (by decide)
  · rename_i hStem
    apply extension_not_mem_freshName tree
    rw [← hSame, tableNameOf, if_neg hStem]
    simp [tableExtension]

end Document

end SceneScript
