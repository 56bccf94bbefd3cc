import Mathlib.Data.List.Forall2
import Mathlib.Data.List.Induction
import Mathlib.Data.List.Nodup

/-
  Positions and first occurrences in lists.

  Correctness is stated by:
    * `idxOf?_of_mem`
    * `idxOf?_eq_some_iff`
    * `idxOf_map`
    * `eraseDups_concat`
    * `eraseDups_map`
    * `exists_of_mem_left`
    * `exists_of_mem_right`
    * `forall₂_and_eq_iff`
    * `mapM_map_eq_some`
    * `map_eq_map_iff_forall₂`

  What repeats in a list depends only on which items are
  equal.  A change that keeps different items different moves
  neither positions nor first occurrences.
-/

namespace SceneScript

------------------------------------------------------------
-- Positions
------------------------------------------------------------

section Items

variable {α β : Type}
variable [BEq α] [LawfulBEq α]
variable [BEq β] [LawfulBEq β]

/- An item of a list has a first position. -/
theorem idxOf?_of_mem
    {items : List α}
    {item : α}
    (hItem : item ∈ items) :
    items.idxOf? item = some (items.idxOf item) := by
  rw [List.idxOf_eq_getD_idxOf?]
  cases hIndex : items.idxOf? item with
  | some index => rfl
  | none =>
      exact (List.idxOf?_eq_none_iff.mp hIndex hItem).elim

/- A first position holds the item and has none in front. -/
theorem idxOf?_eq_some_iff
    {items : List α}
    {item : α}
    {index : Nat} :
    items.idxOf? item = some index ↔
      items[index]? = some item ∧
        item ∉ items.take index := by
  induction items generalizing index with
  | nil => simp
  | cons first rest ih =>
      rw [List.idxOf?_cons]
      by_cases hFirst : first = item
      · cases index <;> simp [hFirst]
      · cases index with
        | zero => simp [hFirst]
        | succ index => simp [hFirst, Ne.symm hFirst, ih]

/- An item that is kept apart is first found where it was. -/
theorem idxOf_map
    {f : α → β}
    {items : List α}
    {item : α}
    (hApart :
      ∀ other ∈ items, f other = f item → other = item) :
    (items.map f).idxOf (f item) = items.idxOf item := by
  induction items with
  | nil => rfl
  | cons first rest ih =>
      have hRest := ih fun other hOther =>
        hApart other (List.mem_cons_of_mem _ hOther)
      rw [List.map_cons, List.idxOf_cons, List.idxOf_cons,
        hRest]
      by_cases hFirst : first = item
      · simp [hFirst]
      · have hImage : f first ≠ f item := fun h =>
          hFirst (hApart first (by simp) h)
        rw [beq_false_of_ne hImage, beq_false_of_ne hFirst]

------------------------------------------------------------
-- First Occurrences
------------------------------------------------------------

/- A last item is kept unless it stood in front already. -/
theorem eraseDups_concat
    (items : List α)
    (item : α) :
    (items ++ [item]).eraseDups =
      if item ∈ items then
        items.eraseDups
      else
        items.eraseDups ++ [item] := by
  rw [List.eraseDups_append]
  split
  · rename_i hMem
    simp [List.removeAll, hMem]
  · rename_i hNew
    simp [List.removeAll, List.eraseDups_cons, hNew]

/- Nothing is left twice when repeated items are erased. -/
theorem nodup_eraseDups (items : List α) :
    items.eraseDups.Nodup := by
  induction items using List.reverseRecOn with
  | nil => exact List.nodup_nil
  | append_singleton items item ih =>
      rw [eraseDups_concat]
      split
      · exact ih
      · rename_i hNew
        rw [List.nodup_append]
        refine ⟨ih, List.nodup_singleton item, ?_⟩
        intro other hOther last hLast hSame
        rw [List.mem_eraseDups] at hOther
        rw [List.mem_singleton] at hLast
        exact hNew (hLast ▸ hSame ▸ hOther)

/- Items that are kept apart repeat as they did before. -/
theorem eraseDups_map
    {f : α → β}
    {items : List α}
    (hApart :
      ∀ left ∈ items, ∀ right ∈ items,
        f left = f right → left = right) :
    (items.map f).eraseDups = items.eraseDups.map f := by
  induction items using List.reverseRecOn with
  | nil => rfl
  | append_singleton items item ih =>
      have hMem : f item ∈ items.map f ↔ item ∈ items := by
        rw [List.mem_map]
        constructor
        · rintro ⟨other, hOther, hSame⟩
          have hEq :=
            hApart other (by simp [hOther]) item (by simp)
              hSame
          exact hEq ▸ hOther
        · intro hItem
          exact ⟨item, hItem, rfl⟩
      have hRest :=
        ih fun left hLeft right hRight =>
          hApart left (by simp [hLeft]) right
            (by simp [hRight])
      rw [List.map_append, List.map_singleton,
        eraseDups_concat,
        eraseDups_concat, hRest]
      simp only [hMem]
      split
      · rfl
      · rw [List.map_append, List.map_singleton]

end Items

------------------------------------------------------------
-- Related Lists
------------------------------------------------------------

section Related

variable {α β : Type}
variable {related : α → β → Prop}
variable {left : List α}
variable {right : List β}

/- Each item on the left is related to one on the right. -/
theorem exists_of_mem_left
    (hRelated : List.Forall₂ related left right)
    {item : α}
    (hItem : item ∈ left) :
    ∃ other ∈ right, related item other := by
  induction hRelated with
  | nil => simp at hItem
  | cons hFirst _ ih =>
      rcases List.mem_cons.mp hItem with rfl | hRest
      · exact ⟨_, by simp, hFirst⟩
      · rcases ih hRest with ⟨other, hOther, hPair⟩
        exact ⟨other, List.mem_cons_of_mem _ hOther, hPair⟩

/- Each item on the right is related to one on the left. -/
theorem exists_of_mem_right
    (hRelated : List.Forall₂ related left right)
    {item : β}
    (hItem : item ∈ right) :
    ∃ other ∈ left, related other item :=
  exists_of_mem_left hRelated.flip hItem

/- Items that determine their partners are mapped to them. -/
theorem forall₂_and_eq_iff
    {p : α → Prop}
    {f : α → β} :
    List.Forall₂
        (fun item other => p item ∧ other = f item)
        left right ↔
      (∀ item ∈ left, p item) ∧ right = left.map f := by
  induction left generalizing right with
  | nil => simp [List.forall₂_nil_left_iff]
  | cons first rest ih =>
      rw [List.forall₂_cons_left_iff, List.forall_mem_cons,
        List.map_cons]
      simp only [ih]
      constructor
      · rintro ⟨_, _, ⟨hFirst, rfl⟩, ⟨hRest, rfl⟩, rfl⟩
        exact ⟨⟨hFirst, hRest⟩, rfl⟩
      · rintro ⟨⟨hFirst, hRest⟩, rfl⟩
        exact ⟨_, _, ⟨hFirst, rfl⟩, ⟨hRest, rfl⟩, rfl⟩

end Related

/- Items are read off values that each stand for one. -/
theorem mapM_map_eq_some
    {α β : Type}
    {value : α → β}
    {item? : β → Option α}
    (hItem : ∀ item, item? (value item) = some item)
    (items : List α) :
    (items.map value).mapM item? = some items := by
  induction items with
  | nil => rfl
  | cons item later ih =>
      rw [List.map_cons, List.mapM_cons, hItem, ih]
      rfl

/- Two images are equal item by item. -/
theorem map_eq_map_iff_forall₂
    {α β : Type}
    (f : α → β)
    (left right : List α) :
    left.map f = right.map f ↔
      List.Forall₂ (fun item other => f item = f other)
        left right := by
  rw [← List.forall₂_eq_eq_eq, List.forall₂_map_left_iff,
    List.forall₂_map_right_iff]

end SceneScript
