import Mathlib.Data.List.Nodup
import SceneScript.Opcode
import SceneScript.Placement
import SceneScript.Symbol.Catalogs

/-
  Looking something up in a fixed table finds exactly what
  the table lists, since no table lists a key twice.

  Key definitions include:
    * `SymbolKind.names`

  Correctness is stated by:
    * `find?_eq_some_of_nodup`
    * `map_find?_eq_some_iff`
    * `Catalog.name?_eq_some_iff`
    * `Catalog.code?_eq_some_iff`
    * `Catalog.code?_eq_none_iff`
    * `Opcode.ofByte?_eq_some_iff`
    * `Placement.ofCode?_eq_some_iff`
-/

namespace SceneScript

------------------------------------------------------------
-- Keyed Lists
------------------------------------------------------------

section KeyedLists

variable {α β κ : Type}
variable [DecidableEq κ]
variable {items : List α}
variable {key : α → κ}

/-
  When keys do not repeat, a search for the key of a member
  finds that member.
-/
theorem find?_eq_some_of_nodup
    (hKeys : (items.map key).Nodup)
    {item : α}
    (hItem : item ∈ items) :
    items.find? (key · == key item) = some item := by
  induction items with
  | nil => simp at hItem
  | cons first rest ih =>
      rw [List.map_cons, List.nodup_cons] at hKeys
      rcases List.mem_cons.mp hItem with hFirst | hRest
      · subst hFirst
        simp
      · have hOther : key first ≠ key item := by
          intro h
          exact hKeys.1 (h ▸ List.mem_map_of_mem hRest)
        rw [List.find?_cons_of_neg (by simpa using hOther)]
        exact ih hKeys.2 hRest

/- What is found is an item with the key. -/
theorem mem_of_find?_key
    {wanted : κ}
    {item : α}
    (hFind : items.find? (key · == wanted) = some item) :
    item ∈ items ∧ key item = wanted := by
  refine ⟨List.mem_of_find?_eq_some hFind, ?_⟩
  simpa using List.find?_some hFind

/-
  When keys do not repeat, the value found for a key is the
  one that the key is listed with.
-/
theorem map_find?_eq_some_iff
    (hKeys : (items.map key).Nodup)
    {value : α → β}
    {wanted : κ}
    {found : β} :
    (items.find? (key · == wanted)).map value = some found ↔
      ∃ item ∈ items, key item = wanted ∧ value item = found := by
  rw [Option.map_eq_some_iff]
  constructor
  · intro ⟨item, hFind, hValue⟩
    have hItem := mem_of_find?_key hFind
    exact ⟨item, hItem.1, hItem.2, hValue⟩
  · intro ⟨item, hItem, hKey, hValue⟩
    rw [← hKey]
    exact ⟨item, find?_eq_some_of_nodup hKeys hItem, hValue⟩

/-
  When every item is found by its key, a search finds the
  item that has the key.
-/
theorem find?_eq_some_iff_of_forall
    (hFound :
      ∀ item, items.find? (key · == key item) = some item)
    {wanted : κ}
    {item : α} :
    items.find? (key · == wanted) = some item ↔
      key item = wanted := by
  constructor
  · intro hFind
    exact (mem_of_find?_key hFind).2
  · intro hKey
    rw [← hKey, hFound]

/- A search finds nothing when no item has the key. -/
theorem find?_eq_none_iff_forall_ne {wanted : κ} :
    items.find? (key · == wanted) = none ↔
      ∀ item ∈ items, key item ≠ wanted := by
  simp [List.find?_eq_none]

end KeyedLists

------------------------------------------------------------
-- Catalogs
------------------------------------------------------------

namespace Catalog

variable {Code : Type}
variable {catalog : Catalog Code}
variable {name : String}
variable {code : Code}

/- A code has exactly the name that it is listed with. -/
theorem name?_eq_some_iff [DecidableEq Code] :
    catalog.name? code = some name ↔
      (name, code) ∈ catalog.entries := by
  rw [name?, map_find?_eq_some_iff catalog.nodup_codes]
  simp

/- A name has exactly the code that it is listed with. -/
theorem code?_eq_some_iff :
    catalog.code? name = some code ↔
      (name, code) ∈ catalog.entries := by
  rw [code?, map_find?_eq_some_iff catalog.nodup_names]
  simp

/- A name has no code if it is not listed. -/
theorem code?_eq_none_iff :
    catalog.code? name = none ↔ name ∉ catalog.names := by
  rw [code?, Option.map_eq_none_iff,
    find?_eq_none_iff_forall_ne, names, List.mem_map]
  simp only [not_exists, not_and, ne_eq]

end Catalog

/- The names that are listed for a kind. -/
def SymbolKind.names : SymbolKind → List String
| sound => Catalog.sounds.names
| background => Catalog.backgrounds.names
| character => Catalog.characters.names
| transition => Catalog.transitions.names

------------------------------------------------------------
-- Opcodes and Placements
------------------------------------------------------------

/- A byte marks the opcode that is stored as that byte. -/
theorem Opcode.ofByte?_eq_some_iff
    {byte : UInt8}
    {opcode : Opcode} :
    Opcode.ofByte? byte = some opcode ↔
      opcode.byte = byte :=
  find?_eq_some_iff_of_forall Opcode.ofByte?_byte

/- A code is that of the placement that is stored as it. -/
theorem Placement.ofCode?_eq_some_iff
    {code : UInt16}
    {placement : Placement} :
    Placement.ofCode? code = some placement ↔
      placement.code = code :=
  find?_eq_some_iff_of_forall Placement.ofCode?_code

end SceneScript
