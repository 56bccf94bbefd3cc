import Std.Data.HashMap
import SceneScript.Diff.Block

/-
  Comparisons that hold on to items that occur only once.

  Key definitions include:
    * `Diff.counts`
    * `Diff.uniques`
    * `Diff.anchors`
    * `Diff.anchored`

  Correctness is stated by:
    * `Diff.getD_counts`
    * `Diff.sides_anchored`

  Items that occur once on each side are compared first, and
  those that are kept divide both sequences.  What lies
  between two of them is compared on its own.
-/

namespace SceneScript

namespace Diff

variable {α : Type}

/- Count one more item. -/
def countMore
    [DecidableEq α]
    [Hashable α]
    (found : Std.HashMap α Nat)
    (item : α) : Std.HashMap α Nat :=
  found.insert item (found.getD item 0 + 1)

/- How often each item occurs. -/
def counts
    [DecidableEq α]
    [Hashable α]
    (items : List α) : Std.HashMap α Nat :=
  items.foldl countMore {}

/- Counting goes on from what was counted before. -/
theorem getD_foldl_countMore
    [DecidableEq α]
    [Hashable α]
    (items : List α)
    (found : Std.HashMap α Nat)
    (item : α) :
    (items.foldl countMore found).getD item 0 =
      found.getD item 0 + items.count item := by
  induction items generalizing found with
  | nil => simp
  | cons first rest ih =>
      rw [List.foldl_cons, ih, countMore,
        Std.HashMap.getD_insert, List.count_cons]
      by_cases hEq : first = item
      · subst hEq
        simp
        omega
      · simp [hEq]

/- Counting ahead agrees with counting each item. -/
theorem getD_counts
    [DecidableEq α]
    [Hashable α]
    (items : List α)
    (item : α) :
    (counts items).getD item 0 = items.count item := by
  simp [counts, getD_foldl_countMore]

/- The items that occur once, with their positions. -/
def uniques
    [DecidableEq α]
    [Hashable α]
    (items : List α) : List (α × Nat) :=
  let found := counts items
  items.zipIdx.filter fun (item, _) => found.getD item 0 = 1

/- Pair the positions of the items that a comparison keeps. -/
def keptPairs :
    List (Run α) → List Nat → List Nat → List (Nat × Nat)
| [], _, _ => []
| .keep items :: rest, old, new =>
    (old.take items.length).zip (new.take items.length) ++
      keptPairs rest (old.drop items.length)
        (new.drop items.length)
| .delete items :: rest, old, new =>
    keptPairs rest (old.drop items.length) new
| .insert items :: rest, old, new =>
    keptPairs rest old (new.drop items.length)

/- The positions at which both sequences are divided. -/
def anchors
    [DecidableEq α]
    [Hashable α]
    (old new : List α) : List (Nat × Nat) :=
  let oldUniques := uniques old
  let newUniques := uniques new
  keptPairs
    (shortest (oldUniques.map (·.1)) (newUniques.map (·.1)))
    (oldUniques.map (·.2)) (newUniques.map (·.2))

/-
  Compare what lies before each anchor and behind the last
  one.  `oldAt` and `newAt` are the positions of the sequences
  given.
-/
def betweenAnchors
    [DecidableEq α]
    (old new : List α)
    (oldAt newAt : Nat) :
    List (Nat × Nat) → List (Run α)
| [] => shortest old new
| (oldNext, newNext) :: rest =>
    let oldLength := oldNext - oldAt
    let newLength := newNext - newAt
    shortest (old.take oldLength) (new.take newLength) ++
      betweenAnchors (old.drop oldLength) (new.drop newLength)
        oldNext newNext rest

/- The blocks of a comparison with anchors. -/
def anchored
    [DecidableEq α]
    [Hashable α]
    (old new : List α) : List (Block α) :=
  blocksOf (betweenAnchors old new 0 0 (anchors old new))

/- Dividing two sequences keeps what they are made of. -/
theorem sides_betweenAnchors
    [DecidableEq α]
    (old new : List α)
    (oldAt newAt : Nat)
    (anchors : List (Nat × Nat)) :
    sides (betweenAnchors old new oldAt newAt anchors) =
      (old, new) := by
  induction anchors generalizing old new oldAt newAt with
  | nil => exact sides_shortest old new
  | cons anchor rest ih =>
      rw [betweenAnchors, sides_append, sides_shortest, ih,
        List.take_append_drop, List.take_append_drop]

/- A comparison with anchors shows both sequences in full. -/
theorem sides_anchored
    [DecidableEq α]
    [Hashable α]
    (old new : List α) :
    Block.sides (anchored old new) = (old, new) := by
  rw [anchored, sides_blocksOf, sides_betweenAnchors]

end Diff

end SceneScript
