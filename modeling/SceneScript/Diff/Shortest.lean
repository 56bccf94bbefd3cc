import SceneScript.Diff.Run

/-
  Shortest comparisons.  Common ends are kept, and what is
  left is divided where a search from the front and a search
  from the back meet.

  Key definitions include:
    * `Diff.Frontier`
    * `Diff.meeting?`
    * `Diff.shortest`

  Correctness is stated by:
    * `Diff.sides_shortest`

  A point `(x, y)` stands for the first `x` old and the first
  `y` new items.  Its diagonal is `x - y`.  A deletion moves
  to the next diagonal, an insertion to the one before, and
  a kept item stays on its diagonal.
-/

namespace SceneScript

namespace Diff

variable {α : Type}

------------------------------------------------------------
-- Frontiers
------------------------------------------------------------

/-
  The farthest old position that a search reached on each
  diagonal.  `middle` is the place of diagonal zero.
-/
structure Frontier where
  middle : Nat
  reached : Array Nat

namespace Frontier

/- A frontier for diagonals up to a limit on both sides. -/
def start (limit : Nat) : Frontier where
  middle := limit + 1
  reached := Array.replicate (2 * limit + 3) 0

/- The position reached on a diagonal. -/
def get
    (frontier : Frontier)
    (diagonal : Int) : Nat :=
  frontier.reached.getD (diagonal + frontier.middle).toNat 0

/- Note the position reached on a diagonal. -/
def set
    (frontier : Frontier)
    (diagonal : Int)
    (position : Nat) : Frontier :=
  let place := (diagonal + frontier.middle).toNat
  { frontier with
    reached :=
      frontier.reached.setIfInBounds place position }

/-
  The old position where a diagonal is entered after `edits`
  changes, from the neighbour that is farther.
-/
def enter
    (frontier : Frontier)
    (edits : Nat)
    (diagonal : Int) : Nat :=
  let below := frontier.get (diagonal - 1)
  let above := frontier.get (diagonal + 1)
  if diagonal = -edits ∨ diagonal ≠ edits ∧ below < above then
    above
  else
    below + 1

end Frontier

------------------------------------------------------------
-- Searching
------------------------------------------------------------

/- The number of equal items from two positions on. -/
def matchLength
    [DecidableEq α]
    (old new : Array α)
    (x y : Nat) : Nat :=
  if hOld : x < old.size then
    if hNew : y < new.size then
      if old[x] = new[y] then
        matchLength old new (x + 1) (y + 1) + 1
      else
        0
    else
      0
  else
    0
termination_by old.size - x

/- A stretch of kept items that a search came along. -/
structure Snake where
  x : Nat
  y : Nat
  length : Nat

/-
  Extend a frontier on some diagonals, up to the first one
  on which the search has met the other search.
-/
def extend
    [DecidableEq α]
    (old new : Array α)
    (meets : Int → Nat → Bool)
    (edits : Nat) :
    List Int → Frontier → Option Snake × Frontier
| [], frontier => (none, frontier)
| diagonal :: rest, frontier =>
    let x := frontier.enter edits diagonal
    let y := (x - diagonal).toNat
    let length := matchLength old new x y
    let frontier := frontier.set diagonal (x + length)
    if meets diagonal (x + length) then
      (some { x, y, length }, frontier)
    else
      extend old new meets edits rest frontier

/- The diagonals that a number of changes can end on. -/
def diagonals (edits : Nat) : List Int :=
  (List.range (edits + 1)).map fun (step : Nat) =>
    (edits : Int) - 2 * step

/- Two sequences with their reversals. -/
structure Field (α : Type) where
  old : Array α
  new : Array α
  oldBack : Array α
  newBack : Array α

namespace Field

/- The field of two sequences. -/
def ofLists (old new : List α) : Field α where
  old := old.toArray
  new := new.toArray
  oldBack := old.reverse.toArray
  newBack := new.reverse.toArray

/- The diagonal of the last point. -/
def lastDiagonal (field : Field α) : Int :=
  (field.old.size : Int) - field.new.size

/-
  A position on a diagonal reaches the place that the other
  search has come to.  Only diagonals on which the other
  search has made `edits` changes are looked at.
-/
def meets
    (field : Field α)
    (other : Frontier)
    (edits : Int)
    (diagonal : Int)
    (position : Nat) : Bool :=
  let mirrored := field.lastDiagonal - diagonal
  mirrored.natAbs ≤ edits &&
    field.old.size ≤ position + other.get mirrored

/-
  The point where the two searches meet, with one more
  change at each step.  The parity of the distance tells
  which of the two searches can notice it.
-/
def search
    [DecidableEq α]
    (field : Field α) :
    Nat → Nat → Frontier → Frontier → Option (Nat × Nat)
| 0, _, _, _ => none
| fuel + 1, edits, front, back =>
    let odd := field.lastDiagonal % 2 != 0
    let fromFront :=
      extend field.old field.new
        (fun diagonal position =>
          odd &&
            field.meets back (edits - 1) diagonal position)
        edits (diagonals edits) front
    match fromFront with
    | (some snake, _) => some (snake.x, snake.y)
    | (none, front) =>
        let fromBack :=
          extend field.oldBack field.newBack
            (fun diagonal position =>
              !odd &&
                field.meets front edits diagonal position)
            edits (diagonals edits) back
        match fromBack with
        | (some snake, _) =>
            some (field.old.size - (snake.x + snake.length),
              field.new.size - (snake.y + snake.length))
        | (none, back) =>
            search field fuel (edits + 1) front back

end Field

/- A point on a shortest way through two sequences. -/
def meeting?
    [DecidableEq α]
    (old new : List α) : Option (Nat × Nat) :=
  let limit := (old.length + new.length + 1) / 2 + 1
  (Field.ofLists old new).search limit 0
    (Frontier.start limit) (Frontier.start limit)

------------------------------------------------------------
-- Comparing
------------------------------------------------------------

/- A comparison in which nothing is kept. -/
def unrelated (old new : List α) : List (Run α) :=
  match old, new with
  | [], [] => []
  | _ :: _, [] => [.delete old]
  | [], _ :: _ => [.insert new]
  | _ :: _, _ :: _ => [.delete old, .insert new]

/- The middle of a sequence is no longer than the sequence. -/
theorem length_core_le
    (items : List α)
    (front back : Nat) :
    ((items.drop front).take
      ((items.drop front).length - back)).length ≤
        items.length := by
  simp only [List.length_take, List.length_drop]
  omega

/- Both sides of a point that is no corner are smaller. -/
theorem halves_smaller
    {oldCore newCore : List α}
    {x y size : Nat}
    (hSize : oldCore.length + newCore.length ≤ size)
    (hSome : ¬(oldCore = [] ∨ newCore = []))
    (hProper :
      0 < x + y ∧
        x + y < oldCore.length + newCore.length) :
    (oldCore.take x).length + (newCore.take y).length <
        size ∧
      (oldCore.drop x).length + (newCore.drop y).length <
        size := by
  have hOld : 0 < oldCore.length :=
    List.length_pos_iff.mpr fun h => hSome (.inl h)
  have hNew : 0 < newCore.length :=
    List.length_pos_iff.mpr fun h => hSome (.inr h)
  simp only [List.length_take, List.length_drop]
  omega

/-
  Compare two sequences.  The ends they have in common are
  kept, and the rest is divided at a point that leaves less
  to do on both sides.
-/
def shortest
    [DecidableEq α]
    (old new : List α) : List (Run α) :=
  let front := commonPrefix old new
  let oldRest := old.drop front
  let newRest := new.drop front
  let back := commonSuffix oldRest newRest
  let oldCore := oldRest.take (oldRest.length - back)
  let newCore := newRest.take (newRest.length - back)
  let core :=
    if _hNone : oldCore = [] ∨ newCore = [] then
      unrelated oldCore newCore
    else
      match meeting? oldCore newCore with
      | none => unrelated oldCore newCore
      | some (x, y) =>
          if _hProper :
              0 < x + y ∧
                x + y < oldCore.length + newCore.length then
            shortest (oldCore.take x) (newCore.take y) ++
              shortest (oldCore.drop x) (newCore.drop y)
          else
            unrelated oldCore newCore
  keepRun (old.take front) ++ core ++
    keepRun (oldRest.drop (oldRest.length - back))
termination_by old.length + new.length
decreasing_by
  · exact
      (halves_smaller
        (Nat.add_le_add (length_core_le old _ _)
          (length_core_le new _ _))
        _hNone _hProper).1
  · exact
      (halves_smaller
        (Nat.add_le_add (length_core_le old _ _)
          (length_core_le new _ _))
        _hNone _hProper).2

------------------------------------------------------------
-- The Sides of a Comparison
------------------------------------------------------------

/- What is not kept is deleted or inserted. -/
@[simp]
theorem sides_unrelated (old new : List α) :
    sides (unrelated old new) = (old, new) := by
  cases old <;> cases new <;>
    simp [unrelated]

/- A start, a core and an end make up a sequence. -/
theorem take_append_core_append_drop
    (items : List α)
    (front back : Nat) :
    items.take front ++
        (items.drop front).take
          ((items.drop front).length - back) ++
        (items.drop front).drop
          ((items.drop front).length - back) = items := by
  rw [List.append_assoc, List.take_append_drop,
    List.take_append_drop]

/-
  A comparison is made up of the two sequences: the old one
  is kept or deleted and the new one kept or inserted, item
  by item.
-/
theorem sides_shortest
    [DecidableEq α]
    (old new : List α) :
    sides (shortest old new) = (old, new) := by
  induction hSize : old.length + new.length using
    Nat.strongRecOn generalizing old new with
  | _ size ih =>
      unfold shortest
      extract_lets front oldRest newRest back oldCore newCore
        core
      have hCore : sides core = (oldCore, newCore) := by
        unfold core
        split
        · exact sides_unrelated oldCore newCore
        · rename_i hSome
          split
          · exact sides_unrelated oldCore newCore
          · split
            · rename_i hProper
              have hSmaller :=
                halves_smaller
                  (Nat.add_le_add (length_core_le old _ _)
                    (length_core_le new _ _))
                  hSome hProper
              rw [hSize] at hSmaller
              rw [sides_append, ih _ hSmaller.1 _ _ rfl,
                ih _ hSmaller.2 _ _ rfl,
                List.take_append_drop,
                List.take_append_drop]
            · exact sides_unrelated oldCore newCore
      have hOld :
          old.take front ++ oldCore ++
            oldRest.drop (oldRest.length - back) = old :=
        take_append_core_append_drop old front back
      -- The kept ends are those of the new sequence, too.
      have hNew :
          old.take front ++ newCore ++
            oldRest.drop (oldRest.length - back) = new := by
        rw [take_commonPrefix, drop_commonSuffix]
        exact take_append_core_append_drop new front back
      rw [sides_append, sides_append, sides_keepRun,
        sides_keepRun, hCore, hOld, hNew]

end Diff

end SceneScript
