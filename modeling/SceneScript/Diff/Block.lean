import SceneScript.Diff.Shortest
import SceneScript.Diff.Slide

/-
  Comparisons as blocks with positions, and the blocks that
  are worth showing.

  Key definitions include:
    * `Diff.Block`
    * `Diff.Block.ofRuns`
    * `Diff.Block.sides`
    * `Diff.compare`
    * `Diff.groups`

  Correctness is stated by:
    * `Diff.Block.sides_ofRuns`
    * `Diff.sides_compare`

  A block either is the same on both sides or replaces some
  old items by some new ones.  A group shows a stretch of
  changes with a few unchanged items around it.
-/

namespace SceneScript

namespace Diff

variable {α : Type}

------------------------------------------------------------
-- Blocks
------------------------------------------------------------

/-
  A stretch of a comparison with its first position on both
  sides.
-/
inductive Block (α : Type) where
| same (old new : Nat) (items : List α)
| changed (old new : Nat) (deleted inserted : List α)
deriving DecidableEq, Repr

namespace Block

/- The items of a block that the old sequence has. -/
@[simp]
def oldItems : Block α → List α
| same _ _ items => items
| changed _ _ deleted _ => deleted

/- The items of a block that the new sequence has. -/
@[simp]
def newItems : Block α → List α
| same _ _ items => items
| changed _ _ _ inserted => inserted

/- The number of items that a block keeps. -/
def keptLength : Block α → Nat
| same _ _ items => items.length
| changed _ _ _ _ => 0

/-
  The blocks of some runs.  Neighbouring kept runs are one
  block, and so are neighbouring deletions and insertions.
-/
def ofRuns
    (old new : Nat) :
    List (Run α) → List (Block α)
| [] => []
| .keep items :: rest =>
    match ofRuns (old + items.length) (new + items.length)
        rest with
    | .same _ _ later :: blocks =>
        .same old new (items ++ later) :: blocks
    | blocks => .same old new items :: blocks
| .delete items :: rest =>
    match ofRuns (old + items.length) new rest with
    | .changed _ _ deleted inserted :: blocks =>
        .changed old new (items ++ deleted) inserted :: blocks
    | blocks => .changed old new items [] :: blocks
| .insert items :: rest =>
    match ofRuns old (new + items.length) rest with
    | .changed _ _ deleted inserted :: blocks =>
        .changed old new deleted (items ++ inserted) :: blocks
    | blocks => .changed old new [] items :: blocks

/- The old and the new sequence of some blocks. -/
def sides (blocks : List (Block α)) : List α × List α :=
  (blocks.flatMap oldItems, blocks.flatMap newItems)

/- The items of a block stand in front of those of the rest. -/
@[simp]
theorem sides_cons
    (block : Block α)
    (rest : List (Block α)) :
    sides (block :: rest) =
      (block.oldItems ++ (sides rest).1,
        block.newItems ++ (sides rest).2) := by
  simp [sides]

/- Forming blocks keeps both sequences. -/
theorem sides_ofRuns
    (old new : Nat)
    (runs : List (Run α)) :
    sides (ofRuns old new runs) = Diff.sides runs := by
  induction runs generalizing old new with
  | nil => rfl
  | cons run rest ih =>
      rw [Diff.sides_cons]
      cases run with
      | keep items =>
          rw [← ih (old + items.length) (new + items.length),
            ofRuns]
          split
          · rename_i hBlocks
            simp [hBlocks]
          · exact sides_cons _ _
      | delete items =>
          rw [← ih (old + items.length) new, ofRuns]
          split
          · rename_i hBlocks
            simp [hBlocks]
          · exact sides_cons _ _
      | insert items =>
          rw [← ih old (new + items.length), ofRuns]
          split
          · rename_i hBlocks
            simp [hBlocks]
          · exact sides_cons _ _

end Block

/- The blocks of a settled comparison. -/
def blocksOf
    [DecidableEq α]
    (runs : List (Run α)) : List (Block α) :=
  Block.ofRuns 0 0 (settle runs)

/- Compare two sequences. -/
def compare
    [DecidableEq α]
    (old new : List α) : List (Block α) :=
  blocksOf (shortest old new)

/- The blocks of a comparison are those of its sequences. -/
theorem sides_blocksOf
    [DecidableEq α]
    (runs : List (Run α)) :
    Block.sides (blocksOf runs) = sides runs := by
  rw [blocksOf, Block.sides_ofRuns, sides_settle]

/-
  A comparison shows both sequences in full: what is the same
  or deleted is the old one, what is the same or inserted is
  the new one.
-/
theorem sides_compare
    [DecidableEq α]
    (old new : List α) :
    Block.sides (compare old new) = (old, new) := by
  rw [compare, sides_blocksOf, sides_shortest]

/- The number of items that a comparison keeps. -/
def keptTotal (blocks : List (Block α)) : Nat :=
  blocks.foldr (fun block total => block.keptLength + total) 0

------------------------------------------------------------
-- Groups
------------------------------------------------------------

namespace Block

/- The last items of a block that is the same. -/
def lastItems
    (count : Nat) : Block α → Block α
| same old new items =>
    let skipped := items.length - count
    same (old + skipped) (new + skipped) (items.drop skipped)
| block => block

/- The first items of a block that is the same. -/
def firstItems
    (count : Nat) : Block α → Block α
| same old new items => same old new (items.take count)
| block => block

end Block

/- Shorten a last block that is the same. -/
def shortenEnd
    (context : Nat) :
    List (Block α) → List (Block α)
| [] => []
| [block] => [block.firstItems context]
| block :: rest => block :: shortenEnd context rest

/- Shorten a first block that is the same. -/
def shortenStart
    (context : Nat) :
    List (Block α) → List (Block α)
| [] => []
| block :: rest => block.lastItems context :: rest

/- A group shows a change. -/
def isShown : List (Block α) → Bool
| [] => false
| [.same _ _ _] => false
| _ => true

/-
  Divide blocks where more items are the same than two groups
  need around their changes.  `pending` is the group that is
  being formed, with its last block in front.
-/
def divide
    (context : Nat)
    (pending : List (Block α)) :
    List (Block α) → List (List (Block α))
| [] => if isShown pending then [pending.reverse] else []
| .same old new items :: rest =>
    let block := Block.same old new items
    if 2 * context < items.length then
      (block.firstItems context :: pending).reverse ::
        divide context [block.lastItems context] rest
    else
      divide context (block :: pending) rest
| block :: rest => divide context (block :: pending) rest

/- The changes of a comparison with `context` items around. -/
def groups
    (context : Nat)
    (blocks : List (Block α)) : List (List (Block α)) :=
  divide context [] <|
    shortenEnd context (shortenStart context blocks)

end Diff

end SceneScript
