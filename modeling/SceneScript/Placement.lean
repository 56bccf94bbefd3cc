/-
  Where a character sprite stands and which way it faces.

  Key definitions include:
    * `Placement`
    * `Placement.code`
    * `Placement.all`
    * `Placement.ofCode?`
    * `Placement.caption`
    * `Placement.key`
-/

namespace SceneScript

------------------------------------------------------------
-- Sides and Facings
------------------------------------------------------------

/- The part of the screen a sprite stands in. -/
inductive Side where
| middle
| left
| right
deriving DecidableEq, Repr

/- The direction a sprite looks in. -/
inductive Facing where
| left
| right
deriving DecidableEq, Repr

/- The word for a side. -/
def Side.word : Side → String
| middle => "middle"
| left => "left"
| right => "right"

/- The word for a facing. -/
def Facing.word : Facing → String
| left => "left"
| right => "right"

/- The direction a sprite looks in unless it is flipped. -/
def Side.usualFacing : Side → Facing
| middle => .right
| left => .right
| right => .left

------------------------------------------------------------
-- Placements
------------------------------------------------------------

/- A side together with a facing. -/
structure Placement where
  side : Side
  facing : Facing
deriving DecidableEq, Repr

namespace Placement

/-
  The code of a placement.  The low byte tells the side and
  the high byte whether the sprite is flipped.
-/
def code (placement : Placement) : UInt16 :=
  let side : UInt16 :=
    match placement.side with
    | .middle => 0x0000
    | .left => 0x0001
    | .right => 0x0002
  if placement.facing = placement.side.usualFacing then
    side
  else
    side + 0x0100

/- Every placement in the order of codes. -/
def all : List Placement := [
  ⟨.middle, .right⟩,
  ⟨.left, .right⟩,
  ⟨.right, .left⟩,
  ⟨.middle, .left⟩,
  ⟨.left, .left⟩,
  ⟨.right, .right⟩]

/- The placement with a code. -/
def ofCode? (code : UInt16) : Option Placement :=
  all.find? (·.code == code)

/- Every placement is found by its code. -/
theorem ofCode?_code (placement : Placement) :
    ofCode? placement.code = some placement := by
  obtain ⟨side, facing⟩ := placement
  cases side <;> cases facing <;> rfl

/- The placement in words. -/
def caption (placement : Placement) : String :=
  placement.side.word ++ ", facing " ++ placement.facing.word

/- The placement as one name. -/
def key (placement : Placement) : String :=
  placement.side.word ++ "_facing_" ++ placement.facing.word

/- The placement with a name. -/
def ofKey? (key : String) : Option Placement :=
  all.find? (·.key == key)

end Placement

end SceneScript
