import SceneScript.Diff.Run

/-
  Moving insertions to the last place they can stand at.

  Key definitions include:
    * `Diff.deletionsLast`
    * `Diff.Gap`
    * `Diff.Gap.up`
    * `Diff.Gap.down`
    * `Diff.settle`
    * `Diff.Gap.runs`

  Correctness is stated by:
    * `Diff.Gap.sides_up`
    * `Diff.Gap.sides_down`
    * `Diff.sides_settle`

  An insertion that ends like the kept items before it can
  move up, and one that starts like the kept items behind it
  can move down.  Moving up first lets it join an insertion
  that stands further up.  A deletion only changes places
  with the insertions next to it.  No move changes what the
  runs make up.
-/

namespace SceneScript

namespace Diff

variable {α : Type}

------------------------------------------------------------
-- Deletions
------------------------------------------------------------

/- A run of deleted items, left out if there are none. -/
def deleteRun (items : List α) : List (Run α) :=
  match items with
  | [] => []
  | _ :: _ => [.delete items]

/-
  Join the deletions between two runs of kept items and put
  them behind the insertions.  `gone` holds the deletions met
  since the last kept item.
-/
def deletionsLast
    (gone : List α) :
    List (Run α) → List (Run α)
| [] => deleteRun gone
| .delete items :: rest => deletionsLast (gone ++ items) rest
| .insert items :: rest =>
    .insert items :: deletionsLast gone rest
| .keep items :: rest =>
    deleteRun gone ++ .keep items :: deletionsLast [] rest

------------------------------------------------------------
-- Insertions
------------------------------------------------------------

/-
  An insertion with the runs before it, the nearest first,
  and the runs behind it.
-/
structure Gap (α : Type) where
  before : List (Run α)
  items : List α
  after : List (Run α)

namespace Gap

/- Keep some more items behind the nearest run before. -/
def growBefore
    (items : List α) :
    List (Run α) → List (Run α)
| .keep kept :: before => .keep (kept ++ items) :: before
| before => .keep items :: before

/- Keep some more items in front of the nearest run behind. -/
def growAfter
    (items : List α) :
    List (Run α) → List (Run α)
| .keep kept :: after => .keep (items ++ kept) :: after
| after => .keep items :: after

/-
  Move an insertion up as far as it goes.  It can pass a kept
  item that equals its own last one, and then ends with the
  item before that, so the kept items are compared with
  themselves in front of the insertion.
-/
def up
    [DecidableEq α]
    (items : List α)
    (after : List (Run α)) :
    List (Run α) → Gap α
| [] => { before := [], items, after }
| .insert others :: before =>
    up (others ++ items) after before
| .delete gone :: before =>
    up items (.delete gone :: after) before
| .keep kept :: before =>
    let whole := kept ++ items
    let shared := commonSuffix kept whole
    if kept = [] then
      up items after before
    else if shared = 0 then
      { before := .keep kept :: before, items, after }
    else
      let stay := kept.length - shared
      let moved := (whole.drop stay).take items.length
      let after := growAfter (kept.drop stay) after
      if stay = 0 then
        up moved after before
      else
        { before := .keep (kept.take stay) :: before
          items := moved
          after }

/- Move an insertion down as far as it goes. -/
def down
    [DecidableEq α]
    (before : List (Run α))
    (items : List α) :
    List (Run α) → Gap α
| [] => { before, items, after := [] }
| .insert others :: after =>
    down before (items ++ others) after
| .delete gone :: after =>
    down (.delete gone :: before) items after
| .keep kept :: after =>
    let whole := items ++ kept
    let shared := commonPrefix kept whole
    if kept = [] then
      down before items after
    else if shared = 0 then
      { before, items, after := .keep kept :: after }
    else
      let moved := (whole.drop shared).take items.length
      let before := growBefore (kept.take shared) before
      let rest := kept.drop shared
      if rest = [] then
        down before moved after
      else
        { before
          items := moved
          after := .keep rest :: after }

end Gap

------------------------------------------------------------
-- Settling
------------------------------------------------------------

/- The work that a list of runs can still cause. -/
def weight (runs : List (Run α)) : Nat :=
  runs.foldr (fun run work => run.size + 1 + work) 0

/-
  Move the insertions one after the other.  `before` holds
  the runs that are settled, the nearest first.
-/
def settleFrom
    [DecidableEq α] :
    Nat → List (Run α) → List (Run α) → List (Run α)
| 0, before, rest => before.reverse ++ rest
| _, before, [] => before.reverse
| fuel + 1, before, .insert items :: after =>
    let raised := Gap.up items after before
    let gap := Gap.down raised.before raised.items raised.after
    settleFrom fuel (.insert gap.items :: gap.before) gap.after
| fuel + 1, before, run :: after =>
    settleFrom fuel (run :: before) after

/-
  The same comparison with every insertion at its last place.
  An insertion that moved up can move down again at least to
  where it was, so that every step leaves fewer items to
  settle.
-/
def settle
    [DecidableEq α]
    (runs : List (Run α)) : List (Run α) :=
  settleFrom (weight runs + 1) [] (deletionsLast [] runs)

------------------------------------------------------------
-- The Sides of a Settled Comparison
------------------------------------------------------------

/- Runs with the same sides can stand for each other. -/
theorem sides_congr
    {middle other : List (Run α)}
    (hMiddle : sides middle = sides other)
    (before after : List (Run α)) :
    sides (before ++ middle ++ after) =
      sides (before ++ other ++ after) := by
  simp only [sides_append, hMiddle]

/- Possibly missing deletions are in the old sequence. -/
@[simp]
theorem sides_deleteRun (items : List α) :
    sides (deleteRun items) = (items, []) := by
  cases items <;> simp [deleteRun]

/- Deletions change places with insertions only. -/
theorem sides_deletionsLast
    (gone : List α)
    (runs : List (Run α)) :
    sides (deletionsLast gone runs) =
      (gone ++ (sides runs).1, (sides runs).2) := by
  induction runs generalizing gone with
  | nil => simp [deletionsLast]
  | cons run rest ih =>
      cases run <;> simp [deletionsLast, ih]

namespace Gap

/- The runs around an insertion together with it. -/
def runs (gap : Gap α) : List (Run α) :=
  gap.before.reverse ++ .insert gap.items :: gap.after

/- Items kept behind a run are a run of their own. -/
theorem sides_growBefore
    (items : List α)
    (before : List (Run α)) :
    sides (growBefore items before).reverse =
      sides (before.reverse ++ [.keep items]) := by
  fun_cases growBefore items before <;> simp

/- Items kept in front of a run are a run of their own. -/
theorem sides_growAfter
    (items : List α)
    (after : List (Run α)) :
    sides (growAfter items after) =
      sides (.keep items :: after) := by
  fun_cases growAfter items after <;> simp

/-
  An insertion that stands inside of kept items keeps both
  sequences when the items in front of it and those behind it
  are also the ends of the new sequence.
-/
theorem sides_inside
    {kept items whole : List α}
    {stay : Nat}
    (hFront : kept.take stay = whole.take stay)
    (hBack :
      kept.drop stay = whole.drop (stay + items.length)) :
    sides
        [.keep (kept.take stay),
          .insert ((whole.drop stay).take items.length),
          .keep (kept.drop stay)] =
      (kept, whole) := by
  have hWhole :
      kept.take stay ++
        ((whole.drop stay).take items.length ++
          kept.drop stay) = whole := by
    rw [hFront, hBack, ← List.drop_drop,
      List.take_append_drop, List.take_append_drop]
  simp [hWhole]

variable [DecidableEq α]

/-
  An insertion can pass the end that it and the kept items
  have in common.
-/
theorem sides_raised (kept items : List α) :
    let whole := kept ++ items
    let stay := kept.length - commonSuffix kept whole
    sides
        [.keep (kept.take stay),
          .insert ((whole.drop stay).take items.length),
          .keep (kept.drop stay)] =
      sides [.keep kept, .insert items] := by
  intro whole stay
  have hFront : kept.take stay = whole.take stay := by
    rw [List.take_append_of_le_length (Nat.sub_le _ _)]
  have hBack :
      kept.drop stay = whole.drop (stay + items.length) := by
    have hFits := commonSuffix_le kept whole
    have hLength :
        whole.length = kept.length + items.length :=
      List.length_append
    have hStay :
        whole.length - commonSuffix kept whole =
          stay + items.length := by
      unfold stay
      omega
    rw [drop_commonSuffix, hStay]
  rw [sides_inside hFront hBack]
  simp [whole]

/-
  An insertion can pass the start that it and the kept
  items have in common.
-/
theorem sides_lowered (kept items : List α) :
    let whole := items ++ kept
    let shared := commonPrefix kept whole
    sides
        [.keep (kept.take shared),
          .insert ((whole.drop shared).take items.length),
          .keep (kept.drop shared)] =
      sides [.insert items, .keep kept] := by
  intro whole shared
  have hBack :
      kept.drop shared =
        whole.drop (shared + items.length) := by
    rw [Nat.add_comm, ← List.drop_drop, List.drop_left]
  rw [sides_inside (take_commonPrefix kept whole) hBack]
  simp [whole]

/- Moving an insertion up keeps both sequences. -/
theorem sides_up
    (items : List α)
    (after before : List (Run α)) :
    sides (up items after before).runs =
      sides (before.reverse ++ .insert items :: after) := by
  fun_induction up items after before with
  | case1 items after => rfl
  | case2 items after others before ih =>
      rw [ih]
      simp
  | case3 items after gone before ih =>
      rw [ih]
      simp
  | case4 items after before ih =>
      rw [ih]
      simp
  | case5 => rfl
  -- It passes all of the kept items and goes on.
  | case6 items after kept before whole shared hSome hShared
      stay moved raised hStay ih =>
      have hRaised :
          sides
              (before.reverse ++
                [.keep (kept.take stay), .insert moved,
                  .keep (kept.drop stay)] ++ after) =
            sides
              (before.reverse ++ [.keep kept, .insert items] ++
                after) :=
        sides_congr (sides_raised kept items) _ after
      rw [hStay, List.take_zero] at hRaised
      rw [ih]
      simpa [raised, hStay, sides_growAfter] using hRaised
  -- It comes to a stop between the kept items.
  | case7 items after kept before whole shared hSome hShared
      stay moved raised hStay =>
      have hRaised :=
        sides_congr (sides_raised kept items) before.reverse
          after
      simpa [runs, raised, sides_growAfter] using hRaised

/- Moving an insertion down keeps both sequences. -/
theorem sides_down
    (before : List (Run α))
    (items : List α)
    (after : List (Run α)) :
    sides (down before items after).runs =
      sides (before.reverse ++ .insert items :: after) := by
  fun_induction down before items after with
  | case1 before items => rfl
  | case2 before items others after ih =>
      rw [ih]
      simp
  | case3 before items gone after ih =>
      rw [ih]
      simp
  | case4 before items after ih =>
      rw [ih]
      simp
  | case5 => rfl
  -- It passes all of the kept items and goes on.
  | case6 before items kept after whole shared hSome hShared
      moved lowered rest hRest ih =>
      have hLowered :
          sides
              (before.reverse ++
                [.keep (kept.take shared), .insert moved,
                  .keep rest] ++ after) =
            sides
              (before.reverse ++ [.insert items, .keep kept] ++
                after) :=
        sides_congr (sides_lowered kept items) _ after
      rw [hRest] at hLowered
      rw [ih]
      simpa [lowered, sides_growBefore] using hLowered
  -- It comes to a stop between the kept items.
  | case7 before items kept after whole shared hSome hShared
      moved lowered rest hRest =>
      have hLowered :=
        sides_congr (sides_lowered kept items) before.reverse
          after
      simpa [runs, lowered, sides_growBefore] using hLowered

end Gap

/- Moving the insertions one by one keeps both sequences. -/
theorem sides_settleFrom
    [DecidableEq α]
    (fuel : Nat)
    (before rest : List (Run α)) :
    sides (settleFrom fuel before rest) =
      sides (before.reverse ++ rest) := by
  fun_induction settleFrom fuel before rest with
  | case1 before rest => rfl
  | case2 fuel before => rw [List.append_nil]
  | case3 fuel before items after raised gap ih =>
      have hGap :
          sides gap.runs =
            sides (before.reverse ++ .insert items :: after) :=
        (Gap.sides_down _ _ _).trans (Gap.sides_up _ _ _)
      rw [ih, ← hGap, Gap.runs, List.reverse_cons,
        List.append_assoc, List.singleton_append]
  | case4 fuel before run after hOther ih =>
      rw [ih, List.reverse_cons, List.append_assoc,
        List.singleton_append]

/- Settling a comparison keeps both sequences. -/
theorem sides_settle
    [DecidableEq α]
    (runs : List (Run α)) :
    sides (settle runs) = sides runs := by
  rw [settle, sides_settleFrom, List.reverse_nil,
    List.nil_append, sides_deletionsLast, List.nil_append]

end Diff

end SceneScript
