/-
  Comparisons of two sequences as runs of kept, deleted and
  inserted items.

  Key definitions include:
    * `Diff.Run`
    * `Diff.sides`
    * `Diff.keepRun`
    * `Diff.commonPrefix`
    * `Diff.commonSuffix`

  Correctness is stated by:
    * `Diff.sides_append`
    * `Diff.take_commonPrefix`
    * `Diff.drop_commonSuffix`

  The runs of a comparison make up both sequences: the kept
  and deleted items are the old one, the kept and inserted
  items are the new one.
-/

namespace SceneScript

namespace Diff

variable {α : Type}

------------------------------------------------------------
-- Runs
------------------------------------------------------------

/- Neighbouring items with the same fate. -/
inductive Run (α : Type) where
| keep (items : List α)
| delete (items : List α)
| insert (items : List α)
deriving DecidableEq, Repr

namespace Run

/- The items of a run that the old sequence has. -/
@[simp]
def oldItems : Run α → List α
| keep items => items
| delete items => items
| insert _ => []

/- The items of a run that the new sequence has. -/
@[simp]
def newItems : Run α → List α
| keep items => items
| delete _ => []
| insert items => items

/- The number of items of a run. -/
def size : Run α → Nat
| keep items => items.length
| delete items => items.length
| insert items => items.length

end Run

/- The old and the new sequence of a comparison. -/
def sides (runs : List (Run α)) : List α × List α :=
  (runs.flatMap Run.oldItems, runs.flatMap Run.newItems)

/- No runs compare nothing with nothing. -/
@[simp]
theorem sides_nil : sides ([] : List (Run α)) = ([], []) :=
  rfl

/- The items of a run stand in front of those of the rest. -/
@[simp]
theorem sides_cons
    (run : Run α)
    (rest : List (Run α)) :
    sides (run :: rest) =
      (run.oldItems ++ (sides rest).1,
        run.newItems ++ (sides rest).2) := by
  simp [sides]

/- The runs of two comparisons follow one another. -/
@[simp]
theorem sides_append (first second : List (Run α)) :
    sides (first ++ second) =
      ((sides first).1 ++ (sides second).1,
        (sides first).2 ++ (sides second).2) := by
  simp [sides]

/- A run of kept items, left out if there are none. -/
def keepRun (items : List α) : List (Run α) :=
  match items with
  | [] => []
  | _ :: _ => [.keep items]

/- Kept items are in both sequences. -/
@[simp]
theorem sides_keepRun (items : List α) :
    sides (keepRun items) = (items, items) := by
  cases items <;> simp [keepRun]

------------------------------------------------------------
-- Common Ends
------------------------------------------------------------

variable [DecidableEq α]

/- The number of items that two sequences start with alike. -/
def commonPrefix : List α → List α → Nat
| x :: xs, y :: ys =>
    if x = y then commonPrefix xs ys + 1 else 0
| _, _ => 0

/- The number of items that two sequences end with alike. -/
def commonSuffix (xs ys : List α) : Nat :=
  commonPrefix xs.reverse ys.reverse

/- The common start is the same in both sequences. -/
theorem take_commonPrefix (xs ys : List α) :
    xs.take (commonPrefix xs ys) =
      ys.take (commonPrefix xs ys) := by
  fun_induction commonPrefix xs ys with
  | case1 x xs ys ih =>
      rw [List.take_succ_cons, List.take_succ_cons, ih]
  | case2 => simp
  | case3 => simp

/- The common start fits into both sequences. -/
theorem commonPrefix_le (xs ys : List α) :
    commonPrefix xs ys ≤ min xs.length ys.length := by
  fun_induction commonPrefix xs ys with
  | case1 x xs ys ih =>
      simp only [List.length_cons]
      omega
  | case2 => simp
  | case3 => simp

/- The common end fits into both sequences. -/
theorem commonSuffix_le (xs ys : List α) :
    commonSuffix xs ys ≤ min xs.length ys.length := by
  simpa [commonSuffix] using
    commonPrefix_le xs.reverse ys.reverse

/- The common end is the same in both sequences. -/
theorem drop_commonSuffix (xs ys : List α) :
    xs.drop (xs.length - commonSuffix xs ys) =
      ys.drop (ys.length - commonSuffix xs ys) := by
  have hTake := take_commonPrefix xs.reverse ys.reverse
  rw [List.take_reverse, List.take_reverse] at hTake
  exact List.reverse_inj.mp hTake

end Diff

end SceneScript
