import NamespaceScan.Numbers
import NamespaceScan.Rounding

/-!
# Narrowed columns

Columns that are too wide together are narrowed: the widest ones first, down to
the width of the next, and in equal parts.
-/

namespace NamespaceScan.Console.Narrowing

/-- Take `excess` away from the columns that are chosen, in equal parts but not
more than `most` from any. -/
def takeAway (chosen : Nat → Bool) (most : Nat → Nat) (excess : Nat) : List Nat → List Nat
  | [] => []
  | width :: rest =>
    if chosen width then
      let share := min (most width) (roundedQuotient excess ((width :: rest).countP chosen))
      (width - share) :: takeAway chosen most (excess - share) rest
    else width :: takeAway chosen most excess rest

/-- Narrow the widest columns down to the second widest until the sum fits. -/
def narrowed (limit : Nat) : Nat → List Nat → List Nat
  | 0, widths => widths
  | fuel + 1, widths =>
    let excess := widths.sum - limit
    let widest := widths.foldl max 0
    let second := (widths.filter (· ≠ widest)).foldl max 0
    if excess = 0 ∨ widest = 0 then widths
    else
      let most := min excess (widest - second)
      narrowed limit fuel (takeAway (· = widest) (fun _ => most) excess widths)

/-- Widths whose sum is within a limit. -/
def fit (limit : Nat) (widths : List Nat) : List Nat :=
  let bounded := widths.map (min limit)
  let narrowed := narrowed limit bounded.sum bounded
  let last := takeAway (fun _ => true) id (narrowed.sum - limit) narrowed
  List.zipWith min bounded last

end NamespaceScan.Console.Narrowing
