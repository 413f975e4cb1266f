/-!
# Stable sorting

`stableSort le` sorts by insertion; elements that are equal under `le` keep their order.
-/

namespace HouseStyle

/-- Inserts an element in front of the first one that it does not exceed. -/
def insertSorted {α : Type} (le : α → α → Bool) (x : α) : List α → List α
  | [] => [x]
  | y :: ys => if le x y then x :: y :: ys else y :: insertSorted le x ys

/-- Sorts a list and keeps the order of equal elements. -/
def stableSort {α : Type} (le : α → α → Bool) : List α → List α
  | [] => []
  | x :: xs => insertSorted le x (stableSort le xs)

/-- The elements without repetitions, each at its first place. -/
def distinct {α : Type} [BEq α] : List α → List α
  | [] => []
  | x :: xs => x :: (distinct xs).filter (fun y => !(x == y))

end HouseStyle
