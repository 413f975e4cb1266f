/-!
# Caches of bounded size

A cache keeps computed values by their keys, as many as its capacity allows. When it is full, the entry
that was not used for longest makes room.
-/

namespace HouseStyle

/-- Values by their keys, the last used in front. -/
structure Cache (capacity : Nat) (κ α : Type) where
  entries : List (κ × α) := []
  length_le : entries.length ≤ capacity := by exact Nat.zero_le _

namespace Cache

variable {capacity : Nat} {κ α : Type} [DecidableEq κ]

/-- The value that is kept for a key. -/
def find? (c : Cache capacity κ α) (key : κ) : Option α := c.entries.lookup key

/-- The cache after a value was looked up or computed: it is kept in front of all others. -/
def use (c : Cache capacity κ α) (key : κ) (value : α) : Cache capacity κ α where
  entries := ((key, value) :: c.entries.filter (·.1 ≠ key)).take capacity
  length_le := List.length_take_le capacity _

end Cache

end HouseStyle
