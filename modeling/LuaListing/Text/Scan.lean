/-!
# Scanning lists from the left

Every reader of this library walks a list of characters from the left, taking the longest
run of some class and going on with the rest.  The rest is never longer than what it came
from, which is what makes these readers terminate.

## Main statements

* `length_dropWhile_le` — dropping a run never lengthens a list.
* `length_takeWhile_add_dropWhile` — the run and the rest together are the whole list.
-/

namespace LuaListing

theorem length_takeWhile_add_dropWhile {α : Type} (p : α → Bool) (l : List α) :
    (l.takeWhile p).length + (l.dropWhile p).length = l.length := by
  rw [← List.length_append, List.takeWhile_append_dropWhile]

theorem length_dropWhile_le {α : Type} (p : α → Bool) (l : List α) :
    (l.dropWhile p).length ≤ l.length := by
  have := length_takeWhile_add_dropWhile p l
  omega

end LuaListing
