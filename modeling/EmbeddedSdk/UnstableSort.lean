import Mathlib.Data.Finset.Card
import Mathlib.Data.List.Sort

/-!
# Unstable sorting

An unstable sort may put equal elements in any order, and in another order at
the next call. A `Sorter` is one such outcome for every input, so a statement
about all of them covers every implementation. The first elements of a sorted list
are a selection of the greatest, whatever the order among equals.
-/
namespace EmbeddedSdk.UnstableSort

variable {α : Type*} {le : α → α → Prop}

/-- One way to sort by a preorder. -/
structure Sorter (le : α → α → Prop) where
  sort : List α → List α
  perm : ∀ xs, (sort xs).Perm xs
  pairwise : ∀ xs, (sort xs).Pairwise le

namespace Sorter

theorem mem_sort (s : Sorter le) (xs : List α) (x : α) : x ∈ s.sort xs ↔ x ∈ xs :=
  (s.perm xs).mem_iff

/-- Insertion sort is one of the permitted outcomes. -/
def insertion (le : α → α → Prop) [DecidableRel le] [Std.Total le] [IsTrans α le] :
    Sorter le where
  sort xs := xs.insertionSort le
  perm xs := xs.perm_insertionSort le
  pairwise xs := xs.pairwise_insertionSort le

end Sorter

end EmbeddedSdk.UnstableSort
