import Mathlib.Data.List.Sort
import Mathlib.Data.Prod.Lex

/-! Lists sorted by a key, and the prefixes that a selection leaves of them. -/

set_option autoImplicit false
namespace PowerMonitor.Library

variable {Row Key : Type} [LinearOrder Key] (key : Row → Key)

/-- `sorted(rows, key=key)`, and `ORDER BY` -/
def sortByKey (rows : List Row) : List Row := rows.insertionSort fun first second => key first ≤ key second

variable {key}

theorem sortByKey_perm (rows : List Row) : (sortByKey key rows).Perm rows := List.perm_insertionSort _ rows

@[simp] theorem mem_sortByKey {rows : List Row} {row : Row} : row ∈ sortByKey key rows ↔ row ∈ rows :=
  (sortByKey_perm rows).mem_iff

theorem sortByKey_sorted (rows : List Row) :
    (sortByKey key rows).Pairwise fun first second => key first ≤ key second := by
  have total : Std.Total fun first second : Row => key first ≤ key second := ⟨fun first second => le_total _ _⟩
  have trans : IsTrans Row fun first second => key first ≤ key second := ⟨fun _ _ _ => le_trans⟩
  exact List.pairwise_insertionSort _ rows

/-- What is kept of sorted rows is a prefix when a row is kept with every later one. -/
theorem filter_eq_take {keep : Row → Bool} {rows : List Row}
    (closed : rows.Pairwise fun first second => keep second → keep first) :
    rows.filter keep = rows.take (rows.countP keep) := by
  induction rows with
  | nil => rfl
  | cons row rest ih =>
      obtain ⟨first, later⟩ := List.pairwise_cons.mp closed
      by_cases kept : keep row
      · rw [List.filter_cons_of_pos kept, List.countP_cons_of_pos kept, List.take_succ_cons, ih later]
      · -- Nothing is kept after a row that is not.
        have none_kept : ∀ other ∈ rest, ¬keep other := fun other member here => kept (first other member here)
        rw [List.filter_cons_of_neg kept, List.countP_cons_of_neg kept, List.countP_eq_zero.mpr none_kept,
          List.filter_eq_nil_iff.mpr none_kept, List.take_zero]

end PowerMonitor.Library
