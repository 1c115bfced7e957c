import Mathlib.Data.Finset.Card
import Mathlib.Algebra.BigOperators.Ring.Finset
import Mathlib.Order.Interval.Finset.Basic
import Mathlib.Data.Int.Interval
import Mathlib.Data.Int.ConditionallyCompleteOrder
import Mathlib.Order.ConditionallyCompleteLattice.Basic

/-! Unions of listed finite sets.

The sizes of listed sets add up to the size of their union exactly when no two of them meet. For ranges of integers that
are in the order of their starts a sweep with one range in hand finds that size.
-/

set_option autoImplicit false
namespace PowerMonitor.Library

section Unions
variable {α : Type} [DecidableEq α]

def unionOf (sets : List (Finset α)) : Finset α := sets.foldr (· ∪ ·) ∅

@[simp] theorem unionOf_nil : unionOf ([] : List (Finset α)) = ∅ := rfl

@[simp] theorem unionOf_cons (set : Finset α) (rest : List (Finset α)) : unionOf (set :: rest) = set ∪ unionOf rest := rfl

theorem mem_unionOf {sets : List (Finset α)} {item : α} : item ∈ unionOf sets ↔ ∃ set ∈ sets, item ∈ set := by
  induction sets with
  | nil => simp
  | cons set rest ih => simp [ih]

theorem unionOf_perm {sets others : List (Finset α)} (same : sets.Perm others) : unionOf sets = unionOf others := by
  ext item
  rw [mem_unionOf, mem_unionOf]
  exact exists_congr fun set => and_congr_left' same.mem_iff

theorem disjoint_unionOf {set : Finset α} {rest : List (Finset α)} :
    Disjoint set (unionOf rest) ↔ ∀ other ∈ rest, Disjoint set other := by
  induction rest with
  | nil => simp
  | cons head rest ih => simp [ih]

theorem card_unionOf_le (sets : List (Finset α)) : (unionOf sets).card ≤ (sets.map Finset.card).sum := by
  induction sets with
  | nil => rfl
  | cons set rest ih =>
      rw [unionOf_cons, List.map_cons, List.sum_cons]
      exact (Finset.card_union_le _ _).trans (Nat.add_le_add_left ih _)

/-- No item is counted twice exactly when no two sets meet. -/
theorem card_unionOf_eq_iff (sets : List (Finset α)) :
    (unionOf sets).card = (sets.map Finset.card).sum ↔ sets.Pairwise Disjoint := by
  induction sets with
  | nil => simp
  | cons set rest ih =>
      have bound := card_unionOf_le rest
      have both := Finset.card_union_add_card_inter set (unionOf rest)
      rw [List.pairwise_cons, ← ih, ← disjoint_unionOf, Finset.disjoint_iff_inter_eq_empty, ← Finset.card_eq_zero,
        unionOf_cons, List.map_cons, List.sum_cons]
      omega

end Unions

/-! ## Ranges of integers -/

/-- The integers of the ranges, each from its start up to and without its end. -/
noncomputable def rangeUnion (ranges : List (Int × Int)) : Finset Int := unionOf (ranges.map fun range => Finset.Ico range.1 range.2)

@[simp] theorem rangeUnion_nil : rangeUnion [] = ∅ := rfl

@[simp] theorem rangeUnion_cons (range : Int × Int) (rest : List (Int × Int)) :
    rangeUnion (range :: rest) = Finset.Ico range.1 range.2 ∪ rangeUnion rest := rfl

theorem rangeUnion_perm {ranges others : List (Int × Int)} (same : ranges.Perm others) :
    rangeUnion ranges = rangeUnion others := unionOf_perm (same.map _)

theorem mem_rangeUnion {ranges : List (Int × Int)} {instant : Int} :
    instant ∈ rangeUnion ranges ↔ ∃ range ∈ ranges, range.1 ≤ instant ∧ instant < range.2 := by
  simp [rangeUnion, mem_unionOf]

/-- The lengths of proper ranges add up to the size of their union exactly when they do not overlap. -/
theorem card_rangeUnion_eq_iff {ranges : List (Int × Int)} (proper : ∀ range ∈ ranges, range.1 < range.2) :
    ((rangeUnion ranges).card : Int) = (ranges.map fun range => range.2 - range.1).sum ↔
      ranges.Pairwise fun first second => first.2 ≤ second.1 ∨ second.2 ≤ first.1 := by
  have lengths : (ranges.map fun range => range.2 - range.1).sum =
      (((ranges.map fun range => Finset.Ico range.1 range.2).map Finset.card).sum : Nat) := by
    rw [List.map_map, Nat.cast_list_sum, List.map_map]
    congr 1
    refine List.map_congr_left fun range member => ?_
    have := proper range member
    simp only [Function.comp_apply, Int.card_Ico]
    omega
  rw [lengths, Nat.cast_inj, rangeUnion, card_unionOf_eq_iff, List.pairwise_map]
  refine List.Pairwise.iff_of_mem fun {first second} member also => ?_
  have one := proper first member
  have two := proper second also
  rw [Finset.disjoint_left]
  constructor
  · intro apart
    by_contra both
    rw [not_or, not_le, not_le] at both
    -- The later start lies in both.
    exact apart (Finset.mem_Ico.mpr ⟨le_max_left _ _, max_lt one both.1⟩)
      (Finset.mem_Ico.mpr ⟨le_max_right first.1 second.1, max_lt both.2 two⟩)
  · intro apart instant here there
    have here := Finset.mem_Ico.mp here
    have there := Finset.mem_Ico.mp there
    omega

theorem card_rangeUnion_le (ranges : List (Int × Int)) (proper : ∀ range ∈ ranges, range.1 ≤ range.2) :
    ((rangeUnion ranges).card : Int) ≤ (ranges.map fun range => range.2 - range.1).sum := by
  induction ranges with
  | nil => simp
  | cons range rest ih =>
      have tail := ih fun other member => proper other (List.mem_cons_of_mem _ member)
      have here := proper range List.mem_cons_self
      have both := Finset.card_union_le (Finset.Ico range.1 range.2) (rangeUnion rest)
      rw [Int.card_Ico] at both
      rw [rangeUnion_cons, List.map_cons, List.sum_cons]
      omega

/-- A range that continues the one in hand makes one range with it. -/
theorem rangeUnion_touching {start finish : Int} {range : Int × Int} (after : start ≤ range.1) (touches : range.1 ≤ finish)
    (rest : List (Int × Int)) :
    rangeUnion ((start, max finish range.2) :: rest) = rangeUnion ((start, finish) :: range :: rest) := by
  simp only [rangeUnion_cons]
  rw [← Finset.union_assoc]
  congr 1
  ext instant
  simp only [Finset.mem_union, Finset.mem_Ico]
  omega

/-- A range before all others adds its length. -/
theorem card_rangeUnion_before {start finish : Int} (ordered : start ≤ finish) {rest : List (Int × Int)}
    (later : ∀ range ∈ rest, finish ≤ range.1) :
    ((rangeUnion ((start, finish) :: rest)).card : Int) = finish - start + (rangeUnion rest).card := by
  have apart : Disjoint (Finset.Ico start finish) (rangeUnion rest) := by
    rw [Finset.disjoint_left]
    intro instant here there
    obtain ⟨range, member, from_, _⟩ := mem_rangeUnion.mp there
    have := later range member
    have := (Finset.mem_Ico.mp here).2
    omega
  rw [rangeUnion_cons, Finset.card_union_of_disjoint apart, Int.card_Ico]
  omega

end PowerMonitor.Library
