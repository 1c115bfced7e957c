import Mathlib.Algebra.BigOperators.Group.List.Basic
import Mathlib.Data.List.ReduceOption
import Mathlib.Order.MinMax
import Mathlib.Tactic.Common

/-! Aggregate functions over nullable columns, and the loops that compute the same.

An aggregate skips nulls and is null itself when nothing is left.
-/

set_option autoImplicit false
namespace PowerMonitor.Library

section Sums
variable {M Item : Type} [AddCommMonoid M]

/-- `SUM` -/
def sqlSum (column : List (Option M)) : Option M :=
  match column.reduceOption with
  | [] => none
  | values => some values.sum

theorem sqlSum_eq_none {column : List (Option M)} : sqlSum column = none ↔ ∀ value ∈ column, value = none := by
  have empty : column.reduceOption = [] ↔ ∀ value ∈ column, value = none := by
    rw [List.eq_nil_iff_forall_not_mem]
    simp only [List.reduceOption_mem_iff]
    constructor
    · intro absent value member
      cases value with
      | none => rfl
      | some found => exact absurd member (absent found)
    · intro nulls value member
      cases nulls _ member
  rw [← empty, sqlSum]
  split <;> simp_all

theorem sqlSum_getD (column : List (Option M)) : (sqlSum column).getD 0 = (column.map fun value => value.getD 0).sum := by
  have kept : column.reduceOption.sum = (column.map fun value => value.getD 0).sum := by
    induction column with
    | nil => rfl
    | cons head rest ih => cases head <;> simp [ih]
  rw [← kept, sqlSum]
  split
  · next empty => rw [empty]; rfl
  · rfl

theorem sqlSum_perm {first second : List (Option M)} (same : first.Perm second) : sqlSum first = sqlSum second := by
  have kept : first.reduceOption.Perm second.reduceOption := same.filterMap id
  have empty : first.reduceOption = [] ↔ second.reduceOption = [] := by
    rw [← List.length_eq_zero_iff, ← List.length_eq_zero_iff, kept.length_eq]
  unfold sqlSum
  split
  · next nulls => rw [empty.mp nulls]
  · next values =>
      split
      · next nulls => exact absurd (empty.mpr nulls) values
      · next => rw [kept.sum_eq]

/-- A total that every step adds to. -/
theorem foldl_adds {State : Type} (field : State → M) (amount : Item → M) {step : State → Item → State}
    (adds : ∀ state item, field (step state item) = field state + amount item) (items : List Item) (state : State) :
    field (items.foldl step state) = field state + (items.map amount).sum := by
  induction items generalizing state with
  | nil => simp
  | cons item rest ih => rw [List.foldl_cons, ih, adds, List.map_cons, List.sum_cons, add_assoc]

end Sums

section Extremes
variable {V : Type} [LinearOrder V]

local instance lawfulOrderMin : Std.LawfulOrderMin V where
  min_eq_or := min_choice
  le_min_iff _ _ _ := le_min_iff

local instance lawfulOrderMax : Std.LawfulOrderMax V where
  max_eq_or := max_choice
  max_le_iff _ _ _ := max_le_iff

/-- `value if old is None else min(old, value)` -/
def keepMin (old : Option V) (value : V) : Option V := some (old.elim value (min · value))

/-- `value if old is None else max(old, value)` -/
def keepMax (old : Option V) (value : V) : Option V := some (old.elim value (max · value))

/-- `MIN` -/
def sqlMin (column : List (Option V)) : Option V := column.reduceOption.min?

/-- `MAX` -/
def sqlMax (column : List (Option V)) : Option V := column.reduceOption.max?

/-- The loop that skips nulls keeps the least of the others. -/
theorem foldl_keepMin (column : List (Option V)) :
    column.foldl (fun old value => value.elim old (keepMin old)) none = sqlMin column := by
  have from_some : ∀ (rest : List (Option V)) (first : V),
      rest.foldl (fun old value => value.elim old (keepMin old)) (some first) = some (rest.reduceOption.foldl min first) := by
    intro rest
    induction rest with
    | nil => exact fun _ => rfl
    | cons head rest ih =>
        intro first
        cases head with
        | none => exact ih first
        | some value => exact ih (min first value)
  induction column with
  | nil => rfl
  | cons head rest ih =>
      cases head with
      | none => exact ih
      | some value => exact from_some rest value

theorem foldl_keepMax (column : List (Option V)) :
    column.foldl (fun old value => value.elim old (keepMax old)) none = sqlMax column := by
  have from_some : ∀ (rest : List (Option V)) (first : V),
      rest.foldl (fun old value => value.elim old (keepMax old)) (some first) = some (rest.reduceOption.foldl max first) := by
    intro rest
    induction rest with
    | nil => exact fun _ => rfl
    | cons head rest ih =>
        intro first
        cases head with
        | none => exact ih first
        | some value => exact ih (max first value)
  induction column with
  | nil => rfl
  | cons head rest ih =>
      cases head with
      | none => exact ih
      | some value => exact from_some rest value

theorem le_of_min? {values : List V} {least value : V} (found : values.min? = some least) (member : value ∈ values) :
    least ≤ value := by
  exact (List.min?_eq_some_iff.mp found).2 value member

theorem le_of_max? {values : List V} {most value : V} (found : values.max? = some most) (member : value ∈ values) :
    value ≤ most := by
  exact (List.max?_eq_some_iff.mp found).2 value member

/-- Two lists have one least value when each value of either is reached from below by the other. -/
theorem min?_eq_min?_iff {first second : List V} : first.min? = second.min? ↔
    (∀ value ∈ first, ∃ other ∈ second, other ≤ value) ∧ ∀ value ∈ second, ∃ other ∈ first, other ≤ value := by
  constructor
  · intro same
    constructor <;> intro value member
    · obtain ⟨least, found⟩ := Option.isSome_iff_exists.mp (List.isSome_min?_of_mem member)
      exact ⟨least, (List.min?_eq_some_iff.mp (same ▸ found)).1, le_of_min? found member⟩
    · obtain ⟨least, found⟩ := Option.isSome_iff_exists.mp (List.isSome_min?_of_mem member)
      exact ⟨least, (List.min?_eq_some_iff.mp (same.trans found)).1, le_of_min? found member⟩
  · rintro ⟨below, above⟩
    cases firstLeast : first.min? with
    | none =>
        rw [List.min?_eq_none_iff] at firstLeast
        symm
        rw [List.min?_eq_none_iff, List.eq_nil_iff_forall_not_mem]
        intro value member
        obtain ⟨other, found, _⟩ := above value member
        simp [firstLeast] at found
    | some least =>
        obtain ⟨member, bound⟩ := List.min?_eq_some_iff.mp firstLeast
        obtain ⟨other, found, reached⟩ := below least member
        obtain ⟨back, known, lower⟩ := above other found
        symm
        rw [List.min?_eq_some_iff]
        have same : other = least := le_antisymm reached ((bound back known).trans lower)
        refine ⟨same ▸ found, fun value inside => ?_⟩
        obtain ⟨under, present, smaller⟩ := above value inside
        exact (bound under present).trans smaller

theorem max?_eq_max?_iff {first second : List V} : first.max? = second.max? ↔
    (∀ value ∈ first, ∃ other ∈ second, value ≤ other) ∧ ∀ value ∈ second, ∃ other ∈ first, value ≤ other := by
  constructor
  · intro same
    constructor <;> intro value member
    · obtain ⟨most, found⟩ := Option.isSome_iff_exists.mp (List.isSome_max?_of_mem member)
      exact ⟨most, (List.max?_eq_some_iff.mp (same ▸ found)).1, le_of_max? found member⟩
    · obtain ⟨most, found⟩ := Option.isSome_iff_exists.mp (List.isSome_max?_of_mem member)
      exact ⟨most, (List.max?_eq_some_iff.mp (same.trans found)).1, le_of_max? found member⟩
  · rintro ⟨below, above⟩
    cases firstMost : first.max? with
    | none =>
        rw [List.max?_eq_none_iff] at firstMost
        symm
        rw [List.max?_eq_none_iff, List.eq_nil_iff_forall_not_mem]
        intro value member
        obtain ⟨other, found, _⟩ := above value member
        simp [firstMost] at found
    | some most =>
        obtain ⟨member, bound⟩ := List.max?_eq_some_iff.mp firstMost
        obtain ⟨other, found, reached⟩ := below most member
        obtain ⟨back, known, higher⟩ := above other found
        symm
        rw [List.max?_eq_some_iff]
        have same : other = most := le_antisymm (higher.trans (bound back known)) reached
        refine ⟨same ▸ found, fun value inside => ?_⟩
        obtain ⟨upper, present, larger⟩ := above value inside
        exact larger.trans (bound upper present)

theorem sqlMin_perm {first second : List (Option V)} (same : first.Perm second) : sqlMin first = sqlMin second := by
  have kept : first.reduceOption.Perm second.reduceOption := same.filterMap id
  exact min?_eq_min?_iff.mpr ⟨fun value member => ⟨value, kept.mem_iff.mp member, le_rfl⟩,
    fun value member => ⟨value, kept.mem_iff.mpr member, le_rfl⟩⟩

theorem sqlMax_perm {first second : List (Option V)} (same : first.Perm second) : sqlMax first = sqlMax second := by
  have kept : first.reduceOption.Perm second.reduceOption := same.filterMap id
  exact max?_eq_max?_iff.mpr ⟨fun value member => ⟨value, kept.mem_iff.mp member, le_rfl⟩,
    fun value member => ⟨value, kept.mem_iff.mpr member, le_rfl⟩⟩

end Extremes
end PowerMonitor.Library
