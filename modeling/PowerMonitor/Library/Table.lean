import Mathlib.Data.List.Nodup
import Mathlib.Tactic.Common

/-! Tables with a primary key.

A table carries the proof that its keys are distinct, so that a row is looked up, changed and inserted by its key without
any side condition.
-/

set_option autoImplicit false
namespace PowerMonitor.Library

variable {Row Key : Type}

structure Table (key : Row → Key) where
  rows : List Row := []
  distinct : (rows.map key).Nodup

namespace Table
variable {key : Row → Key}

/-- Change every row, but none of its keys. -/
def map (table : Table key) (change : Row → Row) (keeps : ∀ row, key (change row) = key row) : Table key where
  rows := table.rows.map change
  distinct := by
    rw [List.map_map, show key ∘ change = key from funext keeps]
    exact table.distinct

theorem eq_of_key (table : Table key) {row other : Row} (first : row ∈ table.rows) (second : other ∈ table.rows)
    (same : key row = key other) : row = other :=
  List.inj_on_of_nodup_map table.distinct first second same

theorem mem_map {table : Table key} {row : Row} {change : Row → Row} {keeps : ∀ row, key (change row) = key row} :
    row ∈ (table.map change keeps).rows ↔ ∃ old ∈ table.rows, change old = row := List.mem_map

@[ext] theorem ext_rows {first second : Table key} (same : first.rows = second.rows) : first = second := by
  cases first
  cases second
  cases same
  rfl

/-- A row with a key that is known to be free. -/
def push (table : Table key) (row : Row) (fresh : key row ∉ table.rows.map key) : Table key where
  rows := row :: table.rows
  distinct := by
    rw [List.map_cons, List.nodup_cons]
    exact ⟨fresh, table.distinct⟩

/-- The table without the row of a key. -/
def remove [DecidableEq Key] (table : Table key) (asked : Key) : Table key where
  rows := table.rows.filter fun row => key row ≠ asked
  distinct := table.distinct.sublist (List.filter_sublist.map key)

theorem mem_remove [DecidableEq Key] {table : Table key} {asked : Key} {row : Row} :
    row ∈ (table.remove asked).rows ↔ row ∈ table.rows ∧ key row ≠ asked := by
  rw [remove, List.mem_filter, decide_eq_true_eq]

theorem mem_push {table : Table key} {row : Row} {fresh : key row ∉ table.rows.map key} {other : Row} :
    other ∈ (table.push row fresh).rows ↔ other = row ∨ other ∈ table.rows := List.mem_cons

variable [DecidableEq Key]

def get? (table : Table key) (asked : Key) : Option Row := table.rows.find? fun row => key row = asked

/-- Change the row of a key. -/
def modify (table : Table key) (asked : Key) (change : Row → Row) (keeps : ∀ row, key (change row) = key row) : Table key :=
  table.map (fun row => if key row = asked then change row else row) fun row => by
    by_cases same : key row = asked
    · rw [if_pos same, keeps row]
    · rw [if_neg same]

/-- A row with a key of its own. -/
def insert (table : Table key) (row : Row) : Option (Table key) :=
  if fresh : key row ∉ table.rows.map key then
    some { rows := row :: table.rows, distinct := by
             rw [List.map_cons, List.nodup_cons]
             exact ⟨fresh, table.distinct⟩ }
  else none

variable {table : Table key} {asked : Key} {row : Row}

theorem get?_eq_some : table.get? asked = some row ↔ row ∈ table.rows ∧ key row = asked := by
  constructor
  · intro found
    exact ⟨List.mem_of_find?_eq_some found, by simpa using List.find?_some found⟩
  · rintro ⟨listed, rfl⟩
    obtain ⟨other, found⟩ : ∃ other, table.get? (key row) = some other :=
      Option.isSome_iff_exists.mp (List.find?_isSome.mpr ⟨row, listed, by simp⟩)
    rw [found, table.eq_of_key (List.mem_of_find?_eq_some found) listed (by simpa using List.find?_some found)]

theorem mem_modify {change : Row → Row} {keeps : ∀ row, key (change row) = key row} :
    row ∈ (table.modify asked change keeps).rows ↔
      (row ∈ table.rows ∧ key row ≠ asked) ∨ ∃ old, table.get? asked = some old ∧ change old = row := by
  rw [modify, mem_map]
  constructor
  · rintro ⟨old, listed, rfl⟩
    by_cases same : key old = asked
    · exact .inr ⟨old, get?_eq_some.mpr ⟨listed, same⟩, by rw [if_pos same]⟩
    · rw [if_neg same]
      exact .inl ⟨listed, same⟩
  · rintro (⟨listed, other⟩ | ⟨old, found, rfl⟩)
    · exact ⟨row, listed, if_neg other⟩
    · obtain ⟨listed, same⟩ := get?_eq_some.mp found
      exact ⟨old, listed, if_pos same⟩

theorem get?_modify {change : Row → Row} {keeps : ∀ row, key (change row) = key row} (other : Key) :
    (table.modify asked change keeps).get? other =
      if other = asked then (table.get? other).map change else table.get? other := by
  ext found
  rw [get?_eq_some, mem_modify]
  by_cases same : other = asked
  · subst same
    rw [if_pos rfl, Option.map_eq_some_iff]
    constructor
    · rintro ⟨⟨_, different⟩ | held, keyed⟩
      · exact absurd keyed different
      · exact held
    · rintro ⟨old, held, rfl⟩
      exact ⟨.inr ⟨old, held, rfl⟩, by rw [keeps, (get?_eq_some.mp held).2]⟩
  · rw [if_neg same, get?_eq_some]
    constructor
    · rintro ⟨⟨listed, _⟩ | ⟨old, held, rfl⟩, keyed⟩
      · exact ⟨listed, keyed⟩
      · rw [keeps, (get?_eq_some.mp held).2] at keyed
        exact absurd keyed.symm same
    · rintro ⟨listed, rfl⟩
      exact ⟨.inl ⟨listed, same⟩, rfl⟩

theorem get?_modify_same (change : Row → Row) (keeps : ∀ row, key (change row) = key row) (found : table.get? asked = some row) :
    (table.modify asked change keeps).get? asked = some (change row) := by
  rw [get?_modify, if_pos rfl, found]
  rfl

theorem get?_modify_other (change : Row → Row) (keeps : ∀ row, key (change row) = key row) {other : Key} (different : other ≠ asked) :
    (table.modify asked change keeps).get? other = table.get? other := by rw [get?_modify, if_neg different]

theorem insert_eq_some {after : Table key} : table.insert row = some after ↔
    key row ∉ table.rows.map key ∧ after.rows = row :: table.rows := by
  unfold insert
  split
  · rename_i fresh
    rw [Option.some.injEq]
    constructor
    · rintro rfl
      exact ⟨fresh, rfl⟩
    · rintro ⟨_, same⟩
      exact ext_rows same.symm
  · rename_i taken
    exact ⟨(nomatch ·), fun inserted => absurd inserted.1 taken⟩

theorem get?_push_old {fresh : key row ∉ table.rows.map key} {other : Key} {old : Row} (found : table.get? other = some old) :
    (table.push row fresh).get? other = some old := by
  obtain ⟨listed, keyed⟩ := get?_eq_some.mp found
  exact get?_eq_some.mpr ⟨List.mem_cons_of_mem _ listed, keyed⟩

end Table

/-! ## Numbered rows -/

namespace Table
variable {number : Row → Nat}

/-- A number that no row has. -/
def freshNumber (table : Table number) : Nat := (table.rows.map number).foldr max 0 + 1

/-- One more than the greatest number of a list is not in it. -/
theorem foldr_max_succ_not_mem (numbers : List Nat) : numbers.foldr max 0 + 1 ∉ numbers := by
  intro taken
  have bound : ∀ n ∈ numbers, n ≤ numbers.foldr max 0 := by
    clear taken
    induction numbers with
    | nil => exact nofun
    | cons first rest ih =>
        intro n member
        rcases List.mem_cons.mp member with rfl | later
        · exact Nat.le_max_left _ _
        · exact Nat.le_trans (ih n later) (Nat.le_max_right _ _)
  exact absurd (bound _ taken) (Nat.not_succ_le_self _)

theorem freshNumber_not_mem (table : Table number) : table.freshNumber ∉ table.rows.map number :=
  foldr_max_succ_not_mem _

end Table
end PowerMonitor.Library
