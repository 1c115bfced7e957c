import Mathlib.Data.List.Nodup
import PowerMonitor.Library.Dict
import Mathlib.Data.List.Basic
import Mathlib.Tactic.Common

/-! Rows of a table as the entries of a dictionary, and lists cut into chunks.

Collecting puts rows under their keys, as `dict.setdefault(key, start)` and a change of the entry do.
-/

set_option autoImplicit false
namespace PowerMonitor.Library

variable {Key Value Row : Type} [DecidableEq Key] (key : Row → Key) (start : Value) (step : Value → Row → Value)

/-- One row changes the entry of its key, which begins as `start`. -/
def collectStep (dict : List (Key × Value)) (row : Row) : List (Key × Value) :=
  setKey (key row) (step ((dict.lookup (key row)).getD start) row) dict

def collect (rows : List Row) : List (Key × Value) := rows.foldl (collectStep key start step) []

theorem foldl_append_map {Item : Type} (lower : Row → Item) (rows : List Row) (front : List Item) :
    rows.foldl (fun items row => items ++ [lower row]) front = front ++ rows.map lower := by
  induction rows generalizing front with
  | nil => simp
  | cons row rest ih => simp [ih]

/-! ## Lists cut into chunks of one size -/

section Chunks
variable {Item : Type}

/-- `items[start : start + size] for start in range(0, len(items), size)` -/
def chunked (size : Nat) (items : List Item) : List (List Item) :=
  (List.range ((items.length + size - 1) / size)).map fun index => (items.drop (index * size)).take size

theorem take_chunks (size count : Nat) (items : List Item) :
    ((List.range count).map fun index => (items.drop (index * size)).take size).flatten = items.take (count * size) := by
  induction count with
  | zero => simp
  | succ count ih =>
      rw [List.range_succ, List.map_append, List.flatten_append, ih, Nat.succ_mul, List.take_add]
      simp

theorem chunked_flatten {size : Nat} (positive : 0 < size) (items : List Item) : (chunked size items).flatten = items := by
  rw [chunked, take_chunks, List.take_of_length_le]
  have rounded := Nat.div_add_mod (items.length + size - 1) size
  have small := Nat.mod_lt (items.length + size - 1) positive
  rw [Nat.mul_comm]
  omega

theorem sublist_of_mem_chunked {size : Nat} {items chunk : List Item} (member : chunk ∈ chunked size items) :
    chunk.Sublist items := by
  obtain ⟨index, _, rfl⟩ := List.mem_map.mp member
  exact (List.take_sublist _ _).trans (List.drop_sublist _ _)

end Chunks
end PowerMonitor.Library
