import Mathlib.Algebra.Group.Basic
import Mathlib.Data.List.Induction
import Mathlib.Tactic.Common

/-! Insertion-ordered dictionaries as association lists.

Writing a key that is present keeps its place; a new key goes to the end. A key
written again holds its last value.
-/

set_option autoImplicit false
namespace PowerMonitor.Library

variable {Key Value : Type} [DecidableEq Key]

/-- `dict[key] = value` -/
def setKey (key : Key) (value : Value) : List (Key × Value) → List (Key × Value)
  | [] => [(key, value)]
  | (other, old) :: rest =>
      if other = key then (other, value) :: rest else (other, old) :: setKey key value rest

theorem lookup_cons_eq (key other : Key) (value : Value) (rest : List (Key × Value)) :
    ((other, value) :: rest).lookup key = if key = other then some value else rest.lookup key := by
  by_cases same : key = other
  · simp [same]
  · simp [List.lookup_cons, same, beq_eq_false_iff_ne.mpr same]

@[simp] theorem lookup_setKey (key other : Key) (value : Value) (dict : List (Key × Value)) :
    (setKey key value dict).lookup other = if other = key then some value else dict.lookup other := by
  induction dict with
  | nil => exact lookup_cons_eq other key value []
  | cons entry rest ih =>
      rw [setKey]
      split
      · next here =>
          rw [lookup_cons_eq, lookup_cons_eq, here]
          split <;> rfl
      · next elsewhere =>
          rw [lookup_cons_eq, lookup_cons_eq, ih]
          by_cases asked : other = entry.1
          · rw [if_pos asked, if_pos asked, if_neg (asked ▸ elsewhere)]
          · rw [if_neg asked, if_neg asked]

theorem mem_setKey {key : Key} {value : Value} {dict : List (Key × Value)} {entry : Key × Value}
    (member : entry ∈ setKey key value dict) : entry = (key, value) ∨ entry ∈ dict := by
  induction dict with
  | nil => exact .inl (List.mem_singleton.mp member)
  | cons first rest ih =>
      rw [setKey] at member
      split at member
      · next same =>
          cases List.mem_cons.mp member with
          | inl here => exact .inl (here.trans (by rw [same]))
          | inr later => exact .inr (List.mem_cons_of_mem _ later)
      · cases List.mem_cons.mp member with
        | inl here => exact .inr (here ▸ List.mem_cons_self)
        | inr later => exact (ih later).imp_right (List.mem_cons_of_mem _)

/-- A dictionary written entry by entry. -/
def ofPairs (pairs : List (Key × Value)) : List (Key × Value) :=
  pairs.foldl (fun dict entry => setKey entry.1 entry.2 dict) []

theorem lookup_ofPairs (pairs : List (Key × Value)) (key : Key) :
    (ofPairs pairs).lookup key = pairs.reverse.lookup key := by
  induction pairs using List.reverseRecOn with
  | nil => rfl
  | append_singleton front last ih =>
      rw [ofPairs, List.foldl_append, List.foldl_cons, List.foldl_nil, lookup_setKey, List.reverse_append,
        List.reverse_singleton, List.singleton_append]
      rw [show last = (last.1, last.2) from rfl, lookup_cons_eq, ← ih]
      rfl

theorem mem_ofPairs {pairs : List (Key × Value)} {entry : Key × Value} (member : entry ∈ ofPairs pairs) :
    entry ∈ pairs := by
  induction pairs using List.reverseRecOn with
  | nil => simp [ofPairs] at member
  | append_singleton front last ih =>
      rw [ofPairs, List.foldl_append] at member
      rw [List.mem_append, List.mem_singleton]
      cases mem_setKey member with
      | inl here => exact .inr here
      | inr earlier => exact .inl (ih earlier)

theorem keys_setKey (key : Key) (value : Value) (dict : List (Key × Value)) :
    (setKey key value dict).map Prod.fst =
      if key ∈ dict.map Prod.fst then dict.map Prod.fst else dict.map Prod.fst ++ [key] := by
  induction dict with
  | nil => rfl
  | cons entry rest ih =>
      rw [setKey]
      by_cases here : entry.1 = key
      · simp [here]
      · rw [if_neg here, List.map_cons, ih, List.map_cons]
        by_cases later : key ∈ rest.map Prod.fst
        · rw [if_pos later, if_pos (List.mem_cons_of_mem _ later)]
        · rw [if_neg later, if_neg (by simp_all [Ne.symm here, eq_comm]), List.cons_append]

theorem nodup_setKey {key : Key} {value : Value} {dict : List (Key × Value)} (distinct : (dict.map Prod.fst).Nodup) :
    ((setKey key value dict).map Prod.fst).Nodup := by
  rw [keys_setKey]
  split
  · exact distinct
  · next absent =>
      rw [List.nodup_append]
      refine ⟨distinct, by simp, ?_⟩
      intro other member last single same
      rw [List.mem_singleton] at single
      exact absent (single ▸ same ▸ member)

theorem nodup_ofPairs (pairs : List (Key × Value)) : ((ofPairs pairs).map Prod.fst).Nodup := by
  induction pairs using List.reverseRecOn with
  | nil => exact List.nodup_nil
  | append_singleton front last ih =>
      rw [ofPairs, List.foldl_append, List.foldl_cons, List.foldl_nil]
      exact nodup_setKey ih

theorem lookup_of_mem {dict : List (Key × Value)} (distinct : (dict.map Prod.fst).Nodup) {entry : Key × Value}
    (member : entry ∈ dict) : dict.lookup entry.1 = some entry.2 := by
  induction dict with
  | nil => simp at member
  | cons head rest ih =>
      rw [List.map_cons, List.nodup_cons] at distinct
      rw [show head = (head.1, head.2) from rfl, lookup_cons_eq]
      cases List.mem_cons.mp member with
      | inl here => rw [here, if_pos rfl]
      | inr later =>
          have differs : entry.1 ≠ head.1 := fun same =>
            distinct.1 (same ▸ List.mem_map.mpr ⟨entry, later, rfl⟩)
          rw [if_neg differs]
          exact ih distinct.2 later

theorem lookup_mem {key : Key} {value : Value} {dict : List (Key × Value)}
    (entry : dict.lookup key = some value) : (key, value) ∈ dict := by
  induction dict with
  | nil => simp at entry
  | cons head rest ih =>
      rw [show head = (head.1, head.2) from rfl, lookup_cons_eq] at entry
      split at entry
      · next same =>
          cases entry
          rw [same]
          exact List.mem_cons_self
      · exact List.mem_cons_of_mem _ (ih entry)

theorem exists_lookup {key : Key} {dict : List (Key × Value)} (member : key ∈ dict.map Prod.fst) :
    ∃ value, dict.lookup key = some value := by
  induction dict with
  | nil => simp at member
  | cons head rest ih =>
      rw [show head = (head.1, head.2) from rfl, lookup_cons_eq]
      by_cases here : key = head.1
      · exact ⟨head.2, if_pos here⟩
      · rw [if_neg here]
        apply ih
        rw [List.map_cons] at member
        exact (List.mem_cons.mp member).resolve_left here

/-- Changing every value in place changes what each key looks up. -/
theorem lookup_map_values (change : Key → Value → Value) (dict : List (Key × Value)) (key : Key) :
    (dict.map fun entry => (entry.1, change entry.1 entry.2)).lookup key = (dict.lookup key).map (change key) := by
  induction dict with
  | nil => rfl
  | cons head rest ih =>
      rw [List.map_cons, lookup_cons_eq, show head = (head.1, head.2) from rfl, lookup_cons_eq, ih]
      by_cases here : key = head.1
      · rw [if_pos here, if_pos here, here]
        rfl
      · rw [if_neg here, if_neg here]

section Amounts
variable [AddZeroClass Value]

/-- `dict.get(key, 0)` -/
def amountAt (dict : List (Key × Value)) (key : Key) : Value := (dict.lookup key).getD 0

/-- `dict[key] = dict.get(key, 0) + amount` -/
def addAmount (dict : List (Key × Value)) (key : Key) (amount : Value) : List (Key × Value) :=
  setKey key (amountAt dict key + amount) dict

@[simp] theorem amountAt_nil (key : Key) : amountAt ([] : List (Key × Value)) key = 0 := rfl

@[simp] theorem amountAt_addAmount (dict : List (Key × Value)) (key other : Key) (amount : Value) :
    amountAt (addAmount dict key amount) other = amountAt dict other + if other = key then amount else 0 := by
  by_cases same : other = key <;> simp [amountAt, addAmount, same]

end Amounts
end PowerMonitor.Library
