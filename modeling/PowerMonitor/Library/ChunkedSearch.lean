import Mathlib.Data.List.Infix
import Mathlib.Tactic.Common

/-! Reading a file in chunks.

A search keeps the end of what it has read, one item less than the marker, and so finds a marker across the end of a
chunk. A reader that wants the first items of a file takes from each chunk what is still missing.
-/

set_option autoImplicit false
namespace PowerMonitor.Library

section Search
variable {Item : Type} {marker front previous : List Item}

def keepLast (count : Nat) (items : List Item) : List Item := items.drop (items.length - count)

theorem keepLast_suffix (count : Nat) (items : List Item) : keepLast count items <:+ items := List.drop_suffix _ _

theorem keepLast_length_le (count : Nat) (items : List Item) : (keepLast count items).length ≤ count := by
  rw [keepLast, List.length_drop]
  omega

theorem suffix_keepLast {part : List Item} {count : Nat} {items : List Item} (ends : part <:+ items)
    (short : part.length ≤ count) : part <:+ keepLast count items := by
  refine List.suffix_of_suffix_length_le ends (keepLast_suffix count items) ?_
  have fits := ends.length_le
  rw [keepLast, List.length_drop]
  omega

/-- A marker that is not in front shares with it less than its own length. -/
theorem infix_keepLast_append_iff (absent : ¬ marker <:+: front) (rest : List Item) :
    marker <:+: keepLast (marker.length - 1) front ++ rest ↔ marker <:+: front ++ rest := by
  have kept := keepLast_suffix (marker.length - 1) front
  rw [List.infix_append_iff, List.infix_append_iff, or_iff_right absent,
    or_iff_right fun found => absent (found.trans kept.isInfix)]
  refine or_congr_right (exists_congr fun first => exists_congr fun second => ?_)
  constructor
  · rintro ⟨rfl, ends, starts⟩
    exact ⟨rfl, ends.trans kept, starts⟩
  · rintro ⟨rfl, ends, starts⟩
    refine ⟨rfl, suffix_keepLast ends ?_, starts⟩
    cases second with
    | nil => exact absurd (by simpa using ends.isInfix) absent
    | cons item later =>
        rw [List.length_append, List.length_cons]
        omega

variable [DecidableEq Item]

/-- The search through the chunks that follow what is kept. -/
def searchChunks (marker : List Item) : List Item → List (List Item) → Bool
  | _, [] => false
  | previous, chunk :: rest =>
      if marker <:+: previous ++ chunk then true
      else searchChunks marker (keepLast (marker.length - 1) (previous ++ chunk)) rest

/-- The chunks hold the marker exactly when the file does. -/
theorem searchChunks_iff {chunks : List (List Item)} (absent : ¬ marker <:+: previous) :
    searchChunks marker previous chunks = true ↔ marker <:+: previous ++ chunks.flatten := by
  induction chunks generalizing previous with
  | nil => simpa [searchChunks] using absent
  | cons chunk rest ih =>
      rw [searchChunks, List.flatten_cons, ← List.append_assoc]
      split
      · next found => exact iff_of_true rfl (found.trans (List.prefix_append ..).isInfix)
      · next missing =>
        rw [ih fun found => missing (found.trans (keepLast_suffix _ _).isInfix), infix_keepLast_append_iff missing]

end Search

section Opening
variable {Item : Type}

/-- `if len(prefix) < size: prefix.extend(chunk[: size - len(prefix)])` -/
def extendOpening (size : Nat) (opening chunk : List Item) : List Item :=
  if opening.length < size then opening ++ chunk.take (size - opening.length) else opening

theorem foldl_extendOpening {size : Nat} (chunks : List (List Item)) (seen : List Item) :
    chunks.foldl (extendOpening size) (seen.take size) = (seen ++ chunks.flatten).take size := by
  induction chunks generalizing seen with
  | nil => simp
  | cons chunk rest ih =>
      have step : extendOpening size (seen.take size) chunk = (seen ++ chunk).take size := by
        rw [extendOpening, List.take_append, List.length_take]
        split
        · next room => rw [min_eq_right (by omega)]
        · next full => rw [show size - seen.length = 0 by omega, List.take_zero, List.append_nil]
      rw [List.foldl_cons, step, ih, List.flatten_cons, List.append_assoc]

end Opening
end PowerMonitor.Library
