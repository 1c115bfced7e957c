import Mathlib.Data.List.Nodup
import Mathlib.Data.List.Perm.Basic

/-! Sets kept as lists of keys: removing marked members until none is left, and counting selected rows. -/

set_option autoImplicit false
namespace PowerMonitor.Library

section Prune
variable {α : Type} [DecidableEq α]

/-- Drop the marked members again and again, for at most `fuel` turns. -/
def prune (marked : List α → List α) : Nat → List α → Option (List α)
  | 0, _ => none
  | fuel + 1, members =>
      if members = [] ∨ marked members = [] then some members
      else
        let rest := members.filter (· ∉ marked members)
        if rest.length = members.length then some rest else prune marked fuel rest

variable {marked : List α → List α}

theorem filter_marked_length_lt {members : List α} (inside : marked members ⊆ members) (some_ : marked members ≠ []) :
    (members.filter (· ∉ marked members)).length < members.length := by
  obtain ⟨item, isMarked⟩ := List.exists_mem_of_ne_nil _ some_
  refine Nat.lt_of_le_of_ne (List.length_filter_le _ _) fun same => ?_
  have kept := List.length_filter_eq_length_iff.mp same item (inside isMarked)
  exact of_decide_eq_true kept isMarked

/-- Each turn removes a member, so the loop ends within as many turns as there are members. -/
theorem prune_returns (inside : ∀ members, marked members ⊆ members) {fuel : Nat} {members : List α}
    (enough : members.length < fuel) : ∃ result, prune marked fuel members = some result := by
  induction fuel generalizing members with
  | zero => exact absurd enough (Nat.not_lt_zero _)
  | succ fuel ih =>
      rw [prune]
      split
      · exact ⟨members, rfl⟩
      · next going =>
          have shorter := filter_marked_length_lt (inside members) (not_or.mp going).2
          simp only [if_neg (Nat.ne_of_lt shorter)]
          exact ih (Nat.lt_of_lt_of_le shorter (Nat.lt_succ_iff.mp enough))

/-- More fuel does not change the result. -/
theorem prune_mono {fuel more : Nat} {members result : List α} (ends : prune marked fuel members = some result)
    (le : fuel ≤ more) : prune marked more members = some result := by
  induction fuel generalizing members more with
  | zero => cases ends
  | succ fuel ih =>
      obtain ⟨rest, rfl⟩ : ∃ rest, more = rest + 1 := Nat.exists_eq_add_one.mpr (Nat.lt_of_lt_of_le (Nat.succ_pos _) le)
      rw [prune] at ends ⊢
      split
      · next stops =>
          rw [if_pos stops] at ends
          exact ends
      · next going =>
          simp only [if_neg going] at ends ⊢
          split
          · next same =>
              rw [if_pos same] at ends
              exact ends
          · next shrinks =>
              rw [if_neg shrinks] at ends
              exact ih ends (Nat.le_of_succ_le_succ le)

/-- What is left is part of the start and has no marked member. -/
theorem prune_result (inside : ∀ members, marked members ⊆ members) {fuel : Nat} {members result : List α}
    (ends : prune marked fuel members = some result) : result.Sublist members ∧ marked result = [] := by
  induction fuel generalizing members with
  | zero => cases ends
  | succ fuel ih =>
      rw [prune] at ends
      split at ends
      · next stops =>
          obtain rfl := Option.some.inj ends
          refine ⟨List.Sublist.refl _, ?_⟩
          rcases stops with empty | unmarked
          · subst empty
            exact List.eq_nil_iff_forall_not_mem.mpr fun item member => List.not_mem_nil (inside [] member)
          · exact unmarked
      · next going =>
          have shorter := filter_marked_length_lt (inside members) (not_or.mp going).2
          simp only [if_neg (Nat.ne_of_lt shorter)] at ends
          obtain ⟨part, unmarked⟩ := ih ends
          exact ⟨part.trans List.filter_sublist, unmarked⟩

end Prune

section Selection
variable {Row Key : Type} [DecidableEq Key] {key : Row → Key} {rows : List Row} {keys : List Key}

theorem countP_mem_keys (unique : (rows.map key).Nodup) (distinct : keys.Nodup) (present : keys ⊆ rows.map key) :
    rows.countP (fun row => decide (key row ∈ keys)) = keys.length := by
  have same : ((rows.map key).filter (· ∈ keys)).Perm keys := by
    refine (List.perm_ext_iff_of_nodup (unique.filter _) distinct).mpr fun item => ?_
    rw [List.mem_filter, decide_eq_true_eq]
    exact ⟨And.right, fun member => ⟨present member, member⟩⟩
  calc rows.countP (fun row => decide (key row ∈ keys))
      = (rows.map key).countP (fun item => decide (item ∈ keys)) := by
        rw [List.countP_map]
        rfl
    _ = ((rows.map key).filter (· ∈ keys)).length := List.countP_eq_length_filter
    _ = keys.length := same.length_eq

omit [DecidableEq Key] in
theorem selected_nodup (unique : (rows.map key).Nodup) (chosen : Row → Bool) :
    ((rows.filter chosen).map key).Nodup :=
  unique.sublist (List.filter_sublist.map key)

omit [DecidableEq Key] in
theorem selected_subset (chosen : Row → Bool) : (rows.filter chosen).map key ⊆ rows.map key :=
  (List.filter_sublist.map key).subset

end Selection
end PowerMonitor.Library
