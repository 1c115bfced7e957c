import PowerMonitor.Library.Fallible
import Mathlib.Data.List.Forall2

/-! Two lists of rows, one before and one after a change, related row by row. -/

set_option autoImplicit false
namespace PowerMonitor.Library

open List (Forall₂)

variable {α β γ : Type} {R : α → β → Prop}

theorem forall₂_trans {S : β → γ → Prop} {T : α → γ → Prop} (compose : ∀ a b c, R a b → S b c → T a c)
    {first : List α} {second : List β} {third : List γ} (earlier : Forall₂ R first second)
    (later : Forall₂ S second third) : Forall₂ T first third := by
  induction earlier generalizing third with
  | nil =>
      cases later
      exact .nil
  | cons here _ ih =>
      cases later with
      | cons there rest => exact .cons (compose _ _ _ here there) (ih rest)

/-- Every row after the change comes from one before it. -/
theorem forall₂_exists_left {before : List α} {after : List β} (aligned : Forall₂ R before after) {b : β}
    (member : b ∈ after) : ∃ a ∈ before, R a b := by
  induction aligned with
  | nil => cases member
  | cons here _ ih =>
      cases List.mem_cons.mp member with
      | inl same => exact ⟨_, List.mem_cons_self, same ▸ here⟩
      | inr deeper =>
          obtain ⟨a, inside, related⟩ := ih deeper
          exact ⟨a, List.mem_cons_of_mem _ inside, related⟩

/-- Every row before the change has one after it. -/
theorem forall₂_exists_right {before : List α} {after : List β} (aligned : Forall₂ R before after) {a : α}
    (member : a ∈ before) : ∃ b ∈ after, R a b :=
  forall₂_exists_left (List.Forall₂.flip (R := fun b a => R a b) aligned) member

/-- A key that the relation keeps is the same in both lists. -/
theorem forall₂_map_eq {Key : Type} {left : α → Key} {right : β → Key} (same : ∀ a b, R a b → right b = left a)
    {before : List α} {after : List β} (aligned : Forall₂ R before after) : after.map right = before.map left := by
  induction aligned with
  | nil => rfl
  | cons here _ ih => rw [List.map_cons, List.map_cons, same _ _ here, ih]

/-- The values of a loop that returns, one for each item in order. -/
theorem mapM_forall₂ {ε Item Value : Type} {step : Item → Except ε Value} {items : List Item} {values : List Value}
    (run : items.mapM step = .ok values) : Forall₂ (fun item value => step item = .ok value) items values := by
  induction items generalizing values with
  | nil =>
      cases run
      exact .nil
  | cons head rest ih =>
      rw [List.mapM_cons] at run
      obtain ⟨first, stepped, run⟩ := bind_eq_ok.mp run
      obtain ⟨others, ran, run⟩ := bind_eq_ok.mp run
      cases run
      exact .cons stepped (ih ran)

end PowerMonitor.Library
