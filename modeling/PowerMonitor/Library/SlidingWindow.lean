import Mathlib.Algebra.Order.Group.Defs
import Mathlib.Data.List.Basic
import Mathlib.Data.List.Count
import Mathlib.Data.List.TakeWhile
import Mathlib.Tactic.Common

/-! Events counted in a window that slides with the clock.

A counter forgets times from the front until the first one lies in the window. An event may be counted later than it
came, so the counted times need not be in order.
-/

set_option autoImplicit false
namespace PowerMonitor.Library

/-! ## A counter that forgets -/

section Forgetting
variable {Time : Type} [LinearOrder Time] {times kept : List Time} {cut next : Time}

/-- What is kept ends the counted times, and the others lie before the cut. -/
def KeptSince (cut : Time) (times kept : List Time) : Prop :=
  ∃ forgotten, times = forgotten ++ kept ∧ ∀ time ∈ forgotten, time < cut

theorem KeptSince.refl : KeptSince cut times times := ⟨[], rfl, by simp⟩

theorem KeptSince.mono (held : KeptSince cut times kept) (later : cut ≤ next) : KeptSince next times kept := by
  obtain ⟨forgotten, split, old⟩ := held
  exact ⟨forgotten, split, fun time member => (old time member).trans_le later⟩

theorem KeptSince.append (held : KeptSince cut times kept) (time : Time) : KeptSince cut (times ++ [time]) (kept ++ [time]) := by
  obtain ⟨forgotten, rfl, old⟩ := held
  exact ⟨forgotten, List.append_assoc .., old⟩

/-- Pruning what is kept gives what pruning all times gives. -/
theorem KeptSince.dropWhile_eq (held : KeptSince cut times kept) (later : cut ≤ next) :
    (kept.dropWhile fun time => time < next) = times.dropWhile fun time => time < next := by
  obtain ⟨forgotten, rfl, old⟩ := held
  have gone : (forgotten.dropWhile fun time => time < next) = [] := by
    rw [List.dropWhile_eq_nil_iff]
    intro time member
    exact decide_eq_true ((old time member).trans_le later)
  rw [List.dropWhile_append, gone, if_pos List.isEmpty_nil]

theorem KeptSince.prune (held : KeptSince cut times kept) (later : cut ≤ next) :
    KeptSince next times (kept.dropWhile fun time => time < next) := by
  rw [held.dropWhile_eq later]
  refine ⟨times.takeWhile fun time => time < next, List.takeWhile_append_dropWhile.symm, fun time member => ?_⟩
  simpa using List.mem_takeWhile_imp member

/-- The times in the window are among those that pruning leaves. -/
theorem countP_le_dropWhile (times : List Time) (cut : Time) :
    (times.countP fun time => cut ≤ time) ≤ (times.dropWhile fun time => time < cut).length := by
  induction times with
  | nil => simp
  | cons first rest ih =>
      by_cases old : first < cut
      · rw [List.countP_cons_of_neg (by simpa using old), List.dropWhile_cons_of_pos (by simpa using old)]
        exact ih
      · rw [List.dropWhile_cons_of_neg (by simpa using old)]
        exact List.countP_le_length

end Forgetting

/-! ## The events of one window -/

section Bound
variable {Time : Type} [AddCommGroup Time] [LinearOrder Time] [IsOrderedAddMonoid Time] {window now : Time}
  {counted waiting : List Time} {limit flight : Nat}

/-- The times from `start` up to the window's length later. -/
def inWindow (window start : Time) (times : List Time) : Nat := times.countP fun time => start ≤ time ∧ time ≤ start + window

omit [IsOrderedAddMonoid Time] in
theorem inWindow_append (start : Time) (first second : List Time) :
    inWindow window start (first ++ second) = inWindow window start first + inWindow window start second := List.countP_append

/-- An event that finds room among the counted ones joins the waiting ones, of which there are few. -/
theorem inWindow_arrive {start : Time} (bound : inWindow window start (counted ++ waiting) < limit + flight)
    (room : (counted.dropWhile fun time => time < now - window).length < limit)
    (few : (waiting ++ [now]).length ≤ flight) :
    inWindow window start (counted ++ (waiting ++ [now])) < limit + flight := by
  by_cases inside : start ≤ now ∧ now ≤ start + window
  · -- The window of the new event reaches back over this one.
    have reaches : now - window ≤ start := sub_le_iff_le_add.mpr inside.2
    have wider : inWindow window start counted ≤ counted.countP fun time => now - window ≤ time := by
      refine List.countP_mono_left fun time _ taken => ?_
      simp only [decide_eq_true_eq] at taken ⊢
      exact reaches.trans taken.1
    have before := wider.trans (countP_le_dropWhile counted (now - window))
    have others : inWindow window start (waiting ++ [now]) ≤ (waiting ++ [now]).length := List.countP_le_length
    rw [inWindow_append]
    omega
  · have same : inWindow window start [now] = 0 := List.countP_eq_zero.mpr (by simpa using inside)
    rwa [← List.append_assoc, inWindow_append, same, Nat.add_zero]

end Bound
end PowerMonitor.Library
