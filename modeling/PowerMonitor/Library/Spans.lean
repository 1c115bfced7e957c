import Mathlib.Data.List.Sort
import Mathlib.Tactic.Common

/-! Closed spans of natural numbers and one-pass scans over ascending spans.

A span list is read through the set of numbers it covers. The scans below are
stated for lists ascending in their first number; spans may overlap, nest and
repeat. A separated list has gaps between all its members, and is determined
by the set it covers.
-/

set_option autoImplicit false
namespace PowerMonitor.Library

/-- The numbers from `first` to `last`, both included. -/
structure Span where
  first : Nat
  last : Nat
  ordered : first ≤ last
  deriving DecidableEq, Repr

namespace Span

def Contains (span : Span) (n : Nat) : Prop := span.first ≤ n ∧ n ≤ span.last

instance (span : Span) (n : Nat) : Decidable (span.Contains n) :=
  inferInstanceAs (Decidable (_ ∧ _))

def single (n : Nat) : Span := ⟨n, n, le_rfl⟩

@[simp] theorem contains_single {n m : Nat} : (single n).Contains m ↔ m = n := by
  simp only [Contains, single]
  omega

/-- The numbers of one span in ascending order. -/
def members (span : Span) : List Nat := List.range' span.first (span.last + 1 - span.first)

@[simp] theorem mem_members {span : Span} {n : Nat} : n ∈ span.members ↔ span.Contains n := by
  have := span.ordered
  simp only [members, List.mem_range'_1, Contains]
  omega

/-- Lexicographic order on the two bounds. -/
def Before (a b : Span) : Prop := a.first < b.first ∨ (a.first = b.first ∧ a.last ≤ b.last)

instance : DecidableRel Before := fun _ _ => inferInstanceAs (Decidable (_ ∨ _))

instance : Std.Total Before where
  total a b := by simp only [Before]; omega

instance : IsTrans Span Before where
  trans a b c := by simp only [Before]; omega

end Span

/-- Some span of the list contains the number. -/
def Covers (spans : List Span) (n : Nat) : Prop := ∃ span ∈ spans, span.Contains n

instance (spans : List Span) (n : Nat) : Decidable (Covers spans n) :=
  inferInstanceAs (Decidable (∃ span ∈ spans, span.Contains n))

@[simp] theorem not_covers_nil (n : Nat) : ¬ Covers [] n := by simp [Covers]

@[simp] theorem covers_cons {span : Span} {rest : List Span} {n : Nat} :
    Covers (span :: rest) n ↔ span.Contains n ∨ Covers rest n := by
  simp [Covers]

/-- Ascending in the first number. -/
def Ascending (spans : List Span) : Prop := spans.Pairwise fun a b => a.first ≤ b.first

def sortSpans (spans : List Span) : List Span := spans.insertionSort Span.Before

theorem sortSpans_ascending (spans : List Span) : Ascending (sortSpans spans) := by
  have sorted := List.pairwise_insertionSort Span.Before spans
  refine sorted.imp ?_
  intro a b order
  simp only [Span.Before] at order
  omega

@[simp] theorem covers_sortSpans {spans : List Span} {n : Nat} :
    Covers (sortSpans spans) n ↔ Covers spans n := by
  simp [Covers, sortSpans, List.mem_insertionSort]

theorem Ascending.head_le {span : Span} {rest : List Span} (ascending : Ascending (span :: rest))
    {n : Nat} (covered : Covers rest n) : span.first ≤ n := by
  obtain ⟨other, member, inside⟩ := covered
  have := List.rel_of_pairwise_cons ascending member
  simp only [Span.Contains] at inside
  omega

/-! ## Advancing over covered numbers -/

/-- Move `expected` past every span that reaches it; stop at the first span beyond it. -/
def advance : Nat → List Span → Nat
  | expected, [] => expected
  | expected, span :: rest =>
      if span.last < expected then advance expected rest
      else if expected < span.first then expected
      else advance (max expected (span.last + 1)) rest

theorem le_advance (expected : Nat) (spans : List Span) : expected ≤ advance expected spans := by
  induction spans generalizing expected with
  | nil => exact le_rfl
  | cons span rest ih =>
      simp only [advance]
      split
      · exact ih expected
      · split
        · exact le_rfl
        · exact le_trans (le_max_left _ _) (ih _)

theorem covers_below_advance (expected : Nat) (spans : List Span) {n : Nat}
    (lower : expected ≤ n) (upper : n < advance expected spans) : Covers spans n := by
  induction spans generalizing expected with
  | nil => simp only [advance] at upper; omega
  | cons span rest ih =>
      simp only [advance] at upper
      split at upper
      · exact covers_cons.mpr (.inr (ih expected lower upper))
      · split at upper
        · omega
        · rcases Nat.lt_or_ge span.last n with beyond | inside
          · exact covers_cons.mpr (.inr (ih _ (by omega) upper))
          · exact covers_cons.mpr (.inl ⟨by omega, inside⟩)

theorem not_covers_advance (expected : Nat) (spans : List Span) (ascending : Ascending spans) :
    ¬ Covers spans (advance expected spans) := by
  induction spans generalizing expected with
  | nil => simp
  | cons span rest ih =>
      have tail : Ascending rest := ascending.of_cons
      simp only [advance, covers_cons, not_or]
      split
      · next passed =>
          have bound := le_advance expected rest
          refine ⟨fun inside => ?_, ih expected tail⟩
          simp only [Span.Contains] at inside
          omega
      · split
        · next beyond =>
            refine ⟨fun inside => ?_, fun covered => ?_⟩
            · simp only [Span.Contains] at inside; omega
            · have := ascending.head_le covered; omega
        · have bound := le_advance (max expected (span.last + 1)) rest
          refine ⟨fun inside => ?_, ih _ tail⟩
          simp only [Span.Contains] at inside
          omega

/-! ## Reporting the uncovered numbers -/

/-- The uncovered spans met before `maximum` is passed, one for each jump of the scan. -/
def missing (maximum : Nat) : Nat → List Span → List Span
  | _, [] => []
  | expected, span :: rest =>
      if passed : maximum < expected then []
      else if span.last < expected then missing maximum expected rest
      else if jump : expected < span.first then
        ⟨expected, min (span.first - 1) maximum, by omega⟩ ::
          missing maximum (max expected (span.last + 1)) rest
      else missing maximum (max expected (span.last + 1)) rest

/-- Ascending spans with at least one number between neighbours. -/
def Separated (spans : List Span) : Prop := spans.Pairwise fun a b => a.last + 1 < b.first

theorem le_first_of_mem_missing (maximum expected : Nat) (spans : List Span) {gap : Span}
    (member : gap ∈ missing maximum expected spans) : expected ≤ gap.first := by
  induction spans generalizing expected with
  | nil => simp [missing] at member
  | cons span rest ih =>
      simp only [missing] at member
      split at member
      · simp at member
      · split at member
        · exact ih expected member
        · split at member
          · rcases List.mem_cons.mp member with rfl | later
            · exact le_rfl
            · exact le_trans (le_max_left _ _) (ih _ later)
          · exact le_trans (le_max_left _ _) (ih _ member)

theorem missing_separated (maximum expected : Nat) (spans : List Span) :
    Separated (missing maximum expected spans) := by
  induction spans generalizing expected with
  | nil => simp [missing, Separated]
  | cons span rest ih =>
      simp only [missing]
      split
      · simp [Separated]
      · split
        · exact ih expected
        · split
          · refine List.pairwise_cons.mpr ⟨?_, ih _⟩
            intro gap member
            have bound := le_first_of_mem_missing _ _ _ member
            have := span.ordered
            simp only
            omega
          · exact ih _

/-- The reported numbers are the uncovered ones that some span lies beyond. -/
theorem covers_missing (maximum expected : Nat) (spans : List Span) (ascending : Ascending spans)
    (n : Nat) : Covers (missing maximum expected spans) n ↔
      expected ≤ n ∧ n ≤ maximum ∧ ¬ Covers spans n ∧ ∃ span ∈ spans, n < span.first := by
  induction spans generalizing expected with
  | nil => simp [missing]
  | cons span rest ih =>
      have tail : Ascending rest := ascending.of_cons
      have ordered := span.ordered
      simp only [missing, covers_cons, List.exists_mem_cons_iff, Span.Contains]
      split
      · simp only [not_covers_nil, false_iff]
        omega
      · split
        · rw [ih expected tail]
          constructor
          · rintro ⟨lower, upper, uncovered, beyond⟩
            exact ⟨lower, upper, not_or.mpr ⟨by omega, uncovered⟩, .inr beyond⟩
          · rintro ⟨lower, upper, uncovered, beyond | beyond⟩
            · omega
            · exact ⟨lower, upper, (not_or.mp uncovered).2, beyond⟩
        · -- From here on the scan is past `span`: the numbers before it and the
          -- numbers after it are reported by different parts of the result.
          have after : Covers (missing maximum (max expected (span.last + 1)) rest) n ↔
              span.last < n ∧ expected ≤ n ∧ n ≤ maximum ∧ ¬ Covers rest n ∧
                ∃ other ∈ rest, n < other.first := by
            rw [ih _ tail]
            constructor
            · rintro ⟨lower, rest⟩
              exact ⟨by omega, by omega, rest⟩
            · rintro ⟨past, lower, rest⟩
              exact ⟨by omega, rest⟩
          split
          · rw [covers_cons, after]
            simp only [Span.Contains]
            constructor
            · rintro (⟨lower, upper⟩ | ⟨past, lower, upper, uncovered, beyond⟩)
              · refine ⟨lower, by omega, not_or.mpr ⟨by omega, fun covered => ?_⟩, .inl (by omega)⟩
                have := ascending.head_le covered
                omega
              · exact ⟨lower, upper, not_or.mpr ⟨by omega, uncovered⟩, .inr beyond⟩
            · rintro ⟨lower, upper, uncovered, beyond⟩
              obtain ⟨outside, uncovered⟩ := not_or.mp uncovered
              rcases Nat.lt_or_ge n span.first with before | notBefore
              · exact .inl ⟨lower, by omega⟩
              · refine .inr ⟨by omega, lower, upper, uncovered, ?_⟩
                rcases beyond with beyond | beyond
                · omega
                · exact beyond
          · rw [after]
            constructor
            · rintro ⟨past, lower, upper, uncovered, beyond⟩
              exact ⟨lower, upper, not_or.mpr ⟨by omega, uncovered⟩, .inr beyond⟩
            · rintro ⟨lower, upper, uncovered, beyond⟩
              obtain ⟨outside, uncovered⟩ := not_or.mp uncovered
              refine ⟨by omega, lower, upper, uncovered, ?_⟩
              rcases beyond with beyond | beyond
              · omega
              · exact beyond

/-! ## Separated lists are canonical -/

theorem Separated.first_le {span : Span} {rest : List Span} (separated : Separated (span :: rest))
    {n : Nat} (covered : Covers (span :: rest) n) : span.first ≤ n := by
  rcases covers_cons.mp covered with inside | ⟨other, member, inside⟩
  · exact inside.1
  · have apart := List.rel_of_pairwise_cons separated member
    have := span.ordered
    simp only [Span.Contains] at inside
    omega

theorem Separated.not_covers_succ {span : Span} {rest : List Span}
    (separated : Separated (span :: rest)) : ¬ Covers (span :: rest) (span.last + 1) := by
  rw [covers_cons]
  rintro (inside | ⟨other, member, inside⟩)
  · simp only [Span.Contains] at inside
    omega
  · have := List.rel_of_pairwise_cons separated member
    simp only [Span.Contains] at inside
    omega

theorem Separated.covers_tail {span : Span} {rest : List Span} (separated : Separated (span :: rest))
    (n : Nat) : Covers rest n ↔ Covers (span :: rest) n ∧ span.last < n := by
  constructor
  · rintro ⟨other, member, inside⟩
    have := List.rel_of_pairwise_cons separated member
    refine ⟨⟨other, List.mem_cons_of_mem _ member, inside⟩, ?_⟩
    simp only [Span.Contains] at inside
    omega
  · rintro ⟨covered, past⟩
    rcases covers_cons.mp covered with inside | covered
    · simp only [Span.Contains] at inside
      omega
    · exact covered

/-- Two separated lists with the same heads' reach: the first span of each is the
first maximal run of the covered set. -/
theorem Separated.head_eq {a b : Span} {as bs : List Span} (left : Separated (a :: as))
    (right : Separated (b :: bs)) (same : ∀ n, Covers (a :: as) n ↔ Covers (b :: bs) n) : a = b := by
  have headCovers : ∀ (s : Span) (rest : List Span) (n : Nat), s.Contains n → Covers (s :: rest) n :=
    fun s rest n inside => covers_cons.mpr (.inl inside)
  have aOrdered := a.ordered
  have bOrdered := b.ordered
  have firstLe := left.first_le ((same b.first).mpr (headCovers b bs b.first ⟨le_rfl, b.ordered⟩))
  have firstGe := right.first_le ((same a.first).mp (headCovers a as a.first ⟨le_rfl, a.ordered⟩))
  have lastLe : a.last ≤ b.last := by
    by_contra beyond
    exact right.not_covers_succ ((same _).mp (headCovers a as (b.last + 1) ⟨by omega, by omega⟩))
  have lastGe : b.last ≤ a.last := by
    by_contra beyond
    exact left.not_covers_succ ((same _).mpr (headCovers b bs (a.last + 1) ⟨by omega, by omega⟩))
  cases a; cases b
  simp only at firstLe firstGe lastLe lastGe
  obtain rfl := le_antisymm firstLe firstGe
  obtain rfl := le_antisymm lastLe lastGe
  rfl

/-- A separated list is determined by the numbers it covers. -/
theorem Separated.ext {left right : List Span} (leftSeparated : Separated left)
    (rightSeparated : Separated right) (same : ∀ n, Covers left n ↔ Covers right n) : left = right := by
  induction left generalizing right with
  | nil =>
      cases right with
      | nil => rfl
      | cons b bs =>
          have := (same b.first).mpr (covers_cons.mpr (.inl ⟨le_rfl, b.ordered⟩))
          simp at this
  | cons a as ih =>
      cases right with
      | nil =>
          have := (same a.first).mp (covers_cons.mpr (.inl ⟨le_rfl, a.ordered⟩))
          simp at this
      | cons b bs =>
          obtain rfl := leftSeparated.head_eq rightSeparated same
          have tails : as = bs := by
            refine ih leftSeparated.of_cons rightSeparated.of_cons fun n => ?_
            rw [leftSeparated.covers_tail, rightSeparated.covers_tail, same]
          rw [tails]

/-! ## Maximal runs of an ascending list of numbers -/

def extendRun (first last : Nat) (ordered : first ≤ last) : List Nat → List Span
  | [] => [⟨first, last, ordered⟩]
  | n :: rest =>
      if next : n = last + 1 then extendRun first n (by omega) rest
      else ⟨first, last, ordered⟩ :: extendRun n n le_rfl rest

/-- Group consecutive numbers into spans. -/
def runs : List Nat → List Span
  | [] => []
  | n :: rest => extendRun n n le_rfl rest

theorem covers_extendRun (first last : Nat) (ordered : first ≤ last) (numbers : List Nat) (n : Nat) :
    Covers (extendRun first last ordered numbers) n ↔ (first ≤ n ∧ n ≤ last) ∨ n ∈ numbers := by
  induction numbers generalizing first last with
  | nil => simp [extendRun, Span.Contains]
  | cons head rest ih =>
      simp only [extendRun, List.mem_cons]
      split
      · rw [ih, ← or_assoc]
        exact or_congr_left (by omega)
      · rw [covers_cons, ih, ← or_assoc, ← or_assoc]
        exact or_congr_left (or_congr Iff.rfl (by omega))

@[simp] theorem covers_runs (numbers : List Nat) (n : Nat) : Covers (runs numbers) n ↔ n ∈ numbers := by
  cases numbers with
  | nil => simp [runs]
  | cons head rest =>
      rw [runs, covers_extendRun, List.mem_cons]
      exact or_congr_left (by omega)

end PowerMonitor.Library
