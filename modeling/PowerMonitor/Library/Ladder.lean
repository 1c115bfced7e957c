import Mathlib.Algebra.BigOperators.Group.List.Basic
import Mathlib.Algebra.Order.Field.Basic
import Mathlib.Tactic.Linarith
import Mathlib.Tactic.Ring

/-! Half-open steps that follow one another without gaps, the last one open-ended.

Bounds may coincide, which leaves a step empty, and bounds below the floor do not
matter: every level considered is at or above it. The weighted amount that lies in
each step up to a level is the integral of the step's weight, and between two levels
of one step it grows by that step's weight alone.
-/

set_option autoImplicit false
namespace PowerMonitor.Library

variable {K Step : Type} [Field K] [LinearOrder K] [IsStrictOrderedRing K]

/-- How much of a step lies below a level. -/
def fill (level lower : K) (upper : Option K) : K := max 0 (upper.elim level (min level) - lower)

/-- The length of the part of `[first, last]` inside a step. -/
def overlap (first last lower : K) (upper : Option K) : K :=
  max 0 (upper.elim last (min last) - max first lower)

theorem overlap_eq {first last : K} (ordered : first ≤ last) (lower : K) (upper : Option K) :
    overlap first last lower upper = fill last lower upper - fill first lower upper := by
  cases upper with
  | none =>
      simp only [overlap, fill, Option.elim_none]
      rcases le_total first lower with below | above
      · rw [max_eq_right below, max_eq_left (sub_nonpos.mpr below), sub_zero]
      · rw [max_eq_left above, max_eq_right (sub_nonneg.mpr ordered),
          max_eq_right (sub_nonneg.mpr (above.trans ordered)), max_eq_right (sub_nonneg.mpr above)]
        ring
  | some limit =>
      simp only [overlap, fill, Option.elim_some]
      rcases le_total limit first with past | inside
      · -- The interval lies past the step: both fills are the whole step.
        rw [min_eq_right (past.trans ordered), min_eq_right past, sub_self]
        exact max_eq_left (sub_nonpos.mpr (past.trans (le_max_left _ _)))
      · rw [min_eq_left inside]
        rcases le_total first lower with below | above
        · rw [max_eq_right below, max_eq_left (sub_nonpos.mpr below), sub_zero]
        · rw [max_eq_left above, max_eq_right (sub_nonneg.mpr above),
            max_eq_right (sub_nonneg.mpr (le_min ordered inside)),
            max_eq_right (sub_nonneg.mpr (le_min (above.trans ordered) (above.trans inside)))]
          ring

theorem fill_eq_zero {level lower : K} {upper : Option K} (below : level ≤ lower) :
    fill level lower upper = 0 := by
  apply max_eq_left
  cases upper with
  | none => exact sub_nonpos.mpr below
  | some limit => exact sub_nonpos.mpr ((min_le_left _ _).trans below)

section Steps
variable (lower : Step → K) (upper : Step → Option K)

/-- The first step that holds a level is the one `find?` returns with this test. -/
def holds (level : K) (step : Step) : Bool :=
  decide (lower step ≤ level) && (upper step).all fun limit => decide (level < limit)

/-- Steps that start at `bound` and continue one another above `floor`. -/
def Ladder (floor : K) : K → List Step → Prop
  | _, [] => False
  | bound, [last] => lower last = bound ∧ upper last = none
  | bound, step :: next :: rest => lower step = bound ∧ ∃ limit, upper step = some limit ∧
      max floor bound ≤ max floor limit ∧ Ladder floor limit (next :: rest)

/-- The integral of the weights up to a level. -/
def ladderTotal (weight : Step → K) (steps : List Step) (level : K) : K :=
  (steps.map fun step => weight step * fill level (lower step) (upper step)).sum

variable {lower upper} {floor bound : K} {steps : List Step}

omit [Field K] [IsStrictOrderedRing K] in
theorem Ladder.le_lower (ladder : Ladder lower upper floor bound steps) :
    ∀ step ∈ steps, max floor bound ≤ max floor (lower step) := by
  induction steps generalizing bound with
  | nil => exact ladder.elim
  | cons step rest ih =>
      cases rest with
      | nil =>
          intro other member
          rw [List.mem_singleton.mp member, ladder.1]
      | cons next rest =>
          obtain ⟨start, limit, _, grows, tail⟩ := ladder
          intro other member
          cases List.mem_cons.mp member with
          | inl same => rw [same, start]
          | inr later => exact grows.trans (ih tail other later)

omit [Field K] [IsStrictOrderedRing K] in
/-- The step found at a level is found up to its upper bound. -/
theorem Ladder.find_eq (ladder : Ladder lower upper floor bound steps) {first level : K} (aboveBound : bound ≤ first)
    {step : Step} (found : steps.find? (holds lower upper first) = some step) (after : first ≤ level)
    (inside : ∀ limit ∈ upper step, level < limit) : steps.find? (holds lower upper level) = some step := by
  induction steps generalizing bound with
  | nil => exact ladder.elim
  | cons head rest ih =>
      cases rest with
      | nil =>
          obtain ⟨start, finish⟩ := ladder
          rw [List.find?_cons_of_pos (by simp [holds, start, finish, aboveBound])] at found
          rw [List.find?_cons_of_pos (by simp [holds, start, finish, aboveBound.trans after])]
          exact found
      | cons next rest =>
          obtain ⟨start, limit, finish, _, tail⟩ := ladder
          cases lt_or_ge first limit with
          | inl within =>
              rw [List.find?_cons_of_pos (by simp [holds, start, finish, aboveBound, within])] at found
              obtain rfl := Option.some.inj found
              exact List.find?_cons_of_pos (by simp [holds, start, finish, aboveBound.trans after, inside limit finish])
          | inr past =>
              rw [List.find?_cons_of_neg (by simp [holds, finish, past])] at found
              rw [List.find?_cons_of_neg (by simp [holds, finish, past.trans after])]
              exact ih tail past found

omit [Field K] [IsStrictOrderedRing K] in
/-- A level at or above the first bound is held by some step. -/
theorem Ladder.exists_holds (ladder : Ladder lower upper floor bound steps) {level : K}
    (above : bound ≤ level) : ∃ step, steps.find? (holds lower upper level) = some step := by
  induction steps generalizing bound with
  | nil => exact ladder.elim
  | cons step rest ih =>
      cases rest with
      | nil =>
          refine ⟨step, List.find?_cons_of_pos ?_⟩
          simp [holds, ladder.1, ladder.2, above]
      | cons next rest =>
          obtain ⟨start, limit, finish, _, tail⟩ := ladder
          cases lt_or_ge level limit with
          | inl inside =>
              refine ⟨step, List.find?_cons_of_pos ?_⟩
              simp [holds, start, finish, above, inside]
          | inr past =>
              obtain ⟨found, search⟩ := ih tail past
              refine ⟨found, ?_⟩
              rw [List.find?_cons_of_neg (by simp [holds, finish, past]), search]

/-- Between two levels of one step only that step's weight counts. -/
theorem Ladder.total_sub (ladder : Ladder lower upper floor bound steps) (weight : Step → K)
    {first last : K} (aboveFloor : floor ≤ first) (aboveBound : bound ≤ first) (ordered : first ≤ last)
    {step : Step} (found : steps.find? (holds lower upper first) = some step)
    (inside : ∀ limit ∈ upper step, last ≤ limit) :
    ladderTotal lower upper weight steps last - ladderTotal lower upper weight steps first =
      weight step * (last - first) := by
  induction steps generalizing bound with
  | nil => exact ladder.elim
  | cons head rest ih =>
      simp only [ladderTotal, List.map_cons, List.sum_cons] at ih ⊢
      cases rest with
      | nil =>
          obtain ⟨start, finish⟩ := ladder
          have same : head = step := by
            rw [List.find?_cons_of_pos (by simp [holds, start, finish, aboveBound])] at found
            exact Option.some.inj found
          rw [← same, start, finish]
          simp only [fill, Option.elim_none, List.map_nil, List.sum_nil, add_zero,
            max_eq_right (sub_nonneg.mpr aboveBound), max_eq_right (sub_nonneg.mpr (aboveBound.trans ordered))]
          ring
      | cons next rest =>
          obtain ⟨start, limit, finish, _, tail⟩ := ladder
          cases lt_or_ge first limit with
          | inl within =>
              have same : head = step := by
                rw [List.find?_cons_of_pos (by simp [holds, start, finish, aboveBound, within])] at found
                exact Option.some.inj found
              have reach : last ≤ limit := inside limit (same ▸ finish)
              -- Every later step starts at or above the limit, so nothing of it is filled.
              have later : ∀ level ≤ limit, ((next :: rest).map fun other =>
                  weight other * fill level (lower other) (upper other)).sum = 0 := by
                intro level below
                apply List.sum_eq_zero
                intro value member
                obtain ⟨other, otherMember, rfl⟩ := List.mem_map.mp member
                have beyond := tail.le_lower other otherMember
                have start' : limit ≤ lower other := by
                  rw [max_eq_right (aboveFloor.trans within.le)] at beyond
                  cases le_max_iff.mp beyond with
                  | inl belowFloor => exact absurd (aboveFloor.trans_lt within) (not_lt.mpr belowFloor)
                  | inr above => exact above
                rw [fill_eq_zero (below.trans start'), mul_zero]
              rw [later last reach, later first within.le, ← same, start, finish]
              simp only [fill, Option.elim_some, min_eq_left reach, min_eq_left within.le,
                max_eq_right (sub_nonneg.mpr aboveBound),
                max_eq_right (sub_nonneg.mpr (aboveBound.trans ordered))]
              ring
          | inr past =>
              rw [List.find?_cons_of_neg (by simp [holds, finish, past])] at found
              have rest := ih tail past found
              have same : fill last (lower head) (upper head) = fill first (lower head) (upper head) := by
                rw [finish]
                simp only [fill, Option.elim_some, min_eq_right past, min_eq_right (past.trans ordered)]
              rw [same]
              linarith

/-- The levels at which a step begins and ends. -/
def IsBound (lower : Step → K) (upper : Step → Option K) (step : Step) (limit : K) : Prop :=
  lower step = limit ∨ upper step = some limit

omit [Field K] [IsStrictOrderedRing K] in
theorem Ladder.le_bound (ladder : Ladder lower upper floor bound steps) {step : Step} (member : step ∈ steps)
    {limit : K} (isBound : IsBound lower upper step limit) : max floor bound ≤ max floor limit := by
  induction steps generalizing bound with
  | nil => exact ladder.elim
  | cons head rest ih =>
      cases rest with
      | nil =>
          obtain ⟨start, finish⟩ := ladder
          rw [List.mem_singleton.mp member] at isBound
          cases isBound with
          | inl here => rw [← here, start]
          | inr open_ => simp [finish] at open_
      | cons next rest =>
          obtain ⟨start, last, finish, grows, tail⟩ := ladder
          cases List.mem_cons.mp member with
          | inl same =>
              rw [same] at isBound
              cases isBound with
              | inl here => rw [← here, start]
              | inr there => rwa [← Option.some.inj (finish.symm.trans there)]
          | inr later => exact grows.trans (ih tail later)

omit [Field K] [IsStrictOrderedRing K] in
/-- From a level to another one of the same step no bound of any step is crossed. -/
theorem Ladder.not_crossed (ladder : Ladder lower upper floor bound steps) {first last : K}
    (aboveFloor : floor ≤ first) (aboveBound : bound ≤ first) {found : Step}
    (search : steps.find? (holds lower upper first) = some found) (inside : ∀ limit ∈ upper found, last ≤ limit)
    {step : Step} (member : step ∈ steps) {limit : K} (isBound : IsBound lower upper step limit) :
    limit ≤ first ∨ last ≤ limit := by
  induction steps generalizing bound with
  | nil => exact ladder.elim
  | cons head rest ih =>
      cases rest with
      | nil =>
          obtain ⟨start, finish⟩ := ladder
          rw [List.mem_singleton.mp member] at isBound
          cases isBound with
          | inl here => exact .inl (here ▸ start ▸ aboveBound)
          | inr open_ => simp [finish] at open_
      | cons next rest =>
          obtain ⟨start, top, finish, _, tail⟩ := ladder
          have ofHead : IsBound lower upper head limit → limit = bound ∨ limit = top := by
            rintro (here | there)
            · exact .inl (here ▸ start)
            · exact .inr (Option.some.inj (there.symm.trans finish))
          cases lt_or_ge first top with
          | inl within =>
              have same : head = found := by
                rw [List.find?_cons_of_pos (by simp [holds, start, finish, aboveBound, within])] at search
                exact Option.some.inj search
              have reach : last ≤ top := inside top (same ▸ finish)
              cases List.mem_cons.mp member with
              | inl here =>
                  rcases ofHead (here ▸ isBound) with rfl | rfl
                  · exact .inl aboveBound
                  · exact .inr reach
              | inr later =>
                  -- Every later bound lies at or above the top of this step.
                  have beyond := tail.le_bound later isBound
                  rw [max_eq_right (aboveFloor.trans within.le)] at beyond
                  cases le_max_iff.mp beyond with
                  | inl belowFloor => exact absurd (aboveFloor.trans_lt within) (not_lt.mpr belowFloor)
                  | inr above => exact .inr (reach.trans above)
          | inr past =>
              rw [List.find?_cons_of_neg (by simp [holds, finish, past])] at search
              cases List.mem_cons.mp member with
              | inl here =>
                  rcases ofHead (here ▸ isBound) with rfl | rfl
                  · exact .inl aboveBound
                  · exact .inl past
              | inr later => exact ih tail past search later

/-! ## Steps left to climb -/

/-- How many steps reach above a level. -/
def stepsAbove (upper : Step → Option K) (steps : List Step) (level : K) : Nat :=
  steps.countP fun step => (upper step).all fun limit => decide (level < limit)

omit [Field K] [IsStrictOrderedRing K] in
theorem stepsAbove_le {first last : K} (ordered : first ≤ last) :
    stepsAbove upper steps last ≤ stepsAbove upper steps first := by
  apply List.countP_mono_left
  intro step _ reaches
  cases finish : upper step with
  | none => rfl
  | some limit =>
      simp only [finish, Option.all_some, decide_eq_true_eq] at reaches ⊢
      exact ordered.trans_lt reaches

omit [Field K] [IsStrictOrderedRing K] in
/-- A step climbed to its end is left behind. -/
theorem stepsAbove_lt {first last : K} (ordered : first < last) {step : Step} (member : step ∈ steps)
    (finish : upper step = some last) : stepsAbove upper steps last < stepsAbove upper steps first := by
  induction steps with
  | nil => simp at member
  | cons head rest ih =>
      have others : stepsAbove upper rest last ≤ stepsAbove upper rest first := stepsAbove_le ordered.le
      simp only [stepsAbove] at ih others ⊢
      rw [List.countP_cons, List.countP_cons]
      cases List.mem_cons.mp member with
      | inl same => simp [← same, finish, ordered, Nat.lt_succ_of_le others]
      | inr later =>
          have fewer := ih later
          cases upper head with
          | none => simpa using fewer
          | some limit =>
              simp only [Option.all_some, decide_eq_true_eq]
              by_cases reaches : last < limit
              · rw [if_pos reaches, if_pos (ordered.trans reaches)]
                omega
              · rw [if_neg reaches]
                omega

/-! ## Climbing -/

/-- What each step takes that ends on the way from one level to another. -/
def climbs (upper : Step → Option K) : List Step → K → K → List K
  | [], _, _ => []
  | step :: rest, first, last =>
      match upper step with
      | none => climbs upper rest first last
      | some limit =>
          if first < limit ∧ limit < last then (limit - first) :: climbs upper rest limit last
          else climbs upper rest first last

omit [IsStrictOrderedRing K] in
theorem climbs_eq_nil {first last : K} (high : ∀ step ∈ steps, ∀ limit ∈ upper step, last ≤ limit) :
    climbs upper steps first last = [] := by
  induction steps with
  | nil => rfl
  | cons step rest ih =>
      have later := ih fun other member => high other (List.mem_cons_of_mem _ member)
      rw [climbs]
      split
      · exact later
      · rename_i limit finish
        rw [if_neg fun inside => (high step List.mem_cons_self limit finish).not_gt inside.2, later]

omit [IsStrictOrderedRing K] in
/-- A step that reaches the last level is not climbed, and no later one is. -/
theorem Ladder.climbs_of_reach (ladder : Ladder lower upper floor bound steps) {first last : K}
    (aboveFloor : floor ≤ first) (aboveBound : bound ≤ first) {found : Step}
    (search : steps.find? (holds lower upper first) = some found) (reach : ∀ limit ∈ upper found, last ≤ limit) :
    climbs upper steps first last = [] := by
  induction steps generalizing bound with
  | nil => exact ladder.elim
  | cons head rest ih =>
      cases rest with
      | nil =>
          apply climbs_eq_nil
          intro step member limit finish
          rw [List.mem_singleton.mp member, ladder.2] at finish
          cases finish
      | cons next rest =>
          obtain ⟨start, top, finish, _, tail⟩ := ladder
          rw [climbs, finish]
          cases lt_or_ge first top with
          | inl within =>
              rw [List.find?_cons_of_pos (by simp [holds, start, finish, aboveBound, within])] at search
              obtain rfl := Option.some.inj search
              have high : last ≤ top := reach top finish
              dsimp only
              rw [if_neg fun inside => high.not_gt inside.2]
              apply climbs_eq_nil
              intro step member limit isUpper
              have beyond := tail.le_bound member (.inr isUpper)
              rw [max_eq_right (aboveFloor.trans within.le)] at beyond
              cases le_max_iff.mp beyond with
              | inl belowFloor => exact absurd (aboveFloor.trans_lt within) (not_lt.mpr belowFloor)
              | inr above => exact high.trans above
          | inr past =>
              rw [List.find?_cons_of_neg (by simp [holds, finish, past])] at search
              dsimp only
              rw [if_neg fun inside => past.not_gt inside.1]
              exact ih tail past search

omit [IsStrictOrderedRing K] in
/-- A step that ends before the last level is climbed to its end. -/
theorem Ladder.climbs_of_pass (ladder : Ladder lower upper floor bound steps) {first last limit : K}
    (aboveBound : bound ≤ first) {found : Step} (search : steps.find? (holds lower upper first) = some found)
    (ends : upper found = some limit) (passed : limit < last) :
    climbs upper steps first last = (limit - first) :: climbs upper steps limit last := by
  have inside : first < limit := by
    have := List.find?_some search
    simp only [holds, ends, Option.all_some, Bool.and_eq_true, decide_eq_true_eq] at this
    exact this.2
  induction steps generalizing bound with
  | nil => exact ladder.elim
  | cons head rest ih =>
      cases rest with
      | nil =>
          obtain rfl : head = found := List.mem_singleton.mp (List.mem_of_find?_eq_some search) |>.symm
          rw [ladder.2] at ends
          cases ends
      | cons next rest =>
          obtain ⟨start, top, finish, _, tail⟩ := ladder
          rw [climbs, climbs.eq_2 upper limit, finish]
          cases lt_or_ge first top with
          | inl within =>
              rw [List.find?_cons_of_pos (by simp [holds, start, finish, aboveBound, within])] at search
              obtain rfl := Option.some.inj search
              obtain rfl : top = limit := Option.some.inj (finish.symm.trans ends)
              dsimp only
              rw [if_pos ⟨within, passed⟩, if_neg fun again => lt_irrefl _ again.1]
          | inr past =>
              rw [List.find?_cons_of_neg (by simp [holds, finish, past])] at search
              dsimp only
              rw [if_neg fun up => past.not_gt up.1, if_neg fun up => (past.trans inside.le).not_gt up.1]
              exact ih tail past search

end Steps
end PowerMonitor.Library
