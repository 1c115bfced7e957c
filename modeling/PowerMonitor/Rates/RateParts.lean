import PowerMonitor.Rates.CycleStatus
import PowerMonitor.Rates.Schedule
import Mathlib.Algebra.BigOperators.Ring.Finset
import Mathlib.Tactic.FieldSimp

/-! The parts of an interval and the instants they cover.

A cut at the bounds of the contexts loses no instant and counts none twice. Where the
contexts are apart, the parts in tiered contexts therefore hold the energy of exactly the
instants such contexts cover.
-/

set_option autoImplicit false
namespace PowerMonitor.Rates
open Library Calendar

/-! ## What intervals contribute -/

/-- No instant lies in two contexts. -/
def ContextsApart (contexts : List TierContext) : Prop :=
  contexts.Pairwise fun first second => first.finish ≤ second.start ∨ second.finish ≤ first.start

/-- The instant lies in a tiered context. -/
def TierCovered (contexts : List TierContext) (instant : Int) : Prop :=
  ∃ context ∈ contexts, context.tiered = true ∧ context.Holds instant

instance (contexts : List TierContext) : DecidablePred (TierCovered contexts) := fun _ =>
  inferInstanceAs (Decidable (∃ context ∈ contexts, _))

/-- The energy of the parts of an interval that tiered contexts cover. -/
noncomputable def coveredEnergy (contexts : List TierContext) (interval : AuthoritativeInterval) : Rat :=
  interval.energyKwh * ((Finset.Ico interval.start interval.finish).filter (TierCovered contexts)).card /
    (interval.finish - interval.start : Int)

/-- Some instant of the interval is covered. -/
def Contributes (contexts : List TierContext) (interval : AuthoritativeInterval) : Prop :=
  ∃ instant, interval.start ≤ instant ∧ instant < interval.finish ∧ TierCovered contexts instant

/-- A piece of a window and the context it lies in. -/
abbrev RatePiece := Int × Int × TierContext

/-- The pieces of a window that lie in a context. -/
def ratePieces (contexts : List TierContext) (start finish : Int) : List RatePiece :=
  (Library.pairwise (rateBoundaries contexts start finish)).filterMap fun (left, right) =>
    (tierContextAt contexts (left + half (right - left))).map fun context => (left, right, context)

/-- Those in a tiered one. -/
def tieredPieces (contexts : List TierContext) (start finish : Int) : List RatePiece :=
  (ratePieces contexts start finish).filter fun piece => piece.2.2.tiered

/-- The part of an interval over a piece of its window. -/
def AuthoritativeInterval.part (interval : AuthoritativeInterval) (piece : RatePiece) : RatePart where
  start := piece.1
  finish := piece.2.1
  energyKwh := interval.energyKwh * secondsBetween piece.1 piece.2.1 / secondsBetween interval.start interval.finish
  context := piece.2.2

theorem split_eq_map (contexts : List TierContext) (interval : AuthoritativeInterval) :
    splitForRateBoundaries contexts interval =
      (ratePieces contexts interval.start interval.finish).map interval.part := by
  rw [splitForRateBoundaries, ratePieces, List.map_filterMap]
  congr 1
  funext piece
  simp [Option.map_map, Function.comp_def, AuthoritativeInterval.part]

section Pieces
variable {contexts : List TierContext} {start finish : Int}

theorem rateBoundaries_tiles (ordered : start < finish) : Tiles start finish (rateBoundaries contexts start finish) := by
  apply sortedSet_tiles (by simp) (by simp)
  intro item member
  rcases List.mem_append.mp member with ends | within
  · simp only [List.mem_cons, List.not_mem_nil, or_false] at ends
    omega
  · obtain ⟨context, _, inside⟩ := List.mem_flatMap.mp within
    have := (List.mem_filter.mp inside).2
    simp only [decide_eq_true_eq] at this
    omega

/-- One context, or none, is found at every instant of a piece. -/
theorem tierContextAt_piece (ordered : start < finish) {left right instant : Int}
    (piece : (left, right) ∈ Library.pairwise (rateBoundaries contexts start finish)) (after : left ≤ instant)
    (before : instant < right) : tierContextAt contexts (left + half (right - left)) = tierContextAt contexts instant := by
  obtain ⟨fromStart, proper, upTo, empty⟩ := (rateBoundaries_tiles ordered).piece piece
  -- No context starts or ends strictly inside a piece.
  have steady : ∀ context ∈ contexts, ∀ edge ∈ [context.start, context.finish], edge ≤ left ∨ right ≤ edge := by
    intro context stored edge isEdge
    by_cases inside : start < edge ∧ edge < finish
    · apply empty
      rw [rateBoundaries, mem_sortedSet, List.mem_append, List.mem_flatMap]
      exact .inr ⟨context, stored, List.mem_filter.mpr ⟨isEdge, by simpa using inside⟩⟩
    · omega
  have middle : 0 ≤ half (right - left) := half_nonneg (by omega)
  have short : half (right - left) < right - left := half_lt (by omega)
  apply List.find?_congr
  intro context stored
  have starts := steady context stored context.start (by simp)
  have ends := steady context stored context.finish (by simp)
  refine decide_eq_decide.mpr ⟨?_, ?_⟩ <;> rintro ⟨started, open_⟩ <;> constructor <;> omega

/-- Where contexts are apart, the one found is the one that covers. -/
theorem tierCovered_iff (apart : ContextsApart contexts) (instant : Int) :
    TierCovered contexts instant ↔ (tierContextAt contexts instant).any TierContext.tiered = true := by
  unfold tierContextAt
  constructor
  · rintro ⟨context, stored, tiered, holds⟩
    cases found : contexts.find? fun context => context.Holds instant with
    | none =>
        have missed := List.find?_eq_none.mp found context stored
        exact absurd holds (by simpa using missed)
    | some other =>
        have also : other.Holds instant := by simpa using List.find?_some found
        -- Two contexts that hold one instant are the same.
        have same : other = context := by
          by_contra differ
          have symmetric : Std.Symm fun first second : TierContext =>
              first.finish ≤ second.start ∨ second.finish ≤ first.start := ⟨fun _ _ => Or.symm⟩
          have separate := List.Pairwise.forall apart (List.mem_of_find?_eq_some found) stored differ
          obtain ⟨first, second⟩ := holds
          obtain ⟨third, fourth⟩ := also
          omega
        simpa [same] using tiered
  · intro found
    cases search : contexts.find? fun context => context.Holds instant with
    | none => simp [search] at found
    | some context =>
        rw [search, Option.any_some] at found
        exact ⟨context, List.mem_of_find?_eq_some search, found, by simpa using List.find?_some search⟩

theorem mem_tieredPieces {piece : RatePiece} : piece ∈ tieredPieces contexts start finish ↔
    (piece.1, piece.2.1) ∈ Library.pairwise (rateBoundaries contexts start finish) ∧
      tierContextAt contexts (piece.1 + half (piece.2.1 - piece.1)) = some piece.2.2 ∧ piece.2.2.tiered = true := by
  rw [tieredPieces, List.mem_filter, ratePieces, List.mem_filterMap]
  constructor
  · rintro ⟨⟨⟨left, right⟩, member, found⟩, tiered⟩
    obtain ⟨context, search, rfl⟩ := Option.map_eq_some_iff.mp found
    exact ⟨member, search, tiered⟩
  · rintro ⟨member, search, tiered⟩
    exact ⟨⟨_, member, by simp [search]⟩, tiered⟩

theorem tieredPieces_rising (ordered : start < finish) :
    (tieredPieces contexts start finish).Pairwise fun piece next => piece.1 < next.1 := by
  apply List.Pairwise.filter
  rw [ratePieces, List.pairwise_filterMap]
  refine (pairwise_rising (rateBoundaries_tiles ordered).rising).imp ?_
  rintro ⟨left, right⟩ ⟨left', right'⟩ before piece found next found'
  obtain ⟨_, _, rfl⟩ := Option.map_eq_some_iff.mp found
  obtain ⟨_, _, rfl⟩ := Option.map_eq_some_iff.mp found'
  exact before

/-- The instants of the tiered pieces are those covered. -/
theorem sum_tieredPieces (apart : ContextsApart contexts) (ordered : start < finish) :
    ((tieredPieces contexts start finish).map fun piece => ((piece.2.1 - piece.1 : Int) : Rat)).sum =
      ((Finset.Ico start finish).filter (TierCovered contexts)).card := by
  have tiles : Tiles start finish (rateBoundaries contexts start finish) := rateBoundaries_tiles ordered
  have total := tiles.sum_pieces fun instant => if TierCovered contexts instant then (1 : Rat) else 0
  rw [Finset.card_filter, Nat.cast_sum]
  simp only [Nat.cast_ite, Nat.cast_one, Nat.cast_zero]
  rw [← total]
  have each : ∀ piece ∈ Library.pairwise (rateBoundaries contexts start finish),
      ∑ instant ∈ Finset.Ico piece.1 piece.2, (if TierCovered contexts instant then (1 : Rat) else 0) =
        if (tierContextAt contexts (piece.1 + half (piece.2 - piece.1))).any TierContext.tiered = true then
          ((piece.2 - piece.1 : Int) : Rat) else 0 := by
    intro piece member
    obtain ⟨_, proper, _, _⟩ := tiles.piece member
    have constant : ∀ instant ∈ Finset.Ico piece.1 piece.2,
        (if TierCovered contexts instant then (1 : Rat) else 0) =
          if (tierContextAt contexts (piece.1 + half (piece.2 - piece.1))).any TierContext.tiered = true then 1 else 0 := by
      intro instant inside
      obtain ⟨after, before⟩ := Finset.mem_Ico.mp inside
      rw [tierContextAt_piece ordered member after before]
      simp only [tierCovered_iff apart]
    rw [Finset.sum_congr rfl constant, Finset.sum_const, Int.card_Ico, nsmul_eq_mul, mul_ite, mul_one, mul_zero]
    have length : (((piece.2 - piece.1).toNat : Nat) : Rat) = ((piece.2 - piece.1 : Int) : Rat) := by
      exact_mod_cast Int.toNat_of_nonneg (sub_nonneg.mpr proper.le)
    rw [length]
  rw [List.map_congr_left each]
  rw [tieredPieces, ratePieces]
  induction Library.pairwise (rateBoundaries contexts start finish) with
  | nil => rfl
  | cons piece rest ih =>
      rw [List.map_cons, List.sum_cons, ← ih]
      cases found : tierContextAt contexts (piece.1 + half (piece.2 - piece.1)) with
      | none => simp [found]
      | some context =>
          by_cases tiered : context.tiered = true
          · simp [found, tiered]
          · simp [found, tiered]

theorem tieredPieces_ne_nil_iff (apart : ContextsApart contexts) (interval : AuthoritativeInterval) :
    tieredPieces contexts interval.start interval.finish ≠ [] ↔ Contributes contexts interval := by
  constructor
  · intro some
    obtain ⟨piece, member⟩ := List.exists_mem_of_ne_nil _ some
    obtain ⟨pair, found, tiered⟩ := mem_tieredPieces.mp member
    obtain ⟨fromStart, proper, upTo, _⟩ := (rateBoundaries_tiles interval.ordered).piece pair
    refine ⟨piece.1, fromStart, by omega, (tierCovered_iff apart _).mpr ?_⟩
    rw [← tierContextAt_piece interval.ordered pair le_rfl proper, found]
    exact tiered
  · rintro ⟨instant, after, before, covered⟩ none
    have tiles : Tiles interval.start interval.finish (rateBoundaries contexts interval.start interval.finish) :=
      rateBoundaries_tiles interval.ordered
    obtain ⟨left, right, pair, from_, upTo⟩ := tiles.exists_piece after before
    rw [tierCovered_iff apart, ← tierContextAt_piece interval.ordered pair from_ upTo] at covered
    cases found : tierContextAt contexts (left + half (right - left)) with
    | none => simp [found] at covered
    | some context =>
        rw [found, Option.any_some] at covered
        have member : (left, right, context) ∈ tieredPieces contexts interval.start interval.finish :=
          mem_tieredPieces.mpr ⟨pair, found, covered⟩
        rw [none] at member
        simp at member

/-- From the first tiered piece to the last one time passes. -/
theorem tieredPieces_span (ordered : start < finish) (some : tieredPieces contexts start finish ≠ []) :
    ∃ piece last, (tieredPieces contexts start finish).head? = .some piece ∧
      (tieredPieces contexts start finish).getLast? = .some last ∧ piece.1 < last.2.1 := by
  have rising : (tieredPieces contexts start finish).Pairwise fun piece next => piece.1 < next.1 :=
    tieredPieces_rising ordered
  cases shape : tieredPieces contexts start finish with
  | nil => exact absurd shape some
  | cons piece rest =>
      have member := List.getLast_mem (List.cons_ne_nil piece rest)
      have stored : (piece :: rest).getLast (List.cons_ne_nil piece rest) ∈ tieredPieces contexts start finish := by
        rw [shape]
        exact member
      obtain ⟨pair, _⟩ := mem_tieredPieces.mp stored
      obtain ⟨_, proper, _, _⟩ := (rateBoundaries_tiles ordered).piece pair
      refine ⟨piece, _, rfl, List.getLast?_eq_some_getLast (List.cons_ne_nil piece rest), lt_of_le_of_lt ?_ proper⟩
      rw [shape] at rising
      cases List.mem_cons.mp member with
      | inl here => rw [here]
      | inr later => exact ((List.pairwise_cons.mp rising).1 _ later).le

/-- Intervals over one window with the same covered energy have the same energy. -/
theorem energy_of_coveredEnergy {first second : AuthoritativeInterval} (contributes : Contributes contexts first)
    (sameStart : first.start = second.start) (sameFinish : first.finish = second.finish)
    (same : coveredEnergy contexts first = coveredEnergy contexts second) : first.energyKwh = second.energyKwh := by
  obtain ⟨instant, after, before, covered⟩ := contributes
  have some : 0 < ((Finset.Ico first.start first.finish).filter (TierCovered contexts)).card :=
    Finset.card_pos.mpr ⟨instant, Finset.mem_filter.mpr ⟨Finset.mem_Ico.mpr ⟨after, before⟩, covered⟩⟩
  have length : ((first.finish - first.start : Int) : Rat) ≠ 0 := by
    exact_mod_cast (sub_pos.mpr first.ordered).ne'
  have count : (((Finset.Ico first.start first.finish).filter (TierCovered contexts)).card : Rat) ≠ 0 := by
    exact_mod_cast some.ne'
  rw [coveredEnergy, coveredEnergy, ← sameStart, ← sameFinish] at same
  exact mul_right_cancel₀ count ((div_left_inj' length).mp same)

theorem sum_part_energy (apart : ContextsApart contexts) (interval : AuthoritativeInterval) :
    ((tieredPieces contexts interval.start interval.finish).map fun piece => (interval.part piece).energyKwh).sum =
      coveredEnergy contexts interval := by
  have length : ((interval.finish - interval.start : Int) : Rat) ≠ 0 := by
    exact_mod_cast (sub_pos.mpr interval.ordered).ne'
  have each : ∀ piece : RatePiece, (interval.part piece).energyKwh =
      interval.energyKwh / (interval.finish - interval.start : Int) * ((piece.2.1 - piece.1 : Int) : Rat) := by
    intro piece
    simp only [AuthoritativeInterval.part, secondsBetween]
    field_simp
  rw [coveredEnergy, ← sum_tieredPieces apart interval.ordered, List.map_congr_left fun piece _ => each piece,
    List.sum_map_mul_left]
  field_simp

theorem ratePieces_stored {piece : RatePiece} (member : piece ∈ ratePieces contexts start finish) :
    piece.2.2 ∈ contexts := by
  rw [ratePieces, List.mem_filterMap] at member
  obtain ⟨_, _, found⟩ := member
  obtain ⟨context, search, rfl⟩ := Option.map_eq_some_iff.mp found
  exact List.mem_of_find?_eq_some search

end Pieces
end PowerMonitor.Rates
