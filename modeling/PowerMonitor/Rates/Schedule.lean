import PowerMonitor.Rates.Engine
import Mathlib.Data.List.Find

/-! Between two boundaries the tariff does not change.

Inside a slice the zone's offset is constant, because the probe finds every change of
it, so local time runs with the instant. A midnight or an edge of a period inside the
slice would be a boundary of its own: its day is scanned and its local reading leads
back to it. So all instants of a slice read the same schedule at the same place.
-/

set_option autoImplicit false
namespace PowerMonitor.Rates
open Library Calendar

/-! ## Offset changes -/

section Offsets
variable {zone : Zone}

/-- The halving keeps the change between its ends. -/
theorem narrow_brackets {priorOffset low high change : Int} (after : low < change) (upTo : change ≤ high)
    (before : ∀ instant, low ≤ instant → instant < change → zone.utcoffset instant = priorOffset)
    (since : ∀ instant, change ≤ instant → instant ≤ high → zone.utcoffset instant ≠ priorOffset) :
    change ≤ narrow zone priorOffset low high ∧ narrow zone priorOffset low high - 1000000 < change := by
  induction low, high using narrow.induct zone priorOffset with
  | case1 low high long midpoint same ih =>
      have positive : 0 < half (high - low) := half_pos (by omega)
      have inside : half (high - low) < high - low := half_lt (by omega)
      rw [narrow, if_pos long]
      simp only []
      rw [if_pos same]
      have below : midpoint < change := by
        by_contra beyond
        exact since midpoint (by omega) (by simp only [midpoint]; omega) same
      apply ih below upTo
      · intro instant start stop
        exact before instant (by simp only [midpoint] at start; omega) stop
      · exact since
  | case2 low high long midpoint differs ih =>
      have positive : 0 < half (high - low) := half_pos (by omega)
      have inside : half (high - low) < high - low := half_lt (by omega)
      rw [narrow, if_pos long]
      simp only []
      rw [if_neg differs]
      have above : change ≤ midpoint := by
        by_contra earlier
        exact differs (before midpoint (by simp only [midpoint]; omega) (by omega))
      apply ih after above before
      intro instant start stop
      exact since instant start (by simp only [midpoint] at stop; omega)
  | case3 low high short =>
      rw [narrow, if_neg short]
      omega

theorem mem_offsetChanges (piecewise : zone.PiecewiseConstant) {finish probe change : Int} (after : probe < change)
    (upTo : change ≤ finish) (changes : zone.utcoffset (change - 1) ≠ zone.utcoffset change) :
    change ∈ offsetChanges zone finish probe (zone.utcoffset probe) := by
  induction span : (finish - probe).toNat using Nat.strong_induction_on generalizing probe with
  | _ count ih =>
      rw [offsetChanges, if_pos (after.trans_le upTo)]
      simp only []
      rw [List.mem_append]
      by_cases here : change ≤ min finish (probe + Zone.probeLength)
      · left
        obtain ⟨whole, before, since⟩ := piecewise.change_spec (by omega) after here changes
        have priorOffset := before probe le_rfl after
        have nextOffset := since _ here le_rfl
        have differs : zone.utcoffset (min finish (probe + Zone.probeLength)) ≠ zone.utcoffset probe := by
          rw [nextOffset, priorOffset]
          exact changes.symm
        rw [if_pos differs, List.mem_singleton]
        have brackets := narrow_brackets after here (fun instant start stop => (before instant start stop).trans
          priorOffset.symm) (fun instant start stop => by rw [since instant start stop, priorOffset]; exact changes.symm)
        unfold wholeSecond
        omega
      · right
        have positive : 0 < Zone.probeLength := by decide
        exact ih _ (by omega) (by omega) rfl

end Offsets

/-! ## Wall-clock edges -/

theorem sortedSet_rising (items : List Int) : (sortedSet items).Pairwise (· < ·) := by
  have sorted : (sortedSet items).Pairwise (· ≤ ·) := List.pairwise_insertionSort (· ≤ ·) items.dedup
  have distinct : (sortedSet items).Nodup := (List.perm_insertionSort (· ≤ ·) _).nodup_iff.mpr (List.nodup_dedup items)
  exact (sorted.and distinct).imp fun both => lt_of_le_of_ne both.1 both.2

@[simp] theorem mem_sortedSet {items : List Int} {item : Int} : item ∈ sortedSet items ↔ item ∈ items := by
  rw [sortedSet, List.mem_insertionSort, List.mem_dedup]

/-- A sorted set from its least to its greatest item. -/
theorem sortedSet_tiles {items : List Int} {start finish : Int} (first : start ∈ items) (last : finish ∈ items)
    (inside : ∀ item ∈ items, start ≤ item ∧ item ≤ finish) : Tiles start finish (sortedSet items) := by
  have rising := sortedSet_rising items
  refine ⟨rising, ?_, ?_⟩
  · cases shape : sortedSet items with
    | nil => exact absurd (mem_sortedSet.mpr first) (by simp [shape])
    | cons head rest =>
        have least : start ≤ head := (inside head (mem_sortedSet.mp (by simp [shape]))).1
        have member : start ∈ head :: rest := shape ▸ mem_sortedSet.mpr first
        rw [shape] at rising
        cases List.mem_cons.mp member with
        | inl same => rw [same]; rfl
        | inr later =>
            have := (List.pairwise_cons.mp rising).1 start later
            omega
  · rcases List.eq_nil_or_concat (sortedSet items) with empty | ⟨front, final, shape⟩
    · exact absurd (mem_sortedSet.mpr first) (by simp [empty])
    · rw [List.concat_eq_append] at shape
      have greatest : final ≤ finish := (inside final (mem_sortedSet.mp (by simp [shape]))).2
      have member : finish ∈ front ++ [final] := shape ▸ mem_sortedSet.mpr last
      rw [shape] at rising ⊢
      cases List.mem_append.mp member with
      | inl earlier =>
          have := (List.pairwise_append.mp rising).2.2 finish earlier final (by simp)
          omega
      | inr same => rw [List.mem_singleton.mp same, List.getLast?_concat]

theorem mem_daysThrough {first last date : Int} : date ∈ daysThrough first last ↔ first ≤ date ∧ date ≤ last := by
  simp only [daysThrough, List.mem_map, List.mem_range]
  constructor
  · intro ⟨index, small, same⟩
    omega
  · intro ⟨after, upTo⟩
    exact ⟨(date - first).toNat, by omega, by omega⟩

namespace RateEngine
variable {engine : RateEngine}

/-- An instant is found again from its local reading. -/
theorem mem_validWallInstants (roundTrips : engine.zone.RoundTrips) {instant day minute : Int}
    (reading : engine.zone.toLocal instant = wallAt day minute) (inDay : minute < 1440)
    {instants : List Int} (found : engine.validWallInstants day minute = .ok instants) : instant ∈ instants := by
  unfold validWallInstants at found
  simp only [if_neg inDay.ne] at found
  rw [raiseIf_bind_eq_ok] at found
  cases found.2
  have back : engine.zone.toUtc (wallAt day minute) (engine.zone.fold instant) = instant := by
    unfold Zone.toUtc
    rw [← reading, roundTrips instant, Zone.toLocal, add_sub_cancel_right]
  rw [List.mem_filterMap]
  refine ⟨engine.zone.fold instant, by cases engine.zone.fold instant <;> simp, ?_⟩
  simp only [back, reading, and_self, if_true]

/-- A midnight or an edge of the day's periods is a candidate of the day. -/
theorem mem_dayCandidates (roundTrips : engine.zone.RoundTrips) {instant day minute : Int}
    (reading : engine.zone.toLocal instant = wallAt day minute) (inDay : minute < 1440)
    {items : List Int} (found : engine.dayCandidates day = .ok items)
    (edge : minute = 0 ∨ ∃ periods, engine.plan.periodsForDate day = .ok periods ∧
      ∃ period ∈ periods, minute = period.start ∨ minute = period.finish) : instant ∈ items := by
  unfold dayCandidates at found
  obtain ⟨midnight, first, found⟩ := bind_eq_ok.mp found
  obtain ⟨periods, second, found⟩ := bind_eq_ok.mp found
  obtain ⟨edges, third, found⟩ := bind_eq_ok.mp found
  cases found
  rw [List.mem_append]
  cases edge with
  | inl zero =>
      rw [zero] at reading
      exact .inl (mem_validWallInstants roundTrips reading (by decide) first)
  | inr inner =>
      obtain ⟨same, equal, period, member, side⟩ := inner
      rw [second] at equal
      cases equal
      obtain ⟨both, bothMember, run⟩ := mapM_mem third member
      unfold periodCandidates at run
      obtain ⟨starts, left, run⟩ := bind_eq_ok.mp run
      obtain ⟨ends, right, run⟩ := bind_eq_ok.mp run
      cases run
      refine .inr (List.mem_flatten.mpr ⟨_, bothMember, List.mem_append.mpr ?_⟩)
      cases side with
      | inl start => exact .inl (mem_validWallInstants roundTrips reading inDay (start ▸ left))
      | inr finish => exact .inr (mem_validWallInstants roundTrips reading inDay (finish ▸ right))

/-! ## Boundaries -/

theorem boundaries_timeOfUse (timeOfUse : engine.plan.pricingModel.isTimeOfUse = true) (start finish : Int) :
    engine.boundaries start finish = (do
      let found ← engine.candidates start finish
      pure (sortedSet (found.filter fun item => decide (start ≤ item ∧ item ≤ finish)))) := by
  unfold boundaries
  cases model : engine.plan.pricingModel <;> simp_all [PricingModel.isTimeOfUse]

theorem periodAt_timeOfUse (timeOfUse : engine.plan.pricingModel.isTimeOfUse = true) (instant : Int) :
    engine.periodAt instant = (do
      let periods ← engine.plan.periodsForDate (engine.zone.localDate instant)
      periodIn periods (minuteOf (engine.zone.toLocal instant))) := by
  unfold periodAt Zone.localDate
  cases model : engine.plan.pricingModel <;> simp_all [PricingModel.isTimeOfUse]

section Boundary
variable {start finish : Int} {points : List Int}

/-- A change of the offset is a boundary. -/
theorem mem_boundaries_of_change (timeOfUse : engine.plan.pricingModel.isTimeOfUse = true)
    (regular : engine.zone.Regular) (found : engine.boundaries start finish = .ok points) {change : Int}
    (after : start < change) (upTo : change ≤ finish)
    (changes : engine.zone.utcoffset (change - 1) ≠ engine.zone.utcoffset change) : change ∈ points := by
  rw [boundaries_timeOfUse timeOfUse] at found
  obtain ⟨items, run, found⟩ := bind_eq_ok.mp found
  cases found
  obtain ⟨edges, _, run⟩ := bind_eq_ok.mp run
  cases run
  simp only [mem_sortedSet, List.mem_filter, List.mem_append, decide_eq_true_eq]
  exact ⟨.inr (mem_offsetChanges regular.piecewise after upTo changes), after.le, upTo⟩

/-- The local date of an instant in the interval is one of the days scanned. -/
theorem localDate_scanned (regular : engine.zone.Regular) {instant : Int} (after : start ≤ instant)
    (upTo : instant ≤ finish) : engine.zone.localDate instant ∈
      daysThrough (engine.zone.localDate start - 1) (engine.zone.localDate finish + 1) := by
  have first := regular.neverADayBehind.localDate_le after
  have last := regular.neverADayBehind.localDate_le upTo
  rw [mem_daysThrough]
  omega

/-- A midnight or an edge of the periods of its own day is a boundary. -/
theorem mem_boundaries_of_edge (timeOfUse : engine.plan.pricingModel.isTimeOfUse = true)
    (regular : engine.zone.Regular) (found : engine.boundaries start finish = .ok points) {instant minute : Int}
    (after : start ≤ instant) (upTo : instant ≤ finish) (inDay : minute < 1440)
    (reading : engine.zone.toLocal instant = wallAt (engine.zone.localDate instant) minute)
    (edge : minute = 0 ∨ ∃ periods, engine.plan.periodsForDate (engine.zone.localDate instant) = .ok periods ∧
      ∃ period ∈ periods, minute = period.start ∨ minute = period.finish) : instant ∈ points := by
  rw [boundaries_timeOfUse timeOfUse] at found
  obtain ⟨items, run, found⟩ := bind_eq_ok.mp found
  cases found
  obtain ⟨edges, days, run⟩ := bind_eq_ok.mp run
  cases run
  obtain ⟨day, dayMember, dayRun⟩ := mapM_mem days (localDate_scanned regular after upTo)
  have member := mem_dayCandidates regular.roundTrips reading inDay dayRun edge
  simp only [mem_sortedSet, List.mem_filter, List.mem_append, List.mem_cons, decide_eq_true_eq]
  exact ⟨.inl (.inr (.inr (List.mem_flatten.mpr ⟨day, dayMember, member⟩))), after, upTo⟩

end Boundary

theorem not_timeOfUse (scheduled : ¬ engine.plan.pricingModel.isTimeOfUse = true) :
    engine.plan.pricingModel = .flat ∨ engine.plan.pricingModel = .tiered := by
  have valid := engine.valid
  cases model : engine.plan.pricingModel with
  | flat => exact .inl rfl
  | tiered => exact .inr rfl
  | timeOfUse => simp [model, PricingModel.isTimeOfUse] at scheduled
  | timeOfUseTiered => simp [model, PricingModel.isTimeOfUse] at scheduled
  | unsupported => simp [validatePlan, model, throw, throwThe, MonadExceptOf.throw] at valid

/-- The points that cut an interval run from its start to its end. -/
theorem boundaries_tiles {start finish : Int} {points : List Int} (interval : start < finish)
    (found : engine.boundaries start finish = .ok points) : Tiles start finish points := by
  by_cases timeOfUse : engine.plan.pricingModel.isTimeOfUse = true
  · rw [boundaries_timeOfUse timeOfUse] at found
    obtain ⟨items, run, found⟩ := bind_eq_ok.mp found
    cases found
    obtain ⟨edges, _, run⟩ := bind_eq_ok.mp run
    cases run
    apply sortedSet_tiles
    · simp [interval.le]
    · simp [interval.le]
    · intro item member
      simpa using (List.mem_filter.mp member).2
  · have pair : points = [start, finish] := by
      unfold boundaries at found
      cases not_timeOfUse timeOfUse with
      | inl flat => simpa [flat, sortedSet_pair interval, pure, Except.pure, eq_comm] using found
      | inr tiered => simpa [tiered, sortedSet_pair interval, pure, Except.pure, eq_comm] using found
    exact ⟨by simp [pair, interval], by simp [pair], by simp [pair]⟩

/-! ## One tariff for each slice -/

/-- Two instants of an interval with no boundary after the first and up to the last. -/
structure Quiet (engine : RateEngine) (first last : Int) : Prop where
  regular : engine.zone.Regular
  ordered : first ≤ last
  silent : ∃ start finish points, engine.boundaries start finish = .ok points ∧ start ≤ first ∧ last ≤ finish ∧
    ∀ point ∈ points, ¬ (first < point ∧ point ≤ last)

namespace Quiet
variable {first last : Int}

/-- The instants of a slice. -/
theorem of_piece (regular : engine.zone.Regular) {start finish : Int} (interval : start < finish) {points : List Int}
    (found : engine.boundaries start finish = .ok points) {left right : Int} (piece : (left, right) ∈ pairwise points)
    (after : left ≤ first) (ordered : first ≤ last) (before : last < right) : Quiet engine first last := by
  obtain ⟨begins, _, ends, empty⟩ := (boundaries_tiles interval found).piece piece
  refine ⟨regular, ordered, start, finish, points, found, by omega, by omega, ?_⟩
  intro point member inside
  have := empty point member
  omega

theorem later (quiet : Quiet engine first last) {instant : Int} (after : first ≤ instant) (upTo : instant ≤ last) :
    Quiet engine instant last := by
  obtain ⟨start, finish, points, found, begins, ends, empty⟩ := quiet.silent
  refine ⟨quiet.regular, upTo, start, finish, points, found, by omega, ends, ?_⟩
  intro point member inside
  exact empty point member (by omega)

theorem utcoffset_eq (quiet : Quiet engine first last) (timeOfUse : engine.plan.pricingModel.isTimeOfUse = true) :
    engine.zone.utcoffset first = engine.zone.utcoffset last := by
  by_contra differs
  obtain ⟨change, after, upTo, changes⟩ := Zone.exists_change quiet.ordered differs
  obtain ⟨start, finish, points, found, begins, ends, empty⟩ := quiet.silent
  have member := mem_boundaries_of_change timeOfUse quiet.regular found (by omega) (by omega) changes
  exact empty change member ⟨after, upTo⟩

/-- The edges of the last instant's day that it has reached were reached by the first. -/
theorem edge_reached (quiet : Quiet engine first last) (timeOfUse : engine.plan.pricingModel.isTimeOfUse = true)
    {minute : Int} (nonneg : 0 ≤ minute) (inDay : minute < 1440)
    (edge : minute = 0 ∨ ∃ periods, engine.plan.periodsForDate (engine.zone.localDate last) = .ok periods ∧
      ∃ period ∈ periods, minute = period.start ∨ minute = period.finish)
    (reached : wallAt (engine.zone.localDate last) minute ≤ engine.zone.toLocal last) :
    wallAt (engine.zone.localDate last) minute ≤ engine.zone.toLocal first := by
  by_contra beyond
  -- The instant at which the local clock shows the edge lies between the two.
  let instant := last - (engine.zone.toLocal last - wallAt (engine.zone.localDate last) minute)
  have same := quiet.utcoffset_eq timeOfUse
  have inside : first < instant ∧ instant ≤ last := by
    simp only [Zone.toLocal, instant] at *
    omega
  have offset := (quiet.later inside.1.le inside.2).utcoffset_eq timeOfUse
  have reading : engine.zone.toLocal instant = wallAt (engine.zone.localDate last) minute := by
    simp only [Zone.toLocal, instant] at *
    omega
  have day : engine.zone.localDate instant = engine.zone.localDate last := by
    rw [Zone.localDate, reading, dateOf_wallAt nonneg inDay]
  obtain ⟨start, finish, points, found, begins, ends, empty⟩ := quiet.silent
  have member := mem_boundaries_of_edge timeOfUse quiet.regular found (by omega) (by omega) inDay
    (day ▸ reading) (day ▸ edge)
  exact empty instant member inside

theorem localDate_eq (quiet : Quiet engine first last) (timeOfUse : engine.plan.pricingModel.isTimeOfUse = true) :
    engine.zone.localDate first = engine.zone.localDate last := by
  have ordered := quiet.ordered
  have same := quiet.utcoffset_eq timeOfUse
  have midnight := quiet.edge_reached timeOfUse le_rfl (by decide) (.inl rfl)
  simp only [Zone.localDate, Zone.toLocal, wallAt, dateOf, dayLength] at *
  omega

/-- Both minutes lie on the same side of every edge of the day's periods. -/
theorem contains_iff (quiet : Quiet engine first last) (timeOfUse : engine.plan.pricingModel.isTimeOfUse = true)
    {periods : List RatePeriod} (schedule : engine.plan.periodsForDate (engine.zone.localDate last) = .ok periods)
    {period : RatePeriod} (member : period ∈ periods) :
    period.Contains (minuteOf (engine.zone.toLocal first)) ↔ period.Contains (minuteOf (engine.zone.toLocal last)) := by
  have ordered := quiet.ordered
  have offset := quiet.utcoffset_eq timeOfUse
  have date := quiet.localDate_eq timeOfUse
  have minutes : minuteOf (engine.zone.toLocal first) ≤ minuteOf (engine.zone.toLocal last) := by
    simp only [Zone.localDate, Zone.toLocal, dateOf, minuteOf, dayLength, minuteLength] at *
    omega
  have reached : ∀ minute, minute = period.start ∨ minute = period.finish →
      minute ≤ minuteOf (engine.zone.toLocal last) → minute ≤ minuteOf (engine.zone.toLocal first) := by
    intro minute edge upTo
    by_contra late
    have nonneg := minuteOf_nonneg (engine.zone.toLocal first)
    have small := minuteOf_lt (engine.zone.toLocal last)
    have wall := quiet.edge_reached timeOfUse (by omega) (upTo.trans_lt small)
      (.inr ⟨periods, schedule, period, member, edge⟩)
    simp only [Zone.localDate, Zone.toLocal, wallAt, dateOf, minuteOf, dayLength, minuteLength] at *
    omega
  have starts := reached period.start (.inl rfl)
  have ends := reached period.finish (.inr rfl)
  unfold RatePeriod.Contains
  omega

theorem periodAt_eq (quiet : Quiet engine first last) : engine.periodAt first = engine.periodAt last := by
  by_cases timeOfUse : engine.plan.pricingModel.isTimeOfUse = true
  · rw [periodAt_timeOfUse timeOfUse, periodAt_timeOfUse timeOfUse, quiet.localDate_eq timeOfUse]
    cases schedule : engine.plan.periodsForDate (engine.zone.localDate last) with
    | error failure => rfl
    | ok periods =>
        have search : (periods.find? fun period => decide (period.Contains (minuteOf (engine.zone.toLocal first)))) =
            periods.find? fun period => decide (period.Contains (minuteOf (engine.zone.toLocal last))) :=
          List.find?_congr fun period member => by simp [quiet.contains_iff timeOfUse schedule member]
        simp only [bind, Except.bind, periodIn, search]
  · unfold periodAt
    cases not_timeOfUse timeOfUse with
    | inl flat => rw [flat]
    | inr tiered => rw [tiered]

end Quiet

/-- Any two instants of a slice. -/
theorem periodAt_piece (regular : engine.zone.Regular) {start finish : Int} (interval : start < finish)
    {points : List Int} (found : engine.boundaries start finish = .ok points) {left right : Int}
    (piece : (left, right) ∈ pairwise points) {one other : Int} (oneInside : left ≤ one ∧ one < right)
    (otherInside : left ≤ other ∧ other < right) : engine.periodAt one = engine.periodAt other := by
  rcases le_total one other with before | after
  · exact (Quiet.of_piece regular interval found piece oneInside.1 before otherInside.2).periodAt_eq
  · exact (Quiet.of_piece regular interval found piece otherInside.1 after oneInside.2).periodAt_eq.symm

end RateEngine
end PowerMonitor.Rates
