import PowerMonitor.Calendar.Conversions
import PowerMonitor.History.Records
import PowerMonitor.Rates.Schedule

/-! The buckets of a history query.

A bucket is a multiple of its width since the epoch, or a local day. The boundaries are found by steps
from the whole seconds of the start to the whole seconds of the end, and by days from the local date of the
start.
-/

set_option autoImplicit false
namespace PowerMonitor.History
open Library Rates Calendar

inductive HistoryBucket where
  | raw | fiveMinutes | fifteenMinutes | hour | day
  deriving DecidableEq, Repr

/-- `{"raw": 60, "5m": 300, "15m": 900, "1h": 3600}` -/
def HistoryBucket.seconds : HistoryBucket → Option Int
  | .raw => some 60
  | .fiveMinutes => some 300
  | .fifteenMinutes => some 900
  | .hour => some 3600
  | .day => none

def maxHistoryBuckets : Nat := 2000

def maxHistoryRange : Int := 366 * dayLength

/-- `_automatic_bucket` -/
def automaticBucket (start finish : Int) : HistoryBucket :=
  let duration := finish - start
  if duration ≤ 12 * seconds 3600 then .fiveMinutes
  else if duration ≤ 2 * dayLength then .fifteenMinutes
  else if duration ≤ 31 * dayLength then .hour
  else .day

/-! ## Boundaries -/

/-- `int(instant.timestamp())` cuts the fraction off, towards the epoch. -/
def epochSeconds (instant : Int) : Int := if 0 ≤ instant then instant / 1000000 else -(-instant / 1000000)

/-- The loop over the multiples of a width; the room is what is left of the limit. -/
def gridFrom (width stop cursor : Int) : Nat → List Int
  | 0 => []
  | room + 1 => if cursor < stop then seconds cursor :: gridFrom width stop (cursor + width) room else []

section Zone
variable (zone : Zone)

/-- The loop over the local days. -/
def midnightsFrom (start finish day : Int) : Nat → List Int
  | 0 => []
  | fuel + 1 =>
      if finish ≤ zone.midnight day then []
      else if start < zone.midnight day then zone.midnight day :: midnightsFrom start finish (day + 1) fuel
      else midnightsFrom start finish (day + 1) fuel

/-- A midnight is less than a day from the same reading of universal time. -/
def daysUntil (finish day : Int) : Nat := (dateOf finish + 3 - day).toNat

/-- `_bucket_boundaries` -/
def bucketBoundaries (start finish : Int) (bucket : HistoryBucket) : List Int :=
  match bucket.seconds with
  | none =>
      let day := zone.localDate start + 1
      sortedSet (start :: midnightsFrom zone start finish day (daysUntil finish day) ++ [finish])
  | some width =>
      let cursorEpoch := (epochSeconds start / width + 1) * width
      start :: gridFrom width (epochSeconds finish) cursorEpoch maxHistoryBuckets ++ [finish]

/-- The checks of `query_history` on the range and its buckets. -/
def historyBoundaries (start finish : Int) (requested : Option HistoryBucket) : Except ProblemError (List Int) :=
  if maxHistoryRange < finish - start then
    .error ⟨422, "History range is too large", "Select a range of 366 days or less", "history_range_limit", [], []⟩
  else
    let bucket := requested.getD (automaticBucket start finish)
    if bucket = .raw ∧ 2 * dayLength < finish - start then
      .error ⟨422, "Raw history range is too large",
        "Raw history is limited to two days; select an aggregated bucket", "history_raw_range_limit", [], []⟩
    else
      let boundaries := bucketBoundaries zone start finish bucket
      if maxHistoryBuckets < boundaries.length - 1 then
        .error ⟨422, "Too many history buckets", "Select a coarser bucket size", "history_bucket_limit", [], []⟩
      else .ok boundaries

/-! ## What boundaries are for -/

/-- Where buckets of a kind meet: multiples of the width, or the midnights of the zone. -/
def Edge (bucket : HistoryBucket) (instant : Int) : Prop :=
  match bucket.seconds with
  | none => ∃ day, instant = zone.midnight day
  | some width => ∃ count, instant = seconds (count * width)

/-- The boundaries part the range at every edge inside, and a range with too many edges has too many buckets. -/
structure Partitions (start finish : Int) (bucket : HistoryBucket) (points : List Int) : Prop where
  tiles : Tiles start finish points
  edges : points.length - 1 ≤ maxHistoryBuckets → ∀ instant, start < instant → instant < finish →
    (instant ∈ points ↔ Edge zone bucket instant)
  oversize : ∀ needed : Finset Int, (∀ instant ∈ needed, start < instant ∧ instant < finish ∧ Edge zone bucket instant) →
    maxHistoryBuckets ≤ needed.card → maxHistoryBuckets < points.length - 1

end Zone

/-! ## Steps of a width -/

section Grid
variable {width stop cursor : Int} {room : Nat} {instant : Int}

theorem mem_gridFrom (positive : 0 < width) : instant ∈ gridFrom width stop cursor room ↔
    ∃ count < room, instant = seconds (cursor + count * width) ∧ cursor + count * width < stop := by
  induction room generalizing cursor with
  | zero => simp [gridFrom]
  | succ room ih =>
      rw [gridFrom]
      split
      · rename_i inside
        rw [List.mem_cons, ih]
        constructor
        · rintro (rfl | ⟨count, small, rfl, early⟩)
          · exact ⟨0, by omega, by simp, by simpa using inside⟩
          · refine ⟨count + 1, by omega, ?_, ?_⟩ <;> push_cast <;> grind
        · rintro ⟨count, small, rfl, early⟩
          cases count with
          | zero => exact .inl (by simp)
          | succ count =>
              push_cast at early ⊢
              exact .inr ⟨count, by omega, by grind, by grind⟩
      · rename_i outside
        simp only [List.not_mem_nil, false_iff, not_exists, not_and, not_lt]
        intro count _ _
        have : 0 ≤ count * width := by positivity
        omega

theorem gridFrom_rising (positive : 0 < width) : (gridFrom width stop cursor room).Pairwise (· < ·) := by
  induction room generalizing cursor with
  | zero => simp [gridFrom]
  | succ room ih =>
      rw [gridFrom]
      split
      · refine List.pairwise_cons.mpr ⟨?_, ih⟩
        intro later member
        obtain ⟨count, _, rfl, _⟩ := (mem_gridFrom positive).mp member
        have : 0 ≤ count * width := by positivity
        simp only [seconds]
        omega
      · exact List.Pairwise.nil

theorem length_gridFrom_le : (gridFrom width stop cursor room).length ≤ room := by
  induction room generalizing cursor with
  | zero => simp [gridFrom]
  | succ room ih =>
      rw [gridFrom]
      split
      · exact Nat.succ_le_succ ih
      · simp

/-- The room is used up when the last step it has room for is still before the stop. -/
theorem gridFrom_full_iff (positive : 0 < width) :
    (gridFrom width stop cursor (room + 1)).length = room + 1 ↔ cursor + room * width < stop := by
  induction room generalizing cursor with
  | zero =>
      rw [gridFrom]
      split <;> simp_all [gridFrom]
  | succ room ih =>
      rw [gridFrom]
      split
      · rw [List.length_cons, Nat.add_right_cancel_iff, ih]
        push_cast
        grind
      · rename_i outside
        have : 0 ≤ ((room + 1 : Nat) : Int) * width := by positivity
        constructor
        · intro short
          simp at short
        · intro early
          omega

end Grid

/-! ## Days -/

section Days
variable {zone : Zone} {start finish day instant : Int}

theorem mem_midnightsFrom_of {fuel : Nat} (member : instant ∈ midnightsFrom zone start finish day fuel) :
    ∃ later ≥ day, instant = zone.midnight later ∧ start < instant ∧ instant < finish := by
  induction fuel generalizing day with
  | zero => simp [midnightsFrom] at member
  | succ fuel ih =>
      have deeper : instant ∈ midnightsFrom zone start finish (day + 1) fuel →
          ∃ later ≥ day, instant = zone.midnight later ∧ start < instant ∧ instant < finish := by
        intro found
        obtain ⟨later, after, is⟩ := ih found
        exact ⟨later, by omega, is⟩
      rw [midnightsFrom] at member
      split at member
      · simp at member
      · split at member
        · cases List.mem_cons.mp member with
          | inl here => exact ⟨day, le_rfl, here, by omega, by omega⟩
          | inr found => exact deeper found
        · exact deeper member

/-- Each midnight of the days that the fuel reaches is found: none after it is earlier. -/
theorem mem_midnightsFrom {fuel : Nat} (days : zone.DaysInOrder) {later : Int} (after : day ≤ later)
    (reached : later < day + fuel) (early : start < zone.midnight later) (inside : zone.midnight later < finish) :
    zone.midnight later ∈ midnightsFrom zone start finish day fuel := by
  induction fuel generalizing day with
  | zero => omega
  | succ fuel ih =>
      have ordered := Zone.midnight_le_midnight days after
      rw [midnightsFrom, if_neg (by omega)]
      by_cases same : later = day
      · subst same
        rw [if_pos early]
        exact List.mem_cons_self
      · have found := @ih (day + 1) (by omega) (by push_cast at reached; omega)
        split
        · exact List.mem_cons_of_mem _ found
        · exact found

theorem mem_midnights_iff (converts : zone.Converts) (days : zone.DaysInOrder) :
    instant ∈ midnightsFrom zone start finish day (daysUntil finish day) ↔
      ∃ later ≥ day, instant = zone.midnight later ∧ start < instant ∧ instant < finish := by
  refine ⟨mem_midnightsFrom_of, ?_⟩
  rintro ⟨later, after, rfl, early, inside⟩
  -- A midnight before the end is of a day at most one after the date of the end.
  have near := (converts.wallOffset_bounded (wallAt later 0)).2
  have reached : later < dateOf finish + 2 := by
    simp only [Zone.midnight, Zone.toUtc, wallAt, dateOf, dayLength, minuteLength] at *
    omega
  exact mem_midnightsFrom days after (by simp only [daysUntil]; omega) early inside

end Days

/-! ## The boundaries of a range -/

section Boundaries
variable {zone : Zone} {start finish : Int} {bucket : HistoryBucket} {points : List Int}

/-- The instants strictly inside are two less than the boundaries. -/
theorem card_inside (interval : start < finish) (tiles : Tiles start finish points) :
    (points.toFinset.filter fun instant => start < instant ∧ instant < finish).card + 2 = points.length := by
  have distinct : points.Nodup := tiles.rising.imp fun before => before.ne
  have parts : points.toFinset =
      insert start (insert finish (points.toFinset.filter fun instant => start < instant ∧ instant < finish)) := by
    ext instant
    simp only [Finset.mem_insert, Finset.mem_filter, List.mem_toFinset]
    constructor
    · intro member
      have := tiles.le_of_mem member
      by_cases first : instant = start
      · exact .inl first
      · by_cases last : instant = finish
        · exact .inr (.inl last)
        · exact .inr (.inr ⟨member, by omega, by omega⟩)
    · rintro (rfl | rfl | ⟨member, -⟩)
      · exact List.mem_of_mem_head? (tiles.first ▸ rfl)
      · exact List.mem_of_getLast? tiles.last
      · exact member
  rw [← List.toFinset_card_of_nodup distinct]
  conv_rhs => rw [parts]
  rw [Finset.card_insert_of_notMem (by simp [interval.ne]), Finset.card_insert_of_notMem (by simp)]

/-- A scan whose result is exact within the limit parts the range exactly when the limit is passed or it
sees every edge. -/
theorem partitions_iff (interval : start < finish) (tiles : Tiles start finish points) {Scanned : Int → Prop}
    (found : points.length - 1 ≤ maxHistoryBuckets → ∀ instant, start < instant → instant < finish →
      (instant ∈ points ↔ Scanned instant))
    (sound : ∀ instant, Scanned instant → Edge zone bucket instant) :
    Partitions zone start finish bucket points ↔ maxHistoryBuckets < points.length - 1 ∨
      ∀ instant, start < instant → instant < finish → Edge zone bucket instant → Scanned instant := by
  constructor
  · intro parts
    by_cases many : maxHistoryBuckets < points.length - 1
    · exact .inl many
    · refine .inr fun instant after before edge => ?_
      exact (found (not_lt.mp many) instant after before).mp
        ((parts.edges (not_lt.mp many) instant after before).mpr edge)
  · intro sees
    have exactly (few : points.length - 1 ≤ maxHistoryBuckets) (instant : Int) (after : start < instant)
        (before : instant < finish) : instant ∈ points ↔ Edge zone bucket instant := by
      cases sees with
      | inl many => omega
      | inr all =>
          rw [found few instant after before]
          exact ⟨sound instant, all instant after before⟩
    refine ⟨tiles, exactly, ?_⟩
    intro needed edges large
    by_contra few
    have inside : needed ⊆ points.toFinset.filter fun instant => start < instant ∧ instant < finish := by
      intro instant member
      obtain ⟨after, before, edge⟩ := edges instant member
      simp only [Finset.mem_filter, List.mem_toFinset]
      exact ⟨(exactly (not_lt.mp few) instant after before).mpr edge, after, before⟩
    have := Finset.card_le_card inside
    have := card_inside interval tiles
    omega

end Boundaries

/-! ## Multiples of a width -/

section Multiples
variable {zone : Zone} {start finish width : Int} {bucket : HistoryBucket}

/-- The multiples between the whole seconds of the start and of the end. -/
def OnGrid (width start finish instant : Int) : Prop :=
  ∃ count, instant = seconds (count * width) ∧ epochSeconds start < count * width ∧ count * width < epochSeconds finish

/-- A multiple that the whole seconds of an end of the range fall on, inside the range. -/
def CutOff (width start finish : Int) : Prop :=
  ∃ whole ∈ [epochSeconds start, epochSeconds finish], width ∣ whole ∧ start < seconds whole ∧ seconds whole < finish

/-- The limit's number of multiples between the whole seconds of the start and of the end. -/
def GridFull (width start finish : Int) : Prop :=
  (epochSeconds start / width + maxHistoryBuckets) * width < epochSeconds finish

def firstCursor (width start : Int) : Int := (epochSeconds start / width + 1) * width

theorem bucketBoundaries_grid (kind : bucket.seconds = some width) : bucketBoundaries zone start finish bucket =
    start :: gridFrom width (epochSeconds finish) (firstCursor width start) maxHistoryBuckets ++ [finish] := by
  rw [bucketBoundaries, kind]
  rfl

theorem HistoryBucket.seconds_pos (kind : bucket.seconds = some width) : 0 < width := by
  cases bucket <;> cases kind <;> decide

theorem epochSeconds_lt (positive : 0 < width) : epochSeconds start < firstCursor width start :=
  Int.lt_ediv_add_one_mul_self _ positive

theorem grid_tiles (positive : 0 < width) (interval : start < finish) (room : Nat) :
    Tiles start finish (start :: gridFrom width (epochSeconds finish) (firstCursor width start) room ++ [finish]) := by
  have inside : ∀ instant ∈ gridFrom width (epochSeconds finish) (firstCursor width start) room,
      start < instant ∧ instant < finish := by
    intro instant member
    obtain ⟨count, _, rfl, early⟩ := (mem_gridFrom positive).mp member
    have later := @epochSeconds_lt start _ positive
    have : 0 ≤ count * width := by positivity
    have after : epochSeconds start < firstCursor width start + count * width := by omega
    revert after early
    generalize firstCursor width start + count * width = whole
    simp only [epochSeconds, seconds]
    split <;> split <;> intro early after <;> omega
  refine ⟨?_, rfl, List.getLast?_concat⟩
  refine List.pairwise_append.mpr ⟨List.pairwise_cons.mpr ⟨fun instant member => (inside instant member).1,
    gridFrom_rising positive⟩, List.pairwise_singleton _ _, ?_⟩
  intro first member last final
  obtain rfl := List.mem_singleton.mp final
  cases List.mem_cons.mp member with
  | inl same => exact same ▸ interval
  | inr deeper => exact (inside first deeper).2

theorem length_grid (positive : 0 < width) :
    maxHistoryBuckets < (start :: gridFrom width (epochSeconds finish) (firstCursor width start)
      maxHistoryBuckets ++ [finish]).length - 1 ↔ GridFull width start finish := by
  have full := @gridFrom_full_iff _ (epochSeconds finish) (firstCursor width start) (maxHistoryBuckets - 1) positive
  have most := @length_gridFrom_le width (epochSeconds finish) (firstCursor width start) maxHistoryBuckets
  have last : firstCursor width start + ((maxHistoryBuckets - 1 : Nat) : Int) * width =
      (epochSeconds start / width + maxHistoryBuckets) * width := by
    simp only [firstCursor, maxHistoryBuckets]
    ring
  rw [last, show maxHistoryBuckets - 1 + 1 = maxHistoryBuckets from rfl] at full
  rw [GridFull, ← full]
  simp only [List.length_append, List.length_cons, List.length_nil]
  omega

/-- Short of the limit every multiple between the whole seconds is found. -/
theorem mem_grid (positive : 0 < width) (short : ¬ GridFull width start finish) {instant : Int} (after : start < instant)
    (before : instant < finish) : instant ∈ start :: gridFrom width (epochSeconds finish) (firstCursor width start)
      maxHistoryBuckets ++ [finish] ↔ OnGrid width start finish instant := by
  simp only [List.cons_append, List.mem_cons, List.mem_append, List.not_mem_nil, or_false, after.ne', before.ne, false_or,
    mem_gridFrom positive]
  constructor
  · rintro ⟨count, _, rfl, early⟩
    have later := @epochSeconds_lt start _ positive
    have : 0 ≤ count * width := by positivity
    refine ⟨epochSeconds start / width + 1 + count, ?_, ?_, ?_⟩ <;> simp only [firstCursor] at * <;> grind
  · rintro ⟨count, rfl, late, early⟩
    have above : epochSeconds start / width < count := Int.ediv_lt_of_lt_mul positive late
    have below : count < epochSeconds start / width + maxHistoryBuckets :=
      lt_of_mul_lt_mul_right (early.trans_le (not_lt.mp short)) positive.le
    have steps : ((count - (epochSeconds start / width + 1)).toNat : Int) = count - (epochSeconds start / width + 1) :=
      Int.toNat_of_nonneg (by omega)
    refine ⟨(count - (epochSeconds start / width + 1)).toNat, by omega, ?_, ?_⟩ <;>
      rw [steps, firstCursor] <;> grind

/-- A multiple inside the range is between the whole seconds, unless they fall on it. -/
theorem onGrid_of_edge (uncut : ¬ CutOff width start finish) {count : Int} (after : start < seconds (count * width))
    (before : seconds (count * width) < finish) : OnGrid width start finish (seconds (count * width)) := by
  have first : epochSeconds start ≠ count * width := fun same =>
    uncut ⟨count * width, by simp [same], Dvd.intro_left count rfl, after, before⟩
  have last : epochSeconds finish ≠ count * width := fun same =>
    uncut ⟨count * width, by simp [same], Dvd.intro_left count rfl, after, before⟩
  refine ⟨count, rfl, ?_, ?_⟩
  · revert first after
    generalize count * width = whole
    simp only [epochSeconds, seconds]
    split <;> intro first after <;> omega
  · revert last before
    generalize count * width = whole
    simp only [epochSeconds, seconds]
    split <;> intro last before <;> omega

theorem grid_partitions_iff (kind : bucket.seconds = some width) (interval : start < finish) :
    Partitions zone start finish bucket (bucketBoundaries zone start finish bucket) ↔
      GridFull width start finish ∨ ¬ CutOff width start finish := by
  have positive := HistoryBucket.seconds_pos kind
  have edge (instant : Int) : Edge zone bucket instant ↔ ∃ count, instant = seconds (count * width) := by
    simp only [Edge, kind]
  rw [bucketBoundaries_grid kind, @partitions_iff _ _ _ _ _ interval (grid_tiles positive interval _)
    (OnGrid width start finish), length_grid positive]
  · apply or_congr_right
    constructor
    · rintro sees ⟨whole, ends, ⟨count, rfl⟩, after, before⟩
      obtain ⟨other, same, late, early⟩ := sees _ after before ((edge _).mpr ⟨count, by rw [mul_comm]⟩)
      simp only [seconds] at same
      rcases List.mem_cons.mp ends with first | rest
      · omega
      · have := List.mem_singleton.mp rest
        omega
    · rintro uncut instant after before isEdge
      obtain ⟨count, rfl⟩ := (edge _).mp isEdge
      exact onGrid_of_edge uncut after before
  · intro few instant after before
    exact mem_grid positive (fun full => (length_grid positive).mpr full |>.not_ge few) after before
  · rintro instant ⟨count, rfl, -⟩
    exact (edge _).mpr ⟨count, rfl⟩

end Multiples

/-! ## Midnights -/

section Midnights
variable {zone : Zone} {start finish : Int}

variable (zone start finish) in
/-- A midnight of a day after the local date of the start. -/
def LaterMidnight (instant : Int) : Prop :=
  ∃ day > zone.localDate start, instant = zone.midnight day ∧ start < instant ∧ instant < finish

variable (zone start finish) in
def MidnightsFull : Prop :=
  ∃ needed : Finset Int, maxHistoryBuckets ≤ needed.card ∧ ∀ instant ∈ needed, LaterMidnight zone start finish instant

variable (zone start finish) in
/-- The clock was set forward over a midnight at the start, which the library puts later, and before the end. -/
def MidnightLost : Prop :=
  ∃ day, zone.SetForwardOver (wallAt day 0) start ∧ zone.midnight day < finish ∧
    zone.midnight day < zone.midnight (zone.localDate start + 1)

variable (converts : zone.Converts) (days : zone.DaysInOrder)
include converts days

theorem midnights_tiles (interval : start < finish) :
    Tiles start finish (bucketBoundaries zone start finish .day) := by
  refine sortedSet_tiles (by simp) (by simp) ?_
  intro instant member
  simp only [List.cons_append, List.mem_cons, List.mem_append, List.not_mem_nil, or_false,
    mem_midnights_iff converts days] at member
  rcases member with rfl | ⟨day, _, rfl, after, before⟩ | rfl <;> omega

theorem mem_midnights {instant : Int} (after : start < instant) (before : instant < finish) :
    instant ∈ bucketBoundaries zone start finish .day ↔ LaterMidnight zone start finish instant := by
  simp only [bucketBoundaries, HistoryBucket.seconds, mem_sortedSet, List.cons_append, List.mem_cons, List.mem_append,
    List.not_mem_nil, or_false, after.ne', before.ne, false_or, mem_midnights_iff converts days]
  rfl

theorem length_midnights (interval : start < finish) :
    maxHistoryBuckets < (bucketBoundaries zone start finish .day).length - 1 ↔ MidnightsFull zone start finish := by
  have count := card_inside interval (midnights_tiles converts days interval)
  constructor
  · intro many
    refine ⟨(bucketBoundaries zone start finish .day).toFinset.filter
      fun instant => start < instant ∧ instant < finish, by omega, ?_⟩
    intro instant member
    simp only [Finset.mem_filter, List.mem_toFinset] at member
    exact (mem_midnights converts days member.2.1 member.2.2).mp member.1
  · rintro ⟨needed, large, later⟩
    have inside : needed ⊆ (bucketBoundaries zone start finish .day).toFinset.filter
        fun instant => start < instant ∧ instant < finish := by
      intro instant member
      obtain ⟨-, -, -, after, before⟩ := later instant member
      simp only [Finset.mem_filter, List.mem_toFinset]
      exact ⟨(mem_midnights converts days after before).mpr (later instant member), after, before⟩
    have := Finset.card_le_card inside
    omega

theorem laterMidnight_iff : (∀ instant, start < instant → instant < finish →
      Edge zone .day instant → LaterMidnight zone start finish instant) ↔ ¬ MidnightLost zone start finish := by
  constructor
  · rintro sees ⟨day, skips, inside, early⟩
    obtain ⟨-, after⟩ := converts.setForwardOver_iff.mp skips
    obtain ⟨later, next, same, -⟩ := sees (zone.midnight day) after inside ⟨day, rfl⟩
    have := Zone.midnight_le_midnight days (Int.add_one_le_of_lt next)
    omega
  · rintro kept instant after before ⟨day, rfl⟩
    by_cases later : zone.localDate start < day
    · exact ⟨day, later, rfl, after, before⟩
    · have passed : wallAt day 0 ≤ zone.toLocal start := by
        simp only [Zone.localDate, dateOf, wallAt, dayLength, minuteLength] at *
        omega
      have skips : zone.SetForwardOver (wallAt day 0) start := converts.setForwardOver_iff.mpr ⟨passed, after⟩
      have ordered := Zone.midnight_le_midnight days (show day ≤ zone.localDate start + 1 by omega)
      -- A lost midnight is still found when the next day begins at the same instant.
      have same : zone.midnight day = zone.midnight (zone.localDate start + 1) := by
        by_contra differs
        exact kept ⟨day, skips, before, lt_of_le_of_ne ordered differs⟩
      exact ⟨zone.localDate start + 1, by omega, same, after, before⟩

theorem day_partitions_iff (interval : start < finish) :
    Partitions zone start finish .day (bucketBoundaries zone start finish .day) ↔
      MidnightsFull zone start finish ∨ ¬ MidnightLost zone start finish := by
  rw [@partitions_iff _ _ _ _ _ interval (midnights_tiles converts days interval) (LaterMidnight zone start finish),
    length_midnights converts days interval, laterMidnight_iff converts days]
  · exact fun _ instant after before => mem_midnights converts days after before
  · rintro instant ⟨day, -, rfl, -⟩
    exact ⟨day, rfl⟩

end Midnights

/-- Where the edges of the range hide an edge of the buckets. -/
def EdgeLost (zone : Zone) (start finish : Int) (bucket : HistoryBucket) : Prop :=
  match bucket.seconds with
  | none => MidnightLost zone start finish
  | some width => CutOff width start finish

/-- The range passes the limit anyway. -/
def FarTooMany (zone : Zone) (start finish : Int) (bucket : HistoryBucket) : Prop :=
  match bucket.seconds with
  | none => MidnightsFull zone start finish
  | some width => GridFull width start finish

/-- The boundaries part a range as they should exactly when its ends hide no edge, or it is too long anyway. -/
theorem bucketBoundaries_partition_iff {zone : Zone} (converts : zone.Converts) (days : zone.DaysInOrder)
    (bucket : HistoryBucket) {start finish : Int} (interval : start < finish) :
    Partitions zone start finish bucket (bucketBoundaries zone start finish bucket) ↔
      FarTooMany zone start finish bucket ∨ ¬ EdgeLost zone start finish bucket := by
  cases kind : bucket.seconds with
  | none =>
      obtain rfl : bucket = .day := by cases bucket <;> simp_all [HistoryBucket.seconds]
      exact day_partitions_iff converts days interval
  | some width =>
      rw [grid_partitions_iff kind interval]
      simp only [FarTooMany, EdgeLost, kind]

/-- Boundaries that pass the limit never reach the query. -/
theorem length_of_historyBoundaries {zone : Zone} {start finish : Int} {requested : Option HistoryBucket}
    {points : List Int} (accepted : historyBoundaries zone start finish requested = .ok points) :
    points = bucketBoundaries zone start finish (requested.getD (automaticBucket start finish)) ∧
      points.length - 1 ≤ maxHistoryBuckets := by
  simp only [historyBoundaries] at accepted
  split at accepted
  · cases accepted
  · split at accepted
    · cases accepted
    · split at accepted
      · cases accepted
      · rename_i few
        cases accepted
        exact ⟨rfl, not_lt.mp few⟩

theorem two_hours_parted :
    Partitions .utc (seconds 1782864000) (seconds 1782871200) .hour
      (bucketBoundaries .utc (seconds 1782864000) (seconds 1782871200) .hour) := by
  refine (bucketBoundaries_partition_iff Zone.utc_converts Zone.utc_daysInOrder .hour (by decide)).mpr (.inr ?_)
  simp [EdgeLost, HistoryBucket.seconds, CutOff, epochSeconds, seconds]

/-- The minute before an end with a fraction of a second is lost. -/
theorem last_minute_lost :
    let points := bucketBoundaries .utc (seconds 1782864000) (seconds 1782864060 + 500000) .raw
    points = [seconds 1782864000, seconds 1782864060 + 500000] ∧
      ¬ Partitions .utc (seconds 1782864000) (seconds 1782864060 + 500000) .raw points := by
  have value : bucketBoundaries .utc (seconds 1782864000) (seconds 1782864060 + 500000) .raw =
      [seconds 1782864000, seconds 1782864060 + 500000] := by decide
  refine ⟨value, ?_⟩
  rw [value]
  intro parts
  have found := (parts.edges (by decide) (seconds 1782864060) (by decide) (by decide)).mpr ⟨29714401, by decide⟩
  revert found
  decide

end PowerMonitor.History
