import PowerMonitor.Calendar.Date
import Mathlib.Data.Set.Defs
import Mathlib.Algebra.Order.Ring.Int

/-! Time zones as the offset in effect at each instant.

The zone database and its lookups belong to the standard library. A zone here is
what the code uses of one: the offset and fold of the local reading of an instant,
and the offset that a reading with a fold stands for. What the library promises
about them is stated as laws, and shown for a zone with one transition.
-/

set_option autoImplicit false
namespace PowerMonitor.Calendar

/-- Offsets are strictly less than a day, as `tzinfo.utcoffset` requires. -/
structure Zone where
  utcoffset : Int → Int
  fold : Int → Bool
  wallOffset : Int → Bool → Int
  bounded : ∀ instant, -dayLength < utcoffset instant ∧ utcoffset instant < dayLength

namespace Zone
variable (zone : Zone)

/-- `instant.astimezone(zone)` without its zone. -/
def toLocal (instant : Int) : Int := instant + zone.utcoffset instant

/-- `wall.replace(tzinfo=zone, fold=fold).astimezone(UTC)` -/
def toUtc (wall : Int) (fold : Bool) : Int := wall - zone.wallOffset wall fold

def localDate (instant : Int) : Int := dateOf (zone.toLocal instant)

def probeLength : Int := 900000000

/-- The offset is constant between transitions, which fall on whole seconds and are at
least fifteen minutes apart. -/
def PiecewiseConstant : Prop := ∃ transitions : Set Int,
  (∀ change ∈ transitions, change % 1000000 = 0) ∧
  (∀ first ∈ transitions, ∀ second ∈ transitions, first < second → probeLength ≤ second - first) ∧
  ∀ first last, first ≤ last → (∀ change ∈ transitions, ¬ (first < change ∧ change ≤ last)) →
    zone.utcoffset first = zone.utcoffset last

/-- A local reading and its fold determine the offset that produced them. -/
def RoundTrips : Prop := ∀ instant,
  zone.wallOffset (zone.toLocal instant) (zone.fold instant) = zone.utcoffset instant

/-- The local clock is never more than a day behind an earlier reading. -/
def NeverADayBehind : Prop := ∀ first last, first ≤ last →
  zone.toLocal first - dayLength ≤ zone.toLocal last

/-- What the zones of the database have in common. -/
structure Regular : Prop where
  piecewise : zone.PiecewiseConstant
  roundTrips : zone.RoundTrips
  neverADayBehind : zone.NeverADayBehind

variable {zone}

/-- Two offsets that differ have an instant between them at which the offset changes. -/
theorem exists_change {first last : Int} (ordered : first ≤ last)
    (differs : zone.utcoffset first ≠ zone.utcoffset last) :
    ∃ change, first < change ∧ change ≤ last ∧ zone.utcoffset (change - 1) ≠ zone.utcoffset change := by
  induction last, ordered using Int.leInduction with
  | base => exact absurd rfl differs
  | succ last ordered ih =>
      by_cases same : zone.utcoffset last = zone.utcoffset (last + 1)
      · obtain ⟨change, after, upTo, changes⟩ := ih (same ▸ differs)
        exact ⟨change, after, by omega, changes⟩
      · exact ⟨last + 1, by omega, le_rfl, by rwa [add_sub_cancel_right]⟩

/-- A change is at a whole second and the only one within fifteen minutes. -/
theorem PiecewiseConstant.change_spec (piecewise : zone.PiecewiseConstant) {first last change : Int}
    (short : last - first ≤ probeLength) (after : first < change) (upTo : change ≤ last)
    (changes : zone.utcoffset (change - 1) ≠ zone.utcoffset change) :
    change % 1000000 = 0 ∧
      (∀ instant, first ≤ instant → instant < change → zone.utcoffset instant = zone.utcoffset (change - 1)) ∧
      ∀ instant, change ≤ instant → instant ≤ last → zone.utcoffset instant = zone.utcoffset change := by
  obtain ⟨transitions, whole, apart, constant⟩ := piecewise
  have member : change ∈ transitions := by
    by_contra absent
    apply changes
    apply constant (change - 1) change (by omega)
    intro other otherMember inside
    have : other = change := by omega
    exact absent (this ▸ otherMember)
  -- A second transition in the same fifteen minutes would be too close to this one.
  have unique : ∀ other ∈ transitions, first < other → other ≤ last → other = change := by
    intro other otherMember otherAfter otherUpTo
    rcases Int.lt_trichotomy other change with before | same | later
    · have := apart other otherMember change member before
      omega
    · exact same
    · have := apart change member other otherMember later
      omega
  refine ⟨whole change member, ?_, ?_⟩
  · intro instant start stop
    apply constant instant (change - 1) (by omega)
    intro other otherMember inside
    have := unique other otherMember (by omega) (by omega)
    omega
  · intro instant start stop
    apply Eq.symm
    apply constant change instant start
    intro other otherMember inside
    have := unique other otherMember (by omega) (by omega)
    omega

theorem NeverADayBehind.localDate_le (clock : zone.NeverADayBehind) {first last : Int}
    (ordered : first ≤ last) : zone.localDate first ≤ zone.localDate last + 1 := by
  have behind := clock first last ordered
  simp only [localDate, dateOf, dayLength] at *
  omega

/-! ## One transition -/

/-- A zone whose offset changes once, with the lookups of the zone database: a reading with
fold 0 is resolved before the later of the two local readings of the transition, one with
fold 1 before the earlier. -/
def single (change before after : Int) (boundedBefore : -dayLength < before ∧ before < dayLength)
    (boundedAfter : -dayLength < after ∧ after < dayLength) : Zone where
  utcoffset := fun instant => if instant < change then before else after
  fold := fun instant => decide (change ≤ instant ∧ instant < change + (before - after))
  wallOffset := fun wall fold =>
    if wall < change + (if fold then min before after else max before after) then before else after
  bounded := fun instant => by split <;> assumption

section Single
variable {change before after : Int} {boundedBefore : -dayLength < before ∧ before < dayLength}
  {boundedAfter : -dayLength < after ∧ after < dayLength}

theorem single_piecewiseConstant (whole : change % 1000000 = 0) :
    (single change before after boundedBefore boundedAfter).PiecewiseConstant := by
  refine ⟨{change}, fun other member => (Set.mem_singleton_iff.mp member) ▸ whole, ?_, ?_⟩
  · rintro first rfl second rfl later
    omega
  · intro first last ordered outside
    have := outside change rfl
    simp only [single]
    split <;> split <;> first | rfl | omega

theorem single_roundTrips : (single change before after boundedBefore boundedAfter).RoundTrips := by
  intro instant
  simp only [single, toLocal, decide_eq_true_eq]
  split <;> split <;> split <;> first | rfl | omega

theorem single_neverADayBehind (small : before - after ≤ dayLength) :
    (single change before after boundedBefore boundedAfter).NeverADayBehind := by
  intro first last ordered
  have positive : 0 ≤ dayLength := by decide
  simp only [single, toLocal]
  split <;> split <;> omega

theorem single_regular (whole : change % 1000000 = 0) (small : before - after ≤ dayLength) :
    (single change before after boundedBefore boundedAfter).Regular :=
  ⟨single_piecewiseConstant whole, single_roundTrips, single_neverADayBehind small⟩

end Single

theorem standardTime : -dayLength < -28800000000 ∧ -28800000000 < dayLength := by decide

theorem daylightTime : -dayLength < -25200000000 ∧ -25200000000 < dayLength := by decide

def utc : Zone := single 0 0 0 (by decide) (by decide)

end Zone
end PowerMonitor.Calendar
