import PowerMonitor.Library.Table
import Mathlib.Data.List.Basic

/-! Alert rules, and the alerts that they raise. -/

set_option autoImplicit false
namespace PowerMonitor.Alerts
open Library

inductive AlertStatus where | debouncing | active | acknowledged | resolving | resolved
  deriving DecidableEq, Repr

def AlertStatus.name : AlertStatus → String
  | .debouncing => "debouncing"
  | .active => "active"
  | .acknowledged => "acknowledged"
  | .resolving => "resolving"
  | .resolved => "resolved"

/-! ## Evidence -/

/-- A value of the evidence; `instant` is the ISO text of a time. -/
inductive EvidenceValue where
  | text (value : String)
  | number (value : Int)
  | instant (time : Int)
  | null
  deriving DecidableEq, Repr

abbrev Evidence := List (String × EvidenceValue)

/-- `{**evidence, **entries}` -/
def Evidence.merge (evidence entries : Evidence) : Evidence :=
  entries ++ evidence.filter fun entry => entry.1 ∉ entries.map Prod.fst

/-- Two dictionaries are equal: they have the same value for every key. -/
def Evidence.Same (evidence other : Evidence) : Prop := ∀ entry ∈ evidence ++ other, evidence.lookup entry.1 = other.lookup entry.1

instance (evidence other : Evidence) : Decidable (evidence.Same other) := inferInstanceAs (Decidable (∀ entry ∈ _, _))

theorem lookup_filter (keep : String → Bool) (evidence : Evidence) (key : String) :
    List.lookup key (evidence.filter fun entry => keep entry.1) = if keep key then List.lookup key evidence else none := by
  induction evidence with
  | nil => simp
  | cons entry rest ih =>
      obtain ⟨name, value⟩ := entry
      by_cases same : key = name
      · subst same
        by_cases kept : keep key = true <;> simp [List.filter_cons, List.lookup_cons, kept, ih]
      · have other : (key == name) = false := beq_false_of_ne same
        by_cases kept : keep name = true <;> simp [List.filter_cons, List.lookup_cons, kept, other, ih]

theorem lookup_merge (evidence entries : Evidence) (key : String) :
    List.lookup key (evidence.merge entries) = (List.lookup key entries).or (List.lookup key evidence) := by
  rw [Evidence.merge, List.lookup_append, lookup_filter fun name => decide (name ∉ entries.map Prod.fst)]
  cases found : List.lookup key entries with
  | some value => rfl
  | none =>
      have absent : key ∉ entries.map Prod.fst := by
        intro member
        obtain ⟨⟨name, value⟩, listed, rfl⟩ := List.mem_map.mp member
        rw [List.lookup_eq_none_iff] at found
        exact absurd (found _ listed) (by simp)
      rw [if_pos (decide_eq_true absent)]

/-! ## Rows -/

/-- Times are microseconds. -/
def seconds (count : Int) : Int := count * 1000000

structure AlertRule where
  id : String
  severity : String
  siteId : Option String := none
  debounceSeconds : Int := 0
  resolveSeconds : Int := 0
  deriving DecidableEq, Repr

structure AlertInstance where
  id : Nat
  ruleId : String
  deviceId : Option String
  siteId : Option String
  status : AlertStatus
  severity : String
  openedAt : Int
  lastSeenAt : Int
  occurrenceCount : Nat := 1
  acknowledgedAt : Option Int := none
  resolvedAt : Option Int := none
  evidence : Evidence := []
  deriving DecidableEq, Repr

abbrev AlertTable := Table AlertInstance.id

end PowerMonitor.Alerts
