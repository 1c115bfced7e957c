import PowerMonitor.Firmware.Steps

/-! The evidence of one boot in the history of a run.

A history lists the events of a run with the table that each of them found, the latest first. What a deployment may stand on is
the part of it that its current attempt has seen, back to the last heartbeat of another boot.
-/

set_option autoImplicit false
namespace PowerMonitor.Firmware
open Library Access

abbrev History := List (Deployments × Event)

def history (catalog : Catalog) (events : List Event) : History := historyFrom (step catalog) .initial [] events

theorem history_concat (catalog : Catalog) (events : List Event) (event : Event) :
    history catalog (events ++ [event]) = (reached catalog events, event) :: history catalog events :=
  historyFrom_concat _ _ _ _

/-- One attempt of a deployment. -/
structure Attempt where
  id : Nat
  deviceId : String
  releaseId : String
  number : Nat
  deriving DecidableEq, Repr

def FirmwareDeployment.current (row : FirmwareDeployment) : Attempt := ⟨row.id, row.deviceId, row.releaseId, row.attempt⟩

theorem Identity.current {old new : FirmwareDeployment} (identity : Identity old new) (same : new.attempt = old.attempt) :
    new.current = old.current := by
  unfold FirmwareDeployment.current
  rw [identity.id, identity.device, identity.release, same]

/-- What was received in the attempt. -/
def currentAttempt (attempt : Attempt) (past : History) : History :=
  past.takeWhile fun entry => (entry.1.table.get? attempt.id).map FirmwareDeployment.attempt = some attempt.number

/-- The boot of a heartbeat of the sensor, in either protocol. -/
def heartbeatBoot (deviceId : String) (event : Event) : Option String :=
  match event.action with
  | .heartbeat payload _ _ => if payload.deviceId = deviceId then some payload.bootId else none
  | .headlessHeartbeat payload _ => if payload.deviceId = deviceId then some payload.bootId else none
  | _ => none

/-- What was received since the last heartbeat of another boot. -/
def sameBoot (deviceId boot : String) (past : History) : History :=
  past.takeWhile fun entry => ∀ other ∈ heartbeatBoot deviceId entry.2, other = boot

/-- The heartbeats of the boot that count, without one of another boot after them. -/
def heartbeatsOfBoot (counts : Event → Bool) (attempt : Attempt) (boot : String) (past : History) : Nat :=
  (sameBoot attempt.deviceId boot (currentAttempt attempt past)).countP fun entry => counts entry.2

/-- A durable reading of the boot. -/
def ReadingOfBoot (attempt : Attempt) (boot : String) (event : Event) : Prop :=
  match event.action with
  | .readings deviceId readings durable _ => deviceId = attempt.deviceId ∧
      ∃ reading ∈ readings, reading.sequence ∈ durable ∧ reading.bootId = boot
  | _ => False

instance (attempt : Attempt) (boot : String) (event : Event) : Decidable (ReadingOfBoot attempt boot event) := by
  unfold ReadingOfBoot
  rcases event with ⟨_, _ | _⟩ <;> infer_instance

section Histories
variable {before : Deployments} {event : Event} {past : History} {old : FirmwareDeployment} {boot : String}
  {counts : Event → Bool}

theorem currentAttempt_cons (held : old ∈ before.table.rows) :
    currentAttempt old.current ((before, event) :: past) = (before, event) :: currentAttempt old.current past := by
  have found : before.table.get? old.current.id = some old := Table.get?_eq_some.mpr ⟨held, rfl⟩
  refine List.takeWhile_cons_of_pos ?_
  rw [found]
  exact decide_eq_true rfl

theorem mem_currentAttempt_cons (held : old ∈ before.table.rows) {entry : Deployments × Event}
    (member : entry ∈ currentAttempt old.current past) : entry ∈ currentAttempt old.current ((before, event) :: past) := by
  rw [currentAttempt_cons held]
  exact List.mem_cons_of_mem _ member

theorem head_currentAttempt (held : old ∈ before.table.rows) :
    (before, event) ∈ currentAttempt old.current ((before, event) :: past) := by
  rw [currentAttempt_cons held]
  exact List.mem_cons_self

theorem sameBoot_cons (held : old ∈ before.table.rows) (same : ∀ other ∈ heartbeatBoot old.deviceId event, other = boot) :
    sameBoot old.deviceId boot (currentAttempt old.current ((before, event) :: past)) =
      (before, event) :: sameBoot old.deviceId boot (currentAttempt old.current past) := by
  rw [currentAttempt_cons held]
  exact List.takeWhile_cons_of_pos (decide_eq_true same)

theorem heartbeatsOfBoot_cons (held : old ∈ before.table.rows) (same : ∀ other ∈ heartbeatBoot old.deviceId event, other = boot) :
    heartbeatsOfBoot counts old.current boot ((before, event) :: past) =
      heartbeatsOfBoot counts old.current boot past + if counts event then 1 else 0 := by
  unfold heartbeatsOfBoot
  rw [show old.current.deviceId = old.deviceId from rfl, sameBoot_cons held same, List.countP_cons]

end Histories
end PowerMonitor.Firmware
