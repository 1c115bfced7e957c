import PowerMonitor.Alerts.Conditions
import PowerMonitor.Library.Runs
import Mathlib.Data.List.Find

/-! Thresholds of alerts over whole histories of their condition.

An alert is active once its condition held for the debounce time, and resolved once it was absent for the resolve time; a
condition that returns in between restores what was there before.
-/

set_option autoImplicit false
namespace PowerMonitor.Alerts
open Library

/-! ## One evaluation -/

/-- What both copies compute, given the device and the site of a new alert. -/
def applyCondition (alerts : AlertTable) (rule : AlertRule) (deviceId siteId : Option String) (now : Int) (active : Bool)
    (evidence : Evidence) : Except EvaluationError AlertTable :=
  match openAlert? alerts rule.id deviceId, active with
  | none, true => .ok (alerts.push (newAlert alerts rule deviceId siteId now evidence) alerts.freshNumber_not_mem)
  | none, false => .ok alerts
  | some alert, true =>
      if alert.status = .debouncing then
        if alert.openedAt ≤ now - seconds rule.debounceSeconds then
          .ok (alerts.modify alert.id (observedThen now evidence activated) (updateObservation_id now evidence))
        else .ok (alerts.modify alert.id (updateObservation now evidence) (updateObservation_id now evidence))
      else if alert.status = .resolving then
        .ok (alerts.modify alert.id (observedThen now evidence reopened) (updateObservation_id now evidence))
      else .ok (alerts.modify alert.id (updateObservation now evidence) (updateObservation_id now evidence))
  | some alert, false =>
      if alert.status = .debouncing then .ok (alerts.remove alert.id)
      else if rule.resolveSeconds = 0 then .ok (alerts.modify alert.id (resolvedAlert now) (resolvedAlert_id now))
      else if alert.status ≠ .resolving then .ok (alerts.modify alert.id (beginResolving now) (beginResolving_id now))
      else do
        let observed ← resolveObservedAt alert.evidence
        if observed ≤ now - seconds rule.resolveSeconds then
          .ok (alerts.modify alert.id (resolvedAlert now) (resolvedAlert_id now))
        else .ok alerts

def Subject.siteId (rule : AlertRule) : Subject → Option String
  | .device row => some row.siteId
  | .system => rule.siteId

theorem evaluateRule_eq (rule : AlertRule) (subject : Subject) (alerts : AlertTable) (now : Int) (active : Bool)
    (evidence : Evidence) : evaluateRule rule alerts now active evidence subject =
      applyCondition alerts rule subject.deviceId (subject.siteId rule) now active evidence := by
  cases subject <;> rfl

section Evaluation
variable {alerts after : AlertTable} {rule : AlertRule} {deviceId siteId : Option String} {now : Int} {active : Bool}
  {evidence : Evidence} {alert : AlertInstance}

theorem openAlert?_some (found : openAlert? alerts rule.id deviceId = some alert) :
    alert ∈ alerts.rows ∧ IsOpenAlert rule.id deviceId alert := by
  have chosen := List.find?_some found
  exact ⟨List.mem_of_find?_eq_some found, of_decide_eq_true chosen⟩

theorem openAlert?_none (none_ : openAlert? alerts rule.id deviceId = none) :
    ∀ alert ∈ alerts.rows, ¬ IsOpenAlert rule.id deviceId alert := by
  intro alert listed isOpen
  exact absurd (decide_eq_true isOpen) (List.find?_eq_none.mp none_ alert listed)

/-- What an evaluation does to the table. -/
inductive Reaction (alerts : AlertTable) (rule : AlertRule) (deviceId siteId : Option String) (now : Int) (evidence : Evidence) :
    Bool → AlertTable → Prop where
  | silent (none_ : openAlert? alerts rule.id deviceId = none) : Reaction alerts rule deviceId siteId now evidence false alerts
  | opened (none_ : openAlert? alerts rule.id deviceId = none) :
      Reaction alerts rule deviceId siteId now evidence true
        (alerts.push (newAlert alerts rule deviceId siteId now evidence) alerts.freshNumber_not_mem)
  | kept {alert : AlertInstance} (found : openAlert? alerts rule.id deviceId = some alert) (standing : alert.status ≠ .resolving) :
      Reaction alerts rule deviceId siteId now evidence true
        (alerts.modify alert.id (updateObservation now evidence) (updateObservation_id now evidence))
  | activated {alert : AlertInstance} (found : openAlert? alerts rule.id deviceId = some alert)
      (debouncing : alert.status = .debouncing) (elapsed : alert.openedAt ≤ now - seconds rule.debounceSeconds) :
      Reaction alerts rule deviceId siteId now evidence true
        (alerts.modify alert.id (observedThen now evidence activated) (updateObservation_id now evidence))
  | reopened {alert : AlertInstance} (found : openAlert? alerts rule.id deviceId = some alert)
      (resolving : alert.status = .resolving) :
      Reaction alerts rule deviceId siteId now evidence true
        (alerts.modify alert.id (observedThen now evidence reopened) (updateObservation_id now evidence))
  | dropped {alert : AlertInstance} (found : openAlert? alerts rule.id deviceId = some alert)
      (debouncing : alert.status = .debouncing) : Reaction alerts rule deviceId siteId now evidence false (alerts.remove alert.id)
  | ended {alert : AlertInstance} (found : openAlert? alerts rule.id deviceId = some alert)
      (elapsed : rule.resolveSeconds = 0 ∨ (alert.status = .resolving ∧ ∃ observed,
        resolveObservedAt alert.evidence = .ok observed ∧ observed ≤ now - seconds rule.resolveSeconds)) :
      Reaction alerts rule deviceId siteId now evidence false (alerts.modify alert.id (resolvedAlert now) (resolvedAlert_id now))
  | began {alert : AlertInstance} (found : openAlert? alerts rule.id deviceId = some alert)
      (settled : alert.status = .active ∨ alert.status = .acknowledged) (later : rule.resolveSeconds ≠ 0) :
      Reaction alerts rule deviceId siteId now evidence false (alerts.modify alert.id (beginResolving now) (beginResolving_id now))
  | waiting {alert : AlertInstance} (found : openAlert? alerts rule.id deviceId = some alert)
      (resolving : alert.status = .resolving) : Reaction alerts rule deviceId siteId now evidence false alerts

/-- An alert that resolves knows since when. -/
theorem applyCondition_reaction (dated : ∀ alert, openAlert? alerts rule.id deviceId = some alert → alert.status = .resolving →
      ∃ observed, resolveObservedAt alert.evidence = .ok observed) :
    ∃ after, applyCondition alerts rule deviceId siteId now active evidence = .ok after ∧
      Reaction alerts rule deviceId siteId now evidence active after := by
  unfold applyCondition
  split
  · rename_i none_
    exact ⟨_, rfl, .opened none_⟩
  · rename_i none_
    exact ⟨_, rfl, .silent none_⟩
  · rename_i alert found
    split
    · rename_i debouncing
      split
      · rename_i elapsed
        exact ⟨_, rfl, .activated found debouncing elapsed⟩
      · exact ⟨_, rfl, .kept found (by rw [debouncing]; exact nofun)⟩
    · split
      · rename_i resolving
        exact ⟨_, rfl, .reopened found resolving⟩
      · rename_i standing
        exact ⟨_, rfl, .kept found standing⟩
  · rename_i alert found
    have current := (openAlert?_some found).2.2.2
    split
    · rename_i debouncing
      exact ⟨_, rfl, .dropped found debouncing⟩
    · rename_i settled
      split
      · rename_i once
        exact ⟨_, rfl, .ended found (.inl once)⟩
      · rename_i later
        split
        · rename_i standing
          refine ⟨_, rfl, .began found ?_ later⟩
          cases status : alert.status <;> simp_all
        · rename_i resolving
          rw [not_not] at resolving
          obtain ⟨observed, known⟩ := dated alert found resolving
          rw [known]
          by_cases elapsed : observed ≤ now - seconds rule.resolveSeconds
          · exact ⟨_, if_pos elapsed, .ended found (.inr ⟨resolving, observed, known, elapsed⟩)⟩
          · exact ⟨_, if_neg elapsed, .waiting found resolving⟩

/-! ## The alert after an evaluation -/

theorem updateObservation_status : (updateObservation now evidence alert).status = alert.status := by
  unfold updateObservation
  dsimp only
  split <;> rfl

theorem updateObservation_openedAt : (updateObservation now evidence alert).openedAt = alert.openedAt := by
  unfold updateObservation
  dsimp only
  split <;> rfl

theorem updateObservation_pair : (updateObservation now evidence alert).ruleId = alert.ruleId ∧
    (updateObservation now evidence alert).deviceId = alert.deviceId := by
  unfold updateObservation
  dsimp only
  split <;> exact ⟨rfl, rfl⟩

theorem lookup_updateObservation {key : String} {value : EvidenceValue} (preserved : key ∈ preservedKeys)
    (held : List.lookup key alert.evidence = some value) :
    List.lookup key (updateObservation now evidence alert).evidence = some value := by
  unfold updateObservation
  dsimp only
  split
  · exact held
  · show List.lookup key (evidence.merge _) = some value
    rw [lookup_merge, lookup_filter fun name => decide (name ∈ preservedKeys), if_pos (decide_eq_true preserved), held]
    rfl

/-- The one open alert of a pair changes into the one of the next moment. -/
theorem open_after_modify {change : AlertInstance → AlertInstance} {keeps : ∀ alert, (change alert).id = alert.id}
    (unique : ∀ first ∈ alerts.rows, ∀ second ∈ alerts.rows, IsOpenAlert rule.id deviceId first →
      IsOpenAlert rule.id deviceId second → first = second)
    (found : openAlert? alerts rule.id deviceId = some alert) {row : AlertInstance}
    (listed : row ∈ (alerts.modify alert.id change keeps).rows) (isOpen : IsOpenAlert rule.id deviceId row) : row = change alert := by
  obtain ⟨present, current⟩ := openAlert?_some found
  rcases Table.mem_modify.mp listed with ⟨old, different⟩ | ⟨old, same, rfl⟩
  · exact absurd (congrArg AlertInstance.id (unique row old alert present isOpen current)) different
  · rw [Option.some.inj (same.symm.trans (Table.get?_eq_some.mpr ⟨present, rfl⟩))]

/-- Where the open alert of a pair comes from. -/
inductive Origin (alerts : AlertTable) (rule : AlertRule) (deviceId siteId : Option String) (now : Int) (evidence : Evidence) :
    Bool → AlertInstance → Prop where
  | opened : Origin alerts rule deviceId siteId now evidence true (newAlert alerts rule deviceId siteId now evidence)
  | kept {alert : AlertInstance} (found : openAlert? alerts rule.id deviceId = some alert) (standing : alert.status ≠ .resolving) :
      Origin alerts rule deviceId siteId now evidence true (updateObservation now evidence alert)
  | activated {alert : AlertInstance} (found : openAlert? alerts rule.id deviceId = some alert)
      (debouncing : alert.status = .debouncing) (elapsed : alert.openedAt ≤ now - seconds rule.debounceSeconds) :
      Origin alerts rule deviceId siteId now evidence true (observedThen now evidence activated alert)
  | reopened {alert : AlertInstance} (found : openAlert? alerts rule.id deviceId = some alert)
      (resolving : alert.status = .resolving) :
      Origin alerts rule deviceId siteId now evidence true (observedThen now evidence reopened alert)
  | began {alert : AlertInstance} (found : openAlert? alerts rule.id deviceId = some alert)
      (settled : alert.status = .active ∨ alert.status = .acknowledged) :
      Origin alerts rule deviceId siteId now evidence false (beginResolving now alert)
  | waiting {alert : AlertInstance} (found : openAlert? alerts rule.id deviceId = some alert)
      (resolving : alert.status = .resolving) : Origin alerts rule deviceId siteId now evidence false alert

/-- After an evaluation the open alert of the pair, if there is one, has one of the origins, and it is the only one. -/
theorem Reaction.origin (unique : ∀ first ∈ alerts.rows, ∀ second ∈ alerts.rows, IsOpenAlert rule.id deviceId first →
      IsOpenAlert rule.id deviceId second → first = second)
    (reaction : Reaction alerts rule deviceId siteId now evidence active after) {row : AlertInstance} (listed : row ∈ after.rows)
    (isOpen : IsOpenAlert rule.id deviceId row) : Origin alerts rule deviceId siteId now evidence active row := by
  cases reaction with
  | silent none_ => exact absurd isOpen (openAlert?_none none_ row listed)
  | opened none_ =>
      rcases Table.mem_push.mp listed with rfl | old
      · exact .opened
      · exact absurd isOpen (openAlert?_none none_ row old)
  | kept found standing => exact open_after_modify unique found listed isOpen ▸ .kept found standing
  | activated found debouncing elapsed => exact open_after_modify unique found listed isOpen ▸ .activated found debouncing elapsed
  | reopened found resolving => exact open_after_modify unique found listed isOpen ▸ .reopened found resolving
  | @dropped alert found debouncing =>
      obtain ⟨old, different⟩ := Table.mem_remove.mp listed
      obtain ⟨present, current⟩ := openAlert?_some found
      exact absurd (congrArg AlertInstance.id (unique row old alert present isOpen current)) different
  | ended found elapsed => exact absurd (open_after_modify unique found listed isOpen ▸ rfl) isOpen.2.2
  | began found settled later => exact open_after_modify unique found listed isOpen ▸ .began found settled
  | @waiting alert found resolving =>
      obtain ⟨present, current⟩ := openAlert?_some found
      exact unique alert present row listed current isOpen ▸ .waiting found resolving

theorem Origin.unique {row other : AlertInstance} (unique : ∀ first ∈ alerts.rows, ∀ second ∈ alerts.rows,
      IsOpenAlert rule.id deviceId first → IsOpenAlert rule.id deviceId second → first = second)
    (reaction : Reaction alerts rule deviceId siteId now evidence active after) (listed : row ∈ after.rows)
    (present : other ∈ after.rows) (isOpen : IsOpenAlert rule.id deviceId row) (current : IsOpenAlert rule.id deviceId other) :
    row = other := by
  cases reaction with
  | silent none_ => exact absurd isOpen (openAlert?_none none_ row listed)
  | opened none_ =>
      rcases Table.mem_push.mp listed with rfl | old <;> rcases Table.mem_push.mp present with rfl | older
      · rfl
      · exact absurd current (openAlert?_none none_ other older)
      · exact absurd isOpen (openAlert?_none none_ row old)
      · exact unique row old other older isOpen current
  | kept found => rw [open_after_modify unique found listed isOpen, open_after_modify unique found present current]
  | activated found => rw [open_after_modify unique found listed isOpen, open_after_modify unique found present current]
  | reopened found => rw [open_after_modify unique found listed isOpen, open_after_modify unique found present current]
  | dropped found =>
      exact unique row (Table.mem_remove.mp listed).1 other (Table.mem_remove.mp present).1 isOpen current
  | ended found => rw [open_after_modify unique found listed isOpen, open_after_modify unique found present current]
  | began found => rw [open_after_modify unique found listed isOpen, open_after_modify unique found present current]
  | waiting found => exact unique row listed other present isOpen current

theorem priorStatus_settled (evidence : Evidence) : priorStatus evidence = .active ∨ priorStatus evidence = .acknowledged := by
  unfold priorStatus
  split
  · exact .inr rfl
  · exact .inl rfl

/-- The status that is named is restored. -/
theorem priorStatus_named {status : AlertStatus} (settled : status = .active ∨ status = .acknowledged)
    (named : List.lookup "status_before_resolve" evidence = some (.text status.name)) : priorStatus evidence = status := by
  unfold priorStatus
  rw [named]
  rcases settled with rfl | rfl
  · exact if_neg (by decide)
  · exact if_pos rfl

theorem resolveObservedAt_eq {observed : Int} : resolveObservedAt evidence = .ok observed ↔
    List.lookup "resolve_observed_at" evidence = some (.instant observed) := by
  unfold resolveObservedAt
  split <;> simp_all

end Evaluation

/-! ## Histories -/

/-- The evaluations of a run: when, and whether the condition held. -/
def evaluations (steps : List AlertStep) : List (Int × Bool) :=
  steps.filterMap fun
    | .evaluate now active _ => some (now, active)
    | .acknowledge .. => none

theorem evaluations_evaluate (steps : List AlertStep) (now : Int) (active : Bool) (evidence : Evidence) :
    evaluations (steps ++ [.evaluate now active evidence]) = evaluations steps ++ [(now, active)] := by
  rw [evaluations, List.filterMap_append]
  rfl

theorem evaluations_acknowledge (steps : List AlertStep) (id : Nat) (now : Int) (note : Option String) :
    evaluations (steps ++ [.acknowledge id now note]) = evaluations steps := by
  rw [evaluations, List.filterMap_append]
  exact List.append_nil _

/-- Evaluations happen at strictly increasing times. -/
def Increasing (steps : List AlertStep) : Prop := ((evaluations steps).map Prod.fst).Pairwise (· < ·)

/-- All evaluations since a time saw the condition like this. -/
def SeenSince (steps : List AlertStep) (time : Int) (active : Bool) : Prop :=
  ∀ entry ∈ evaluations steps, time ≤ entry.1 → entry.2 = active

theorem SeenSince.evaluate {steps : List AlertStep} {time now : Int} {active : Bool} {evidence : Evidence}
    (seen : SeenSince steps time active) : SeenSince (steps ++ [.evaluate now active evidence]) time active := by
  intro entry listed since
  rw [evaluations_evaluate] at listed
  rcases List.mem_append.mp listed with old | new
  · exact seen entry old since
  · rw [List.mem_singleton.mp new]

theorem SeenSince.now {steps : List AlertStep} {now : Int} {active : Bool} {evidence : Evidence}
    (earlier : ∀ entry ∈ evaluations steps, entry.1 < now) : SeenSince (steps ++ [.evaluate now active evidence]) now active :=
  SeenSince.evaluate fun entry listed since => absurd (earlier entry listed) (Int.not_lt.mpr since)

theorem Increasing.earlier {steps : List AlertStep} {now : Int} {active : Bool} {evidence : Evidence}
    (increasing : Increasing (steps ++ [.evaluate now active evidence])) : ∀ entry ∈ evaluations steps, entry.1 < now := by
  intro entry listed
  rw [Increasing, evaluations_evaluate, List.map_append, List.pairwise_append] at increasing
  exact increasing.2.2 entry.1 (List.mem_map.mpr ⟨entry, listed, rfl⟩) now (by simp)

theorem Increasing.of_append {steps later : List AlertStep} (increasing : Increasing (steps ++ later)) : Increasing steps := by
  rw [Increasing, evaluations, List.filterMap_append, List.map_append, List.pairwise_append] at increasing
  exact increasing.1

section Histories
variable (rule : AlertRule) (subject : Subject) (start : AlertTable)

/-- The alerts after some steps. -/
def reached (steps : List AlertStep) : AlertTable := steps.foldl (AlertStep.apply rule subject) start

/-- The alert had the status when an evaluation let it begin to resolve, and has been resolving ever since. -/
def HeldBefore (steps : List AlertStep) (id : Nat) (status : AlertStatus) : Prop :=
  ∃ before now evidence between, steps = before ++ .evaluate now false evidence :: between ∧
    (∃ alert, (reached rule subject start before).get? id = some alert ∧ alert.status = status ∧ status ≠ .resolving) ∧
    ∀ part, part <+: between → ∃ alert,
      (reached rule subject start (before ++ .evaluate now false evidence :: part)).get? id = some alert ∧ alert.status = .resolving

/-- What a step of a run may do. -/
structure StepLaw (earlier : List AlertStep) (now : Int) (active : Bool) (evidence : Evidence) : Prop where
  activated : ∀ alert ∈ (reached rule subject start (earlier ++ [.evaluate now active evidence])).rows,
    IsOpenAlert rule.id subject.deviceId alert → alert.status = .active →
      (∀ before, (reached rule subject start earlier).get? alert.id = some before → before.status = .debouncing) →
        SeenSince (earlier ++ [.evaluate now active evidence]) alert.openedAt true ∧
          alert.openedAt + seconds rule.debounceSeconds ≤ now
  resolved : ∀ alert ∈ (reached rule subject start (earlier ++ [.evaluate now active evidence])).rows,
    ∀ before, (reached rule subject start earlier).get? alert.id = some before → IsOpenAlert rule.id subject.deviceId before →
      alert.status = .resolved → ∃ observed,
        (rule.resolveSeconds ≠ 0 → resolveObservedAt before.evidence = .ok observed) ∧
          SeenSince (earlier ++ [.evaluate now active evidence]) observed false ∧
            observed + seconds rule.resolveSeconds ≤ now
  restored : active = true → ∀ before ∈ (reached rule subject start earlier).rows,
    IsOpenAlert rule.id subject.deviceId before → before.status = .resolving → ∃ alert,
      (reached rule subject start (earlier ++ [.evaluate now active evidence])).get? before.id = some alert ∧
        (alert.status = .active ∨ alert.status = .acknowledged) ∧ HeldBefore rule subject start earlier before.id alert.status

/-- What an open alert stands for. -/
structure Watched (steps : List AlertStep) : Prop where
  unique : ∀ first ∈ (reached rule subject start steps).rows, ∀ second ∈ (reached rule subject start steps).rows,
    IsOpenAlert rule.id subject.deviceId first → IsOpenAlert rule.id subject.deviceId second → first = second
  debouncing : ∀ alert ∈ (reached rule subject start steps).rows, IsOpenAlert rule.id subject.deviceId alert →
    alert.status = .debouncing → SeenSince steps alert.openedAt true
  resolving : ∀ alert ∈ (reached rule subject start steps).rows, IsOpenAlert rule.id subject.deviceId alert →
    alert.status = .resolving → ∃ observed status, resolveObservedAt alert.evidence = .ok observed ∧
      SeenSince steps observed false ∧ List.lookup "status_before_resolve" alert.evidence = some (.text status.name) ∧
      (status = .active ∨ status = .acknowledged) ∧ HeldBefore rule subject start steps alert.id status

end Histories

section Runs
variable {rule : AlertRule} {subject : Subject} {start : AlertTable} {steps : List AlertStep}

theorem reached_snoc (step : AlertStep) :
    reached rule subject start (steps ++ [step]) = step.apply rule subject (reached rule subject start steps) := by
  rw [reached, List.foldl_append]
  rfl

theorem HeldBefore.extend {id : Nat} {status : AlertStatus} (held : HeldBefore rule subject start steps id status) {step : AlertStep}
    (still : ∃ alert, (reached rule subject start (steps ++ [step])).get? id = some alert ∧ alert.status = .resolving) :
    HeldBefore rule subject start (steps ++ [step]) id status := by
  obtain ⟨before, now, evidence, between, rfl, then_, since⟩ := held
  refine ⟨before, now, evidence, between ++ [step], by simp, then_, fun part begins => ?_⟩
  rcases List.prefix_concat_iff.mp begins with whole | inner
  · rw [whole]
    simpa using still
  · exact since part inner

theorem Watched.reaction (watched : Watched rule subject start steps) (now : Int) (active : Bool) (evidence : Evidence) :
    Reaction (reached rule subject start steps) rule subject.deviceId (subject.siteId rule) now evidence active
      (reached rule subject start (steps ++ [.evaluate now active evidence])) := by
  have dated : ∀ alert, openAlert? (reached rule subject start steps) rule.id subject.deviceId = some alert →
      alert.status = .resolving → ∃ observed, resolveObservedAt alert.evidence = .ok observed := by
    intro alert found resolving
    obtain ⟨observed, _, known, _⟩ := watched.resolving alert (openAlert?_some found).1 (openAlert?_some found).2 resolving
    exact ⟨observed, known⟩
  obtain ⟨after, ok, reaction⟩ := @applyCondition_reaction _ rule subject.deviceId (subject.siteId rule) now active evidence dated
  rw [reached_snoc, AlertStep.apply, evaluateRule_eq, ok]
  exact reaction

theorem Watched.evaluate (watched : Watched rule subject start steps) {now : Int} {active : Bool} {evidence : Evidence}
    (earlier : ∀ entry ∈ evaluations steps, entry.1 < now) :
    Watched rule subject start (steps ++ [.evaluate now active evidence]) := by
  have reaction := watched.reaction now active evidence
  have current : ∀ {alert}, openAlert? (reached rule subject start steps) rule.id subject.deviceId = some alert →
      alert ∈ (reached rule subject start steps).rows ∧ IsOpenAlert rule.id subject.deviceId alert := openAlert?_some
  refine ⟨fun first listed second present => Origin.unique watched.unique reaction listed present, ?_, ?_⟩
  · intro row listed isOpen debouncing
    cases reaction.origin watched.unique listed isOpen with
    | opened => exact .now earlier
    | @kept alert found standing =>
        rw [updateObservation_status] at debouncing
        rw [updateObservation_openedAt]
        exact (watched.debouncing alert (current found).1 (current found).2 debouncing).evaluate
    | activated => cases debouncing
    | @reopened alert found resolving =>
        rcases priorStatus_settled (updateObservation now evidence alert).evidence with prior | prior
        · exact absurd (prior.symm.trans debouncing) nofun
        · exact absurd (prior.symm.trans debouncing) nofun
    | began => cases debouncing
    | waiting found resolving =>
        rw [resolving] at debouncing
        cases debouncing
  · intro row listed isOpen resolving
    cases reaction.origin watched.unique listed isOpen with
    | opened =>
        unfold newAlert at resolving
        dsimp only at resolving
        split at resolving <;> cases resolving
    | @kept alert found standing =>
        rw [updateObservation_status] at resolving
        exact absurd resolving standing
    | activated => cases resolving
    | @reopened alert found _ =>
        rcases priorStatus_settled (updateObservation now evidence alert).evidence with prior | prior
        · exact absurd (prior.symm.trans resolving) nofun
        · exact absurd (prior.symm.trans resolving) nofun
    | @began alert found settled =>
        have found' : (reached rule subject start steps).get? alert.id = some alert :=
          Table.get?_eq_some.mpr ⟨(current found).1, rfl⟩
        have here : (reached rule subject start (steps ++ [.evaluate now false evidence])).get? alert.id =
            some (beginResolving now alert) := Table.get?_eq_some.mpr ⟨listed, rfl⟩
        refine ⟨now, alert.status, ?_, .now earlier, ?_, settled, steps, now, evidence, [], rfl, ⟨alert, found', rfl, ?_⟩, ?_⟩
        · rw [resolveObservedAt_eq, beginResolving, lookup_merge]
          rfl
        · rw [beginResolving, lookup_merge]
          rfl
        · rcases settled with status | status <;> rw [status] <;> exact nofun
        · intro part begins
          rw [List.prefix_nil.mp begins]
          exact ⟨_, here, rfl⟩
    | waiting found _ =>
        obtain ⟨observed, status, known, seen, named, settled, held⟩ :=
          watched.resolving row (current found).1 (current found).2 resolving
        refine ⟨observed, status, known, seen.evaluate, named, settled, held.extend ?_⟩
        exact ⟨row, Table.get?_eq_some.mpr ⟨listed, rfl⟩, resolving⟩

/-- An acknowledgement changes a row of the pair to acknowledged, or not at all. -/
theorem acknowledge_origin {alerts : AlertTable} {id : Nat} {now : Int} {note : Option String} {row : AlertInstance}
    (listed : row ∈ (acknowledgeAlert alerts id now note).rows) : row ∈ alerts.rows ∨
      ∃ old ∈ alerts.rows, old.status ≠ .resolved ∧ row = acknowledged now note old := by
  unfold acknowledgeAlert at listed
  split at listed
  · exact .inl listed
  · rename_i alert found
    split at listed
    · exact .inl listed
    · rename_i current
      rcases Table.mem_modify.mp listed with ⟨old, _⟩ | ⟨old, same, rfl⟩
      · exact .inl old
      · rw [not_or] at current
        obtain rfl := Option.some.inj (same.symm.trans found)
        exact .inr ⟨old, (Table.get?_eq_some.mp same).1, current.2, rfl⟩

theorem acknowledged_cases (now : Int) (note : Option String) (alert : AlertInstance) :
    acknowledged now note alert = alert ∨ ((acknowledged now note alert).status = .acknowledged ∧
      (acknowledged now note alert).ruleId = alert.ruleId ∧ (acknowledged now note alert).deviceId = alert.deviceId) := by
  unfold acknowledged
  split
  · exact .inr ⟨rfl, rfl, rfl⟩
  · exact .inl rfl

theorem Watched.acknowledge (watched : Watched rule subject start steps) (id : Nat) (now : Int) (note : Option String) :
    Watched rule subject start (steps ++ [.acknowledge id now note]) := by
  have here : reached rule subject start (steps ++ [.acknowledge id now note]) =
      acknowledgeAlert (reached rule subject start steps) id now note := reached_snoc _
  -- An open row comes from an open row with its id; if it is not acknowledged now, it is the same.
  have origin : ∀ row ∈ (reached rule subject start (steps ++ [.acknowledge id now note])).rows,
      IsOpenAlert rule.id subject.deviceId row → ∃ old ∈ (reached rule subject start steps).rows,
        IsOpenAlert rule.id subject.deviceId old ∧ old.id = row.id ∧ (row.status ≠ .acknowledged → row = old) := by
    intro row listed isOpen
    rw [here] at listed
    rcases acknowledge_origin listed with old | ⟨old, present, current, rfl⟩
    · exact ⟨row, old, isOpen, rfl, fun _ => rfl⟩
    · refine ⟨old, present, ?_, (acknowledged_id now note old).symm, fun standing => ?_⟩
      · rcases acknowledged_cases now note old with same | ⟨_, ruled, about⟩
        · rwa [same] at isOpen
        · exact ⟨ruled.symm.trans isOpen.1, about.symm.trans isOpen.2.1, current⟩
      · exact (acknowledged_cases now note old).resolve_right fun changed => standing changed.1
  refine ⟨?_, ?_, ?_⟩
  · intro first listed second present isOpen current
    obtain ⟨old, held, was, id₁, _⟩ := origin first listed isOpen
    obtain ⟨other, kept, is, id₂, _⟩ := origin second present current
    have equal := watched.unique old held other kept was is
    exact Table.eq_of_key _ listed present (id₁.symm.trans (equal ▸ id₂))
  · intro row listed isOpen debouncing
    obtain ⟨old, held, was, _, same⟩ := origin row listed isOpen
    obtain rfl := same (by rw [debouncing]; exact nofun)
    intro entry
    rw [evaluations_acknowledge]
    exact watched.debouncing row held was debouncing entry
  · intro row listed isOpen resolving
    obtain ⟨old, held, was, _, same⟩ := origin row listed isOpen
    obtain rfl := same (by rw [resolving]; exact nofun)
    obtain ⟨observed, status, known, seen, named, settled, before⟩ := watched.resolving row held was resolving
    refine ⟨observed, status, known, ?_, named, settled, before.extend ⟨row, Table.get?_eq_some.mpr ⟨listed, rfl⟩, resolving⟩⟩
    intro entry
    rw [evaluations_acknowledge]
    exact seen entry

/-- No alert of the pair is open when a run starts. -/
theorem watched_run (none_ : ∀ alert ∈ start.rows, ¬ IsOpenAlert rule.id subject.deviceId alert) (increasing : Increasing steps) :
    Watched rule subject start steps := by
  induction steps using List.reverseRecOn with
  | nil =>
      exact ⟨fun first listed _ _ isOpen => absurd isOpen (none_ first listed),
        fun alert listed isOpen => absurd isOpen (none_ alert listed), fun alert listed isOpen => absurd isOpen (none_ alert listed)⟩
  | append_singleton steps step ih =>
      have watched := ih increasing.of_append
      cases step with
      | evaluate now active evidence => exact watched.evaluate increasing.earlier
      | acknowledge id now note => exact watched.acknowledge id now note

/-! ## The law of a step -/

theorem Watched.stepLaw (watched : Watched rule subject start steps) {now : Int} {active : Bool} {evidence : Evidence}
    (earlier : ∀ entry ∈ evaluations steps, entry.1 < now) : StepLaw rule subject start steps now active evidence := by
  have reaction := watched.reaction now active evidence
  have current : ∀ {alert}, openAlert? (reached rule subject start steps) rule.id subject.deviceId = some alert →
      alert ∈ (reached rule subject start steps).rows ∧ IsOpenAlert rule.id subject.deviceId alert := openAlert?_some
  have listed_before : ∀ {alert}, openAlert? (reached rule subject start steps) rule.id subject.deviceId = some alert →
      (reached rule subject start steps).get? alert.id = some alert :=
    fun found => Table.get?_eq_some.mpr ⟨(current found).1, rfl⟩
  refine ⟨?_, ?_, ?_⟩
  · intro row listed isOpen active_ before
    cases reaction.origin watched.unique listed isOpen with
    | opened =>
        refine ⟨.now earlier, ?_⟩
        unfold newAlert at active_
        dsimp only at active_
        split at active_
        · cases active_
        · rename_i immediate
          rw [not_not] at immediate
          show now + seconds rule.debounceSeconds ≤ now
          rw [immediate, seconds]
          omega
    | @kept alert found standing =>
        rw [updateObservation_status] at active_
        have was := before alert (by rw [updateObservation_id]; exact listed_before found)
        rw [active_] at was
        cases was
    | @activated alert found debouncing elapsed =>
        have same : (observedThen now evidence activated alert).openedAt = alert.openedAt := updateObservation_openedAt
        rw [same]
        exact ⟨(watched.debouncing alert (current found).1 (current found).2 debouncing).evaluate, by omega⟩
    | @reopened alert found resolving =>
        have was := before alert ((congrArg _ (updateObservation_id now evidence alert)).trans (listed_before found))
        rw [resolving] at was
        cases was
    | began => cases active_
    | waiting found resolving =>
        rw [resolving] at active_
        cases active_
  · intro row listed before present isOpen resolved
    have was := Table.get?_eq_some.mp present
    -- A row that did not change is not resolved.
    have unchanged : row ∉ (reached rule subject start steps).rows := by
      intro old
      rw [Table.eq_of_key _ was.1 old was.2] at isOpen
      exact isOpen.2.2 resolved
    generalize next : reached rule subject start (steps ++ [.evaluate now active evidence]) = after at reaction listed
    cases reaction with
    | silent none_ => exact absurd isOpen (openAlert?_none none_ before was.1)
    | opened none_ => exact absurd isOpen (openAlert?_none none_ before was.1)
    | @kept alert found =>
        rcases Table.mem_modify.mp listed with ⟨old, _⟩ | ⟨old, held, rfl⟩
        · exact absurd old unchanged
        · obtain rfl := Option.some.inj (held.symm.trans (listed_before found))
          rw [updateObservation_status] at resolved
          exact absurd resolved (current found).2.2.2
    | activated found =>
        rcases Table.mem_modify.mp listed with ⟨old, _⟩ | ⟨old, held, rfl⟩
        · exact absurd old unchanged
        · cases resolved
    | @reopened alert found =>
        rcases Table.mem_modify.mp listed with ⟨old, _⟩ | ⟨old, held, rfl⟩
        · exact absurd old unchanged
        · rcases priorStatus_settled (updateObservation now evidence old).evidence with prior | prior
          · exact absurd (prior.symm.trans resolved) nofun
          · exact absurd (prior.symm.trans resolved) nofun
    | dropped found => exact absurd (Table.mem_remove.mp listed).1 unchanged
    | @ended alert found elapsed =>
        rcases Table.mem_modify.mp listed with ⟨old, _⟩ | ⟨old, held, rfl⟩
        · exact absurd old unchanged
        · obtain rfl := Option.some.inj (held.symm.trans (listed_before found))
          obtain rfl : before = old := Option.some.inj (present.symm.trans held)
          rcases elapsed with once | ⟨resolving, observed, known, waited⟩
          · refine ⟨now, fun later => absurd once later, .now earlier, ?_⟩
            rw [once, seconds]
            omega
          · obtain ⟨since, _, same, seen, _⟩ := watched.resolving before (current found).1 isOpen resolving
            obtain rfl : observed = since := Except.ok.inj (known.symm.trans same)
            exact ⟨observed, fun _ => known, seen.evaluate, by omega⟩
    | began found =>
        rcases Table.mem_modify.mp listed with ⟨old, _⟩ | ⟨old, held, rfl⟩
        · exact absurd old unchanged
        · cases resolved
    | waiting found => exact absurd listed unchanged
  · rintro rfl before listed isOpen resolving
    obtain ⟨observed, status, known, seen, named, settled, held⟩ := watched.resolving before listed isOpen resolving
    have same : ∀ {alert}, openAlert? (reached rule subject start steps) rule.id subject.deviceId = some alert → alert = before :=
      fun found => watched.unique _ (current found).1 before listed (current found).2 isOpen
    generalize next : reached rule subject start (steps ++ [.evaluate now true evidence]) = after at reaction
    cases reaction with
    | opened none_ => exact absurd isOpen (openAlert?_none none_ before listed)
    | kept found standing => exact absurd (same found ▸ resolving) standing
    | activated found debouncing =>
        rw [same found, resolving] at debouncing
        cases debouncing
    | reopened found =>
        obtain rfl := same found
        have restored : priorStatus (updateObservation now evidence _).evidence = status :=
          priorStatus_named settled (lookup_updateObservation (by decide) named)
        refine ⟨_, Table.get?_modify_same (observedThen now evidence reopened) (updateObservation_id now evidence)
          (listed_before found), ?_, ?_⟩
        · show priorStatus _ = .active ∨ priorStatus _ = .acknowledged
          rw [restored]
          exact settled
        · show HeldBefore rule subject start steps _ (priorStatus _)
          rw [restored]
          exact held

end Runs

/-! ## The two copies -/

/-- An alert of a device as an alert of the server. -/
def forgetDevice (rule : AlertRule) (alert : AlertInstance) : AlertInstance :=
  { alert with deviceId := none, siteId := rule.siteId }

/-- The alerts of the server are those of a device, and there are no others. -/
structure Mirrored (rule : AlertRule) (row : DeviceRow) (alerts mirror : AlertTable) : Prop where
  rows : mirror.rows = alerts.rows.map (forgetDevice rule)
  own : ∀ alert ∈ alerts.rows, alert.ruleId = rule.id ∧ alert.deviceId = some row.id

namespace Mirrored
variable {rule : AlertRule} {row : DeviceRow} {alerts mirror : AlertTable}

theorem freshNumber (mirrored : Mirrored rule row alerts mirror) : mirror.freshNumber = alerts.freshNumber := by
  rw [Table.freshNumber, mirrored.rows, List.map_map]
  rfl

theorem openAlert? (mirrored : Mirrored rule row alerts mirror) :
    openAlert? mirror rule.id none = (openAlert? alerts rule.id (some row.id)).map (forgetDevice rule) := by
  unfold Alerts.openAlert?
  rw [mirrored.rows, List.find?_map]
  congr 1
  -- On rows of the pair both copies look for the same status.
  apply List.find?_congr
  intro alert listed
  obtain ⟨ruled, about⟩ := mirrored.own alert listed
  simp [IsOpenAlert, forgetDevice, ruled, about]

theorem modify (mirrored : Mirrored rule row alerts mirror) {id : Nat} (change : AlertInstance → AlertInstance)
    (keeps : ∀ alert, (change alert).id = alert.id)
    (commutes : ∀ alert, change (forgetDevice rule alert) = forgetDevice rule (change alert))
    (pair : ∀ alert, (change alert).ruleId = alert.ruleId ∧ (change alert).deviceId = alert.deviceId) :
    Mirrored rule row (alerts.modify id change keeps) (mirror.modify id change keeps) := by
  constructor
  · show mirror.rows.map _ = (alerts.rows.map _).map _
    rw [mirrored.rows, List.map_map, List.map_map]
    apply List.map_congr_left
    intro alert _
    show (if alert.id = id then change (forgetDevice rule alert) else forgetDevice rule alert) =
      forgetDevice rule (if alert.id = id then change alert else alert)
    split
    · exact commutes alert
    · rfl
  · intro alert listed
    rcases Table.mem_modify.mp listed with ⟨old, _⟩ | ⟨old, found, rfl⟩
    · exact mirrored.own alert old
    · obtain ⟨ruled, about⟩ := mirrored.own old (Table.get?_eq_some.mp found).1
      exact ⟨(pair old).1.trans ruled, (pair old).2.trans about⟩

theorem remove (mirrored : Mirrored rule row alerts mirror) (id : Nat) :
    Mirrored rule row (alerts.remove id) (mirror.remove id) := by
  constructor
  · show mirror.rows.filter _ = (alerts.rows.filter _).map _
    rw [mirrored.rows, List.filter_map]
    rfl
  · intro alert listed
    exact mirrored.own alert (Table.mem_remove.mp listed).1

theorem push (mirrored : Mirrored rule row alerts mirror) (now : Int) (evidence : Evidence) :
    Mirrored rule row (alerts.push (newAlert alerts rule (some row.id) (some row.siteId) now evidence) alerts.freshNumber_not_mem)
      (mirror.push (newAlert mirror rule none rule.siteId now evidence) mirror.freshNumber_not_mem) := by
  constructor
  · show newAlert mirror rule none rule.siteId now evidence :: mirror.rows = _ :: alerts.rows.map _
    rw [mirrored.rows, newAlert, mirrored.freshNumber]
    rfl
  · intro alert listed
    rcases Table.mem_push.mp listed with rfl | old
    · exact ⟨rfl, rfl⟩
    · exact mirrored.own alert old

theorem updateObservation (now : Int) (evidence : Evidence) (alert : AlertInstance) :
    updateObservation now evidence (forgetDevice rule alert) = forgetDevice rule (updateObservation now evidence alert) := by
  unfold Alerts.updateObservation
  dsimp only [forgetDevice]
  split <;> rfl

theorem acknowledged (now : Int) (note : Option String) (alert : AlertInstance) :
    acknowledged now note (forgetDevice rule alert) = forgetDevice rule (acknowledged now note alert) := by
  unfold Alerts.acknowledged
  by_cases first : alert.acknowledgedAt = none
  · rw [if_pos first, if_pos (show (forgetDevice rule alert).acknowledgedAt = none from first)]
    rfl
  · rw [if_neg first, if_neg (show ¬ (forgetDevice rule alert).acknowledgedAt = none from first)]

theorem acknowledged_pair (now : Int) (note : Option String) (alert : AlertInstance) :
    (Alerts.acknowledged now note alert).ruleId = alert.ruleId ∧ (Alerts.acknowledged now note alert).deviceId = alert.deviceId := by
  rcases acknowledged_cases now note alert with same | changed
  · rw [same]
    exact ⟨rfl, rfl⟩
  · exact changed.2

theorem get? (mirrored : Mirrored rule row alerts mirror) (id : Nat) :
    mirror.get? id = (alerts.get? id).map (forgetDevice rule) := by
  unfold Table.get?
  rw [mirrored.rows, List.find?_map]
  rfl

/-- Both copies go the same way: an evaluation ends in mirrored tables or with the same error. -/
theorem applyCondition (mirrored : Mirrored rule row alerts mirror) (now : Int) (active : Bool) (evidence : Evidence) :
    Mirrored rule row ((applyCondition alerts rule (some row.id) (some row.siteId) now active evidence).toOption.getD alerts)
      ((applyCondition mirror rule none rule.siteId now active evidence).toOption.getD mirror) := by
  have observe : ∀ alert, Alerts.updateObservation now evidence (forgetDevice rule alert) =
      forgetDevice rule (Alerts.updateObservation now evidence alert) := updateObservation now evidence
  have observeThen : ∀ change : AlertInstance → AlertInstance,
      (∀ alert, change (forgetDevice rule alert) = forgetDevice rule (change alert)) → ∀ alert,
        observedThen now evidence change (forgetDevice rule alert) = forgetDevice rule (observedThen now evidence change alert) := by
    intro change commutes alert
    rw [observedThen, observe, commutes]
    rfl
  have pair : ∀ alert, (Alerts.updateObservation now evidence alert).ruleId = alert.ruleId ∧
      (Alerts.updateObservation now evidence alert).deviceId = alert.deviceId := fun _ => updateObservation_pair
  unfold Alerts.applyCondition
  rw [mirrored.openAlert?]
  cases Alerts.openAlert? alerts rule.id (some row.id) with
  | none =>
      cases active with
      | true => exact mirrored.push now evidence
      | false => exact mirrored
  | some alert =>
      have status : (forgetDevice rule alert).status = alert.status := rfl
      have openedAt : (forgetDevice rule alert).openedAt = alert.openedAt := rfl
      have observed : (forgetDevice rule alert).evidence = alert.evidence := rfl
      have id : (forgetDevice rule alert).id = alert.id := rfl
      cases active with
      | true =>
          simp only [Option.map_some, status, openedAt, id]
          split
          · split
            · exact mirrored.modify (observedThen now evidence activated) (updateObservation_id now evidence) (observeThen activated fun _ => rfl) pair
            · exact mirrored.modify (Alerts.updateObservation now evidence) (updateObservation_id now evidence) observe pair
          · split
            · exact mirrored.modify (observedThen now evidence reopened) (updateObservation_id now evidence) (observeThen reopened fun _ => rfl) pair
            · exact mirrored.modify (Alerts.updateObservation now evidence) (updateObservation_id now evidence) observe pair
      | false =>
          simp only [Option.map_some, status, observed, id]
          split
          · exact mirrored.remove alert.id
          · split
            · exact mirrored.modify (resolvedAlert now) (fun _ => rfl) (fun _ => rfl) fun _ => ⟨rfl, rfl⟩
            · split
              · exact mirrored.modify (beginResolving now) (fun _ => rfl) (fun _ => rfl) fun _ => ⟨rfl, rfl⟩
              · cases resolveObservedAt alert.evidence with
                | error raised => exact mirrored
                | ok time =>
                    show Mirrored rule row (Option.getD (Except.toOption (if _ then _ else _)) alerts)
                      (Option.getD (Except.toOption (if _ then _ else _)) mirror)
                    split
                    · exact mirrored.modify (resolvedAlert now) (fun _ => rfl) (fun _ => rfl) fun _ => ⟨rfl, rfl⟩
                    · exact mirrored

theorem acknowledgeAlert (mirrored : Mirrored rule row alerts mirror) (id : Nat) (now : Int) (note : Option String) :
    Mirrored rule row (acknowledgeAlert alerts id now note) (acknowledgeAlert mirror id now note) := by
  unfold Alerts.acknowledgeAlert
  rw [mirrored.get?]
  cases alerts.get? id with
  | none => exact mirrored
  | some alert =>
      have status : (forgetDevice rule alert).status = alert.status := rfl
      have resolvedAt : (forgetDevice rule alert).resolvedAt = alert.resolvedAt := rfl
      simp only [Option.map_some, status, resolvedAt]
      split
      · exact mirrored
      · exact mirrored.modify (Alerts.acknowledged now note) (acknowledged_id now note) (acknowledged now note) (acknowledged_pair now note)

theorem run (mirrored : Mirrored rule row alerts mirror) (steps : List AlertStep) :
    Mirrored rule row (reached rule (.device row) alerts steps) (reached rule .system mirror steps) := by
  induction steps generalizing alerts mirror with
  | nil => exact mirrored
  | cons step rest ih =>
      apply ih
      cases step with
      | evaluate now active evidence =>
          show Mirrored rule row ((evaluateRule ..).toOption.getD alerts) ((evaluateRule ..).toOption.getD mirror)
          rw [evaluateRule_eq, evaluateRule_eq]
          exact mirrored.applyCondition now active evidence
      | acknowledge id now note => exact mirrored.acknowledgeAlert id now note

theorem statuses (mirrored : Mirrored rule row alerts mirror) :
    mirror.rows.map AlertInstance.status = alerts.rows.map AlertInstance.status := by
  rw [mirrored.rows, List.map_map]
  rfl

end Mirrored

/-! ## Hysteresis -/

/-- What a history of a rule shows at every moment: one open alert at most, and only lawful steps. -/
structure HysteresisLaw (rule : AlertRule) (subject : Subject) (start : AlertTable) (before : List AlertStep) : Prop where
  single : ∀ first ∈ (reached rule subject start before).rows, ∀ second ∈ (reached rule subject start before).rows,
    IsOpenAlert rule.id subject.deviceId first → IsOpenAlert rule.id subject.deviceId second → first = second
  lawful : ∀ earlier now active evidence, before = earlier ++ [.evaluate now active evidence] →
    StepLaw rule subject start earlier now active evidence

/-- Every history keeps both thresholds, and both copies give the same one. -/
theorem alert_hysteresis (rule : AlertRule) (steps : List AlertStep) (increasing : Increasing steps) :
    (∀ subject start, (∀ alert ∈ start.rows, ¬ IsOpenAlert rule.id subject.deviceId alert) →
      ∀ before, before <+: steps → HysteresisLaw rule subject start before) ∧
    ∀ row alerts mirror, Mirrored rule row alerts mirror → ∀ before, before <+: steps →
      (reached rule .system mirror before).rows.map AlertInstance.status =
        (reached rule (.device row) alerts before).rows.map AlertInstance.status := by
  constructor
  · rintro subject start none_ before ⟨later, rfl⟩
    refine ⟨(watched_run none_ increasing.of_append).unique, ?_⟩
    rintro earlier now active evidence rfl
    have here := increasing.of_append
    exact (watched_run none_ here.of_append).stepLaw here.earlier
  · intro row alerts mirror mirrored before _
    exact (mirrored.run before).statuses

def noAlerts : AlertTable := ⟨[], List.nodup_nil⟩

/-- A rule that waits for a minute, both ways. -/
def offlineRule : AlertRule := { id := "offline", severity := "critical", debounceSeconds := 60, resolveSeconds := 60 }

/-- The condition flaps around both thresholds. -/
def flapping : List AlertStep :=
  [.evaluate 0 true [], .evaluate (seconds 60) true [], .acknowledge 1 (seconds 61) none, .evaluate (seconds 70) false [],
    .evaluate (seconds 80) true [], .evaluate (seconds 90) false [], .evaluate (seconds 150) false []]

theorem flapping_hysteresis :
    (∀ before, before <+: flapping → HysteresisLaw offlineRule .system noAlerts before) ∧
    (reached offlineRule .system noAlerts (flapping.take 5)).rows.map AlertInstance.status = [.acknowledged] ∧
    (reached offlineRule (.device ⟨"meter", "home"⟩) noAlerts flapping).rows.map AlertInstance.status = [.resolved] := by
  have increasing : Increasing flapping := by
    unfold Increasing
    decide
  have empty : Mirrored offlineRule ⟨"meter", "home"⟩ noAlerts noAlerts := ⟨rfl, fun _ listed => (nomatch listed)⟩
  obtain ⟨law, same⟩ := alert_hysteresis offlineRule flapping increasing
  refine ⟨law .system noAlerts fun _ listed => (nomatch listed), by decide, ?_⟩
  rw [← same _ _ _ empty flapping List.prefix_rfl]
  decide

end PowerMonitor.Alerts
