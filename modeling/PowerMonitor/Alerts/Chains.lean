import PowerMonitor.Alerts.Deliveries
import PowerMonitor.Library.Runs

/-! What becomes of an alert on a channel.

The attempts of a pair form a chain: every attempt but the last has failed, and a failure has its retry. A run that finds an
attempt in the batch of another one hands it over twice, and a crash leaves the attempt that was being sent behind.
-/

set_option autoImplicit false
namespace PowerMonitor.Alerts
open Library

/-- An attempt to deliver the alert on the channel; tests of a channel are not. -/
def OfPair (alertId channelId : String) (attempt : NotificationAttempt) : Prop :=
  attempt.isTest = false ∧ attempt.alertInstanceId = some alertId ∧ attempt.channelId = channelId

instance (alertId channelId : String) (attempt : NotificationAttempt) : Decidable (OfPair alertId channelId attempt) :=
  inferInstanceAs (Decidable (_ ∧ _))

def IsOpen (attempt : NotificationAttempt) : Prop := attempt.status = .queued ∨ attempt.status = .sending

/-- Nothing more will be attempted for the pair. -/
def IsFinal (attempt : NotificationAttempt) : Prop :=
  attempt.status = .delivered ∨ attempt.status = .cancelled ∨ (attempt.status = .failed ∧ attempt.attemptNumber = 4)

/-- Alerts are neither delivered twice nor abandoned. -/
structure DeliveryLaw (state : Deliveries) : Prop where
  handedOnce : ∀ id worker other, (id, worker) ∈ state.handed → (id, other) ∈ state.handed → worker = other
  numbered : ∀ alertId channelId, ∀ first ∈ state.log.rows, ∀ second ∈ state.log.rows, OfPair alertId channelId first →
    OfPair alertId channelId second → first.attemptNumber = second.attemptNumber → first = second
  consecutive : ∀ alertId channelId, ∀ attempt ∈ state.log.rows, OfPair alertId channelId attempt →
    attempt.attemptNumber ≤ 4 ∧ ∀ number < attempt.attemptNumber, ∃ earlier ∈ state.log.rows,
      OfPair alertId channelId earlier ∧ earlier.attemptNumber = number
  oneOpen : ∀ alertId channelId, ∀ first ∈ state.log.rows, ∀ second ∈ state.log.rows, OfPair alertId channelId first →
    OfPair alertId channelId second → IsOpen first → IsOpen second → first = second
  settled : ∀ alertId channelId, ∀ first ∈ state.log.rows, ∀ second ∈ state.log.rows, OfPair alertId channelId first →
    OfPair alertId channelId second → first.status = .delivered → second.status ≠ .queued
  recoverable : (∀ worker, state.executions worker = none) → ∀ alertId channelId,
    (∃ attempt ∈ state.log.rows, OfPair alertId channelId attempt) →
      (∃ attempt ∈ state.log.rows, OfPair alertId channelId attempt ∧ IsFinal attempt) ∨
        ∃ attempt ∈ state.log.rows, OfPair alertId channelId attempt ∧ attempt.status = .queued

/-! ## Chains -/

structure Chained (log : AttemptLog) : Prop where
  distinct : ∀ alertId channelId, ∀ first ∈ log.rows, ∀ second ∈ log.rows, OfPair alertId channelId first →
    OfPair alertId channelId second → first.attemptNumber = second.attemptNumber → first = second
  bounded : ∀ alertId channelId, ∀ attempt ∈ log.rows, OfPair alertId channelId attempt → attempt.attemptNumber ≤ 4
  retried : ∀ alertId channelId, ∀ attempt ∈ log.rows, OfPair alertId channelId attempt → attempt.status = .failed →
    attempt.attemptNumber < 4 → ∃ retry ∈ log.rows, OfPair alertId channelId retry ∧
      retry.attemptNumber = attempt.attemptNumber + 1
  preceded : ∀ alertId channelId, ∀ attempt ∈ log.rows, OfPair alertId channelId attempt → ∀ number,
    attempt.attemptNumber = number + 1 → ∃ earlier ∈ log.rows, OfPair alertId channelId earlier ∧
      earlier.attemptNumber = number ∧ earlier.status = .failed

namespace Chained
variable {log : AttemptLog} {alertId channelId : String}

/-- All attempts before an attempt of the pair are there, and have failed. -/
theorem before (chained : Chained log) {attempt : NotificationAttempt} (listed : attempt ∈ log.rows)
    (pair : OfPair alertId channelId attempt) {number : Nat} (less : number < attempt.attemptNumber) :
    ∃ earlier ∈ log.rows, OfPair alertId channelId earlier ∧ earlier.attemptNumber = number ∧ earlier.status = .failed := by
  obtain ⟨gap, same⟩ := Nat.exists_eq_add_of_lt less
  induction gap generalizing attempt with
  | zero => exact chained.preceded alertId channelId attempt listed pair number same
  | succ gap ih =>
      obtain ⟨previous, found, again, numbered, _⟩ :=
        chained.preceded alertId channelId attempt listed pair (number + gap + 1) same
      exact ih found again (by omega) numbered

theorem last (chained : Chained log) {attempt other : NotificationAttempt} (listed : attempt ∈ log.rows)
    (pair : OfPair alertId channelId attempt) (standing : attempt.status ≠ .failed) (present : other ∈ log.rows)
    (same : OfPair alertId channelId other) : other.attemptNumber ≤ attempt.attemptNumber := by
  by_contra later
  obtain ⟨earlier, found, again, numbered, failed⟩ := chained.before present same (Nat.lt_of_not_le later)
  rw [chained.distinct alertId channelId earlier found attempt listed again pair numbered] at failed
  exact standing failed

theorem unique_standing (chained : Chained log) {first second : NotificationAttempt} (listed : first ∈ log.rows)
    (present : second ∈ log.rows) (pair : OfPair alertId channelId first) (same : OfPair alertId channelId second)
    (standing : first.status ≠ .failed) (upright : second.status ≠ .failed) : first = second :=
  chained.distinct alertId channelId first listed second present pair same
    (Nat.le_antisymm (chained.last present same upright listed pair) (chained.last listed pair standing present same))

/-- The last attempt of a pair, unless it is the fifth failure, has not failed. -/
theorem exists_standing (chained : Chained log) {attempt : NotificationAttempt} (listed : attempt ∈ log.rows)
    (pair : OfPair alertId channelId attempt) : ∃ last ∈ log.rows, OfPair alertId channelId last ∧
      (last.status ≠ .failed ∨ last.attemptNumber = 4) := by
  obtain ⟨left, same⟩ := Nat.exists_eq_add_of_le (chained.bounded alertId channelId attempt listed pair)
  induction left generalizing attempt with
  | zero => exact ⟨attempt, listed, pair, .inr same.symm⟩
  | succ left ih =>
      by_cases failed : attempt.status = .failed
      · obtain ⟨retry, found, again, numbered⟩ :=
          chained.retried alertId channelId attempt listed pair failed (by omega)
        exact ih found again (by omega)
      · exact ⟨attempt, listed, pair, .inl failed⟩

/-- A change of the status of an attempt that has not failed, to anything but a failure. -/
theorem mark (chained : Chained log) {id : Nat} {change : NotificationAttempt → NotificationAttempt}
    (keeps : ∀ attempt, (change attempt).id = attempt.id)
    (pairs : ∀ attempt alertId channelId, OfPair alertId channelId (change attempt) ↔ OfPair alertId channelId attempt)
    (number : ∀ attempt, (change attempt).attemptNumber = attempt.attemptNumber)
    (open_ : ∀ attempt, log.get? id = some attempt → attempt.status ≠ .failed)
    (marks : ∀ attempt, (change attempt).status ≠ .failed) : Chained (log.modify id change keeps) := by
  -- Every attempt of the new log stands for one of the old log, and the failed ones are the same.
  have origin : ∀ attempt ∈ (log.modify id change keeps).rows, ∃ old ∈ log.rows, old.id = attempt.id ∧
      (∀ alertId channelId, OfPair alertId channelId attempt ↔ OfPair alertId channelId old) ∧
      attempt.attemptNumber = old.attemptNumber ∧ (attempt.status = .failed → old.status = .failed) := by
    intro attempt listed
    rcases Table.mem_modify.mp listed with ⟨old, _⟩ | ⟨old, found, rfl⟩
    · exact ⟨attempt, old, rfl, fun _ _ => Iff.rfl, rfl, fun failed => failed⟩
    · exact ⟨old, (Table.get?_eq_some.mp found).1, (keeps old).symm, pairs old, number old, fun failed => absurd failed (marks old)⟩
  have image : ∀ old ∈ log.rows, ∃ attempt ∈ (log.modify id change keeps).rows,
      (∀ alertId channelId, OfPair alertId channelId attempt ↔ OfPair alertId channelId old) ∧
      attempt.attemptNumber = old.attemptNumber ∧ (old.status = .failed → attempt.status = .failed) := by
    intro old listed
    by_cases chosen : old.id = id
    · have found : log.get? id = some old := Table.get?_eq_some.mpr ⟨listed, chosen⟩
      exact ⟨change old, Table.mem_modify.mpr (.inr ⟨old, found, rfl⟩), pairs old, number old,
        fun failed => absurd failed (open_ old found)⟩
    · exact ⟨old, Table.mem_modify.mpr (.inl ⟨listed, chosen⟩), fun _ _ => Iff.rfl, rfl, fun failed => failed⟩
  refine ⟨?_, ?_, ?_, ?_⟩
  · intro alertId channelId first listed second present pair same numbers
    obtain ⟨old, held, id₁, pairs₁, number₁, _⟩ := origin first listed
    obtain ⟨other, kept, id₂, pairs₂, number₂, _⟩ := origin second present
    have equal := chained.distinct alertId channelId old held other kept ((pairs₁ _ _).mp pair) ((pairs₂ _ _).mp same)
      (number₁.symm.trans (numbers.trans number₂))
    exact Table.eq_of_key _ listed present (id₁.symm.trans (equal ▸ id₂))
  · intro alertId channelId attempt listed pair
    obtain ⟨old, held, _, pairs, number, _⟩ := origin attempt listed
    exact number ▸ chained.bounded alertId channelId old held ((pairs _ _).mp pair)
  · intro alertId channelId attempt listed pair failed few
    obtain ⟨old, held, _, pairs, number, was⟩ := origin attempt listed
    obtain ⟨retry, found, again, numbered⟩ :=
      chained.retried alertId channelId old held ((pairs _ _).mp pair) (was failed) (number ▸ few)
    obtain ⟨now, present, pairs', number', _⟩ := image retry found
    exact ⟨now, present, (pairs' _ _).mpr again, by rw [number', numbered, number]⟩
  · intro alertId channelId attempt listed pair number next
    obtain ⟨old, held, _, pairs, numbered, _⟩ := origin attempt listed
    obtain ⟨earlier, found, again, before, failed⟩ :=
      chained.preceded alertId channelId old held ((pairs _ _).mp pair) number (numbered ▸ next)
    obtain ⟨now, present, pairs', number', fails⟩ := image earlier found
    exact ⟨now, present, (pairs' _ _).mpr again, number'.trans before, fails failed⟩

theorem mark_status (chained : Chained log) {id : Nat} {status : AttemptStatus} (marks : status ≠ .failed)
    (standing : ∀ attempt, log.get? id = some attempt → attempt.status ≠ .failed) :
    Chained (log.modify id (withStatus status) fun _ => rfl) :=
  @mark log chained id (withStatus status) (fun _ => rfl) (fun _ _ _ => Iff.rfl) (fun _ => rfl) standing fun _ => marks

theorem mark_delivered (chained : Chained log) {id : Nat}
    (standing : ∀ attempt, log.get? id = some attempt → attempt.status ≠ .failed) :
    Chained (log.modify id (concluded .delivered) fun _ => rfl) :=
  @mark log chained id (concluded .delivered) (fun _ => rfl) (fun _ _ _ => Iff.rfl) (fun _ => rfl) standing fun _ => nofun

theorem push_first (chained : Chained log) {attempt : NotificationAttempt} {fresh : attempt.id ∉ log.rows.map NotificationAttempt.id}
    (first : attempt.attemptNumber = 0) (queued : attempt.status = .queued)
    (new : ∀ alertId channelId, OfPair alertId channelId attempt → ∀ other ∈ log.rows, ¬ OfPair alertId channelId other) :
    Chained (log.push attempt fresh) := by
  refine ⟨?_, ?_, ?_, ?_⟩
  · intro alertId channelId one listed two present pair same numbers
    rcases List.mem_cons.mp listed with rfl | old <;> rcases List.mem_cons.mp present with rfl | other
    · rfl
    · exact absurd same (new _ _ pair two other)
    · exact absurd pair (new _ _ same one old)
    · exact chained.distinct _ _ one old two other pair same numbers
  · intro alertId channelId one listed pair
    rcases List.mem_cons.mp listed with rfl | old
    · omega
    · exact chained.bounded _ _ one old pair
  · intro alertId channelId one listed pair failed few
    rcases List.mem_cons.mp listed with rfl | old
    · rw [queued] at failed
      cases failed
    · obtain ⟨retry, found, rest⟩ := chained.retried _ _ one old pair failed few
      exact ⟨retry, List.mem_cons_of_mem _ found, rest⟩
  · intro alertId channelId one listed pair number next
    rcases List.mem_cons.mp listed with rfl | old
    · omega
    · obtain ⟨earlier, found, rest⟩ := chained.preceded _ _ one old pair number next
      exact ⟨earlier, List.mem_cons_of_mem _ found, rest⟩

end Chained

/-! ## Blocks -/

section Blocks
variable {log : AttemptLog}

theorem queueFirst_chained (chained : Chained log) (now : Int) (pair : String × String) : Chained (queueFirst now log pair) := by
  unfold queueFirst
  split
  · exact chained
  · rename_i none
    refine chained.push_first rfl rfl ?_
    rintro alertId channelId ⟨_, alert, channel⟩ other listed ⟨_, same, again⟩
    cases Option.some.inj alert
    cases channel
    exact none ⟨other, listed, same, again⟩

/-- A row of the log is still there, as it was. -/
def Keeps (log after : AttemptLog) : Prop := ∀ id attempt, log.get? id = some attempt → after.get? id = some attempt

theorem queueFirst_keeps (now : Int) (pair : String × String) : Keeps log (queueFirst now log pair) := by
  intro id attempt found
  unfold queueFirst
  split
  · exact found
  · exact Table.get?_push_old found

theorem queued_chained {now : Int} (pairs : List (String × String)) (chained : Chained log) :
    Chained (pairs.foldl (queueFirst now) log) := by
  induction pairs generalizing log with
  | nil => exact chained
  | cons pair rest ih => exact ih (queueFirst_chained chained now pair)

theorem queued_keeps {now : Int} (pairs : List (String × String)) : Keeps log (pairs.foldl (queueFirst now) log) := by
  induction pairs generalizing log with
  | nil => exact fun _ _ found => found
  | cons pair rest ih => exact fun id attempt found => ih id attempt (queueFirst_keeps now pair id attempt found)

theorem queued_status {now : Int} (pairs : List (String × String)) {attempt : NotificationAttempt}
    (listed : attempt ∈ (pairs.foldl (queueFirst now) log).rows) : attempt ∈ log.rows ∨ attempt.status = .queued := by
  induction pairs generalizing log with
  | nil => exact .inl listed
  | cons pair rest ih =>
      rcases ih listed with old | queued
      · unfold queueFirst at old
        split at old
        · exact .inl old
        · rcases Table.mem_push.mp old with rfl | older
          · exact .inr rfl
          · exact .inl older
      · exact .inr queued

theorem mem_dueAttempts {now : Int} {limit id : Nat} (due : id ∈ dueAttempts now limit log) :
    ∃ attempt, log.get? id = some attempt ∧ attempt.status = .queued := by
  obtain ⟨attempt, taken, rfl⟩ := List.mem_map.mp due
  have sorted := (List.perm_insertionSort _ _).mem_iff.mp (List.mem_of_mem_take taken)
  obtain ⟨listed, queued⟩ := List.mem_filter.mp sorted
  exact ⟨attempt, Table.get?_eq_some.mpr ⟨listed, rfl⟩, (of_decide_eq_true queued).1⟩

theorem dueAttempts_nodup (now : Int) (limit : Nat) : (dueAttempts now limit log).Nodup := by
  have rows : ((log.rows.filter fun attempt => Due now attempt).map NotificationAttempt.id).Nodup :=
    log.distinct.sublist (List.filter_sublist.map _)
  rw [dueAttempts, List.map_take]
  exact (((List.perm_insertionSort _ _).map _).nodup_iff.mpr rows).sublist (List.take_sublist _ _)

/-- What working through a batch of queued attempts does, up to the one that is sent. -/
structure Advanced (log : AttemptLog) (batch : List Nat) (result : AttemptLog × Option (Nat × List Nat)) : Prop where
  chained : Chained result.1
  others : ∀ id, id ∉ batch → result.1.get? id = log.get? id
  sending : ∀ id ∈ batch, ∀ attempt, result.1.get? id = some attempt → attempt.status = .sending →
    ∃ rest, result.2 = some (id, rest)
  next : ∀ current rest, result.2 = some (current, rest) → current ∈ batch ∧ rest.Nodup ∧ current ∉ rest ∧ rest ⊆ batch ∧
    (∃ attempt, result.1.get? current = some attempt ∧ attempt.status = .sending) ∧
    ∀ id ∈ rest, result.1.get? id = log.get? id

theorem advance_advanced {available : String → Bool} {batch : List Nat} (chained : Chained log) (distinct : batch.Nodup)
    (queued : ∀ id ∈ batch, ∃ attempt, log.get? id = some attempt ∧ attempt.status = .queued) :
    Advanced log batch (advance available log batch) := by
  induction batch generalizing log with
  | nil => exact ⟨chained, fun _ _ => rfl, nofun, nofun⟩
  | cons id rest ih =>
      obtain ⟨fresh, distinct⟩ := List.nodup_cons.mp distinct
      obtain ⟨attempt, found, status⟩ := queued id List.mem_cons_self
      have standing : ∀ other, log.get? id = some other → other.status ≠ .failed := by
        intro other same
        rw [found] at same
        rw [← Option.some.inj same, status]
        decide
      rw [advance, found]
      dsimp only
      split
      · have away : ∀ other, other ≠ id → (log.modify id (withStatus .sending) fun _ => rfl).get? other = log.get? other :=
          fun other different => Table.get?_modify_other (withStatus .sending) (fun _ => rfl) different
        have marked := Table.get?_modify_same (withStatus .sending) (fun _ => rfl) found
        refine ⟨chained.mark_status nofun standing, ?_, ?_, ?_⟩
        · intro other absent
          exact away other fun same => absent (same ▸ List.mem_cons_self)
        · intro other member row held sending
          rcases List.mem_cons.mp member with rfl | deeper
          · exact ⟨rest, rfl⟩
          · obtain ⟨was, before, queued⟩ := queued other (List.mem_cons_of_mem _ deeper)
            rw [away other fun same => fresh (same ▸ deeper), before] at held
            rw [← Option.some.inj held, queued] at sending
            cases sending
        · rintro current later ⟨⟩
          exact ⟨List.mem_cons_self, distinct, fresh, List.subset_cons_self _ _, ⟨_, marked, rfl⟩,
            fun other member => away other fun same => fresh (same ▸ member)⟩
      · have away : ∀ other, other ≠ id → (log.modify id (withStatus .cancelled) fun _ => rfl).get? other = log.get? other :=
          fun other different => Table.get?_modify_other (withStatus .cancelled) (fun _ => rfl) different
        have advanced := @ih (log.modify id (withStatus .cancelled) fun _ => rfl)
          (chained.mark_status nofun standing) distinct (by
            intro other member
            rw [away other fun same => fresh (same ▸ member)]
            exact queued other (List.mem_cons_of_mem _ member))
        refine ⟨advanced.chained, ?_, ?_, ?_⟩
        · intro other absent
          rw [List.mem_cons, not_or] at absent
          rw [advanced.others other absent.2, away other absent.1]
        · intro other member row held sending
          rcases List.mem_cons.mp member with rfl | deeper
          · have marked := Table.get?_modify_same (withStatus .cancelled) (fun _ => rfl) found
            rw [advanced.others other fresh] at held
            rw [← Option.some.inj (marked.symm.trans held)] at sending
            cases sending
          · exact advanced.sending other deeper row held sending
        · intro current later chosen
          obtain ⟨inside, nodup, apart, subset, marked, same⟩ := advanced.next current later chosen
          exact ⟨List.mem_cons_of_mem _ inside, nodup, apart, fun other member => List.mem_cons_of_mem _ (subset member),
            marked, fun other member => (same other member).trans (away other fun equal => fresh (equal ▸ subset member))⟩

end Blocks

/-! ## Failures -/

section Outcomes
variable {log : AttemptLog} {id : Nat} {attempt : NotificationAttempt}

/-- The attempt fails and its retry is queued, if there is one. -/
theorem failAttempt_chained (chained : Chained log) (now : Int) (found : log.get? attempt.id = some attempt)
    (sending : attempt.status = .sending) : Chained (failAttempt now log attempt) := by
  have listed := (Table.get?_eq_some.mp found).1
  -- The rows after the failure, before the retry is queued.
  have rows : ∀ row, row ∈ (log.modify attempt.id (concluded .failed) fun _ => rfl).rows →
      (row ∈ log.rows ∧ row.id ≠ attempt.id) ∨ row = concluded .failed attempt := by
    intro row present
    rcases Table.mem_modify.mp present with old | ⟨old, held, rfl⟩
    · exact .inl old
    · rw [Option.some.inj (held.symm.trans found)]
      exact .inr rfl
  have failed : concluded .failed attempt ∈ (log.modify attempt.id (concluded .failed) fun _ => rfl).rows :=
    Table.mem_modify.mpr (.inr ⟨attempt, found, rfl⟩)
  have others : ∀ row ∈ log.rows, row.id ≠ attempt.id → row ∈ (log.modify attempt.id (concluded .failed) fun _ => rfl).rows :=
    fun row old different => Table.mem_modify.mpr (.inl ⟨old, different⟩)
  have numbers : ∀ alertId channelId, ∀ row ∈ (log.modify attempt.id (concluded .failed) fun _ => rfl).rows,
      OfPair alertId channelId row → ∃ old ∈ log.rows, OfPair alertId channelId old ∧ old.id = row.id ∧
        old.attemptNumber = row.attemptNumber := by
    intro alertId channelId row present pair
    rcases rows row present with ⟨old, _⟩ | rfl
    · exact ⟨row, old, pair, rfl, rfl⟩
    · exact ⟨attempt, listed, pair, rfl, rfl⟩
  have distinct : ∀ alertId channelId, ∀ first ∈ (log.modify attempt.id (concluded .failed) fun _ => rfl).rows,
      ∀ second ∈ (log.modify attempt.id (concluded .failed) fun _ => rfl).rows, OfPair alertId channelId first →
        OfPair alertId channelId second → first.attemptNumber = second.attemptNumber → first = second := by
    intro alertId channelId first here second there pair same equal
    obtain ⟨old, held, pairs, id₁, number₁⟩ := numbers _ _ first here pair
    obtain ⟨other, kept, again, id₂, number₂⟩ := numbers _ _ second there same
    have one := chained.distinct alertId channelId old held other kept pairs again (number₁.trans (equal.trans number₂.symm))
    exact Table.eq_of_key _ here there (id₁.symm.trans (one ▸ id₂))
  have retried : ∀ alertId channelId, ∀ row ∈ (log.modify attempt.id (concluded .failed) fun _ => rfl).rows,
      OfPair alertId channelId row → row.status = .failed → row.attemptNumber < 4 → row ≠ concluded .failed attempt →
        ∃ retry ∈ (log.modify attempt.id (concluded .failed) fun _ => rfl).rows, OfPair alertId channelId retry ∧
          retry.attemptNumber = row.attemptNumber + 1 := by
    intro alertId channelId row present pair down few different
    obtain ⟨old, _⟩ := (rows row present).resolve_right different
    obtain ⟨retry, held, again, number⟩ := chained.retried alertId channelId row old pair down few
    by_cases chosen : retry.id = attempt.id
    · rw [Table.eq_of_key log held listed chosen] at again number
      exact ⟨_, failed, again, number⟩
    · exact ⟨retry, others retry held chosen, again, number⟩
  have preceded : ∀ alertId channelId, ∀ row ∈ (log.modify attempt.id (concluded .failed) fun _ => rfl).rows,
      OfPair alertId channelId row → ∀ number, row.attemptNumber = number + 1 →
        ∃ earlier ∈ (log.modify attempt.id (concluded .failed) fun _ => rfl).rows, OfPair alertId channelId earlier ∧
          earlier.attemptNumber = number ∧ earlier.status = .failed := by
    intro alertId channelId row present pair number next
    obtain ⟨old, held, pairs, _, same⟩ := numbers _ _ row present pair
    obtain ⟨earlier, kept, again, before, down⟩ := chained.preceded alertId channelId old held pairs number (same.trans next)
    refine ⟨earlier, others earlier kept fun chosen => ?_, again, before, down⟩
    rw [Table.eq_of_key log kept listed chosen, sending] at down
    cases down
  unfold failAttempt
  dsimp only
  split
  · rename_i few
    refine ⟨?_, ?_, ?_, ?_⟩
    · intro alertId channelId first here second there pair same equal
      -- A row with the number of the retry would stand after the attempt, which has not failed before.
      have none : ∀ row ∈ (log.modify attempt.id (concluded .failed) fun _ => rfl).rows, OfPair alertId channelId row →
          OfPair alertId channelId attempt → row.attemptNumber ≠ attempt.attemptNumber + 1 := by
        intro row present rowPair attemptPair number
        obtain ⟨old, held, oldPair, _, same⟩ := numbers _ _ row present rowPair
        have last := chained.last listed attemptPair (by rw [sending]; exact nofun) held oldPair
        omega
      rcases Table.mem_push.mp here with rfl | first_old <;> rcases Table.mem_push.mp there with rfl | second_old
      · rfl
      · exact absurd equal.symm (none second second_old same pair)
      · exact absurd equal (none first first_old pair same)
      · exact distinct _ _ first first_old second second_old pair same equal
    · intro alertId channelId row here pair
      rcases Table.mem_push.mp here with rfl | old
      · exact few
      · obtain ⟨was, held, pairs, _, same⟩ := numbers _ _ row old pair
        exact same ▸ chained.bounded _ _ was held pairs
    · intro alertId channelId row here pair down few
      rcases Table.mem_push.mp here with rfl | old
      · cases down
      · by_cases chosen : row = concluded .failed attempt
        · subst chosen
          exact ⟨_, Table.mem_push.mpr (.inl rfl), pair, rfl⟩
        · obtain ⟨retry, held, rest⟩ := retried _ _ row old pair down few chosen
          exact ⟨retry, Table.mem_push.mpr (.inr held), rest⟩
    · intro alertId channelId row here pair number next
      rcases Table.mem_push.mp here with rfl | old
      · exact ⟨_, Table.mem_push.mpr (.inr failed), pair, Nat.succ.inj next, rfl⟩
      · obtain ⟨earlier, held, rest⟩ := preceded _ _ row old pair number next
        exact ⟨earlier, Table.mem_push.mpr (.inr held), rest⟩
  · rename_i many
    refine ⟨distinct, ?_, ?_, preceded⟩
    · intro alertId channelId row here pair
      obtain ⟨was, held, pairs, _, same⟩ := numbers _ _ row here pair
      exact same ▸ chained.bounded _ _ was held pairs
    · intro alertId channelId row here pair down few
      refine retried _ _ row here pair down few ?_
      rintro rfl
      exact many few

/-- An outcome concludes the attempt, leaves the others and sends nothing. -/
structure Concluded (log : AttemptLog) (id : Nat) (after : AttemptLog) : Prop where
  chained : Chained after
  others : ∀ other row, other ≠ id → log.get? other = some row → after.get? other = some row
  done : ∃ row, after.get? id = some row ∧ (row.status = .delivered ∨ row.status = .failed)
  sending : ∀ row ∈ after.rows, row.status = .sending → row ∈ log.rows ∧ row.id ≠ id

theorem recordOutcome_concluded (chained : Chained log) {now : Int} {accepted : Bool} (found : log.get? id = some attempt)
    (sending : attempt.status = .sending) : Concluded log id (recordOutcome now accepted log id) := by
  obtain ⟨listed, rfl⟩ := Table.get?_eq_some.mp found
  have away : ∀ status other row, other ≠ attempt.id → log.get? other = some row →
      (log.modify attempt.id (concluded status) fun _ => rfl).get? other = some row :=
    fun status other row different held =>
      (Table.get?_modify_other (concluded status) (fun _ => rfl) different).trans held
  have done : ∀ status, (log.modify attempt.id (concluded status) fun _ => rfl).get? attempt.id =
      some (concluded status attempt) := fun status => Table.get?_modify_same (concluded status) (fun _ => rfl) found
  have settled : ∀ status, status ≠ .sending → ∀ row ∈ (log.modify attempt.id (concluded status) fun _ => rfl).rows,
      row.status = .sending → row ∈ log.rows ∧ row.id ≠ attempt.id := by
    intro status quiet row present active
    rcases Table.mem_modify.mp present with old | ⟨old, _, rfl⟩
    · exact old
    · exact absurd active quiet
  rw [recordOutcome, found]
  dsimp only
  split
  · refine ⟨chained.mark_delivered ?_, away .delivered, ⟨_, done .delivered, .inl rfl⟩, settled .delivered nofun⟩
    intro other same
    rw [← Option.some.inj (found.symm.trans same), sending]
    exact nofun
  · refine ⟨failAttempt_chained chained now found sending, ?_, ?_, ?_⟩ <;> unfold failAttempt <;> dsimp only <;> split
    · exact fun other row different held => Table.get?_push_old (away .failed other row different held)
    · exact away .failed
    · exact ⟨_, Table.get?_push_old (done .failed), .inr rfl⟩
    · exact ⟨_, done .failed, .inr rfl⟩
    · intro row present active
      rcases Table.mem_push.mp present with rfl | old
      · cases active
      · exact settled .failed nofun row old active
    · exact settled .failed nofun

end Outcomes

/-! ## Runs -/

/-- Every attempt that is being sent is the one of a run, batches wait and are disjoint, and what was handed over is concluded. -/
structure Orderly (state : Deliveries) : Prop where
  chained : Chained state.log
  running : ∀ worker execution, state.executions worker = some execution →
    (∃ attempt, state.log.get? execution.current = some attempt ∧ attempt.status = .sending) ∧ execution.batch.Nodup ∧
      ∀ id ∈ execution.batch, ∃ attempt, state.log.get? id = some attempt ∧ attempt.status = .queued
  apart : ∀ worker execution other second, state.executions worker = some execution → state.executions other = some second →
    worker ≠ other → execution.current ≠ second.current ∧ ∀ id ∈ execution.batch, id ∉ second.batch
  sending : ∀ attempt ∈ state.log.rows, attempt.status = .sending → ∃ worker execution,
    state.executions worker = some execution ∧ execution.current = attempt.id
  handed : ∀ id worker, (id, worker) ∈ state.handed → ∃ attempt, state.log.get? id = some attempt ∧
    (attempt.status = .delivered ∨ attempt.status = .failed)
  once : ∀ id worker other, (id, worker) ∈ state.handed → (id, other) ∈ state.handed → worker = other

namespace Orderly
variable {state : Deliveries}

/-- The block of an idle worker that works through queued attempts of its own. -/
theorem proceed (orderly : Orderly state) {worker : String} {now : Int} {available : String → Bool} {batch : List Nat}
    (idle : state.executions worker = none) (distinct : batch.Nodup)
    (queued : ∀ id ∈ batch, ∃ attempt, state.log.get? id = some attempt ∧ attempt.status = .queued)
    (own : ∀ other execution, state.executions other = some execution → ∀ id ∈ execution.batch, id ∉ batch) :
    Orderly (state.proceed worker now available batch) := by
  have advanced := @advance_advanced state.log available batch orderly.chained distinct queued
  -- What is sent, or concluded, is not in the batch.
  have untouched : ∀ id attempt, state.log.get? id = some attempt → attempt.status ≠ .queued → id ∉ batch := by
    intro id attempt found standing member
    obtain ⟨other, same, waits⟩ := queued id member
    rw [found] at same
    exact standing (Option.some.inj same ▸ waits)
  have others : ∀ other execution, (state.proceed worker now available batch).executions other = some execution →
      other ≠ worker → state.executions other = some execution := by
    intro other execution held different
    rwa [Deliveries.proceed_other different] at held
  have mine : ∀ execution, (state.proceed worker now available batch).executions worker = some execution →
      (advance available state.log batch).2 = some (execution.current, execution.batch) := by
    intro execution held
    rw [Deliveries.proceed_self, Option.map_eq_some_iff] at held
    obtain ⟨⟨current, rest⟩, chosen, rfl⟩ := held
    exact chosen
  have before : ∀ other execution, state.executions other = some execution →
      (∃ attempt, (state.proceed worker now available batch).log.get? execution.current = some attempt ∧
        attempt.status = .sending) ∧ execution.current ∉ batch := by
    intro other execution held
    obtain ⟨⟨attempt, found, active⟩, _⟩ := orderly.running other execution held
    have outside := untouched _ attempt found (by rw [active]; exact nofun)
    exact ⟨⟨attempt, (advanced.others _ outside).trans found, active⟩, outside⟩
  refine ⟨advanced.chained, ?_, ?_, ?_, ?_, orderly.once⟩
  · intro other execution held
    by_cases same : other = worker
    · subst same
      obtain ⟨_, nodup, _, subset, active, still⟩ := advanced.next _ _ (mine execution held)
      refine ⟨active, nodup, fun id member => ?_⟩
      obtain ⟨attempt, found, waits⟩ := queued id (subset member)
      exact ⟨attempt, (still id member).trans found, waits⟩
    · have old := others other execution held same
      obtain ⟨_, nodup, waiting⟩ := orderly.running other execution old
      refine ⟨(before other execution old).1, nodup, fun id member => ?_⟩
      obtain ⟨attempt, found, waits⟩ := waiting id member
      exact ⟨attempt, (advanced.others id (own other execution old id member)).trans found, waits⟩
  · intro first execution second another held kept different
    by_cases one : first = worker
    · subst one
      have old := others second another kept (Ne.symm different)
      obtain ⟨inside, _, _, subset, _⟩ := advanced.next _ _ (mine execution held)
      exact ⟨fun same => (before second another old).2 (same ▸ inside),
        fun id member clash => own second another old id clash (subset member)⟩
    · by_cases two : second = worker
      · subst two
        have old := others first execution held one
        obtain ⟨inside, _, _, subset, _⟩ := advanced.next _ _ (mine another kept)
        exact ⟨fun same => (before first execution old).2 (same ▸ inside),
          fun id member clash => own first execution old id member (subset clash)⟩
      · exact orderly.apart first execution second another (others _ _ held one) (others _ _ kept two) different
  · intro attempt listed active
    have found := Table.get?_eq_some.mpr ⟨listed, rfl⟩
    by_cases member : attempt.id ∈ batch
    · obtain ⟨rest, chosen⟩ := advanced.sending attempt.id member attempt found active
      refine ⟨worker, ⟨attempt.id, rest, now⟩, ?_, rfl⟩
      rw [Deliveries.proceed_self, chosen]
      rfl
    · have old : state.log.get? attempt.id = some attempt := (advanced.others attempt.id member).symm.trans found
      obtain ⟨other, execution, held, current⟩ := orderly.sending attempt (Table.get?_eq_some.mp old).1 active
      refine ⟨other, execution, ?_, current⟩
      rw [Deliveries.proceed_other, held]
      rintro rfl
      rw [idle] at held
      cases held
  · intro id other entry
    obtain ⟨attempt, found, ended⟩ := orderly.handed id other entry
    refine ⟨attempt, (advanced.others id (untouched id attempt found ?_)).trans found, ended⟩
    rcases ended with done | done <;> rw [done] <;> exact nofun

/-- A run records the outcome of its attempt. -/
theorem conclude (orderly : Orderly state) {worker : String} {execution : Execution} {accepted : Bool}
    (held : state.executions worker = some execution) : Orderly (state.conclude worker execution accepted) := by
  obtain ⟨⟨attempt, found, active⟩, _, waiting⟩ := orderly.running worker execution held
  have outcome := @recordOutcome_concluded state.log execution.current attempt orderly.chained execution.now accepted found active
  have others : ∀ other second, (state.conclude worker execution accepted).executions other = some second →
      other ≠ worker ∧ state.executions other = some second := by
    intro other second kept
    by_cases same : other = worker
    · rw [same, Deliveries.conclude_self] at kept
      cases kept
    · rw [Deliveries.conclude_other same] at kept
      exact ⟨same, kept⟩
  have unhanded : ∀ other, (execution.current, other) ∉ state.handed := by
    intro other entry
    obtain ⟨row, same, ended⟩ := orderly.handed _ _ entry
    rw [← Option.some.inj (found.symm.trans same), active] at ended
    rcases ended with done | done <;> cases done
  refine ⟨outcome.chained, ?_, ?_, ?_, ?_, ?_⟩
  · intro other second kept
    obtain ⟨different, old⟩ := others other second kept
    obtain ⟨⟨row, there, sends⟩, nodup, waits⟩ := orderly.running other second old
    refine ⟨⟨row, outcome.others _ row (orderly.apart other second worker execution old held different).1 there, sends⟩, nodup, ?_⟩
    intro id member
    obtain ⟨row, there, queued⟩ := waits id member
    refine ⟨row, outcome.others id row ?_ there, queued⟩
    rintro rfl
    rw [found] at there
    rw [← Option.some.inj there, active] at queued
    cases queued
  · intro first one second two kept present different
    exact orderly.apart first one second two (others _ _ kept).2 (others _ _ present).2 different
  · intro row listed sends
    obtain ⟨old, away⟩ := outcome.sending row listed sends
    obtain ⟨other, second, kept, current⟩ := orderly.sending row old sends
    refine ⟨other, second, ?_, current⟩
    rw [Deliveries.conclude_other, kept]
    rintro rfl
    rw [held] at kept
    exact away (current.symm.trans (Option.some.inj kept ▸ rfl))
  · intro id other entry
    rcases List.mem_cons.mp entry with same | old
    · cases same
      exact outcome.done
    · obtain ⟨row, there, ended⟩ := orderly.handed id other old
      refine ⟨row, outcome.others id row ?_ there, ended⟩
      rintro rfl
      exact unhanded other old
  · intro id first second entry again
    rcases List.mem_cons.mp entry with one | one <;> rcases List.mem_cons.mp again with two | two
    · rw [(Prod.mk.inj one).2, (Prod.mk.inj two).2]
    · exact absurd ((Prod.mk.inj one).1 ▸ two) (unhanded second)
    · exact absurd ((Prod.mk.inj two).1 ▸ one) (unhanded first)
    · exact orderly.once id first second one two

/-- First attempts are queued. -/
theorem queue (orderly : Orderly state) (alerts : List AlertRow) (channels : List NotificationChannel) (now : Int) :
    Orderly { state with log := queued state alerts channels now } := by
  have keeps : Keeps state.log (queued state alerts channels now) := queued_keeps _
  refine ⟨queued_chained _ orderly.chained, ?_, orderly.apart, ?_, ?_, orderly.once⟩
  · intro worker execution held
    obtain ⟨⟨attempt, found, active⟩, nodup, waiting⟩ := orderly.running worker execution held
    refine ⟨⟨attempt, keeps _ attempt found, active⟩, nodup, fun id member => ?_⟩
    obtain ⟨row, there, waits⟩ := waiting id member
    exact ⟨row, keeps id row there, waits⟩
  · intro attempt listed active
    rcases queued_status _ listed with old | waits
    · exact orderly.sending attempt old active
    · rw [waits] at active
      cases active
  · intro id worker entry
    obtain ⟨attempt, found, ended⟩ := orderly.handed id worker entry
    exact ⟨attempt, keeps id attempt found, ended⟩

theorem law (orderly : Orderly state) : DeliveryLaw state := by
  have open_standing : ∀ {attempt : NotificationAttempt}, IsOpen attempt → attempt.status ≠ .failed := by
    rintro attempt (waits | active) failed
    · rw [waits] at failed
      cases failed
    · rw [active] at failed
      cases failed
  refine ⟨orderly.once, orderly.chained.distinct, ?_, ?_, ?_, ?_⟩
  · intro alertId channelId attempt listed pair
    refine ⟨orderly.chained.bounded _ _ attempt listed pair, fun number less => ?_⟩
    obtain ⟨earlier, found, again, numbered, _⟩ := orderly.chained.before listed pair less
    exact ⟨earlier, found, again, numbered⟩
  · intro alertId channelId first listed second present pair same one two
    exact orderly.chained.unique_standing listed present pair same (open_standing one) (open_standing two)
  · intro alertId channelId first listed second present pair same done waits
    have equal := orderly.chained.unique_standing listed present pair same (by rw [done]; exact nofun) (by rw [waits]; exact nofun)
    rw [equal, waits] at done
    cases done
  · rintro still alertId channelId ⟨attempt, listed, pair⟩
    obtain ⟨last, found, again, standing⟩ := orderly.chained.exists_standing listed pair
    cases status : last.status with
    | queued => exact .inr ⟨last, found, again, status⟩
    | sending =>
        obtain ⟨worker, execution, held, _⟩ := orderly.sending last found status
        rw [still worker] at held
        cases held
    | delivered => exact .inl ⟨last, found, again, .inl status⟩
    | cancelled => exact .inl ⟨last, found, again, .inr (.inl status)⟩
    | failed => exact .inl ⟨last, found, again, .inr (.inr ⟨status, standing.resolve_left fun other => other status⟩)⟩

end Orderly

/-- A run that starts selects no attempt that waits in the batch of another one, and no run is interrupted. -/
def Undisturbed (state : Deliveries) : DeliveryStep → Prop
  | .start _ alerts channels now limit _ => ∀ other execution, state.executions other = some execution →
      ∀ id ∈ execution.batch, id ∉ dueAttempts now limit (queued state alerts channels now)
  | .resume .. => True
  | .crash worker => state.executions worker = none

/-- Nothing runs, and what earlier runs have left is in order. -/
structure Resting (state : Deliveries) : Prop where
  chained : Chained state.log
  idle : ∀ worker, state.executions worker = none
  still : ∀ attempt ∈ state.log.rows, attempt.status ≠ .sending
  unhanded : state.handed = []

theorem Resting.orderly {state : Deliveries} (resting : Resting state) : Orderly state where
  chained := resting.chained
  running worker execution held := by
    rw [resting.idle worker] at held
    cases held
  apart worker execution _ _ held := by
    rw [resting.idle worker] at held
    cases held
  sending attempt listed active := absurd active (resting.still attempt listed)
  handed id worker entry := by
    rw [resting.unhanded] at entry
    cases entry
  once id worker other entry := by
    rw [resting.unhanded] at entry
    cases entry

theorem Orderly.step {state : Deliveries} (orderly : Orderly state) {step : DeliveryStep} (undisturbed : Undisturbed state step) :
    Orderly (step.apply state) := by
  cases step with
  | start worker alerts channels now limit available =>
      rw [DeliveryStep.apply]
      split
      · exact orderly
      · rename_i idle
        exact (orderly.queue alerts channels now).proceed idle (dueAttempts_nodup now limit) (fun id => mem_dueAttempts)
          undisturbed
  | resume worker accepted available =>
      rw [DeliveryStep.apply]
      split
      · exact orderly
      · rename_i execution held
        obtain ⟨⟨attempt, found, active⟩, nodup, waiting⟩ := orderly.running worker execution held
        have outcome := @recordOutcome_concluded state.log execution.current attempt orderly.chained execution.now accepted
          found active
        refine (orderly.conclude held).proceed Deliveries.conclude_self nodup ?_ ?_
        · intro id member
          obtain ⟨row, there, waits⟩ := waiting id member
          refine ⟨row, outcome.others id row ?_ there, waits⟩
          rintro rfl
          rw [found] at there
          rw [← Option.some.inj there, active] at waits
          cases waits
        · intro other second kept id member clash
          by_cases same : other = worker
          · rw [same, Deliveries.conclude_self] at kept
            cases kept
          · rw [Deliveries.conclude_other same] at kept
            exact (orderly.apart other second worker execution kept held same).2 id member clash
  | crash worker =>
      rw [DeliveryStep.apply, Function.update_eq_self_iff.mpr undisturbed.symm]
      exact orderly

/-- In every state of a run whose steps are undisturbed. -/
theorem deliveries_lawful {state : Deliveries} {steps : List DeliveryStep} (resting : Resting state)
    (undisturbed : Along DeliveryStep.apply Undisturbed state steps) :
    ∀ earlier later, steps = earlier ++ later → DeliveryLaw (earlier.foldl DeliveryStep.apply state) := by
  rintro earlier later rfl
  exact (undisturbed.of_append.invariant resting.orderly fun _ _ orderly meets => orderly.step meets).law

/-! ## One alert on two channels -/

def nothingSent : Deliveries where
  log := ⟨[], List.nodup_nil⟩
  executions _ := none

theorem nothingSent_resting : Resting nothingSent := by
  have none : ∀ attempt, attempt ∉ nothingSent.log.rows := fun _ => List.not_mem_nil
  exact ⟨⟨fun _ _ _ listed => absurd listed (none _), fun _ _ _ listed => absurd listed (none _),
    fun _ _ _ listed => absurd listed (none _), fun _ _ _ listed => absurd listed (none _)⟩, fun _ => rfl,
    fun _ listed => absurd listed (none _), rfl⟩

def outage : AlertRow := { id := "outage", ruleType := "offline", status := .active }

def mail : NotificationChannel := { id := "mail" }

def pager : NotificationChannel := { id := "pager" }

def startBy (worker : String) (channels : List NotificationChannel) (now : Int) : DeliveryStep :=
  .start worker [outage] channels now 20 fun _ => true

def resumeBy (worker : String) (accepted : Bool) : DeliveryStep := .resume worker accepted fun _ => true

/-- A worker whose delivery fails, and another one that retries it later. -/
def secondTry : List DeliveryStep := [startBy "first" [mail] 0, resumeBy "first" false, startBy "second" [mail] 60]

theorem second_try_lawful : DeliveryLaw ((secondTry ++ [resumeBy "second" true]).foldl DeliveryStep.apply nothingSent) := by
  refine deliveries_lawful nothingSent_resting ?_ (secondTry ++ [resumeBy "second" true]) [] (List.append_nil _).symm
  -- Nothing runs when the second worker starts.
  have idle : ∀ worker, ([startBy "first" [mail] 0, resumeBy "first" false].foldl DeliveryStep.apply nothingSent).executions
      worker = none := by
    intro worker
    by_cases same : worker = "first"
    · subst same
      decide
    · exact (Deliveries.proceed_other same).trans ((Deliveries.conclude_other same).trans (Deliveries.proceed_other same))
  refine ⟨fun _ _ held => (nomatch held), trivial, fun other execution held => ?_, trivial, trivial⟩
  exact absurd ((idle other).symm.trans held) nofun

/-- Two workers send one attempt: the second one finds it in the batch of the first. A worker that crashes leaves
an alert behind that nobody attempts to deliver again. -/
theorem doubled_and_abandoned : Resting nothingSent ∧
    ¬ DeliveryLaw ([startBy "first" [mail, pager] 0, startBy "second" [mail, pager] 0, resumeBy "second" true,
      resumeBy "first" true, resumeBy "first" true].foldl DeliveryStep.apply nothingSent) ∧
    ¬ DeliveryLaw ([startBy "first" [mail] 0, .crash "first"].foldl DeliveryStep.apply nothingSent) := by
  refine ⟨nothingSent_resting, fun law => ?_, fun law => ?_⟩
  · exact absurd (law.handedOnce 1 "first" "second" (by decide) (by decide)) (by decide)
  · have still : ∀ worker, ([startBy "first" [mail] 0, .crash "first"].foldl DeliveryStep.apply nothingSent).executions worker =
        none := by
      intro worker
      by_cases same : worker = "first"
      · subst same
        decide
      · exact (Function.update_of_ne same ..).trans (Deliveries.proceed_other same)
    rcases law.recoverable still "outage" "mail" (by decide) with final | waits
    · revert final
      unfold IsFinal
      decide
    · revert waits
      decide

end PowerMonitor.Alerts
