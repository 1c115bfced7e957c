import PowerMonitor.Ingestion.Effects

/-! What the gate of a device lets into its reading rows.

Whatever a batch brings, a call stores readings only through an open gate, in the
generation of the data state and above its boundary. The data state itself is not
written by ingestion.
-/

set_option autoImplicit false
namespace PowerMonitor.Ingestion
open Library

/-- The conditions a batch has met when the gate returns a generation. -/
structure Admitted (state : Option DeviceDataState) (readings : List Reading) (generation : Nat) : Prop where
  opened : ∀ row ∈ state, row.ingestionGate = .opened ∧ row.resetRequiredOnReconnect = false
  generation : generation = (state.map DeviceDataState.dataGeneration).getD 0
  above : ∀ reading ∈ readings, (state.map DeviceDataState.resetBoundary).getD 0 < reading.sequence.val

theorem offendingSequence_none {readings : List Reading} {ranges : List UnavailableSequenceRange} {boundary : Nat}
    (none : offendingSequence readings ranges boundary = none) :
    ∀ reading ∈ readings, boundary < reading.sequence.val := by
  intro reading member
  have empty := (Option.or_eq_none_iff.mp none).1
  rw [List.min?_eq_none_iff, List.filter_eq_nil_iff] at empty
  have passed := empty reading.sequence.val (List.mem_map.mpr ⟨reading, member, rfl⟩)
  simpa using passed

theorem enforceDataGenerationGate_admitted {state : Option DeviceDataState} {readings : List Reading}
    {batchGeneration : Option Nat} {ranges : List UnavailableSequenceRange} {generation : Nat}
    (passed : enforceDataGenerationGate state readings batchGeneration ranges = .ok generation) :
    Admitted state readings generation := by
  rw [enforceDataGenerationGate] at passed
  obtain ⟨opened, passed⟩ := raiseIf_bind_eq_ok.mp passed
  obtain ⟨claimed, _, passed⟩ := bind_eq_ok.mp passed
  obtain ⟨_, passed⟩ := raiseIf_bind_eq_ok.mp passed
  obtain ⟨_, passed⟩ := raiseIf_bind_eq_ok.mp passed
  obtain ⟨_, passed⟩ := raiseIf_bind_eq_ok.mp passed
  split at passed
  · cases passed
  · next none =>
      refine ⟨fun row member => ?_, (Except.ok.inj passed).symm, offendingSequence_none none⟩
      by_contra closed
      apply opened
      refine ⟨row, member, ?_⟩
      cases flag : row.resetRequiredOnReconnect with
      | true => exact .inr rfl
      | false => exact .inl fun isOpen => closed ⟨isOpen, flag⟩

section Call
variable {readingContentHash : Reading → String} {store : DeviceStore}

/-- A row of the loop was there before or comes from a reading of the batch. -/
theorem readingLoop_sources {device : Device} {batch : Batch} {now : Int} {generation : Nat}
    {readings : List Reading} {start : DeviceStore} {final : Progress}
    (loop : readings.foldlM (ingestReading readingContentHash device batch now generation)
      ({ store := start } : Progress) = .ok final) :
    ∀ raw ∈ final.store.rawReadings, raw ∈ start.rawReadings ∨
      (raw.dataGeneration = generation ∧ raw.reading ∈ readings) := by
  refine foldlM_invariant (fun state => ∀ raw ∈ state.store.rawReadings, raw ∈ start.rawReadings ∨
    (raw.dataGeneration = generation ∧ raw.reading ∈ readings)) readings (fun _ member => .inl member) ?_ loop
  intro state reading next inBatch turn sources
  rcases ingestReading_cases turn with ⟨_, rfl⟩ | ⟨_, existing, _, _, rfl⟩ | ⟨_, existing, event, _, _, rfl⟩ |
    ⟨_, _, rfl⟩
  · exact sources
  · exact sources
  · exact sources
  · intro raw member
    cases List.mem_append.mp member with
    | inl old => exact sources raw old
    | inr new =>
        rw [List.mem_singleton.mp new]
        exact .inr ⟨rfl, inBatch⟩

/-- What a call leaves of a device's rows, as far as its data state is concerned. -/
structure Gated (before after : DeviceStore) : Prop where
  device : after.device = before.device
  dataState : after.dataState = before.dataState
  stored : ∀ raw ∈ after.rawReadings, raw ∉ before.rawReadings →
    ∃ readings, raw.reading ∈ readings ∧ Admitted before.dataState readings raw.dataGeneration
  closed : (∃ row ∈ before.dataState, row.ingestionGate ≠ .opened ∨ row.resetRequiredOnReconnect = true) →
    after = before

theorem ingestCall_gated (readingContentHash : Reading → String) (store : DeviceStore) (call : Batch × Int) :
    Gated store (ingestCall readingContentHash store call) := by
  rw [ingestCall]
  split
  · next final response ok =>
      obtain ⟨device, generation, progress, _, gate, _, loop, close⟩ := ingestReadings_ok.mp ok
      obtain ⟨rfl, rfl⟩ := Prod.mk.inj close
      have settings : progress.store.device = store.device ∧ progress.store.dataState = store.dataState := by
        rw [(readingLoop_appends loop).frame, openBatch_frame]
        exact ⟨rfl, rfl⟩
      have admitted := enforceDataGenerationGate_admitted gate
      refine ⟨settings.1, settings.2, fun raw member fresh => ?_, fun held => ?_⟩
      · cases readingLoop_sources loop raw member with
        | inl old => exact absurd (openBatch_rawReadings store call.1 call.2 generation ▸ old) fresh
        | inr new =>
            refine ⟨call.1.readings, new.2, ?_⟩
            rw [new.1]
            exact admitted
      · obtain ⟨row, found, shut⟩ := held
        have opened := admitted.opened row found
        cases shut with
        | inl gate => exact absurd opened.1 gate
        | inr flag =>
            rw [opened.2] at flag
            cases flag
  · exact ⟨rfl, rfl, fun raw member fresh => absurd member fresh, fun _ => rfl⟩

end Call
end PowerMonitor.Ingestion
