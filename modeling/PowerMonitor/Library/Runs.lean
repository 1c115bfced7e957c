import Mathlib.Data.List.Induction
import Mathlib.Data.List.Basic

/-! Runs of a deterministic system as folds over its actions. -/

set_option autoImplicit false
namespace PowerMonitor.Library
variable {State Action : Type} {step : State → Action → State} {P : State → Prop}

/-- What every action keeps holds at the end of a run. -/
theorem foldl_invariant {start : State} (initial : P start) (keeps : ∀ state action, P state → P (step state action))
    (actions : List Action) : P (actions.foldl step start) := by
  induction actions generalizing start with
  | nil => exact initial
  | cons action rest ih => exact ih (keeps start action initial)

/-- What every guarded action keeps holds at the end of a run whose steps all meet the guard. -/
theorem foldl_guarded {G : State → Action → Prop} {start : State} (initial : P start)
    (keeps : ∀ state action, P state → G state action → P (step state action)) {actions : List Action}
    (meets : ∀ earlier action later, actions = earlier ++ action :: later → G (earlier.foldl step start) action) :
    P (actions.foldl step start) := by
  induction actions generalizing start with
  | nil => exact initial
  | cons action rest ih =>
      apply ih (keeps start action initial (meets [] action rest rfl))
      rintro earlier turn later rfl
      exact meets (action :: earlier) turn later rfl

/-- A property lost in a run is lost in one of its steps. -/
theorem foldl_loses {start : State} (initial : P start) {actions : List Action}
    (lost : ¬ P (actions.foldl step start)) :
    ∃ earlier action later, actions = earlier ++ action :: later ∧ P (earlier.foldl step start) ∧
      ¬ P (step (earlier.foldl step start) action) := by
  induction actions generalizing start with
  | nil => exact absurd initial lost
  | cons action rest ih =>
      by_cases kept : P (step start action)
      · obtain ⟨earlier, turn, later, rfl, before, after⟩ := ih kept lost
        exact ⟨action :: earlier, turn, later, rfl, before, after⟩
      · exact ⟨[], action, rest, rfl, initial, kept⟩

/-- The steps of a run are its first one and those of the rest. -/
theorem forall_splits_cons {Q : List Action → Action → Prop} {first : Action} {rest : List Action} :
    (∀ earlier action later, first :: rest = earlier ++ action :: later → Q earlier action) ↔
      Q [] first ∧ ∀ earlier action later, rest = earlier ++ action :: later → Q (first :: earlier) action := by
  constructor
  · intro every
    refine ⟨every [] first rest rfl, ?_⟩
    rintro earlier action later rfl
    exact every (first :: earlier) action later rfl
  · rintro ⟨head, tail⟩ (_ | ⟨_, earlier⟩) action later same
    · cases same
      exact head
    · cases same
      exact tail earlier action later rfl

theorem forall_splits_nil {Q : List Action → Action → Prop} :
    ∀ earlier action later, ([] : List Action) = earlier ++ action :: later → Q earlier action := by
  intro earlier action later same
  simp at same

/-- Where the guard is what one step needs to go well, a run goes well if and only if all its steps meet the guard. -/
theorem foldl_guarded_iff {Allowed G Well : State → Action → Prop} {start : State} (initial : P start)
    (needs : ∀ state action, P state → Allowed state action → (Well state action ↔ G state action))
    (keeps : ∀ state action, P state → Allowed state action → G state action → P (step state action))
    {actions : List Action} (allowed : ∀ earlier action later, actions = earlier ++ action :: later →
      Allowed (earlier.foldl step start) action) :
    (∀ earlier action later, actions = earlier ++ action :: later → Well (earlier.foldl step start) action) ↔
      ∀ earlier action later, actions = earlier ++ action :: later → G (earlier.foldl step start) action := by
  induction actions generalizing start with
  | nil => exact iff_of_true forall_splits_nil forall_splits_nil
  | cons first rest ih =>
      rw [forall_splits_cons] at allowed ⊢
      rw [forall_splits_cons, List.foldl_nil, needs start first initial allowed.1]
      exact and_congr_right fun guarded => ih (keeps start first initial allowed.1 guarded) allowed.2

/-- A property of every state of a run is one of its first state and of the states after its steps. -/
theorem forall_prefixes_iff {start : State} (initial : P start) {actions : List Action} :
    (∀ earlier later, actions = earlier ++ later → P (earlier.foldl step start)) ↔
      ∀ earlier action later, actions = earlier ++ action :: later → P (step (earlier.foldl step start) action) := by
  constructor
  · intro every earlier action later split
    have reached := every (earlier ++ [action]) later (by rw [split, List.append_assoc]; rfl)
    rwa [List.foldl_concat] at reached
  · intro every earlier later split
    induction earlier using List.reverseRecOn with
    | nil => exact initial
    | append_singleton earlier action _ =>
        rw [List.foldl_concat]
        exact every earlier action later (by rw [split, List.append_assoc]; rfl)

/-- Every step of a run meets the guard in the state that it starts from. -/
def Along (step : State → Action → State) (G : State → Action → Prop) : State → List Action → Prop
  | _, [] => True
  | state, action :: rest => G state action ∧ Along step G (step state action) rest

instance Along.decidable (step : State → Action → State) (G : State → Action → Prop)
    [∀ state action, Decidable (G state action)] : (state : State) → (actions : List Action) →
    Decidable (Along step G state actions)
  | _, [] => .isTrue trivial
  | state, action :: rest =>
      have := Along.decidable step G (step state action) rest
      inferInstanceAs (Decidable (_ ∧ _))

theorem Along.invariant {G : State → Action → Prop} {start : State} {actions : List Action} (along : Along step G start actions)
    (initial : P start) (keeps : ∀ state action, P state → G state action → P (step state action)) :
    P (actions.foldl step start) := by
  induction actions generalizing start with
  | nil => exact initial
  | cons action rest ih => exact ih along.2 (keeps start action initial along.1)

theorem Along.imp {G H : State → Action → Prop} {start : State} {actions : List Action} (along : Along step G start actions)
    (weaker : ∀ state action, G state action → H state action) : Along step H start actions := by
  induction actions generalizing start with
  | nil => trivial
  | cons action rest ih => exact ⟨weaker start action along.1, ih along.2⟩

theorem Along.and {G H : State → Action → Prop} {start : State} {actions : List Action} (first : Along step G start actions)
    (second : Along step H start actions) :
    Along step (fun state action => G state action ∧ H state action) start actions := by
  induction actions generalizing start with
  | nil => trivial
  | cons action rest ih => exact ⟨⟨first.1, second.1⟩, ih first.2 second.2⟩

/-- A guard that looks at the action alone is met if every action meets it. -/
theorem Along.of_forall {A : Action → Prop} {start : State} {actions : List Action} (each : ∀ action ∈ actions, A action) :
    Along step (fun _ action => A action) start actions := by
  induction actions generalizing start with
  | nil => trivial
  | cons action rest ih =>
      exact ⟨each action List.mem_cons_self, ih fun other listed => each other (List.mem_cons_of_mem _ listed)⟩

/-- The beginning of a guarded run is guarded. -/
theorem Along.of_append {G : State → Action → Prop} {start : State} {earlier later : List Action}
    (along : Along step G start (earlier ++ later)) : Along step G start earlier := by
  induction earlier generalizing start with
  | nil => trivial
  | cons action rest ih => exact ⟨along.1, ih along.2⟩

/-! ## Histories -/

/-- The steps of a run with the state that each of them starts from, the latest first. -/
def historyFrom (step : State → Action → State) : State → List (State × Action) → List Action → List (State × Action)
  | _, past, [] => past
  | state, past, action :: rest => historyFrom step (step state action) ((state, action) :: past) rest

theorem historyFrom_concat (start : State) (past : List (State × Action)) (actions : List Action) (last : Action) :
    historyFrom step start past (actions ++ [last]) =
      (actions.foldl step start, last) :: historyFrom step start past actions := by
  induction actions generalizing start past with
  | nil => rfl
  | cons action rest ih => exact ih (step start action) ((start, action) :: past)

/-- What relates the state to the history is kept along a guarded run. -/
theorem Along.history_invariant {G : State → Action → Prop} {P : State → List (State × Action) → Prop} {start : State}
    {past : List (State × Action)} {actions : List Action} (along : Along step G start actions) (initial : P start past)
    (keeps : ∀ state past action, P state past → G state action → P (step state action) ((state, action) :: past)) :
    P (actions.foldl step start) (historyFrom step start past actions) := by
  induction actions generalizing start past with
  | nil => exact initial
  | cons action rest ih => exact ih along.2 (keeps start past action initial along.1)

theorem Along.of_split {G : State → Action → Prop} {start : State} {earlier later : List Action} {action : Action}
    (along : Along step G start (earlier ++ action :: later)) : G (earlier.foldl step start) action := by
  induction earlier generalizing start with
  | nil => exact along.1
  | cons first rest ih => exact ih along.2

end PowerMonitor.Library
