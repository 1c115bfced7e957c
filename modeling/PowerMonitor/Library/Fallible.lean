import Mathlib.Tactic.Common

/-! Computations that raise, read back from their success.

A sequence of steps succeeds exactly when every step does. The lemmas turn the
success of a composed computation into the successes and guards of its parts.
-/

set_option autoImplicit false
namespace PowerMonitor.Library

variable {ε α β : Type}

theorem bind_eq_ok {step : Except ε α} {next : α → Except ε β} {result : β} :
    (step >>= next) = .ok result ↔ ∃ value, step = .ok value ∧ next value = .ok result := by
  cases step with
  | error failure => simp [bind, Except.bind]
  | ok value => simp [bind, Except.bind]

/-- Raise `failure` when the condition holds. -/
def raiseIf (condition : Prop) [Decidable condition] (failure : ε) : Except ε Unit :=
  if condition then .error failure else .ok ()

@[simp] theorem raiseIf_eq_ok {condition : Prop} [Decidable condition] {failure : ε} {done : Unit} :
    raiseIf condition failure = .ok done ↔ ¬ condition := by
  by_cases holds : condition <;> simp [raiseIf, holds]

theorem raiseIf_bind_eq_ok {condition : Prop} [Decidable condition] {failure : ε}
    {next : Unit → Except ε β} {result : β} :
    (raiseIf condition failure >>= next) = .ok result ↔ ¬ condition ∧ next () = .ok result := by
  rw [bind_eq_ok]
  exact ⟨fun ⟨_, passed, rest⟩ => ⟨raiseIf_eq_ok.mp passed, rest⟩,
    fun ⟨passed, rest⟩ => ⟨(), raiseIf_eq_ok.mpr passed, rest⟩⟩

theorem bind_eq_error {step : Except ε α} {next : α → Except ε β} {failure : ε} :
    (step >>= next) = .error failure ↔ step = .error failure ∨ ∃ value, step = .ok value ∧ next value = .error failure := by
  cases step with
  | error other => simp [bind, Except.bind]
  | ok value => simp [bind, Except.bind]

theorem raiseIf_eq_error {condition : Prop} [Decidable condition] {failure other : ε} :
    raiseIf condition failure = .error other ↔ condition ∧ failure = other := by
  by_cases holds : condition <;> simp [raiseIf, holds]

/-- A property kept by every successful step holds after a successful fold. -/
theorem foldlM_invariant {State Item : Type} {step : State → Item → Except ε State}
    (Holds : State → Prop) (items : List Item) {start final : State} (initial : Holds start)
    (preserved : ∀ state item next, item ∈ items → step state item = .ok next → Holds state → Holds next)
    (run : items.foldlM step start = .ok final) : Holds final := by
  induction items generalizing start with
  | nil =>
      simp only [List.foldlM_nil, pure, Except.pure, Except.ok.injEq] at run
      exact run ▸ initial
  | cons item rest ih =>
      rw [List.foldlM_cons, bind_eq_ok] at run
      obtain ⟨middle, first, later⟩ := run
      refine ih (preserved start item middle (by simp) first initial) ?_ later
      intro state other next member
      exact preserved state other next (List.mem_cons_of_mem _ member)

/-- In a successful fold every item has had a successful step, from a state the property holds of. -/
theorem foldlM_step_of_mem {State Item : Type} {step : State → Item → Except ε State}
    (Holds : State → Prop) {items : List Item} {start final : State} (initial : Holds start)
    (preserved : ∀ state item next, step state item = .ok next → Holds state → Holds next)
    (run : items.foldlM step start = .ok final) {item : Item} (member : item ∈ items) :
    ∃ state next, Holds state ∧ step state item = .ok next := by
  induction items generalizing start with
  | nil => simp at member
  | cons head rest ih =>
      rw [List.foldlM_cons, bind_eq_ok] at run
      obtain ⟨middle, first, later⟩ := run
      rcases List.mem_cons.mp member with rfl | member
      · exact ⟨start, middle, initial, first⟩
      · exact ih (preserved start head middle first initial) later member

/-- When every step returns and keeps the property, the fold returns. -/
theorem foldlM_returns {State Item : Type} {step : State → Item → Except ε State} (Holds : State → Prop)
    (items : List Item) {start : State} (initial : Holds start)
    (returns : ∀ state item, item ∈ items → Holds state → ∃ next, step state item = .ok next ∧ Holds next) :
    ∃ final, items.foldlM step start = .ok final := by
  induction items generalizing start with
  | nil => exact ⟨start, rfl⟩
  | cons item rest ih =>
      obtain ⟨next, here, kept⟩ := returns start item (by simp) initial
      obtain ⟨final, later⟩ := ih kept fun state other member => returns state other (List.mem_cons_of_mem _ member)
      exact ⟨final, by rw [List.foldlM_cons, here]; exact later⟩

/-- A change of the state that every step carries along is carried through the fold. -/
theorem foldlM_commutes {State Item : Type} {step : State → Item → Except ε State} (change : State → State)
    (items : List Item) (commutes : ∀ state item, step (change state) item = (step state item).map change)
    (state : State) : items.foldlM step (change state) = (items.foldlM step state).map change := by
  induction items generalizing state with
  | nil => rfl
  | cons item rest ih =>
      rw [List.foldlM_cons, List.foldlM_cons, commutes]
      cases step state item with
      | error failure => rfl
      | ok next => exact ih next

/-- A loop without a result has passed every item. -/
theorem forM_eq_ok {Item : Type} {step : Item → Except ε Unit} {items : List Item} :
    items.forM step = .ok () ↔ ∀ item ∈ items, step item = .ok () := by
  induction items with
  | nil => simp [pure, Except.pure]
  | cons head rest ih =>
      rw [List.forM, bind_eq_ok]
      simp only [ih, List.forall_mem_cons]
      exact ⟨fun ⟨_, here, later⟩ => ⟨here, later⟩, fun ⟨here, later⟩ => ⟨(), here, later⟩⟩

/-! ## Mapping -/

theorem mapM_mem {Item Value : Type} {step : Item → Except ε Value} {items : List Item} {values : List Value}
    (run : items.mapM step = .ok values) {item : Item} (member : item ∈ items) :
    ∃ value ∈ values, step item = .ok value := by
  induction items generalizing values with
  | nil => simp at member
  | cons head rest ih =>
      rw [List.mapM_cons, bind_eq_ok] at run
      obtain ⟨first, here, later⟩ := run
      obtain ⟨others, tail, done⟩ := bind_eq_ok.mp later
      cases done
      cases List.mem_cons.mp member with
      | inl same => exact ⟨first, by simp, same ▸ here⟩
      | inr deeper =>
          obtain ⟨value, inside, found⟩ := ih tail deeper
          exact ⟨value, List.mem_cons_of_mem _ inside, found⟩

theorem mapM_returns {Item Value : Type} {step : Item → Except ε Value} {items : List Item}
    (each : ∀ item ∈ items, ∃ value, step item = .ok value) : ∃ values, items.mapM step = .ok values := by
  induction items with
  | nil => exact ⟨[], rfl⟩
  | cons head rest ih =>
      obtain ⟨first, here⟩ := each head (by simp)
      obtain ⟨others, tail⟩ := ih fun item member => each item (List.mem_cons_of_mem _ member)
      exact ⟨first :: others, by rw [List.mapM_cons, here, tail]; rfl⟩

/-! ## Two computations side by side -/

/-- Both return related values, or both fail alike. -/
inductive Agree {α β : Type} (R : α → β → Prop) : Except ε α → Except ε β → Prop where
  | ok {a : α} {b : β} (related : R a b) : Agree R (.ok a) (.ok b)
  | error (failure : ε) : Agree R (.error failure) (.error failure)

namespace Agree
variable {α β γ δ : Type} {R : α → β → Prop} {S : γ → δ → Prop}

theorem refl {first : Except ε α} : Agree (fun a b => a = b) first first := by
  cases first with
  | ok value => exact .ok rfl
  | error failure => exact .error failure

theorem bind {first : Except ε α} {second : Except ε β} {next : α → Except ε γ} {other : β → Except ε δ}
    (agree : Agree R first second) (each : ∀ a b, R a b → Agree S (next a) (other b)) :
    Agree S (first >>= next) (second >>= other) := by
  cases agree with
  | ok related => exact each _ _ related
  | error failure => exact .error failure

theorem map_eq {first : Except ε α} {second : Except ε β} {view : α → γ} {other : β → γ} (agree : Agree R first second)
    (same : ∀ a b, R a b → view a = other b) : first.map view = second.map other := by
  cases agree with
  | ok related => exact congrArg Except.ok (same _ _ related)
  | error failure => rfl

theorem foldlM {Item : Type} {step : α → Item → Except ε α} {other : β → Item → Except ε β}
    (each : ∀ a b item, R a b → Agree R (step a item) (other b item)) (items : List Item) {a : α} {b : β} (related : R a b) :
    Agree R (items.foldlM step a) (items.foldlM other b) := by
  induction items generalizing a b with
  | nil => exact .ok related
  | cons item rest ih =>
      rw [List.foldlM_cons, List.foldlM_cons]
      exact (each a b item related).bind fun _ _ => ih

end Agree

end PowerMonitor.Library
