import Mathlib.Logic.Function.Basic
import PowerMonitor.Library.Fallible

/-! Folds that update one slot of a table at a time.

A run over a list of updates returns exactly when the updates of each slot, taken alone and in their
order, return.
-/

set_option autoImplicit false
namespace PowerMonitor.Library

variable {ε Key State Item : Type} [DecidableEq Key]

/-- Replace the value of one slot. -/
def updateSlot (step : Key → State → Item → Except ε State) (table : Key → State) (entry : Key × Item) :
    Except ε (Key → State) := do
  let value ← step entry.1 (table entry.1) entry.2
  pure (Function.update table entry.1 value)

/-- The updates of one slot. -/
def slotItems (key : Key) (entries : List (Key × Item)) : List Item :=
  (entries.filter fun entry => entry.1 = key).map Prod.snd

@[simp] theorem slotItems_nil (key : Key) : slotItems key ([] : List (Key × Item)) = [] := rfl

theorem slotItems_cons (key : Key) (entry : Key × Item) (rest : List (Key × Item)) :
    slotItems key (entry :: rest) = if entry.1 = key then entry.2 :: slotItems key rest else slotItems key rest := by
  by_cases here : entry.1 = key <;> simp [slotItems, here]

theorem slotItems_flatMap {Row : Type} (key : Key) (rows : List Row) (spread : Row → List (Key × Item)) :
    slotItems key (rows.flatMap spread) = rows.flatMap fun row => slotItems key (spread row) := by
  simp [slotItems, List.filter_flatMap, List.map_flatMap]

/-- A run over the table is the runs of its slots. -/
theorem foldlM_updateSlot {step : Key → State → Item → Except ε State} {entries : List (Key × Item)} {before after : Key → State} :
    entries.foldlM (updateSlot step) before = .ok after ↔
      ∀ key, (slotItems key entries).foldlM (step key) (before key) = .ok (after key) := by
  induction entries generalizing before with
  | nil =>
      simp only [List.foldlM_nil, slotItems_nil]
      exact ⟨fun done key => congrArg Except.ok (congrFun (Except.ok.inj done) key),
        fun done => congrArg Except.ok (funext fun key => Except.ok.inj (done key))⟩
  | cons entry rest ih =>
      rw [List.foldlM_cons, bind_eq_ok]
      constructor
      · rintro ⟨between, first, done⟩ key
        obtain ⟨value, moved, kept⟩ := bind_eq_ok.mp first
        cases kept
        have later := ih.mp done key
        rw [slotItems_cons]
        split
        · next here =>
            subst here
            rw [Function.update_self] at later
            exact bind_eq_ok.mpr ⟨value, moved, later⟩
        · next elsewhere =>
            rwa [Function.update_of_ne (Ne.symm elsewhere)] at later
      · intro done
        have own := done entry.1
        rw [slotItems_cons, if_pos rfl, List.foldlM_cons, bind_eq_ok] at own
        obtain ⟨value, moved, later⟩ := own
        refine ⟨Function.update before entry.1 value, bind_eq_ok.mpr ⟨value, moved, rfl⟩, ih.mpr fun key => ?_⟩
        by_cases here : entry.1 = key
        · subst here
          rwa [Function.update_self]
        · have other := done key
          rw [slotItems_cons, if_neg here] at other
          rwa [Function.update_of_ne (Ne.symm here)]

/-- Replace the value of one slot, without failing. -/
def setSlot (step : Key → State → Item → State) (table : Key → State) (entry : Key × Item) : Key → State :=
  Function.update table entry.1 (step entry.1 (table entry.1) entry.2)

theorem foldl_setSlot (step : Key → State → Item → State) (entries : List (Key × Item)) (table : Key → State) (key : Key) :
    entries.foldl (setSlot step) table key = (slotItems key entries).foldl (step key) (table key) := by
  induction entries generalizing table with
  | nil => rfl
  | cons entry rest ih =>
      rw [List.foldl_cons, ih, slotItems_cons]
      by_cases here : entry.1 = key
      · subst here
        rw [if_pos rfl, List.foldl_cons, setSlot, Function.update_self]
      · rw [if_neg here, setSlot, Function.update_of_ne (Ne.symm here)]

/-- A view that every step moves in the same way moves along a run. -/
theorem foldlM_view {View : Type} {step : State → Item → Except ε State} (view : State → View) (move : View → Item → View)
    {items : List Item} {before after : State}
    (moves : ∀ item ∈ items, ∀ state next, step state item = .ok next → view next = move (view state) item)
    (run : items.foldlM step before = .ok after) : view after = items.foldl move (view before) := by
  induction items generalizing before with
  | nil => cases run; rfl
  | cons item rest ih =>
      obtain ⟨between, first, later⟩ := bind_eq_ok.mp run
      rw [List.foldl_cons, ← moves item List.mem_cons_self before between first]
      exact ih (fun other member => moves other (List.mem_cons_of_mem _ member)) later

end PowerMonitor.Library
