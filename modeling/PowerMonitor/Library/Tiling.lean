import PowerMonitor.Library.Fallible
import Mathlib.Algebra.BigOperators.Intervals
import Mathlib.Order.Interval.Finset.Basic
import Mathlib.Data.Int.Interval
import Mathlib.Data.Int.SuccPred
import Mathlib.Tactic.Abel
import Mathlib.Data.Int.ConditionallyCompleteOrder

/-! Points in rising order and the half-open pieces between neighbours.

Each piece holds no other point, every place from the first point to the last lies in
one piece, and amounts that are differences over each piece add up to a sum over the
places alone. Two ways to cut the same span therefore give the same amount.
-/

set_option autoImplicit false
namespace PowerMonitor.Library

/-- `itertools.pairwise` -/
def pairwise {α : Type} (points : List α) : List (α × α) := points.zip points.tail

@[simp] theorem pairwise_cons_cons {α : Type} (first second : α) (rest : List α) :
    pairwise (first :: second :: rest) = (first, second) :: pairwise (second :: rest) := rfl

/-- Points in rising order from `start` to `finish`. -/
structure Tiles {α : Type} [LT α] (start finish : α) (points : List α) : Prop where
  rising : points.Pairwise (· < ·)
  first : points.head? = some start
  last : points.getLast? = some finish

namespace Tiles
variable {α : Type} [LinearOrder α] {start finish : α} {points : List α}

theorem le_of_mem (tiles : Tiles start finish points) {point : α} (member : point ∈ points) :
    start ≤ point ∧ point ≤ finish := by
  obtain ⟨rising, first, last⟩ := tiles
  constructor
  · cases points with
    | nil => simp at member
    | cons head rest =>
        cases Option.some.inj first
        cases List.mem_cons.mp member with
        | inl same => exact same.ge
        | inr later => exact ((List.pairwise_cons.mp rising).1 point later).le
  · obtain ⟨front, rfl⟩ := List.getLast?_eq_some_iff.mp last
    cases List.mem_append.mp member with
    | inl earlier => exact ((List.pairwise_append.mp rising).2.2 point earlier finish (by simp)).le
    | inr same => exact (List.mem_singleton.mp same).le

theorem tail (tiles : Tiles start finish points) {second : α} {rest : List α}
    (shape : points = start :: second :: rest) : start < second ∧ Tiles second finish (second :: rest) := by
  subst shape
  obtain ⟨rising, _, last⟩ := tiles
  obtain ⟨before, rising⟩ := List.pairwise_cons.mp rising
  exact ⟨before second (by simp), rising, rfl, by simpa using last⟩

/-- The pieces hold no point but their own ends. -/
theorem piece (tiles : Tiles start finish points) {left right : α} (member : (left, right) ∈ pairwise points) :
    start ≤ left ∧ left < right ∧ right ≤ finish ∧ ∀ point ∈ points, point ≤ left ∨ right ≤ point := by
  induction points generalizing start with
  | nil => simp [pairwise] at member
  | cons head rest ih =>
      cases rest with
      | nil => simp [pairwise] at member
      | cons second rest =>
          have same : head = start := Option.some.inj tiles.first
          subst same
          obtain ⟨before, later⟩ := tiles.tail rfl
          rw [pairwise_cons_cons] at member
          cases List.mem_cons.mp member with
          | inl here =>
              cases here
              refine ⟨le_rfl, before, (later.le_of_mem (by simp)).2, ?_⟩
              intro point inside
              cases List.mem_cons.mp inside with
              | inl first => exact .inl first.le
              | inr after => exact .inr (later.le_of_mem after).1
          | inr after =>
              obtain ⟨from_, proper, upTo, empty⟩ := ih later after
              refine ⟨before.le.trans from_, proper, upTo, ?_⟩
              intro point inside
              cases List.mem_cons.mp inside with
              | inl first => exact .inl (first.le.trans (before.le.trans from_))
              | inr deeper => exact empty point deeper

theorem exists_piece (tiles : Tiles start finish points) {place : α} (after : start ≤ place)
    (before : place < finish) : ∃ left right, (left, right) ∈ pairwise points ∧ left ≤ place ∧ place < right := by
  induction points generalizing start with
  | nil => exact absurd tiles.first (by simp)
  | cons head rest ih =>
      have same : head = start := Option.some.inj tiles.first
      subst same
      cases rest with
      | nil =>
          have single : head = finish := Option.some.inj tiles.last
          exact absurd (after.trans_lt before) (by simp [single])
      | cons second rest =>
          obtain ⟨_, later⟩ := tiles.tail rfl
          rcases lt_or_ge place second with inside | beyond
          · exact ⟨head, second, by simp, after, inside⟩
          · obtain ⟨left, right, member, bounds⟩ := ih later beyond
            exact ⟨left, right, by simp [member], bounds⟩

end Tiles

/-! ## Amounts over pieces -/

section Amounts
variable {M : Type} [AddCommGroup M]

/-- Differences over neighbouring places add up to the difference of the ends. -/
theorem sum_differences (value : Int → M) {first last : Int} (ordered : first ≤ last) :
    ∑ place ∈ Finset.Ico first last, (value (place + 1) - value place) = value last - value first := by
  induction last, ordered using Int.leInduction with
  | base => simp
  | succ last ordered ih =>
      have whole : Finset.Ico first (last + 1) = insert last (Finset.Ico first last) := by
        ext place
        simp only [Finset.mem_Ico, Finset.mem_insert]
        omega
      rw [whole, Finset.sum_insert (by simp), ih]
      abel

theorem sum_Ico_split (density : Int → M) {first middle last : Int} (before : first ≤ middle) (after : middle ≤ last) :
    ∑ place ∈ Finset.Ico first middle, density place + ∑ place ∈ Finset.Ico middle last, density place =
      ∑ place ∈ Finset.Ico first last, density place := by
  rw [← Finset.Ico_union_Ico_eq_Ico before after]
  exact (Finset.sum_union (Finset.Ico_disjoint_Ico_consecutive first middle last)).symm

/-- A fold over the pieces that adds a sum over the places of each adds the sum over all of them. `At` says
where in the span a state stands. -/
theorem Tiles.foldlM_sum {ε State : Type} {step : State → Int × Int → Except ε State} {start finish : Int}
    {points : List Int} (tiles : Tiles start finish points) (At : Int → State → Prop) (measure : State → M)
    (density : Int → M)
    (preserved : ∀ left right state next, (left, right) ∈ pairwise points → step state (left, right) = .ok next →
      At left state → At right next ∧ measure next = measure state + ∑ place ∈ Finset.Ico left right, density place)
    {state final : State} (initial : At start state) (run : (pairwise points).foldlM step state = .ok final) :
    measure final = measure state + ∑ place ∈ Finset.Ico start finish, density place := by
  induction points generalizing start state with
  | nil => exact absurd tiles.first (by simp)
  | cons head rest ih =>
      have same : head = start := Option.some.inj tiles.first
      subst same
      cases rest with
      | nil =>
          cases run
          have single : head = finish := Option.some.inj tiles.last
          simp [single]
      | cons second rest =>
          obtain ⟨before, later⟩ := tiles.tail rfl
          rw [pairwise_cons_cons, List.foldlM_cons, bind_eq_ok] at run
          obtain ⟨next, here, run⟩ := run
          obtain ⟨moved, added⟩ := preserved head second state next (by simp) here initial
          have remaining := ih later (fun left right state next member => preserved left right state next
            (by simp [member])) moved run
          have upTo : second ≤ finish := (later.le_of_mem (by simp)).2
          rw [remaining, added, add_assoc, sum_Ico_split density before.le upTo]

theorem Tiles.sum_pieces {start finish : Int} {points : List Int} (tiles : Tiles start finish points)
    (density : Int → M) :
    ((pairwise points).map fun piece => ∑ place ∈ Finset.Ico piece.1 piece.2, density place).sum =
      ∑ place ∈ Finset.Ico start finish, density place := by
  induction points generalizing start with
  | nil => exact absurd tiles.first (by simp)
  | cons head rest ih =>
      have same : head = start := Option.some.inj tiles.first
      subst same
      cases rest with
      | nil =>
          have single : head = finish := Option.some.inj tiles.last
          simp [pairwise, single]
      | cons second rest =>
          obtain ⟨before, later⟩ := tiles.tail rfl
          have upTo : second ≤ finish := (later.le_of_mem (by simp)).2
          rw [pairwise_cons_cons, List.map_cons, List.sum_cons, ih later, sum_Ico_split density before.le upTo]

/-- A selection that falls into three parts. -/
theorem sum_filter_split {Item : Type} (weight : Item → M) {items : List Item} {whole first second third : Item → Bool}
    (parts : ∀ item ∈ items, (if whole item then weight item else 0) = (if first item then weight item else 0) +
      (if second item then weight item else 0) + if third item then weight item else 0) :
    ((items.filter whole).map weight).sum = ((items.filter first).map weight).sum +
      ((items.filter second).map weight).sum + ((items.filter third).map weight).sum := by
  have indicator (keep : Item → Bool) : ((items.filter keep).map weight).sum =
      (items.map fun item => if keep item then weight item else 0).sum := by
    clear parts
    induction items with
    | nil => rfl
    | cons item rest ih =>
        rw [List.filter_cons, List.map_cons, List.sum_cons, ← ih]
        cases keep item <;> simp
  rw [indicator, indicator, indicator, indicator, List.map_congr_left parts, List.sum_map_add, List.sum_map_add]

/-- The totals of distinct keys add up to the total of the items with one of them. -/
theorem sum_by_key {Item Key : Type} [DecidableEq Key] (weight : Item → M) (key : Item → Key) (items : List Item) {keys : List Key}
    (distinct : keys.Nodup) : (keys.map fun asked => ((items.filter fun item => key item = asked).map weight).sum).sum =
      ((items.filter fun item => key item ∈ keys).map weight).sum := by
  induction items with
  | nil => simp
  | cons item rest ih =>
      -- One item counts for its own key only.
      have here : (keys.map fun asked => if key item = asked then weight item else 0).sum =
          if key item ∈ keys then weight item else 0 := by
        clear ih
        induction keys with
        | nil => simp
        | cons asked keys ih =>
            obtain ⟨absent, distinct⟩ := List.nodup_cons.mp distinct
            rw [List.map_cons, List.sum_cons, ih distinct]
            by_cases same : key item = asked
            · simp [same, absent]
            · simp [same]
      have split : ∀ asked, (((item :: rest).filter fun item => key item = asked).map weight).sum =
          (if key item = asked then weight item else 0) + ((rest.filter fun item => key item = asked).map weight).sum := by
        intro asked
        by_cases same : key item = asked <;> simp [same]
      rw [List.map_congr_left fun asked _ => split asked, List.sum_map_add, here, ih]
      by_cases listed : key item ∈ keys <;> simp [listed]

end Amounts

/-- The pieces come in rising order. -/
theorem pairwise_rising {α : Type} [LinearOrder α] {points : List α} (rising : points.Pairwise (· < ·)) :
    (pairwise points).Pairwise fun piece next => piece.1 < next.1 := by
  induction points with
  | nil => exact .nil
  | cons head rest ih =>
      obtain ⟨below, rising⟩ := List.pairwise_cons.mp rising
      cases rest with
      | nil => exact .nil
      | cons second rest =>
          rw [pairwise_cons_cons, List.pairwise_cons]
          exact ⟨fun piece member => below piece.1 (List.of_mem_zip member).1, ih rising⟩

/-! ## Totals over windows

A window is closed at its start and open at its end. A table that has an entry for each window with a weight
adds up to the same as the window that they make up. -/

section Totals
variable {Item M : Type} [AddCommGroup M] (weight : Item → M) (place : Item → Int)

def InWindow (first last : Int) (item : Item) : Prop := first ≤ place item ∧ place item < last

instance (first last : Int) (item : Item) : Decidable (InWindow place first last item) :=
  inferInstanceAs (Decidable (_ ∧ _))

/-- The items of a list that are placed in a window. -/
def window (items : List Item) (first last : Int) : List Item := items.filter (InWindow place first last ·)

def windowTotal (items : List Item) (first last : Int) : M := ((window place items first last).map weight).sum

@[simp] theorem mem_window {items : List Item} {first last : Int} {item : Item} :
    item ∈ window place items first last ↔ item ∈ items ∧ first ≤ place item ∧ place item < last := by
  rw [window, List.mem_filter, decide_eq_true_eq, InWindow]

@[simp] theorem window_self (items : List Item) (bound : Int) : window place items bound bound = [] := by
  apply List.eq_nil_iff_forall_not_mem.mpr
  intro item member
  have := (mem_window place).mp member
  omega

theorem window_append (known added : List Item) (first last : Int) :
    window place (known ++ added) first last = window place known first last ++ window place added first last :=
  List.filter_append ..

/-- Items that are placed elsewhere leave a window as it was. -/
theorem window_append_of_outside {known added : List Item} {first last : Int}
    (outside : ∀ item ∈ added, ¬ InWindow place first last item) :
    window place (known ++ added) first last = window place known first last := by
  have none : window place added first last = [] := by
    apply List.filter_eq_nil_iff.mpr
    intro item member
    simpa using outside item member
  rw [window_append, none, List.append_nil]

theorem windowTotal_split (items : List Item) {first middle last : Int} (before : first ≤ middle)
    (after : middle ≤ last) : windowTotal weight place items first last =
      windowTotal weight place items first middle + windowTotal weight place items middle last := by
  have parts : windowTotal weight place items first last = windowTotal weight place items first middle +
      windowTotal weight place items middle last + ((items.filter fun _ => false).map weight).sum := by
    apply sum_filter_split
    intro item _
    simp only [decide_eq_true_eq, Bool.false_eq_true, if_false, add_zero]
    rcases lt_or_ge (place item) middle with early | late
    · have here : InWindow place first last item ↔ InWindow place first middle item :=
        and_congr_right fun _ => ⟨fun _ => early, fun _ => early.trans_le after⟩
      have elsewhere : ¬ InWindow place middle last item := fun inside => inside.1.not_gt early
      rw [if_neg elsewhere, add_zero, if_congr here rfl rfl]
    · have here : InWindow place first last item ↔ InWindow place middle last item :=
        and_congr_left fun _ => ⟨fun _ => late, fun _ => before.trans late⟩
      have elsewhere : ¬ InWindow place first middle item := fun inside => late.not_gt inside.2
      rw [if_neg elsewhere, zero_add, if_congr here rfl rfl]
  rw [parts, List.filter_false, List.map_nil, List.sum_nil, add_zero]

/-- Windows in a row make up the window from the start of the first to the end of the last. -/
theorem sum_windowTotal (items : List Item) {bound : Int → Int} (rising : Monotone bound) {first last : Int}
    (ordered : first ≤ last) : ∑ number ∈ Finset.Ico first last,
      windowTotal weight place items (bound number) (bound (number + 1)) =
        windowTotal weight place items (bound first) (bound last) := by
  induction last, ordered using Int.leInduction with
  | base => simp [windowTotal]
  | succ last ordered ih =>
      have next : last ≤ last + 1 := by omega
      have single : Finset.Ico last (last + 1) = {last} := by
        ext number
        rw [Finset.mem_Ico, Finset.mem_singleton]
        omega
      rw [← sum_Ico_split _ ordered next, ih, single, Finset.sum_singleton]
      exact (windowTotal_split weight place items (rising ordered) (rising next)).symm

/-! ## Tables of totals -/

/-- A table with distinct numbers, in which a number without an entry has no weight, holds the whole weight of
a range of numbers. -/
theorem sum_entries {Value : Type} (amount : Value → M) {table : List (Int × Value)} (distinct : (table.map Prod.fst).Nodup)
    (total : Int → M) (exact : ∀ entry ∈ table, amount entry.2 = total entry.1)
    (missing : ∀ number, number ∉ table.map Prod.fst → total number = 0) (first last : Int) :
    (((table.filter fun entry => InWindow Prod.fst first last entry).map fun entry => amount entry.2).sum) =
      ∑ number ∈ Finset.Ico first last, total number := by
  have amounts : ((table.filter fun entry => InWindow Prod.fst first last entry).map fun entry => amount entry.2) =
      ((table.map Prod.fst).filter fun number => first ≤ number ∧ number < last).map total := by
    rw [List.filter_map, List.map_map]
    apply List.map_congr_left
    intro entry member
    exact exact entry (List.mem_of_mem_filter member)
  rw [amounts, ← List.sum_toFinset total (distinct.filter _)]
  apply Finset.sum_subset
  · intro number member
    simp only [List.mem_toFinset, List.mem_filter, decide_eq_true_eq] at member
    exact Finset.mem_Ico.mpr member.2
  · intro number inside absent
    apply missing
    intro listed
    apply absent
    rw [List.mem_toFinset, List.mem_filter]
    exact ⟨listed, by simpa using inside⟩

end Totals
end PowerMonitor.Library
