import Mathlib.Algebra.BigOperators.Group.List.Basic
import Mathlib.Data.List.Chain
import Mathlib.Data.List.Sort
import Mathlib.Tactic.Abel

/-! Records that continue one another, and sorting with ties.

Linked records take an amount from one level to another, each from where the one before
it stopped, so the amounts add up to the difference of the levels. Records over time
begin at an instant none of the later ones begins at before the last instant is reached;
two blocks of them can be exchanged without a trace only when they are equal. A stable
sort depends on the order of its input exactly through the ties that differ.
-/

set_option autoImplicit false
namespace PowerMonitor.Library

/-! ## Levels -/

section Levels
variable {Item Level : Type}

/-- Items from `first` to `last`, each from the level at which the one before it ends. -/
def Linked (start finish : Item → Level) : Level → Level → List Item → Prop
  | first, last, [] => first = last
  | first, last, item :: rest => start item = first ∧ Linked start finish (finish item) last rest

variable {start finish : Item → Level} {first middle last : Level}

theorem Linked.append {items others : List Item} (left : Linked start finish first middle items)
    (right : Linked start finish middle last others) : Linked start finish first last (items ++ others) := by
  induction items generalizing first with
  | nil =>
      have same : first = middle := left
      rw [same]
      exact right
  | cons item rest ih => exact ⟨left.1, ih left.2⟩

/-- Levels may be read through a function. -/
theorem Linked.view {Other : Type} (view : Level → Other) {items : List Item}
    (linked : Linked start finish first last items) :
    Linked (fun item => view (start item)) (fun item => view (finish item)) (view first) (view last) items := by
  induction items generalizing first with
  | nil => exact congrArg view linked
  | cons item rest ih => exact ⟨congrArg view linked.1, ih linked.2⟩

theorem linked_map {Other : Type} (view : Other → Item) (items : List Other) :
    Linked start finish first last (items.map view) ↔
      Linked (fun item => start (view item)) (fun item => finish (view item)) first last items := by
  induction items generalizing first with
  | nil => exact Iff.rfl
  | cons item rest ih => exact and_congr_right fun _ => ih

/-- The amounts of linked items add up to the difference of the levels. -/
theorem Linked.sum_eq {Level : Type} [AddCommGroup Level] {start finish : Item → Level} {first last : Level}
    {items : List Item} (linked : Linked start finish first last items) {amount : Item → Level}
    (amounts : ∀ item ∈ items, finish item - start item = amount item) : (items.map amount).sum = last - first := by
  induction items generalizing first with
  | nil =>
      have same : first = last := linked
      simp [same]
  | cons item rest ih =>
      have later := ih linked.2 fun other member => amounts other (List.mem_cons_of_mem _ member)
      rw [List.map_cons, List.sum_cons, later, ← amounts item List.mem_cons_self, linked.1]
      abel

section Ordered
variable {Level : Type} [LinearOrder Level] {start finish : Item → Level} {first last : Level} {items : List Item}

theorem Linked.between (linked : Linked start finish first last items) (rising : ∀ item ∈ items, start item ≤ finish item) :
    first ≤ last ∧ ∀ item ∈ items, first ≤ start item ∧ finish item ≤ last := by
  induction items generalizing first with
  | nil => exact ⟨le_of_eq linked, nofun⟩
  | cons head rest ih =>
      obtain ⟨rfl, linked⟩ := linked
      have up := rising head List.mem_cons_self
      obtain ⟨ends, later⟩ := ih linked fun item member => rising item (List.mem_cons_of_mem _ member)
      refine ⟨up.trans ends, fun item member => ?_⟩
      rcases List.mem_cons.mp member with rfl | member
      · exact ⟨le_rfl, ends⟩
      · exact ⟨up.trans (later item member).1, (later item member).2⟩

/-- Every level between the ends lies in an item. -/
theorem Linked.exists_item (linked : Linked start finish first last items) {level : Level} (after : first ≤ level)
    (before : level < last) : ∃ item ∈ items, start item ≤ level ∧ level < finish item := by
  induction items generalizing first with
  | nil => exact absurd before (not_lt.mpr ((show first = last from linked) ▸ after))
  | cons head rest ih =>
      obtain ⟨rfl, linked⟩ := linked
      rcases lt_or_ge level (finish head) with here | later
      · exact ⟨head, List.mem_cons_self, after, here⟩
      · obtain ⟨item, member, inside⟩ := ih linked later
        exact ⟨item, List.mem_cons_of_mem _ member, inside⟩

end Ordered
end Levels

/-! ## Blocks of time -/

section Blocks
variable {Item Time : Type} [LinearOrder Time] (start finish : Item → Time)

/-- Items from one instant to another; none but the first begins at the first instant, unless the item
before it has ended there. -/
structure Block (first last : Time) (items : List Item) : Prop where
  begins : items.head?.map start = some first
  ends : items.getLast?.map finish = some last
  steps : items.IsChain fun item next => start next = finish item ∨ first < start next

variable {start finish} {first last : Time}

theorem Block.ne_nil {items : List Item} (block : Block start finish first last items) : items ≠ [] := by
  rintro rfl
  simpa using block.begins

theorem Block.append {middle final : Time} {items others : List Item} (left : Block start finish first last items)
    (right : Block start finish middle final others) (later : first < middle) :
    Block start finish first final (items ++ others) where
  begins := by
    rw [List.head?_append_of_ne_nil _ left.ne_nil]
    exact left.begins
  ends := by
    rw [List.getLast?_append_of_ne_nil _ right.ne_nil]
    exact right.ends
  steps := by
    refine List.isChain_append.mpr ⟨left.steps, ?_, ?_⟩
    · refine right.steps.imp ?_
      intro item next step
      exact step.imp_right (later.trans ·)
    · intro item _ next found
      have begins := right.begins
      rw [Option.mem_def.mp found, Option.map_some, Option.some.injEq] at begins
      exact .inr (begins ▸ later)

theorem Block.singleton (item : Item) : Block start finish (start item) (finish item) [item] :=
  ⟨rfl, rfl, .singleton item⟩

theorem Block.concat {items : List Item} (block : Block start finish first last items) {item : Item}
    (continues : start item = last) : Block start finish first (finish item) (items ++ [item]) where
  begins := by
    rw [List.head?_append_of_ne_nil _ block.ne_nil]
    exact block.begins
  ends := by simp
  steps := by
    refine List.isChain_append.mpr ⟨block.steps, .singleton item, ?_⟩
    intro before found next here
    have ends := block.ends
    rw [Option.mem_def.mp found, Option.map_some, Option.some.injEq] at ends
    obtain rfl : item = next := Option.some.inj here
    exact .inl (continues.trans ends.symm)

theorem block_map {Other : Type} (view : Other → Item) (items : List Other) :
    Block start finish first last (items.map view) ↔
      Block (fun item => start (view item)) (fun item => finish (view item)) first last items := by
  constructor
  · rintro ⟨begins, ends, steps⟩
    exact ⟨by simpa using begins, by simpa using ends, (List.isChain_map view).mp steps⟩
  · rintro ⟨begins, ends, steps⟩
    exact ⟨by simpa using begins, by simpa using ends, (List.isChain_map view).mpr steps⟩

/-- A block that goes on where another one is over does not begin anew. -/
theorem Block.not_extended {items rest : List Item} {next : Item} (proper : first < last)
    (block : Block start finish first last items) (extended : Block start finish first last (items ++ next :: rest)) :
    start next ≠ first := by
  intro again
  have steps := (List.isChain_append.mp extended.steps).2.2
  cases final : items.getLast? with
  | none =>
      have ends := block.ends
      simp [final] at ends
  | some item =>
      have ends := block.ends
      rw [final, Option.map_some, Option.some.injEq] at ends
      rcases steps item final next rfl with continued | later
      · exact proper.ne' (by rw [← ends, ← continued, again])
      · exact later.ne' again

/-- Two blocks that can be exchanged in front of others are equal. -/
theorem Block.eq_of_exchange {items others items' others' tail tail' : List Item} (proper : first < last)
    (left : Block start finish first last items) (right : Block start finish first last others)
    (left' : Block start finish first last items') (right' : Block start finish first last others')
    (same : items ++ (others' ++ tail) = others ++ (items' ++ tail')) : items = others := by
  -- Whichever block is the longer one would continue with the first item of the other.
  rcases List.append_eq_append_iff.mp same with ⟨more, longer, rest⟩ | ⟨more, longer, rest⟩
  · cases more with
    | nil => rw [longer, List.append_nil]
    | cons next more =>
        have begins := right'.begins
        cases others' with
        | nil => exact absurd rfl right'.ne_nil
        | cons head _ =>
            have here : head = next := by
              rw [List.cons_append, List.cons_append] at rest
              exact (List.cons.inj rest).1
            rw [List.head?_cons, Option.map_some, Option.some.injEq, here] at begins
            exact absurd begins (left.not_extended proper (longer ▸ right))
  · cases more with
    | nil => rw [longer, List.append_nil]
    | cons next more =>
        have begins := left'.begins
        cases items' with
        | nil => exact absurd rfl left'.ne_nil
        | cons head _ =>
            have here : head = next := by
              rw [List.cons_append, List.cons_append] at rest
              exact (List.cons.inj rest).1
            rw [List.head?_cons, Option.map_some, Option.some.injEq, here] at begins
            exact absurd begins (right.not_extended proper (longer ▸ left))

end Blocks

/-! ## Ties -/

section Sorting
variable {Item Key : Type} [LinearOrder Key] (key : Item → Key)

/-- A stable sort by a key, as `sorted` is. -/
def sortedBy (items : List Item) : List Item := items.insertionSort fun first second => key first ≤ key second

theorem perm_sortedBy (items : List Item) : (sortedBy key items).Perm items := List.perm_insertionSort _ items

theorem sortedBy_pairwise (items : List Item) : (sortedBy key items).Pairwise fun first second => key first ≤ key second :=
  List.pairwise_insertionSort _ items

variable {key} in
/-- Of a sorted list, an item with few items up to its key is among the first. -/
theorem mem_take_of_few {items : List Item} {item : Item} {limit : Nat}
    (sorted : items.Pairwise fun first second => key first ≤ key second) (member : item ∈ items)
    (few : (items.filter fun other => key other ≤ key item).length ≤ limit) : item ∈ items.take limit := by
  induction items generalizing limit with
  | nil => cases member
  | cons head rest ih =>
      obtain ⟨least, sorted⟩ := List.pairwise_cons.mp sorted
      have first : key head ≤ key item := by
        rcases List.mem_cons.mp member with rfl | later
        · exact le_rfl
        · exact least item later
      rw [List.filter_cons_of_pos (by simpa using first), List.length_cons] at few
      obtain ⟨remaining, rfl⟩ := Nat.exists_eq_add_of_le' (Nat.le_of_add_left_le few)
      rw [List.take_succ_cons]
      rcases List.mem_cons.mp member with rfl | later
      · exact List.mem_cons_self
      · exact List.mem_cons_of_mem _ (ih sorted later (by omega))

/-- What is sorted and kept does not depend on the order of the input when ties among it are equal. -/
theorem filter_sortedBy_eq {items others : List Item} (keep : Item → Bool) (perm : others.Perm items)
    (ties : ∀ first ∈ items, ∀ second ∈ items, key first = key second → keep first = true → keep second = true →
      first = second) : (sortedBy key others).filter keep = (sortedBy key items).filter keep := by
  have permuted : ((sortedBy key others).filter keep).Perm ((sortedBy key items).filter keep) :=
    ((perm_sortedBy key others).trans (perm.trans (perm_sortedBy key items).symm)).filter keep
  refine List.Perm.eq_of_pairwise ?_ ((sortedBy_pairwise key others).filter keep)
    ((sortedBy_pairwise key items).filter keep) permuted
  intro first second inFirst inSecond below above
  rw [List.mem_filter, (perm_sortedBy key _).mem_iff] at inFirst inSecond
  exact ties first (perm.mem_iff.mp inFirst.1) second inSecond.1 (le_antisymm below above) inFirst.2 inSecond.2

/-- Two tied items at the front of the input stay next to each other, in their order. -/
theorem sortedBy_tied {first second : Item} (tied : key first = key second) (rest : List Item) :
    ∃ before after, sortedBy key (first :: second :: rest) = before ++ first :: second :: after ∧
      sortedBy key (second :: first :: rest) = before ++ second :: first :: after := by
  refine ⟨(sortedBy key rest).takeWhile fun item => ¬ key first ≤ key item,
    (sortedBy key rest).dropWhile fun item => ¬ key first ≤ key item, ?_⟩
  have insert : ∀ one two : Item, key one = key first → key two = key first →
      sortedBy key (one :: two :: rest) = (sortedBy key rest).takeWhile (fun item => ¬ key first ≤ key item) ++
        one :: two :: (sortedBy key rest).dropWhile fun item => ¬ key first ≤ key item := by
    intro one two firstKey secondKey
    change List.orderedInsert _ one (List.orderedInsert _ two (sortedBy key rest)) = _
    induction sortedBy key rest with
    | nil => simp [firstKey, secondKey]
    | cons head others ih =>
        by_cases before : key first ≤ key head
        · simp [firstKey, secondKey, before]
        · have below : key head < key first := not_le.mp before
          rw [List.orderedInsert_of_not_le _ _ (by rwa [secondKey]),
            List.orderedInsert_of_not_le _ _ (by rwa [firstKey]), ih]
          simp [below]
  exact ⟨insert first second rfl tied.symm, insert second first tied.symm rfl⟩

end Sorting
end PowerMonitor.Library
