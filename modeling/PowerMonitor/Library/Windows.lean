import Mathlib.Data.List.Pairwise
import Mathlib.Order.Basic
import Mathlib.Order.ConditionallyCompleteLattice.Basic

/-! Half-open windows of time, some without an end.

A window without an end lasts to the top of the order, which is not one of its instants for the comparison
of two windows.
-/

set_option autoImplicit false
namespace PowerMonitor.Library

structure Window (Instant : Type) where
  start : Instant
  finish : Option Instant
  deriving DecidableEq, Repr

namespace Window
variable {Instant : Type} [LinearOrder Instant] {top instant : Instant} {window other : Window Instant}

def Contains (window : Window Instant) (instant : Instant) : Prop :=
  window.start ≤ instant ∧ ∀ finish ∈ window.finish, instant < finish

instance (window : Window Instant) (instant : Instant) : Decidable (window.Contains instant) :=
  inferInstanceAs (Decidable (_ ∧ ∀ finish ∈ window.finish, _))

/-- The window has an instant. -/
def Proper (window : Window Instant) : Prop := ∀ finish ∈ window.finish, window.start < finish

def Overlaps (top : Instant) (first second : Window Instant) : Prop :=
  first.start < second.finish.getD top ∧ second.start < first.finish.getD top

instance (first second : Window Instant) : Decidable (first.Overlaps top second) :=
  inferInstanceAs (Decidable (_ ∧ _))

theorem Overlaps.symm (overlap : window.Overlaps top other) : other.Overlaps top window := And.symm overlap

/-- The part of a window before an instant. -/
def cut (window : Window Instant) (finish : Instant) : Window Instant := ⟨window.start, some finish⟩

theorem contains_cut {finish : Instant} (inside : ∀ value ∈ window.finish, finish ≤ value) :
    (window.cut finish).Contains instant ↔ window.Contains instant ∧ instant < finish := by
  constructor
  · rintro ⟨started, before⟩
    have early : instant < finish := before finish rfl
    exact ⟨⟨started, fun value closes => early.trans_le (inside value closes)⟩, early⟩
  · rintro ⟨contains, early⟩
    exact ⟨contains.1, fun value closes => Option.some.inj closes ▸ early⟩

theorem Overlaps.of_cut {finish : Instant} (overlap : (window.cut finish).Overlaps top other)
    (inside : finish ≤ window.finish.getD top) : window.Overlaps top other :=
  ⟨overlap.1, overlap.2.trans_le inside⟩

theorem cut_proper {finish : Instant} (later : window.start < finish) : (window.cut finish).Proper :=
  fun _ closes => Option.some.inj closes ▸ later

theorem Contains.lt_finish (contains : window.Contains instant) (below : instant < top) :
    instant < window.finish.getD top := by
  cases closes : window.finish with
  | none => exact below
  | some finish => exact contains.2 finish closes

theorem Contains.overlaps (contains : window.Contains instant) (common : other.Contains instant)
    (below : instant < top) : window.Overlaps top other :=
  ⟨contains.1.trans_lt (common.lt_finish below), common.1.trans_lt (contains.lt_finish below)⟩

theorem Contains.starts (contains : window.Contains other.start) (below : other.start < top) (proper : other.Proper) :
    window.Overlaps top other :=
  contains.overlaps ⟨le_rfl, proper⟩ below

theorem not_overlaps_of_le (bound : Instant) (ends : window.finish = some bound) (after : bound ≤ other.start) :
    ¬ window.Overlaps top other := by
  rintro ⟨_, before⟩
  rw [ends] at before
  exact before.not_ge after

end Window

section Apart
variable {Row Instant : Type} [LinearOrder Instant] {top : Instant} {window : Row → Window Instant} {rows : List Row}

/-- No two rows of a list have overlapping windows. -/
def Apart (top : Instant) (window : Row → Window Instant) (rows : List Row) : Prop :=
  rows.Pairwise fun first second => ¬ (window first).Overlaps top (window second)

instance : Std.Symm fun first second : Row => ¬ (window first).Overlaps top (window second) :=
  ⟨fun _ _ separate overlap => separate overlap.symm⟩

theorem Apart.sublist {kept : List Row} (apart : Apart top window rows) (sub : kept.Sublist rows) :
    Apart top window kept := List.Pairwise.sublist sub apart

theorem Apart.perm {other : List Row} (apart : Apart top window rows) (same : rows.Perm other) :
    Apart top window other :=
  (same.pairwise_iff fun separate overlap => separate overlap.symm).mp apart

/-- Rows whose windows shrink stay apart. -/
theorem Apart.map {change : Row → Row} (apart : Apart top window rows)
    (shrinks : ∀ row ∈ rows, ∀ other, (window (change row)).Overlaps top other → (window row).Overlaps top other) :
    Apart top window (rows.map change) := by
  rw [Apart, List.pairwise_map]
  refine List.Pairwise.imp_of_mem ?_ apart
  intro first second firstMember secondMember separate overlap
  have left := shrinks first firstMember _ overlap
  exact separate (shrinks second secondMember _ left.symm).symm

theorem Apart.separate {first second : Row} (apart : Apart top window rows) (left : first ∈ rows) (right : second ∈ rows)
    (different : first ≠ second) : ¬ (window first).Overlaps top (window second) :=
  List.Pairwise.forall apart left right different

theorem Apart.unique {instant : Instant} {first second : Row} (apart : Apart top window rows) (below : instant < top)
    (left : first ∈ rows) (right : second ∈ rows) (contains : (window first).Contains instant)
    (common : (window second).Contains instant) : first = second := by
  by_contra different
  exact apart.separate left right different (contains.overlaps common below)

end Apart
end PowerMonitor.Library
