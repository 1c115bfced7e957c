import Mathlib.Tactic.Common
import Mathlib.Data.List.Basic

/-! A table of keys that may be claimed once until they expire.

Claiming a key first drops every entry whose expiry lies in the past. A key is
refused exactly while an entry for it is still there, so an entry protects its
key up to its expiry and no further.
-/

set_option autoImplicit false
namespace PowerMonitor.Library

structure ExpiringKey (Key : Type) where
  key : Key
  expiresAt : Int
  deriving DecidableEq, Repr

variable {Key : Type}

/-- Drop the entries that expired before `now`. -/
def purgeExpired (now : Int) (entries : List (ExpiringKey Key)) : List (ExpiringKey Key) :=
  entries.filter fun entry => ¬ entry.expiresAt < now

@[simp] theorem mem_purgeExpired {now : Int} {entries : List (ExpiringKey Key)} {entry : ExpiringKey Key} :
    entry ∈ purgeExpired now entries ↔ entry ∈ entries ∧ now ≤ entry.expiresAt := by
  simp [purgeExpired]

/-- Insert the key unless an unexpired entry holds it. -/
def claimKey [DecidableEq Key] (now : Int) (entry : ExpiringKey Key) (entries : List (ExpiringKey Key)) :
    Option (List (ExpiringKey Key)) :=
  if ∃ other ∈ purgeExpired now entries, other.key = entry.key then none
  else some (purgeExpired now entries ++ [entry])

section Claim
variable [DecidableEq Key] {now : Int} {entry : ExpiringKey Key} {entries next : List (ExpiringKey Key)}

theorem claimKey_eq_some : claimKey now entry entries = some next ↔
    (∀ other ∈ entries, other.key = entry.key → other.expiresAt < now) ∧
      next = purgeExpired now entries ++ [entry] := by
  rw [claimKey]
  split
  · next held =>
      obtain ⟨other, member, same⟩ := held
      rw [mem_purgeExpired] at member
      simp only [reduceCtorEq, false_iff, not_and]
      intro expired
      have := expired other member.1 same
      omega
  · next free =>
      rw [Option.some.injEq, eq_comm]
      refine (and_iff_right fun other member same => ?_).symm
      by_contra unexpired
      exact free ⟨other, mem_purgeExpired.mpr ⟨member, by omega⟩, same⟩

/-- An entry outlives every claim made no later than its expiry. -/
theorem claimKey_keeps (claimed : claimKey now entry entries = some next) {other : ExpiringKey Key}
    (member : other ∈ entries) (unexpired : now ≤ other.expiresAt) : other ∈ next := by
  rw [(claimKey_eq_some.mp claimed).2]
  exact List.mem_append_left _ (mem_purgeExpired.mpr ⟨member, unexpired⟩)

theorem claimKey_inserts (claimed : claimKey now entry entries = some next) : entry ∈ next := by
  rw [(claimKey_eq_some.mp claimed).2]
  simp

end Claim
end PowerMonitor.Library
