import Mathlib.Data.BitVec
import Mathlib.Tactic.Common

/-! Blocks of addresses that share a prefix.

A block carries the proof that its base has no host bits. Membership masks the host bits away; the lemmas read blocks as
intervals, from the base to the broadcast address.
-/

set_option autoImplicit false
namespace PowerMonitor.Library

structure AddressBlock (width : Nat) where
  base : BitVec width
  length : Nat
  short : length ≤ width := by decide
  aligned : base.toNat % 2 ^ (width - length) = 0 := by decide
  deriving DecidableEq, Repr

namespace AddressBlock
variable {width : Nat}

def netmask (block : AddressBlock width) : BitVec width := BitVec.allOnes width <<< (width - block.length)

def hostmask (block : AddressBlock width) : BitVec width := ~~~ block.netmask

def broadcast (block : AddressBlock width) : BitVec width := block.base ||| block.hostmask

def Contains (block : AddressBlock width) (address : BitVec width) : Prop := address &&& block.netmask = block.base

instance (block : AddressBlock width) (address : BitVec width) : Decidable (block.Contains address) :=
  inferInstanceAs (Decidable (_ = _))

def SubnetOf (inner outer : AddressBlock width) : Prop :=
  outer.base.toNat ≤ inner.base.toNat ∧ inner.broadcast.toNat ≤ outer.broadcast.toNat

instance (inner outer : AddressBlock width) : Decidable (inner.SubnetOf outer) := inferInstanceAs (Decidable (_ ∧ _))

/-- An end of one block lies in the other. -/
def Overlaps (block other : AddressBlock width) : Prop :=
  other.Contains block.base ∨ other.Contains block.broadcast ∨ block.Contains other.base ∨ block.Contains other.broadcast

instance (block other : AddressBlock width) : Decidable (block.Overlaps other) := inferInstanceAs (Decidable (_ ∨ _))

/-! ## Blocks as intervals -/

def size (block : AddressBlock width) : Nat := 2 ^ (width - block.length)

theorem size_pos (block : AddressBlock width) : 0 < block.size := Nat.two_pow_pos _

theorem toNat_masked (block : AddressBlock width) (address : BitVec width) :
    (address &&& block.netmask).toNat = address.toNat / block.size * block.size := by
  have shifted : address &&& block.netmask = (address >>> (width - block.length)) <<< (width - block.length) := by
    ext i inside
    simp [netmask]
    grind
  rw [shifted, BitVec.toNat_shiftLeft, BitVec.toNat_ushiftRight, Nat.shiftRight_eq_div_pow, Nat.shiftLeft_eq]
  exact Nat.mod_eq_of_lt (Nat.lt_of_le_of_lt (Nat.div_mul_le_self _ _) address.isLt)

theorem toNat_hostmask (block : AddressBlock width) : block.hostmask.toNat = block.size - 1 := by
  have shifted : block.hostmask = BitVec.allOnes width >>> block.length := by
    ext i inside
    have short := block.short
    simp [hostmask, netmask]
    grind
  rw [shifted, BitVec.toNat_ushiftRight, BitVec.toNat_allOnes, Nat.shiftRight_eq_div_pow, size]
  have split : 2 ^ width = 2 ^ block.length * 2 ^ (width - block.length) := by
    rw [← Nat.pow_add, Nat.add_sub_cancel' block.short]
  have positive : 0 < 2 ^ block.length := Nat.two_pow_pos _
  rw [split]
  apply Nat.div_eq_of_lt_le
  · have := Nat.mul_le_mul_left (2 ^ block.length) (Nat.two_pow_pos (width - block.length))
    rw [Nat.sub_one_mul, Nat.mul_comm]
    omega
  · have := Nat.two_pow_pos (width - block.length)
    rw [Nat.sub_add_cancel this, Nat.mul_comm]
    have := Nat.mul_pos this positive
    omega

theorem toNat_broadcast (block : AddressBlock width) : block.broadcast.toNat = block.base.toNat + (block.size - 1) := by
  have below : block.size - 1 < 2 ^ (width - block.length) := Nat.sub_lt block.size_pos Nat.one_pos
  obtain ⟨prefix_, base⟩ := Nat.dvd_of_mod_eq_zero block.aligned
  rw [broadcast, BitVec.toNat_or, toNat_hostmask, base]
  exact (Nat.two_pow_add_eq_or_of_lt below prefix_).symm

theorem contains_iff {block : AddressBlock width} {address : BitVec width} :
    block.Contains address ↔ block.base.toNat ≤ address.toNat ∧ address.toNat ≤ block.broadcast.toNat := by
  obtain ⟨prefix_, base⟩ := Nat.dvd_of_mod_eq_zero block.aligned
  have positive := block.size_pos
  rw [Contains, ← BitVec.toNat_inj, toNat_masked, toNat_broadcast, base]
  change address.toNat / block.size * block.size = block.size * prefix_ ↔
    block.size * prefix_ ≤ address.toNat ∧ address.toNat ≤ block.size * prefix_ + (block.size - 1)
  have split := Nat.div_add_mod address.toNat block.size
  have rest := Nat.mod_lt address.toNat positive
  constructor
  · intro same
    rw [Nat.mul_comm] at same
    omega
  · rintro ⟨above, below⟩
    have same : address.toNat / block.size = prefix_ := by
      apply Nat.div_eq_of_lt_le
      · rwa [Nat.mul_comm]
      · rw [Nat.succ_mul, Nat.mul_comm]
        omega
    rw [same, Nat.mul_comm]

theorem SubnetOf.contains {inner outer : AddressBlock width} (within : inner.SubnetOf outer) {address : BitVec width}
    (member : inner.Contains address) : outer.Contains address := by
  rw [contains_iff] at member ⊢
  exact ⟨within.1.trans member.1, member.2.trans within.2⟩

theorem eq_of_contains {block : AddressBlock width} (single : block.length = width) {address : BitVec width}
    (member : block.Contains address) : address = block.base := by
  rw [Contains, netmask, single, Nat.sub_self, BitVec.shiftLeft_zero, BitVec.and_allOnes] at member
  exact member

theorem overlaps_of_contains {block other : AddressBlock width} {address : BitVec width} (first : block.Contains address)
    (second : other.Contains address) : block.Overlaps other := by
  rw [contains_iff] at first second
  unfold Overlaps
  rw [contains_iff, contains_iff]
  rcases Nat.le_total block.base.toNat other.base.toNat with before | after
  · exact .inr (.inr (.inl (contains_iff.mpr ⟨before, second.1.trans first.2⟩)))
  · exact .inl ⟨after, first.1.trans second.2⟩

end AddressBlock
end PowerMonitor.Library
