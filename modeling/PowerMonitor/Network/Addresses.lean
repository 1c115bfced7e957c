import PowerMonitor.Library.AddressBlocks

/-! Addresses and networks, with the properties that `ipaddress` computes in Python 3.13.

Zone identifiers are left out: no property reads them. An IPv4-mapped address has the properties of the address it maps.
-/

set_option autoImplicit false
namespace PowerMonitor.Network
open Library

inductive IPAddress where
  | v4 (ip : BitVec 32)
  | v6 (ip : BitVec 128)
  deriving DecidableEq, Repr

inductive IPNetwork where
  | v4 (block : AddressBlock 32)
  | v6 (block : AddressBlock 128)
  deriving DecidableEq, Repr

/-- The address of the text `a.b.c.d`. -/
def dotted (a b c d : Nat) : BitVec 32 := .ofNat 32 (((a * 256 + b) * 256 + c) * 256 + d)

/-- The address that begins with these groups and goes on with zeros. -/
def leading (groups : List Nat) : BitVec 128 :=
  .ofNat 128 (groups.foldl (fun value group => value * 65536 + group) 0 * 65536 ^ (8 - groups.length))

/-! ## Networks -/

/-- `address in network` -/
def IPNetwork.Contains : IPNetwork → IPAddress → Prop
  | .v4 block, .v4 ip => block.Contains ip
  | .v6 block, .v6 ip => block.Contains ip
  | _, _ => False

instance (network : IPNetwork) (address : IPAddress) : Decidable (network.Contains address) :=
  match network, address with
  | .v4 block, .v4 ip => inferInstanceAs (Decidable (block.Contains ip))
  | .v6 block, .v6 ip => inferInstanceAs (Decidable (block.Contains ip))
  | .v4 _, .v6 _ => .isFalse id
  | .v6 _, .v4 _ => .isFalse id

/-- `subnet_of`, between networks of one version. -/
def IPNetwork.SubnetOf : IPNetwork → IPNetwork → Prop
  | .v4 block, .v4 other => block.SubnetOf other
  | .v6 block, .v6 other => block.SubnetOf other
  | _, _ => False

instance (network other : IPNetwork) : Decidable (network.SubnetOf other) :=
  match network, other with
  | .v4 block, .v4 other => inferInstanceAs (Decidable (block.SubnetOf other))
  | .v6 block, .v6 other => inferInstanceAs (Decidable (block.SubnetOf other))
  | .v4 _, .v6 _ => .isFalse id
  | .v6 _, .v4 _ => .isFalse id

/-- `overlaps`, between networks of one version. -/
def IPNetwork.Overlaps : IPNetwork → IPNetwork → Prop
  | .v4 block, .v4 other => block.Overlaps other
  | .v6 block, .v6 other => block.Overlaps other
  | _, _ => False

instance (network other : IPNetwork) : Decidable (network.Overlaps other) :=
  match network, other with
  | .v4 block, .v4 other => inferInstanceAs (Decidable (block.Overlaps other))
  | .v6 block, .v6 other => inferInstanceAs (Decidable (block.Overlaps other))
  | .v4 _, .v6 _ => .isFalse id
  | .v6 _, .v4 _ => .isFalse id

def IPNetwork.networkAddress : IPNetwork → IPAddress
  | .v4 block => .v4 block.base
  | .v6 block => .v6 block.base

def IPNetwork.broadcastAddress : IPNetwork → IPAddress
  | .v4 block => .v4 block.broadcast
  | .v6 block => .v6 block.broadcast

theorem IPNetwork.SubnetOf.contains {network other : IPNetwork} (within : network.SubnetOf other) {address : IPAddress}
    (member : network.Contains address) : other.Contains address := by
  cases network <;> cases other <;> cases address <;>
    first
    | exact AddressBlock.SubnetOf.contains within member
    | exact False.elim within
    | exact False.elim member

theorem IPNetwork.overlaps_of_contains {network other : IPNetwork} {address : IPAddress} (first : network.Contains address)
    (second : other.Contains address) : network.Overlaps other := by
  cases network <;> cases other <;> cases address <;>
    first
    | exact AddressBlock.overlaps_of_contains first second
    | exact False.elim first
    | exact False.elim second

/-! ## Mapped addresses -/

/-- `ipv4_mapped` -/
def ipv4Mapped (ip : BitVec 128) : Option (BitVec 32) :=
  if ip >>> 32 = 0xFFFF#128 then some (ip.truncate 32) else none

/-- A property that a mapped address takes from the address it maps. -/
def Mapped (four : BitVec 32 → Prop) (six : BitVec 128 → Prop) : IPAddress → Prop
  | .v4 ip => four ip
  | .v6 ip =>
      match ipv4Mapped ip with
      | some mapped => four mapped
      | none => six ip

instance (four : BitVec 32 → Prop) (six : BitVec 128 → Prop) [DecidablePred four] [DecidablePred six] (address : IPAddress) :
    Decidable (Mapped four six address) :=
  match address with
  | .v4 ip => inferInstanceAs (Decidable (four ip))
  | .v6 ip =>
      match found : ipv4Mapped ip with
      | some mapped => decidable_of_iff (four mapped) (by simp [Mapped, found])
      | none => decidable_of_iff (six ip) (by simp [Mapped, found])

/-- `canonical_ip`, of an address that is parsed. -/
def canonicalIp : IPAddress → IPAddress
  | .v4 ip => .v4 ip
  | .v6 ip =>
      match ipv4Mapped ip with
      | some mapped => .v4 mapped
      | none => .v6 ip

/-- A mapped property does not change with the canonical form. -/
theorem mapped_canonicalIp {four : BitVec 32 → Prop} {six : BitVec 128 → Prop} (address : IPAddress) :
    Mapped four six (canonicalIp address) ↔ Mapped four six address := by
  cases address with
  | v4 ip => rfl
  | v6 ip =>
      cases found : ipv4Mapped ip with
      | some mapped => simp [canonicalIp, Mapped, found]
      | none => simp [canonicalIp, found]

/-! ## Special ranges -/

def loopback4 : AddressBlock 32 := { base := dotted 127 0 0 0, length := 8 }

def linkLocal4 : AddressBlock 32 := { base := dotted 169 254 0 0, length := 16 }

def linkLocal6 : AddressBlock 128 := { base := leading [0xfe80], length := 10 }

def multicast4 : AddressBlock 32 := { base := dotted 224 0 0 0, length := 4 }

def multicast6 : AddressBlock 128 := { base := leading [0xff00], length := 8 }

def reserved4 : AddressBlock 32 := { base := dotted 240 0 0 0, length := 4 }

def reserved6 : List (AddressBlock 128) :=
  [{ base := leading [0x0], length := 8 }, { base := leading [0x100], length := 8 }, { base := leading [0x200], length := 7 },
   { base := leading [0x400], length := 6 }, { base := leading [0x800], length := 5 }, { base := leading [0x1000], length := 4 },
   { base := leading [0x4000], length := 3 }, { base := leading [0x6000], length := 3 }, { base := leading [0x8000], length := 3 },
   { base := leading [0xa000], length := 3 }, { base := leading [0xc000], length := 3 }, { base := leading [0xe000], length := 4 },
   { base := leading [0xf000], length := 5 }, { base := leading [0xf800], length := 6 }, { base := leading [0xfe00], length := 9 }]

def classA : AddressBlock 32 := { base := dotted 10 0 0 0, length := 8 }

def classB : AddressBlock 32 := { base := dotted 172 16 0 0, length := 12 }

def classC : AddressBlock 32 := { base := dotted 192 168 0 0, length := 16 }

def uniqueLocal6 : AddressBlock 128 := { base := leading [0xfc00], length := 7 }

/-- The addresses that map IPv4 addresses. -/
def mapped6 : AddressBlock 128 := { base := leading [0, 0, 0, 0, 0, 0xffff], length := 96 }

theorem prefix24 : 24 ≤ 32 := by decide

theorem whole4 : 32 ≤ 32 := by decide

theorem whole6 : 128 ≤ 128 := by decide

/-- Neither private nor global. -/
def shared4 : AddressBlock 32 := { base := dotted 100 64 0 0, length := 10 }

def private4 : List (AddressBlock 32) :=
  [{ base := dotted 0 0 0 0, length := 8 }, classA, loopback4, linkLocal4, classB,
   { base := dotted 192 0 0 0, length := 24 }, { base := dotted 192 0 0 170, length := 31 },
   { base := dotted 192 0 2 0, length := 24 }, classC,
   { base := dotted 198 18 0 0, length := 15 }, { base := dotted 198 51 100 0, length := 24 },
   { base := dotted 203 0 113 0, length := 24 }, { base := dotted 240 0 0 0, length := 4 },
   { base := dotted 255 255 255 255, length := 32 }]

def private4Exceptions : List (AddressBlock 32) :=
  [{ base := dotted 192 0 0 9, length := 32 }, { base := dotted 192 0 0 10, length := 32 }]

def private6 : List (AddressBlock 128) :=
  [{ base := leading [0, 0, 0, 0, 0, 0, 0, 1], length := 128 }, { base := leading [0], length := 128 },
   mapped6, { base := leading [0x64, 0xff9b, 1], length := 48 },
   { base := leading [0x100], length := 64 }, { base := leading [0x2001], length := 23 },
   { base := leading [0x2001, 0xdb8], length := 32 }, { base := leading [0x2002], length := 16 },
   { base := leading [0x3fff], length := 20 }, uniqueLocal6, linkLocal6]

def private6Exceptions : List (AddressBlock 128) :=
  [{ base := leading [0x2001, 1, 0, 0, 0, 0, 0, 1], length := 128 },
   { base := leading [0x2001, 1, 0, 0, 0, 0, 0, 2], length := 128 }, { base := leading [0x2001, 3], length := 32 },
   { base := leading [0x2001, 4, 0x112], length := 48 }, { base := leading [0x2001, 0x20], length := 28 },
   { base := leading [0x2001, 0x30], length := 28 }]

def In {width : Nat} (blocks : List (AddressBlock width)) (ip : BitVec width) : Prop := ∃ block ∈ blocks, block.Contains ip

instance {width : Nat} (blocks : List (AddressBlock width)) (ip : BitVec width) : Decidable (In blocks ip) :=
  inferInstanceAs (Decidable (∃ block ∈ blocks, _))

def Private4 (ip : BitVec 32) : Prop := In private4 ip ∧ ¬ In private4Exceptions ip

def Private6 (ip : BitVec 128) : Prop := In private6 ip ∧ ¬ In private6Exceptions ip

instance : DecidablePred Private4 := fun _ => inferInstanceAs (Decidable (_ ∧ _))

instance : DecidablePred Private6 := fun _ => inferInstanceAs (Decidable (_ ∧ _))

def IsLoopback : IPAddress → Prop := Mapped loopback4.Contains (· = 1#128)

def IsLinkLocal : IPAddress → Prop := Mapped linkLocal4.Contains linkLocal6.Contains

def IsMulticast : IPAddress → Prop := Mapped multicast4.Contains multicast6.Contains

def IsUnspecified : IPAddress → Prop := Mapped (· = 0#32) (· = 0#128)

def IsReserved : IPAddress → Prop := Mapped reserved4.Contains (In reserved6)

def IsGlobal : IPAddress → Prop := Mapped (fun ip => ¬ shared4.Contains ip ∧ ¬ Private4 ip) fun ip => ¬ Private6 ip

instance : DecidablePred IsLoopback := fun _ => inferInstanceAs (Decidable (Mapped ..))

instance : DecidablePred IsLinkLocal := fun _ => inferInstanceAs (Decidable (Mapped ..))

instance : DecidablePred IsMulticast := fun _ => inferInstanceAs (Decidable (Mapped ..))

instance : DecidablePred IsUnspecified := fun _ => inferInstanceAs (Decidable (Mapped ..))

instance : DecidablePred IsReserved := fun _ => inferInstanceAs (Decidable (Mapped ..))

instance : DecidablePred IsGlobal := fun _ => inferInstanceAs (Decidable (Mapped ..))

example : IsGlobal (.v4 (dotted 8 8 8 8)) ∧ ¬ IsGlobal (.v4 (dotted 100 100 100 200)) ∧
    IsLoopback (.v6 (leading [0, 0, 0, 0, 0, 0xffff, 0x7f00, 1])) := by decide

end PowerMonitor.Network
