import PowerMonitor.Network.Policies

/-! The check of a poll target against the evaluation of the policy.

Whatever a poll may reach is allowed by the policy, but for two slips: the poll does not know broadcast addresses, and the
networks that it adds for all private addresses contain a metadata address.
-/

set_option autoImplicit false
namespace PowerMonitor.Network
open Library

/-! ## Private addresses -/

theorem mapped6_contains {ip : BitVec 128} {mapped : BitVec 32} (found : ipv4Mapped ip = some mapped) : mapped6.Contains ip := by
  unfold ipv4Mapped at found
  split at found
  · rename_i high
    have value := congrArg BitVec.toNat high
    rw [BitVec.toNat_ushiftRight, Nat.shiftRight_eq_div_pow] at value
    rw [AddressBlock.contains_iff, show mapped6.base.toNat = 0xffff * 2 ^ 32 by decide,
      show mapped6.broadcast.toNat = 0xffff * 2 ^ 32 + (2 ^ 32 - 1) by decide]
    change ip.toNat / 2 ^ 32 = 0xffff at value
    omega
  · cases found

/-- Everything else that is special. -/
def specialNetworks : List IPNetwork :=
  [.v4 loopback4, .v4 linkLocal4, .v4 multicast4, .v4 reserved4, .v4 { base := 0#32, length := 32, short := whole4 },
   .v6 mapped6, .v6 { base := 1#128, length := 128, short := whole6 }, .v6 linkLocal6, .v6 multicast6,
   .v6 { base := 0#128, length := 128, short := whole6 }] ++
  reserved6.map .v6

theorem private_not_special : ∀ candidate ∈ privateNetworks, ∀ special ∈ specialNetworks, ¬ candidate.Overlaps special := by
  decide

theorem IsPrivate.not_special {address : IPAddress} (isPrivate : IsPrivate address) :
    ∀ special ∈ specialNetworks, ¬ special.Contains address := by
  obtain ⟨candidate, listed, member⟩ := isPrivate
  intro special among holds
  exact private_not_special candidate listed special among (IPNetwork.overlaps_of_contains member holds)

theorem IsPrivate.unmapped {ip : BitVec 128} (isPrivate : IsPrivate (.v6 ip)) : ipv4Mapped ip = none := by
  cases found : ipv4Mapped ip with
  | none => rfl
  | some mapped => exact absurd (mapped6_contains found) (isPrivate.not_special (.v6 mapped6) (by decide))

theorem IsPrivate.canonicalIp {address : IPAddress} (isPrivate : IsPrivate address) : canonicalIp address = address := by
  cases address with
  | v4 ip => rfl
  | v6 ip => simp only [Network.canonicalIp, isPrivate.unmapped]

/-- A private address has no property that the address blocks of another kind give. -/
theorem IsPrivate.not_mapped {address : IPAddress} (isPrivate : IsPrivate address) {four : BitVec 32 → Prop} {six : BitVec 128 → Prop}
    (first : ∀ ip, four ip → ∃ special ∈ specialNetworks, special.Contains (.v4 ip))
    (second : ∀ ip, six ip → ∃ special ∈ specialNetworks, special.Contains (.v6 ip)) : ¬ Mapped four six address := by
  intro holds
  have special : ∃ special ∈ specialNetworks, special.Contains address := by
    cases address with
    | v4 ip => exact first ip holds
    | v6 ip =>
        unfold Mapped at holds
        simp only [isPrivate.unmapped] at holds
        exact second ip holds
  obtain ⟨network, listed, member⟩ := special
  exact isPrivate.not_special network listed member

theorem IsPrivate.harmless {address : IPAddress} (isPrivate : IsPrivate address) :
    ¬ IsLoopback address ∧ ¬ IsLinkLocal address ∧ ¬ IsMulticast address ∧ ¬ IsUnspecified address ∧ ¬ IsReserved address := by
  refine ⟨isPrivate.not_mapped ?_ ?_, isPrivate.not_mapped ?_ ?_, isPrivate.not_mapped ?_ ?_, isPrivate.not_mapped ?_ ?_,
    isPrivate.not_mapped ?_ ?_⟩
  · exact fun ip holds => ⟨.v4 loopback4, by decide, holds⟩
  · rintro ip rfl
    exact ⟨.v6 { base := 1#128, length := 128 }, by decide, by decide⟩
  · exact fun ip holds => ⟨.v4 linkLocal4, by decide, holds⟩
  · exact fun ip holds => ⟨.v6 linkLocal6, by decide, holds⟩
  · exact fun ip holds => ⟨.v4 multicast4, by decide, holds⟩
  · exact fun ip holds => ⟨.v6 multicast6, by decide, holds⟩
  · rintro ip rfl
    exact ⟨.v4 { base := 0#32, length := 32 }, by decide, by decide⟩
  · rintro ip rfl
    exact ⟨.v6 { base := 0#128, length := 128 }, by decide, by decide⟩
  · exact fun ip holds => ⟨.v4 reserved4, by decide, holds⟩
  · rintro ip ⟨block, listed, holds⟩
    exact ⟨.v6 block, List.mem_append_right _ (List.mem_map.mpr ⟨block, listed, rfl⟩), holds⟩

def privateException : List IPNetwork := private4Exceptions.map .v4 ++ private6Exceptions.map .v6

theorem private_not_exception : ∀ candidate ∈ privateNetworks, ∀ exception ∈ privateException, ¬ candidate.Overlaps exception := by
  decide

theorem private_listed : ∀ candidate ∈ privateNetworks, candidate ∈ private4.map IPNetwork.v4 ++ private6.map IPNetwork.v6 := by
  decide

theorem IsPrivate.not_global {address : IPAddress} (isPrivate : IsPrivate address) : ¬ IsGlobal address := by
  obtain ⟨candidate, listed, member⟩ := isPrivate
  have apart : ∀ exception ∈ privateException, ¬ exception.Contains address := fun exception among holds =>
    private_not_exception candidate listed exception among (IPNetwork.overlaps_of_contains member holds)
  have known := private_listed candidate listed
  cases address with
  | v4 ip =>
      rintro ⟨_, public_⟩
      cases candidate with
      | v6 block => exact member
      | v4 block =>
          refine public_ ⟨⟨block, by simpa using known, member⟩, ?_⟩
          rintro ⟨exception, among, holds⟩
          exact apart (.v4 exception) (List.mem_append_left _ (List.mem_map.mpr ⟨exception, among, rfl⟩)) holds
  | v6 ip =>
      intro global
      unfold IsGlobal Mapped at global
      simp only [IsPrivate.unmapped ⟨candidate, listed, member⟩] at global
      cases candidate with
      | v4 block => exact member
      | v6 block =>
          refine global ⟨⟨block, by simpa using known, member⟩, ?_⟩
          rintro ⟨exception, among, holds⟩
          exact apart (.v6 exception) (List.mem_append_right _ (List.mem_map.mpr ⟨exception, among, rfl⟩)) holds

/-! ## Metadata addresses -/

/-- The metadata address inside the private networks. -/
def metadata6 : IPAddress := .v6 (leading [0xfd00, 0xec2, 0, 0, 0, 0, 0, 0x254])

theorem IsMetadata.cases {address : IPAddress} (metadata : IsMetadata address) :
    address = .v4 (dotted 169 254 169 254) ∨ address = .v4 (dotted 100 100 100 200) ∨ address = metadata6 := by
  obtain ⟨network, listed, member⟩ := metadata
  simp only [metadataNetworks, List.mem_cons, List.not_mem_nil, or_false] at listed
  rcases listed with rfl | rfl | rfl
  · cases address with
    | v4 ip => exact .inl (congrArg _ (AddressBlock.eq_of_contains rfl member))
    | v6 ip => exact member.elim
  · cases address with
    | v4 ip => exact .inr (.inl (congrArg _ (AddressBlock.eq_of_contains rfl member)))
    | v6 ip => exact member.elim
  · cases address with
    | v4 ip => exact member.elim
    | v6 ip => exact .inr (.inr (congrArg _ (AddressBlock.eq_of_contains rfl member)))

theorem IsMetadata.not_global {address : IPAddress} (metadata : IsMetadata address) : ¬ IsGlobal address := by
  rcases metadata.cases with rfl | rfl | rfl <;> decide

theorem IsMetadata.private_eq {address : IPAddress} (metadata : IsMetadata address) (isPrivate : IsPrivate address) :
    address = metadata6 := by
  rcases metadata.cases with rfl | rfl | same
  · exact absurd isPrivate (by decide)
  · exact absurd isPrivate (by decide)
  · exact same

/-! ## Networks of a policy -/

theorem CanonicalNetwork.facts (network : CanonicalNetwork) :
    IsPrivateNetwork network.val ∧ ∀ item ∈ metadataNetworks, ¬ network.val.Overlaps item := by
  have passed := network.property
  unfold networkProblem at passed
  split at passed
  · cases passed
  · split at passed
    · cases passed
    · rename_i shape
      split at passed
      · cases passed
      · rename_i apart
        rw [not_or, not_not] at shape
        exact ⟨shape.2, fun item listed overlaps => apart ⟨item, listed, overlaps⟩⟩

theorem CanonicalNetwork.isPrivate (network : CanonicalNetwork) {address : IPAddress} (member : network.val.Contains address) :
    IsPrivate address := by
  obtain ⟨candidate, listed, within⟩ := network.facts.1
  exact ⟨candidate, listed, within.contains member⟩

theorem CanonicalNetwork.not_metadata (network : CanonicalNetwork) {address : IPAddress} (member : network.val.Contains address) :
    ¬ IsMetadata address := by
  rintro ⟨item, listed, holds⟩
  exact network.facts.2 item listed (IPNetwork.overlaps_of_contains member holds)

theorem matching_some {policy : SensorNetworkPolicy} {address : IPAddress} {entry : SensorNetworkCidr}
    (found : policy.matching address = some entry) :
    entry ∈ policy.cidrs ∧ entry.enabled = true ∧ entry.network.val.Contains address := by
  have holds := List.find?_some found
  exact ⟨List.mem_of_find?_eq_some found, of_decide_eq_true holds⟩

theorem matching_of_listed {policy : SensorNetworkPolicy} {address : IPAddress} {entry : SensorNetworkCidr}
    (listed : entry ∈ policy.cidrs) (enabled : entry.enabled = true) (member : entry.network.val.Contains address) :
    ∃ first, policy.matching address = some first :=
  Option.isSome_iff_exists.mp (List.find?_isSome.mpr ⟨entry, listed, decide_eq_true ⟨enabled, member⟩⟩)

/-! ## Both checks -/

theorem neverAllowed_eq_none {address : IPAddress} : neverAllowed address = none ↔
    ¬ IsLoopback address ∧ ¬ IsLinkLocal address ∧ ¬ IsMulticast address ∧ ¬ IsUnspecified address ∧ ¬ IsMetadata address := by
  unfold neverAllowed
  split_ifs <;> simp_all

theorem isAllowedIp_iff {address : IPAddress} {cidrs : List IPNetwork} {allowPublic : Bool} :
    isAllowedIp address cidrs allowPublic = true ↔
      (¬ IsLoopback address ∧ ¬ IsLinkLocal address ∧ ¬ IsMulticast address ∧ ¬ IsUnspecified address ∧ ¬ IsReserved address) ∧
        ((∃ network ∈ cidrs, network.Contains address) ∨ (allowPublic = true ∧ IsGlobal address)) := by
  unfold isAllowedIp
  split_ifs <;> simp_all
  all_goals tauto

/-- A literal is accepted on a permitted port and scheme exactly when its address is allowed. -/
theorem validatePollTarget_literal {resolution : Resolution} {address : IPAddress} {port : Nat} {scheme : String}
    {cidrs : List IPNetwork} {domains : List String} {ports : List Nat} {allowPublic : Bool} {addresses : List IPAddress} :
    validatePollTarget resolution (.literal address) port scheme cidrs domains ports allowPublic = .ok addresses ↔
      scheme ∈ ["http", "https"] ∧ port ∈ ports ∧ isAllowedIp address cidrs allowPublic = true ∧ addresses = [address] := by
  unfold validatePollTarget
  by_cases known : scheme ∈ ["http", "https"]
  · by_cases open_ : port ∈ ports
    · rw [if_neg (not_not.mpr known), if_neg (not_not.mpr open_)]
      by_cases allowed : isAllowedIp address cidrs allowPublic = true
      · simp [checkAddresses, allowed, known, open_, bind, Except.bind, pure, Except.pure, eq_comm]
      · simp [checkAddresses, allowed, bind, Except.bind]
    · rw [if_neg (not_not.mpr known), if_pos open_]
      simp [open_]
  · rw [if_pos known]
    simp only [known, false_and]
    exact iff_of_false nofun id

/-- The poll accepts only what the policy allows, and nothing that is never allowed. -/
def PullAgreement (policy : SensorNetworkPolicy) (address : IPAddress) : Prop :=
  ∀ resolution port scheme domains ports addresses,
    validatePollTarget resolution (.literal address) port scheme (pollPolicyParameters policy).1 domains ports
        (pollPolicyParameters policy).2 = .ok addresses →
      (evaluatePolicy policy address).allowed = true ∧ ¬ IsLoopback address ∧ ¬ IsLinkLocal address ∧ ¬ IsMulticast address ∧
        ¬ IsUnspecified address ∧ ¬ IsMetadata address ∧ ¬ IsMetadata (canonicalIp address)

/-- The address is the broadcast address of the first enabled network with it, and the policy has a use for its networks. -/
def IsListedBroadcast (policy : SensorNetworkPolicy) (address : IPAddress) : Prop :=
  policy.mode ≠ .denyAll ∧ policy.mode ≠ .legacyAuthenticatedAny ∧
    ∃ entry, policy.matching address = some entry ∧ IsBroadcast entry.network.val address

section Agreement
variable {policy : SensorNetworkPolicy} {address : IPAddress}

theorem mem_pollPolicyParameters (open_ : policy.mode ≠ .denyAll) {network : IPNetwork} :
    network ∈ (pollPolicyParameters policy).1 ↔ (∃ entry ∈ policy.cidrs, entry.enabled = true ∧ entry.network.val = network) ∨
      (policy.mode = .allowAllPrivate ∧ network ∈ privateNetworks) := by
  unfold pollPolicyParameters
  rw [if_neg open_]
  by_cases all : policy.mode = .allowAllPrivate
  · simp [all, and_assoc]
  · simp [all, and_assoc]

theorem pollPolicyParameters_public (open_ : policy.mode ≠ .denyAll) :
    (pollPolicyParameters policy).2 = true ↔ policy.mode = .legacyPublicAndListed := by
  unfold pollPolicyParameters
  rw [if_neg open_]
  exact decide_eq_true_iff

theorem pollPolicyParameters_denied (denied : policy.mode = .denyAll) : pollPolicyParameters policy = ([], false) := by
  unfold pollPolicyParameters
  exact if_pos denied

theorem accepted_cases (accepted : isAllowedIp address (pollPolicyParameters policy).1 (pollPolicyParameters policy).2 = true) :
    policy.mode ≠ .denyAll ∧ ((∃ entry, policy.matching address = some entry) ∨
      (policy.mode = .allowAllPrivate ∧ IsPrivate address) ∨ (policy.mode = .legacyPublicAndListed ∧ IsGlobal address)) := by
  obtain ⟨_, reason⟩ := isAllowedIp_iff.mp accepted
  by_cases denied : policy.mode = .denyAll
  · rw [pollPolicyParameters_denied denied] at reason
    simp at reason
  · refine ⟨denied, ?_⟩
    rcases reason with ⟨network, listed, member⟩ | ⟨public_, global⟩
    · rcases (mem_pollPolicyParameters denied).mp listed with ⟨entry, present, enabled, rfl⟩ | ⟨all, among⟩
      · exact .inl (matching_of_listed present enabled member)
      · exact .inr (.inl ⟨all, network, among, member⟩)
    · exact .inr (.inr ⟨(pollPolicyParameters_public denied).mp public_, global⟩)

theorem accepted_not_metadata (apart : ¬ (policy.mode = .allowAllPrivate ∧ address = metadata6))
    (accepted : isAllowedIp address (pollPolicyParameters policy).1 (pollPolicyParameters policy).2 = true) :
    ¬ IsMetadata address ∧ ¬ IsMetadata (canonicalIp address) := by
  rcases (accepted_cases accepted).2 with ⟨entry, found⟩ | ⟨all, isPrivate⟩ | ⟨_, global⟩
  · have member := (matching_some found).2.2
    rw [(entry.network.isPrivate member).canonicalIp]
    exact ⟨entry.network.not_metadata member, entry.network.not_metadata member⟩
  · rw [isPrivate.canonicalIp]
    exact ⟨fun metadata => apart ⟨all, metadata.private_eq isPrivate⟩, fun metadata => apart ⟨all, metadata.private_eq isPrivate⟩⟩
  · exact ⟨fun metadata => metadata.not_global global,
      fun metadata => metadata.not_global ((mapped_canonicalIp address).mpr global)⟩

/-- An address that is not harmful is allowed when the policy lists it. -/
theorem evaluatePolicy_allowed (harmless : neverAllowed (canonicalIp address) = none)
    (apart : ¬ IsListedBroadcast policy address)
    (accepted : isAllowedIp address (pollPolicyParameters policy).1 (pollPolicyParameters policy).2 = true) :
    (evaluatePolicy policy address).allowed = true := by
  obtain ⟨open_, reason⟩ := accepted_cases accepted
  unfold evaluatePolicy
  dsimp only
  by_cases legacy : policy.mode = .legacyAuthenticatedAny
  · rw [if_pos legacy]
    rfl
  · rw [if_neg legacy, harmless]
    dsimp only
    rw [if_neg open_]
    rcases reason with ⟨entry, found⟩ | ⟨all, isPrivate⟩ | ⟨public_, global⟩
    · rw [(entry.network.isPrivate (matching_some found).2.2).canonicalIp, found]
      dsimp only
      rw [if_neg fun broadcast => apart ⟨open_, legacy, entry, found, broadcast⟩]
      rfl
    · rw [isPrivate.canonicalIp]
      cases found : policy.matching address with
      | some entry =>
          dsimp only
          rw [if_neg fun broadcast => apart ⟨open_, legacy, entry, found, broadcast⟩]
          rfl
      | none =>
          dsimp only
          rw [if_pos ⟨all, isPrivate⟩]
          rfl
    · have canonical : IsGlobal (canonicalIp address) := (mapped_canonicalIp address).mpr global
      cases found : policy.matching (canonicalIp address) with
      | some entry => exact absurd canonical (entry.network.isPrivate (matching_some found).2.2).not_global
      | none =>
          dsimp only
          rw [if_neg fun all => absurd (all.1.symm.trans public_) nofun, if_pos ⟨public_, canonical⟩]
          rfl

/-- The policy of all private networks lets the poll reach the metadata address. -/
theorem metadata6_accepted (all : policy.mode = .allowAllPrivate) :
    isAllowedIp metadata6 (pollPolicyParameters policy).1 (pollPolicyParameters policy).2 = true := by
  have isPrivate : IsPrivate metadata6 := by decide
  obtain ⟨network, listed, member⟩ := isPrivate
  refine isAllowedIp_iff.mpr ⟨IsPrivate.harmless ⟨network, listed, member⟩, .inl ⟨network, ?_, member⟩⟩
  exact (mem_pollPolicyParameters (by rw [all]; exact nofun)).mpr (.inr ⟨all, listed⟩)

/-- The poll may reach a broadcast address that the policy does not allow. -/
theorem broadcast_accepted (broadcast : IsListedBroadcast policy address) :
    isAllowedIp address (pollPolicyParameters policy).1 (pollPolicyParameters policy).2 = true ∧
      (evaluatePolicy policy address).allowed = false := by
  obtain ⟨open_, legacy, entry, found, last⟩ := broadcast
  obtain ⟨listed, enabled, member⟩ := matching_some found
  have isPrivate := entry.network.isPrivate member
  constructor
  · exact isAllowedIp_iff.mpr ⟨isPrivate.harmless, .inl ⟨entry.network.val,
      (mem_pollPolicyParameters open_).mpr (.inl ⟨entry, listed, enabled, rfl⟩), member⟩⟩
  · unfold evaluatePolicy
    dsimp only
    rw [if_neg legacy, isPrivate.canonicalIp]
    cases neverAllowed address with
    | some rejection => rfl
    | none =>
        dsimp only
        rw [if_neg open_, found]
        dsimp only
        rw [if_pos last]
        rfl

end Agreement

/-- The poll enforces its policy exactly for the other addresses. -/
theorem pull_policy_enforced_iff (policy : SensorNetworkPolicy) (address : IPAddress) :
    PullAgreement policy address ↔
      ¬ (policy.mode = .allowAllPrivate ∧ address = metadata6) ∧ ¬ IsListedBroadcast policy address := by
  constructor
  · intro agreement
    have reach : isAllowedIp address (pollPolicyParameters policy).1 (pollPolicyParameters policy).2 = true →
        (evaluatePolicy policy address).allowed = true ∧ ¬ IsMetadata address := by
      intro accepted
      have lawful := agreement ⟨id, fun _ _ => none⟩ 443 "https" [] allowedPorts [address]
        (validatePollTarget_literal.mpr ⟨by decide, by decide, accepted, rfl⟩)
      exact ⟨lawful.1, lawful.2.2.2.2.2.1⟩
    constructor
    · rintro ⟨all, rfl⟩
      exact (reach (metadata6_accepted all)).2 (by decide)
    · intro broadcast
      obtain ⟨accepted, refused⟩ := broadcast_accepted broadcast
      rw [(reach accepted).1] at refused
      cases refused
  · rintro ⟨apart, unlisted⟩ resolution port scheme domains ports addresses accepted
    obtain ⟨_, _, allowed, _⟩ := validatePollTarget_literal.mp accepted
    obtain ⟨⟨loopback, linkLocal, multicast, unspecified, _⟩, _⟩ := isAllowedIp_iff.mp allowed
    obtain ⟨metadata, canonical⟩ := accepted_not_metadata apart allowed
    have harmless : neverAllowed (canonicalIp address) = none := by
      rw [neverAllowed_eq_none]
      exact ⟨fun holds => loopback ((mapped_canonicalIp address).mp holds),
        fun holds => linkLocal ((mapped_canonicalIp address).mp holds),
        fun holds => multicast ((mapped_canonicalIp address).mp holds),
        fun holds => unspecified ((mapped_canonicalIp address).mp holds), canonical⟩
    exact ⟨evaluatePolicy_allowed harmless unlisted allowed, loopback, linkLocal, multicast, unspecified, metadata, canonical⟩

/-- A policy for all private networks, and one that lists a home network. -/
def allPrivate : SensorNetworkPolicy := { direction := .serverPull, mode := .allowAllPrivate, cidrs := [] }

def homeNetwork : CanonicalNetwork := ⟨.v4 { base := dotted 192 168 1 0, length := 24, short := prefix24 }, by decide⟩

def homeOnly : SensorNetworkPolicy :=
  { direction := .serverPull, mode := .allowListedPrivate, cidrs := [⟨homeNetwork, "Home", true⟩] }

theorem metadata_and_broadcast_polled :
    ¬ PullAgreement allPrivate metadata6 ∧ ¬ PullAgreement homeOnly (.v4 (dotted 192 168 1 255)) := by
  constructor
  · intro agreement
    have lawful := agreement ⟨id, fun _ _ => none⟩ 80 "http" [] allowedPorts [metadata6] (by decide)
    exact absurd lawful.1 (by decide)
  · intro agreement
    have lawful := agreement ⟨id, fun _ _ => none⟩ 80 "http" [] allowedPorts [.v4 (dotted 192 168 1 255)] (by decide)
    exact absurd lawful.1 (by decide)

end PowerMonitor.Network
