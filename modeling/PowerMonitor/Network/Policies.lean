import PowerMonitor.Foundation
import PowerMonitor.Network.Addresses

/-! Sensor network policies, and the targets that a poll may reach.

A policy is evaluated for display and for alerts; a poll checks its target on its own, with the parameters of the policy.
-/

set_option autoImplicit false
namespace PowerMonitor.Network
open Library

inductive PolicyMode where
  | allowListedPrivate
  | allowAllPrivate
  | denyAll
  | legacyAuthenticatedAny
  | legacyPublicAndListed
  deriving DecidableEq, Repr

inductive PolicyDirection where | deviceIngress | serverPull
  deriving DecidableEq, Repr

def metadataNetworks : List IPNetwork :=
  [.v4 { base := dotted 169 254 169 254, length := 32, short := whole4 },
   .v4 { base := dotted 100 100 100 200, length := 32, short := whole4 },
   .v6 { base := leading [0xfd00, 0xec2, 0, 0, 0, 0, 0, 0x254], length := 128, short := whole6 }]

def privateNetworks : List IPNetwork :=
  [.v4 classA, .v4 classB, .v4 classC, .v6 uniqueLocal6]

def IsMetadata (address : IPAddress) : Prop := ∃ network ∈ metadataNetworks, network.Contains address

def IsPrivate (address : IPAddress) : Prop := ∃ network ∈ privateNetworks, network.Contains address

instance : DecidablePred IsMetadata := fun _ => inferInstanceAs (Decidable (∃ network ∈ metadataNetworks, _))

instance : DecidablePred IsPrivate := fun _ => inferInstanceAs (Decidable (∃ network ∈ privateNetworks, _))

/-- `_never_allowed` -/
def neverAllowed (address : IPAddress) : Option String :=
  if IsLoopback address then some "Loopback addresses are never sensor networks"
  else if IsLinkLocal address then some "Link-local and cloud metadata addresses are not permitted"
  else if IsMulticast address then some "Multicast addresses are not permitted"
  else if IsUnspecified address then some "Unspecified addresses are not permitted"
  else if IsMetadata address then some "Cloud metadata addresses are not permitted"
  else none

/-! ## Networks of a policy -/

/-- `_private_network` -/
def IsPrivateNetwork (network : IPNetwork) : Prop := ∃ candidate ∈ privateNetworks, network.SubnetOf candidate

instance : DecidablePred IsPrivateNetwork := fun _ => inferInstanceAs (Decidable (∃ candidate ∈ privateNetworks, _))

def IsMulticastNetwork (network : IPNetwork) : Prop := IsMulticast network.networkAddress ∧ IsMulticast network.broadcastAddress

instance : DecidablePred IsMulticastNetwork := fun _ => inferInstanceAs (Decidable (_ ∧ _))

/-- What `canonical_private_network` has against a network. -/
def networkProblem (network : IPNetwork) : Option ProblemError :=
  match neverAllowed network.networkAddress with
  | some rejection =>
      some { status := 422, title := "Invalid CIDR", detail := rejection, code := "invalid_cidr_range" }
  | none =>
      if IsMulticastNetwork network ∨ ¬ IsPrivateNetwork network then
        some { status := 422, title := "Private CIDR required"
               detail := "Public, reserved, and multicast networks are blocked by default", code := "public_cidr_blocked" }
      else if ∃ item ∈ metadataNetworks, network.Overlaps item then
        some { status := 422, title := "Invalid CIDR", detail := "Cloud metadata ranges are not permitted"
               code := "metadata_cidr_blocked" }
      else none

/-- A network that passed `canonical_private_network`. -/
abbrev CanonicalNetwork := { network : IPNetwork // networkProblem network = none }

structure SensorNetworkCidr where
  network : CanonicalNetwork
  label : String
  enabled : Bool
  deriving DecidableEq, Repr

/-- A policy with its networks, as `policy_cidrs` lists them. -/
structure SensorNetworkPolicy where
  direction : PolicyDirection
  mode : PolicyMode
  cidrs : List SensorNetworkCidr
  deriving DecidableEq, Repr

/-! ## Evaluation -/

inductive MatchingRule where
  | signedAuthentication
  | cidr (label : String) (network : IPNetwork)
  | allPrivateNetworks
  | legacyPublicPolling
  deriving DecidableEq, Repr

structure PolicyDecision where
  allowed : Bool
  address : IPAddress
  direction : PolicyDirection
  mode : PolicyMode
  reason : String
  matchingRule : Option MatchingRule := none
  deriving DecidableEq, Repr

def SensorNetworkPolicy.decide (policy : SensorNetworkPolicy) (address : IPAddress) (allowed : Bool) (reason : String)
    (rule : Option MatchingRule) : PolicyDecision :=
  { allowed := allowed, address := address, direction := policy.direction, mode := policy.mode, reason := reason
    matchingRule := rule }

/-- The address is the broadcast address of an IPv4 network that has one. -/
def IsBroadcast (network : IPNetwork) (address : IPAddress) : Prop :=
  match network with
  | .v4 block => block.length ≤ 30 ∧ address = .v4 block.broadcast
  | .v6 _ => False

instance (network : IPNetwork) (address : IPAddress) : Decidable (IsBroadcast network address) :=
  match network with
  | .v4 block => inferInstanceAs (Decidable (block.length ≤ 30 ∧ address = .v4 block.broadcast))
  | .v6 _ => .isFalse id

/-- The first enabled network of the policy with the address. -/
def SensorNetworkPolicy.matching (policy : SensorNetworkPolicy) (address : IPAddress) : Option SensorNetworkCidr :=
  policy.cidrs.find? fun entry => entry.enabled = true ∧ entry.network.val.Contains address

/-- `evaluate_policy` -/
def evaluatePolicy (policy : SensorNetworkPolicy) (rawAddress : IPAddress) : PolicyDecision :=
  let address := canonicalIp rawAddress
  if policy.mode = .legacyAuthenticatedAny then
    policy.decide address true "Legacy signed-device ingress behavior is preserved pending review" (some .signedAuthentication)
  else
    match neverAllowed address with
    | some rejection => policy.decide address false rejection none
    | none =>
        if policy.mode = .denyAll then policy.decide address false "Device network access is locked down" none
        else
          match policy.matching address with
          | some entry =>
              let rule := some (MatchingRule.cidr entry.label entry.network.val)
              if IsBroadcast entry.network.val address then
                policy.decide address false "Broadcast addresses are not permitted" rule
              else policy.decide address true "Address matched an enabled private-network rule" rule
          | none =>
              if policy.mode = .allowAllPrivate ∧ IsPrivate address then
                policy.decide address true "Address is in a private network" (some .allPrivateNetworks)
              else if policy.mode = .legacyPublicAndListed ∧ IsGlobal address then
                policy.decide address true "Legacy public-polling opt-in is preserved pending review" (some .legacyPublicPolling)
              else policy.decide address false "Address does not match the effective sensor network policy" none

/-- `poll_policy_parameters`: the networks, and whether public addresses are allowed. -/
def pollPolicyParameters (policy : SensorNetworkPolicy) : List IPNetwork × Bool :=
  if policy.mode = .denyAll then ([], false)
  else
    let listed := (policy.cidrs.filter (·.enabled)).map (·.network.val)
    let cidrs := if policy.mode = .allowAllPrivate then listed ++ privateNetworks else listed
    (cidrs, policy.mode = .legacyPublicAndListed)

/-! ## Poll targets -/

inductive AddressRejected where
  | scheme
  | port
  | domain
  | unresolved
  | noAddresses
  | address (address : IPAddress)
  deriving DecidableEq, Repr

/-- `_is_allowed_ip` -/
def isAllowedIp (address : IPAddress) (allowedCidrs : List IPNetwork) (allowPublic : Bool) : Bool :=
  if IsLoopback address ∨ IsLinkLocal address ∨ IsMulticast address ∨ IsUnspecified address then false
  else if IsReserved address then false
  else if ∃ network ∈ allowedCidrs, network.Contains address then true
  else allowPublic = true ∧ IsGlobal address

/-- A host, without dots at its end and in lower case: an address, or a name to resolve. -/
inductive PollHost where
  | literal (address : IPAddress)
  | name (text : String)
  deriving DecidableEq, Repr

/-- What surrounds a check: `str.lower`, and the sorted addresses that a name resolves to. -/
structure Resolution where
  lower : String → String
  getaddrinfo : String → Nat → Option (List IPAddress)

def checkAddresses (allowedCidrs : List IPNetwork) (allowPublic : Bool) : List IPAddress → Except AddressRejected Unit
  | [] => .ok ()
  | address :: rest =>
      if isAllowedIp address allowedCidrs allowPublic then checkAddresses allowedCidrs allowPublic rest
      else .error (.address address)

/-- The ports that are allowed by default. -/
def allowedPorts : List Nat := [80, 443, 8080, 8443]

/-- `validate_poll_target` -/
def validatePollTarget (resolution : Resolution) (host : PollHost) (port : Nat) (scheme : String) (allowedCidrs : List IPNetwork)
    (allowedDomains : List String) (allowedPorts : List Nat) (allowPublic : Bool) : Except AddressRejected (List IPAddress) := do
  if scheme ∉ ["http", "https"] then .error .scheme
  else if port ∉ allowedPorts then .error .port
  else
    let addresses ← match host with
      | .literal address => .ok [address]
      | .name text =>
          if ∃ domain ∈ allowedDomains, text = resolution.lower domain ∨
              ("." ++ resolution.lower domain).toList <:+ text.toList then
            match resolution.getaddrinfo text port with
            | some records => .ok records
            | none => .error .unresolved
          else .error .domain
    if addresses = [] then .error .noAddresses
    else
      checkAddresses allowedCidrs allowPublic addresses
      return addresses

end PowerMonitor.Network
