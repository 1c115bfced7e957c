import PowerMonitor.Security.Requests
import Mathlib.Data.List.Nodup

/-! Authentication of headless agents: boots, counters and nonces.

Each boot of an agent has a row with the highest counter seen. A new boot retires
the active one, and a retired boot never comes back.
-/

set_option autoImplicit false
namespace PowerMonitor.Security
open Library

/-- `AGENT_PROTOCOL` -/
def agentProtocol : String := "pm-agent/2.0.0"

/-- `AGENT_CANONICAL_PREFIX` -/
def agentCanonicalHeading : String := "PM-AGENT-HMAC-SHA256-V2"

/-- `MAX_AGENT_COUNTER` -/
def maxAgentCounter : Int := 2 ^ 63 - 1

/-! ## Canonical UUID texts -/

/-- Remove every occurrence of a non-empty pattern, from left to right. -/
def removeAll (pattern : List Char) : Nat → List Char → List Char
  | 0, text => text
  | _ + 1, [] => []
  | steps + 1, c :: rest =>
      if pattern.isPrefixOf (c :: rest) then removeAll pattern steps ((c :: rest).drop pattern.length)
      else c :: removeAll pattern steps rest

def hexValue (c : Char) : Option Nat :=
  if c.isDigit then some (c.toNat - 48)
  else if 'a' ≤ c ∧ c ≤ 'f' then some (c.toNat - 87)
  else if 'A' ≤ c ∧ c ≤ 'F' then some (c.toNat - 55)
  else none

/-- Hexadecimal digits with single underscores between them. -/
def readHex (value : Nat) : List Char → Option Nat
  | [] => some value
  | '_' :: d :: rest => (hexValue d).bind fun digit => readHex (value * 16 + digit) rest
  | d :: rest => (hexValue d).bind fun digit => readHex (value * 16 + digit) rest

/-- `int(text, 16)` of a text without a minus sign. -/
def parseHex (text : List Char) : Option Nat :=
  let unsigned := match strip text with
    | '+' :: rest => rest
    | rest => rest
  match unsigned with
  | '0' :: 'x' :: '_' :: d :: rest => if (hexValue d).isSome then readHex 0 (d :: rest) else none
  | '0' :: 'X' :: '_' :: d :: rest => if (hexValue d).isSome then readHex 0 (d :: rest) else none
  | '0' :: 'x' :: d :: rest => if (hexValue d).isSome then readHex 0 (d :: rest) else none
  | '0' :: 'X' :: d :: rest => if (hexValue d).isSome then readHex 0 (d :: rest) else none
  | d :: rest => if (hexValue d).isSome then readHex 0 (d :: rest) else none
  | [] => none

def hexDigits : List Char := "0123456789abcdef".toList

/-- The 32 lower-case digits of a value, grouped 8-4-4-4-12. -/
def formatUuid (value : Nat) : String :=
  let digits := (List.range 32).reverse.map fun place => hexDigits.getD (value / 16 ^ place % 16) '0'
  let group := fun start count => String.ofList ((digits.drop start).take count)
  "-".intercalate [group 0 8, group 8 4, group 12 4, group 16 4, group 20 12]

/-- `str(UUID(text))` -/
def canonicalUuid (text : String) : Option String :=
  let plain := removeAll "uuid:".toList text.length (removeAll "urn:".toList text.length text.toList)
  let isBrace := fun c => c = '\x7b' || c = '\x7d'
  let digits := (((plain.dropWhile isBrace).reverse.dropWhile isBrace).reverse).filter (· ≠ '-')
  if digits.length = 32 then (parseHex digits).map formatUuid else none

example : canonicalUuid "urn:uuid:5A0F2C1E7d344B539C1F0D6B1A2C3E4F" =
    some "5a0f2c1e-7d34-4b53-9c1f-0d6b1a2c3e4f" := by decide

/-! ## Requests -/

section Verify
variable (primitives : Primitives)

def canonicalAgentRequest (deviceId bootId : String) (counter : Int)
    (nonce method target bodySha256 : String) : String :=
  "\n".intercalate [agentCanonicalHeading, agentProtocol, deviceId, bootId, toString counter, nonce.toLower,
    method.toUpper, primitives.canonicalPathAndQuery target, bodySha256]

/-- `calculate_agent_request_signature`, on identities already in canonical form. -/
def calculateAgentRequestSignature (secret : ByteArray) (deviceId bootId : String) (counter : Int)
    (nonce method target bodySha256 : String) : String :=
  primitives.hmacSha256Hex (primitives.hkdfSha256 secret "pm-agent-device-to-server-v2")
    (canonicalAgentRequest primitives deviceId bootId counter nonce method target bodySha256).toUTF8

/-- Replay boundary for one outbound-only agent boot. -/
structure HeadlessAgentBoot where
  deviceId : String
  bootId : String
  highestCounter : Int
  active : Bool := true
  firstSeenAt : Int
  lastSeenAt : Int
  deriving DecidableEq, Repr

structure AgentStore where
  boots : List HeadlessAgentBoot := []
  nonces : List DeviceNonce := []
  deriving DecidableEq, Repr

structure VerifiedAgentRequest where
  deviceId : String
  device : Device
  credential : DeviceCredential
  secret : ByteArray
  bootId : String
  counter : Int
  nonce : String

def HeadlessAgentBoot.Is (boot : HeadlessAgentBoot) (deviceId bootId : String) : Prop :=
  boot.deviceId = deviceId ∧ boot.bootId = bootId

instance (boot : HeadlessAgentBoot) (deviceId bootId : String) : Decidable (boot.Is deviceId bootId) :=
  inferInstanceAs (Decidable (_ ∧ _))

def retireActive (deviceId : String) (boots : List HeadlessAgentBoot) : List HeadlessAgentBoot :=
  boots.map fun boot => if boot.deviceId = deviceId ∧ boot.active = true then { boot with active := false } else boot

/-- The boot rows after a request: the takeover by a new boot, or the next counter of the active one. -/
def admitBoot (boots : List HeadlessAgentBoot) (deviceId bootId : String) (counter now : Int) :
    Except VerifyError (List HeadlessAgentBoot) := do
  let boot := boots.find? fun boot => boot.Is deviceId bootId
  let activeBoot := boots.find? fun boot => boot.deviceId = deviceId ∧ boot.active = true
  match boot with
  | none =>
      let others := if activeBoot.isSome then retireActive deviceId boots else boots
      pure (others ++ [⟨deviceId, bootId, counter, true, now, now⟩])
  | some boot =>
      rejectIf (boot.active = false) "wrong_boot_id" "A retired boot ID cannot be reused"
      rejectIf (counter ≤ boot.highestCounter) "counter_replay" "Request counter was already used"
      pure (boots.map fun other =>
        if other.Is deviceId bootId then { other with highestCounter := counter, lastSeenAt := now } else other)

/-- `verify_agent_request`. A missing identity header is reported as an invalid identity, for
the handler of the UUID conversion catches it. -/
def verifyAgentRequest (devices : List (String × Device)) (store : AgentStore) (request : SignedRequest)
    (now : Int) : Except VerifyError (AgentStore × VerifiedAgentRequest) := do
  let protocol ← requiredHeader request.headers "X-PM-Agent-Protocol"
  rejectIf (protocol ≠ agentProtocol) "protocol_incompatible" ("Supported protocol is " ++ agentProtocol) 426
  let deviceId ← orReject ((header request.headers "X-PM-Device-ID").bind canonicalUuid)
    "invalid_identity" "Device and boot IDs must be UUIDs"
  let bootId ← orReject ((header request.headers "X-PM-Boot-ID").bind canonicalUuid)
    "invalid_identity" "Device and boot IDs must be UUIDs"
  let counterText ← requiredHeader request.headers "X-PM-Counter"
  let nonceText ← requiredHeader request.headers "X-PM-Nonce"
  let nonce := nonceText.toLower
  let suppliedDigest ← requiredHeader request.headers "X-PM-Content-SHA256"
  let suppliedSignature ← requiredHeader request.headers "X-PM-Signature"
  let counter ← orReject (parseInt counterText) "invalid_counter" "Counter must be an integer"
  rejectIf (¬ (1 ≤ counter ∧ counter ≤ maxAgentCounter)) "invalid_counter" "Counter is outside the supported range"
  rejectIf (nonce.length < 32 ∨ nonce.toList.any (fun c => !isHexDigit true c))
    "invalid_nonce" "Nonce must be at least 32 hexadecimal characters"
  let sameDigest ← compareDigest (primitives.sha256Hex request.body) suppliedDigest
  rejectIf (sameDigest = false) "body_digest_mismatch" "Request body digest does not match"
  let device ← orReject (devices.lookup deviceId) "unknown_device" "Device is not enrolled"
  rejectIf (device.revokedAt ≠ none) "device_revoked" "Device credential is revoked" 403
  rejectIf (device.protocolVersion ≠ agentProtocol) "protocol_incompatible"
    "Device is not enrolled as a headless agent" 426
  let expected := fun secret => calculateAgentRequestSignature primitives secret deviceId bootId counter nonce
    request.method request.target suppliedDigest
  let matched ← matchCredential primitives.decrypt expected suppliedSignature now device.credentials
  let (credential, secret) ← orReject matched "invalid_signature" "Agent signature is invalid"
  let boots ← admitBoot store.boots deviceId bootId counter now
  let key : NonceKey := ⟨deviceId, "agent-device-to-server", primitives.sha256Hex nonce.toUTF8⟩
  rejectIf (∃ entry ∈ store.nonces, entry.key = key) "nonce_replay" "Nonce has already been used"
  pure ({ boots := boots, nonces := store.nonces ++ [⟨key, now + seconds (7 * 86400)⟩] },
    ⟨deviceId, device, credential, secret, bootId, counter, nonce⟩)

end Verify

/-! ## Boot rows -/

def HeadlessAgentBoot.key (boot : HeadlessAgentBoot) : String × String := (boot.deviceId, boot.bootId)

/-- One row per boot, and at most one active row per device. -/
structure ValidBoots (boots : List HeadlessAgentBoot) : Prop where
  unique : (boots.map HeadlessAgentBoot.key).Nodup
  oneActive : ∀ first ∈ boots, ∀ second ∈ boots, first.deviceId = second.deviceId →
    first.active = true → second.active = true → first = second

theorem ValidBoots.eq_of_is {boots : List HeadlessAgentBoot} (valid : ValidBoots boots)
    {first second : HeadlessAgentBoot} {deviceId bootId : String} (left : first ∈ boots)
    (right : second ∈ boots) (isFirst : first.Is deviceId bootId) (isSecond : second.Is deviceId bootId) :
    first = second :=
  List.inj_on_of_nodup_map valid.unique left right
    (Prod.ext (isFirst.1.trans isSecond.1.symm) (isFirst.2.trans isSecond.2.symm))

theorem ValidBoots.active_length_le {boots : List HeadlessAgentBoot} (valid : ValidBoots boots)
    (deviceId : String) :
    (boots.filter fun boot => boot.deviceId = deviceId ∧ boot.active = true).length ≤ 1 := by
  have distinct := (List.Nodup.of_map _ valid.unique).filter
    fun boot => decide (boot.deviceId = deviceId ∧ boot.active = true)
  have equal : ∀ first ∈ boots.filter (fun boot => boot.deviceId = deviceId ∧ boot.active = true),
      ∀ second ∈ boots.filter (fun boot => boot.deviceId = deviceId ∧ boot.active = true), first = second := by
    intro first firstMember second secondMember
    simp only [List.mem_filter, decide_eq_true_eq] at firstMember secondMember
    exact valid.oneActive first firstMember.1 second secondMember.1
      (firstMember.2.1.trans secondMember.2.1.symm) firstMember.2.2 secondMember.2.2
  generalize (boots.filter fun boot => boot.deviceId = deviceId ∧ boot.active = true) = listed at distinct equal ⊢
  match listed with
  | [] => simp
  | [_] => simp
  | first :: second :: rest =>
      have same := equal first (by simp) second (by simp)
      simp [same] at distinct

/-- What becomes of one row when a request of another or the same boot is accepted. -/
structure Succeeds (deviceId bootId : String) (old new : HeadlessAgentBoot) : Prop where
  same : new.Is old.deviceId old.bootId
  counter : old.highestCounter ≤ new.highestCounter
  retired : old.active = false → new.active = false
  takenOver : old.deviceId = deviceId → old.bootId ≠ bootId → new.active = false

theorem ValidBoots.map {boots : List HeadlessAgentBoot} (valid : ValidBoots boots)
    (change : HeadlessAgentBoot → HeadlessAgentBoot)
    (same : ∀ boot, (change boot).Is boot.deviceId boot.bootId)
    (notRevived : ∀ boot, (change boot).active = true → boot.active = true) :
    ValidBoots (boots.map change) := by
  constructor
  · have keys : (boots.map change).map HeadlessAgentBoot.key = boots.map HeadlessAgentBoot.key := by
      rw [List.map_map]
      exact List.map_congr_left fun boot _ => Prod.ext (same boot).1 (same boot).2
    rw [keys]
    exact valid.unique
  · intro first firstMember second secondMember device firstActive secondActive
    obtain ⟨a, aMember, rfl⟩ := List.mem_map.mp firstMember
    obtain ⟨b, bMember, rfl⟩ := List.mem_map.mp secondMember
    rw [valid.oneActive a aMember b bMember ((same a).1.symm.trans (device.trans (same b).1))
      (notRevived a firstActive) (notRevived b secondActive)]

/-- After retiring, a row of the device may be added as the active one. -/
theorem ValidBoots.append {boots : List HeadlessAgentBoot} (valid : ValidBoots boots)
    {row : HeadlessAgentBoot} (fresh : ∀ boot ∈ boots, ¬ boot.Is row.deviceId row.bootId)
    (retired : ∀ boot ∈ boots, boot.deviceId = row.deviceId → boot.active = false) :
    ValidBoots (boots ++ [row]) := by
  constructor
  · rw [List.map_append]
    refine List.nodup_append.mpr ⟨valid.unique, List.nodup_singleton _, ?_⟩
    intro key member other last same
    obtain ⟨boot, bootMember, rfl⟩ := List.mem_map.mp member
    rw [List.mem_singleton.mp last] at same
    exact fresh boot bootMember (Prod.mk.inj same)
  · intro first firstMember second secondMember device firstActive secondActive
    rcases List.mem_append.mp firstMember with a | a <;> rcases List.mem_append.mp secondMember with b | b
    · exact valid.oneActive first a second b device firstActive secondActive
    · have := retired first a (by rw [device, List.mem_singleton.mp b])
      simp [this] at firstActive
    · have := retired second b (by rw [← device, List.mem_singleton.mp a])
      simp [this] at secondActive
    · rw [List.mem_singleton.mp a, List.mem_singleton.mp b]

section Boots
variable {boots next : List HeadlessAgentBoot} {deviceId bootId : String} {counter now : Int}

theorem admitBoot_cases (admitted : admitBoot boots deviceId bootId counter now = .ok next) :
    ((∀ boot ∈ boots, ¬ boot.Is deviceId bootId) ∧
      next = retireActive deviceId boots ++ [⟨deviceId, bootId, counter, true, now, now⟩]) ∨
    (∃ boot ∈ boots, boot.Is deviceId bootId ∧ boot.active = true ∧ boot.highestCounter < counter ∧
      next = boots.map fun other =>
        if other.Is deviceId bootId then { other with highestCounter := counter, lastSeenAt := now } else other) := by
  simp only [admitBoot, rejectIf] at admitted
  split at admitted
  · next unseen =>
      refine .inl ⟨fun boot member => by simpa using List.find?_eq_none.mp unseen boot member, ?_⟩
      have result := (Except.ok.inj admitted).symm
      split at result
      · exact result
      · next noneActive =>
          -- With no active row, retiring the active rows changes nothing.
          rw [Option.not_isSome_iff_eq_none, List.find?_eq_none] at noneActive
          have unchanged : retireActive deviceId boots = boots := by
            refine (List.map_congr_left fun boot member => ?_).trans (List.map_id boots)
            exact if_neg (by simpa using noneActive boot member)
          rw [unchanged]
          exact result
  · next boot found =>
      obtain ⟨active, admitted⟩ := raiseIf_bind_eq_ok.mp admitted
      obtain ⟨fresh, admitted⟩ := raiseIf_bind_eq_ok.mp admitted
      refine .inr ⟨boot, List.mem_of_find?_eq_some found, by simpa using List.find?_some found,
        by simpa using active, by omega, (Except.ok.inj admitted).symm⟩

theorem admitBoot_succeeds (valid : ValidBoots boots)
    (admitted : admitBoot boots deviceId bootId counter now = .ok next) :
    ∀ old ∈ boots, ∃ new ∈ next, Succeeds deviceId bootId old new := by
  intro old member
  rcases admitBoot_cases admitted with ⟨unseen, rfl⟩ | ⟨boot, bootMember, isBoot, active, fresh, rfl⟩
  · refine ⟨_, List.mem_append_left _ (List.mem_map_of_mem member), ?_⟩
    by_cases retires : old.deviceId = deviceId ∧ old.active = true
    · rw [if_pos retires]
      exact ⟨⟨rfl, rfl⟩, le_rfl, fun _ => rfl, fun _ _ => rfl⟩
    · rw [if_neg retires]
      refine ⟨⟨rfl, rfl⟩, le_rfl, id, fun sameDevice _ => ?_⟩
      simpa [sameDevice] using retires
  · refine ⟨_, List.mem_map_of_mem member, ?_⟩
    by_cases isOld : old.Is deviceId bootId
    · rw [if_pos isOld]
      have same : old = boot := valid.eq_of_is member bootMember isOld isBoot
      refine ⟨⟨rfl, rfl⟩, by rw [same]; exact fresh.le, id, fun _ other => absurd isOld.2 other⟩
    · rw [if_neg isOld]
      refine ⟨⟨rfl, rfl⟩, le_rfl, id, fun sameDevice other => ?_⟩
      -- The admitted boot is the active row of the device, so this one is not.
      by_contra stillActive
      have same := valid.oneActive old member boot bootMember (sameDevice.trans isBoot.1.symm)
        (by simpa using stillActive) active
      exact other (same ▸ isBoot.2)

theorem admitBoot_row (admitted : admitBoot boots deviceId bootId counter now = .ok next) :
    ∃ row ∈ next, row.Is deviceId bootId ∧ row.highestCounter = counter := by
  rcases admitBoot_cases admitted with ⟨_, rfl⟩ | ⟨boot, member, isBoot, _, _, rfl⟩
  · exact ⟨_, List.mem_append_right _ (List.mem_singleton.mpr rfl), ⟨rfl, rfl⟩, rfl⟩
  · refine ⟨_, List.mem_map_of_mem member, ?_⟩
    rw [if_pos isBoot]
    exact ⟨isBoot, rfl⟩

/-- A boot with a row is admitted only while it is active and with a larger counter. -/
theorem admitBoot_known (valid : ValidBoots boots)
    (admitted : admitBoot boots deviceId bootId counter now = .ok next) {row : HeadlessAgentBoot}
    (member : row ∈ boots) (isRow : row.Is deviceId bootId) :
    row.active = true ∧ row.highestCounter < counter := by
  rcases admitBoot_cases admitted with ⟨unseen, _⟩ | ⟨boot, bootMember, isBoot, active, fresh, _⟩
  · exact absurd isRow (unseen row member)
  · obtain rfl : row = boot := valid.eq_of_is member bootMember isRow isBoot
    exact ⟨active, fresh⟩

theorem admitBoot_valid (valid : ValidBoots boots)
    (admitted : admitBoot boots deviceId bootId counter now = .ok next) : ValidBoots next := by
  rcases admitBoot_cases admitted with ⟨unseen, rfl⟩ | ⟨boot, member, isBoot, _, _, rfl⟩
  · refine ValidBoots.append (valid.map _ ?_ ?_) ?_ ?_
    · intro boot
      split <;> exact ⟨rfl, rfl⟩
    · intro boot
      split
      · next retires => exact fun _ => retires.2
      · exact id
    · intro boot member isNew
      obtain ⟨old, oldMember, rfl⟩ := List.mem_map.mp member
      refine unseen old oldMember ?_
      split at isNew <;> exact isNew
    · intro boot member sameDevice
      obtain ⟨old, oldMember, rfl⟩ := List.mem_map.mp member
      split
      · rfl
      · next keeps =>
          rw [if_neg keeps] at sameDevice
          simpa [sameDevice] using keeps
  · refine valid.map _ ?_ ?_
    · intro other
      split <;> exact ⟨rfl, rfl⟩
    · intro other
      split <;> exact id

end Boots

/-! ## Runs -/

structure AgentCall where
  devices : List (String × Device)
  request : SignedRequest
  now : Int

section Run
variable {primitives : Primitives} {store next : AgentStore} {call : AgentCall} {verified : VerifiedAgentRequest}

theorem verifyAgentRequest_ok
    (accepted : verifyAgentRequest primitives call.devices store call.request call.now = .ok (next, verified)) :
    admitBoot store.boots verified.deviceId verified.bootId verified.counter call.now = .ok next.boots := by
  simp only [verifyAgentRequest, rejectIf, requiredHeader] at accepted
  obtain ⟨_, _, accepted⟩ := bind_eq_ok.mp accepted
  obtain ⟨_, accepted⟩ := raiseIf_bind_eq_ok.mp accepted
  obtain ⟨deviceId, _, accepted⟩ := bind_eq_ok.mp accepted
  obtain ⟨bootId, _, accepted⟩ := bind_eq_ok.mp accepted
  obtain ⟨_, _, accepted⟩ := bind_eq_ok.mp accepted
  obtain ⟨_, _, accepted⟩ := bind_eq_ok.mp accepted
  obtain ⟨_, _, accepted⟩ := bind_eq_ok.mp accepted
  obtain ⟨_, _, accepted⟩ := bind_eq_ok.mp accepted
  obtain ⟨counter, _, accepted⟩ := bind_eq_ok.mp accepted
  obtain ⟨_, accepted⟩ := raiseIf_bind_eq_ok.mp accepted
  obtain ⟨_, accepted⟩ := raiseIf_bind_eq_ok.mp accepted
  obtain ⟨_, _, accepted⟩ := bind_eq_ok.mp accepted
  obtain ⟨_, accepted⟩ := raiseIf_bind_eq_ok.mp accepted
  obtain ⟨_, _, accepted⟩ := bind_eq_ok.mp accepted
  obtain ⟨_, accepted⟩ := raiseIf_bind_eq_ok.mp accepted
  obtain ⟨_, accepted⟩ := raiseIf_bind_eq_ok.mp accepted
  obtain ⟨_, _, accepted⟩ := bind_eq_ok.mp accepted
  obtain ⟨⟨credential, secret⟩, _, accepted⟩ := bind_eq_ok.mp accepted
  obtain ⟨boots, admitted, accepted⟩ := bind_eq_ok.mp accepted
  obtain ⟨_, accepted⟩ := raiseIf_bind_eq_ok.mp accepted
  obtain ⟨rfl, rfl⟩ := Prod.mk.inj (Except.ok.inj accepted)
  exact admitted

/-- The stored state after a run; a rejected call is rolled back. -/
def agentRun (primitives : Primitives) : AgentStore → List AgentCall → AgentStore
  | store, [] => store
  | store, call :: rest =>
      match verifyAgentRequest primitives call.devices store call.request call.now with
      | .ok (next, _) => agentRun primitives next rest
      | .error _ => agentRun primitives store rest

/-- The accepted requests of a run, in order. -/
def acceptedAgentRequests (primitives : Primitives) : AgentStore → List AgentCall → List VerifiedAgentRequest
  | _, [] => []
  | store, call :: rest =>
      match verifyAgentRequest primitives call.devices store call.request call.now with
      | .ok (next, verified) => verified :: acceptedAgentRequests primitives next rest
      | .error _ => acceptedAgentRequests primitives store rest

theorem agentRun_valid {calls : List AgentCall} (valid : ValidBoots store.boots) :
    ValidBoots (agentRun primitives store calls).boots := by
  induction calls generalizing store with
  | nil => exact valid
  | cons call rest ih =>
      rw [agentRun]
      split
      · next next verified accepted => exact ih (admitBoot_valid valid (verifyAgentRequest_ok accepted))
      · exact ih valid

/-- Every later request of a known boot has a larger counter, and a retired boot has none. -/
theorem acceptedAgentRequests_known {calls : List AgentCall} (valid : ValidBoots store.boots)
    {row : HeadlessAgentBoot} (member : row ∈ store.boots) :
    ∀ later ∈ acceptedAgentRequests primitives store calls, row.Is later.deviceId later.bootId →
      row.active = true ∧ row.highestCounter < later.counter := by
  induction calls generalizing store row with
  | nil => simp [acceptedAgentRequests]
  | cons call rest ih =>
      intro later laterMember isRow
      rw [acceptedAgentRequests] at laterMember
      split at laterMember
      · next next verified accepted =>
          have admitted := verifyAgentRequest_ok accepted
          rcases List.mem_cons.mp laterMember with rfl | laterMember
          · exact admitBoot_known valid admitted member isRow
          · obtain ⟨new, newMember, succeeds⟩ := admitBoot_succeeds valid admitted row member
            obtain ⟨active, larger⟩ := ih (admitBoot_valid valid admitted) newMember later laterMember
              ⟨succeeds.same.1.trans isRow.1, succeeds.same.2.trans isRow.2⟩
            refine ⟨?_, succeeds.counter.trans_lt larger⟩
            by_contra inactive
            rw [succeeds.retired (by simpa using inactive)] at active
            cases active
      · exact ih valid member later laterMember isRow

/-- Once another boot of the device is accepted, a known boot is never accepted again. -/
theorem acceptedAgentRequests_takenOver {calls : List AgentCall} (valid : ValidBoots store.boots)
    {row : HeadlessAgentBoot} (member : row ∈ store.boots) {other later : VerifiedAgentRequest}
    (ordered : [other, later].Sublist (acceptedAgentRequests primitives store calls))
    (otherDevice : other.deviceId = row.deviceId) (otherBoot : other.bootId ≠ row.bootId) :
    ¬ row.Is later.deviceId later.bootId := by
  induction calls generalizing store row with
  | nil => simp [acceptedAgentRequests] at ordered
  | cons call rest ih =>
      rw [acceptedAgentRequests] at ordered
      split at ordered
      · next next verified accepted =>
          have admitted := verifyAgentRequest_ok accepted
          have nextValid := admitBoot_valid valid admitted
          obtain ⟨new, newMember, succeeds⟩ := admitBoot_succeeds valid admitted row member
          have renamed : ∀ request : VerifiedAgentRequest,
              new.Is request.deviceId request.bootId ↔ row.Is request.deviceId request.bootId := by
            intro request
            rw [HeadlessAgentBoot.Is, HeadlessAgentBoot.Is, succeeds.same.1, succeeds.same.2]
          rcases List.sublist_cons_iff.mp ordered with rest | ⟨tail, split, rest⟩
          · rw [← renamed]
            exact ih nextValid newMember rest (otherDevice.trans succeeds.same.1.symm)
              (succeeds.same.2 ▸ otherBoot)
          · obtain ⟨rfl, rfl⟩ := List.cons.inj split
            intro isRow
            have active := (acceptedAgentRequests_known nextValid newMember later
              (List.singleton_sublist.mp rest) ((renamed later).mpr isRow)).1
            rw [succeeds.takenOver otherDevice.symm (Ne.symm otherBoot)] at active
            cases active
      · exact ih valid member ordered otherDevice otherBoot

theorem acceptedAgentRequests_increasing {calls : List AgentCall} (valid : ValidBoots store.boots) :
    (acceptedAgentRequests primitives store calls).Pairwise fun first second =>
      first.deviceId = second.deviceId → first.bootId = second.bootId → first.counter < second.counter := by
  induction calls generalizing store with
  | nil => simp [acceptedAgentRequests]
  | cons call rest ih =>
      rw [acceptedAgentRequests]
      split
      · next next verified accepted =>
          have admitted := verifyAgentRequest_ok accepted
          have nextValid := admitBoot_valid valid admitted
          obtain ⟨row, member, isRow, counter⟩ := admitBoot_row admitted
          refine List.pairwise_cons.mpr ⟨fun later laterMember device boot => ?_, ih nextValid⟩
          rw [← counter]
          exact (acceptedAgentRequests_known nextValid member later laterMember
            ⟨isRow.1.trans device, isRow.2.trans boot⟩).2
      · exact ih valid

theorem acceptedAgentRequests_retired {calls : List AgentCall} (valid : ValidBoots store.boots)
    {first other later : VerifiedAgentRequest}
    (ordered : [first, other, later].Sublist (acceptedAgentRequests primitives store calls))
    (otherDevice : other.deviceId = first.deviceId) (otherBoot : other.bootId ≠ first.bootId)
    (laterDevice : later.deviceId = first.deviceId) : later.bootId ≠ first.bootId := by
  induction calls generalizing store with
  | nil => simp [acceptedAgentRequests] at ordered
  | cons call rest ih =>
      rw [acceptedAgentRequests] at ordered
      split at ordered
      · next next verified accepted =>
          have admitted := verifyAgentRequest_ok accepted
          have nextValid := admitBoot_valid valid admitted
          rcases List.sublist_cons_iff.mp ordered with skipped | ⟨tail, split, rest⟩
          · exact ih nextValid skipped
          · obtain ⟨rfl, rfl⟩ := List.cons.inj split
            obtain ⟨row, member, isRow, _⟩ := admitBoot_row admitted
            intro sameBoot
            exact acceptedAgentRequests_takenOver nextValid member rest (otherDevice.trans isRow.1.symm)
              (isRow.2 ▸ otherBoot) ⟨isRow.1.trans laterDevice.symm, isRow.2.trans sameBoot.symm⟩
      · exact ih valid ordered

/-- Over every run: no boot and counter twice, increasing counters within a boot, no return of a
boot after another one, and at most one active row per device at every moment. -/
theorem agent_replay_protection (primitives : Primitives) (start : AgentStore)
    (valid : ValidBoots start.boots) (calls : List AgentCall) :
    ((acceptedAgentRequests primitives start calls).Pairwise fun first second =>
      first.deviceId = second.deviceId → (first.bootId, first.counter) ≠ (second.bootId, second.counter)) ∧
    ((acceptedAgentRequests primitives start calls).Pairwise fun first second =>
      first.deviceId = second.deviceId → first.bootId = second.bootId → first.counter < second.counter) ∧
    (∀ first other later, [first, other, later].Sublist (acceptedAgentRequests primitives start calls) →
      other.deviceId = first.deviceId → later.deviceId = first.deviceId → other.bootId ≠ first.bootId →
        later.bootId ≠ first.bootId) ∧
    (∀ earlier rest, calls = earlier ++ rest → ∀ deviceId,
      ((agentRun primitives start earlier).boots.filter fun boot =>
        boot.deviceId = deviceId ∧ boot.active = true).length ≤ 1) := by
  have increasing : (acceptedAgentRequests primitives start calls).Pairwise fun first second =>
      first.deviceId = second.deviceId → first.bootId = second.bootId → first.counter < second.counter :=
    acceptedAgentRequests_increasing valid
  refine ⟨increasing.imp ?_, increasing, ?_, ?_⟩
  · intro first second larger device same
    obtain ⟨boot, counter⟩ := Prod.mk.inj same
    exact absurd counter (larger device boot).ne
  · intro first other later ordered otherDevice laterDevice otherBoot
    exact acceptedAgentRequests_retired valid ordered otherDevice otherBoot laterDevice
  · intro earlier rest _ deviceId
    exact (agentRun_valid valid).active_length_le deviceId

/-- The primitives on the heartbeat below, with the values the real ones give. -/
def heartbeatPrimitives : Primitives where
  sha256Hex := fun bytes =>
    if bytes.size = 0 then "e3b0c44298fc1c149afbf4c8996fb92427ae41e4649b934ca495991b7852b855"
    else "3ba3f5f43b92602683c19aee62a20342b084dd5971ddd33808d81a328879a547"
  hmacSha256Hex := fun _ _ => "d8a934863ffa0a7c5192e3811e0660504e3b781996d18f3e1644fd93d2b61835"
  hkdfSha256 := fun _ _ => ByteArray.mk #[65, 110, 16, 70, 219, 44, 90, 158, 207, 21, 139, 100, 237, 20, 152,
    5, 65, 54, 81, 172, 4, 92, 167, 60, 251, 86, 94, 100, 183, 255, 118, 108]
  decrypt := fun _ => some (ByteArray.mk #[0, 1, 2, 3, 4, 5, 6, 7, 8, 9, 10, 11, 12, 13, 14, 15, 16, 17, 18, 19,
    20, 21, 22, 23, 24, 25, 26, 27, 28, 29, 30, 31])
  canonicalPathAndQuery := id

def heartbeatCall (now : Int) : AgentCall :=
  { devices := [("5a0f2c1e-7d34-4b53-9c1f-0d6b1a2c3e4f",
      { protocolVersion := agentProtocol, credentials := [⟨"credential", "token", 0, none, none⟩] })]
    request :=
      { headers := [("x-pm-agent-protocol", "pm-agent/2.0.0"),
          ("x-pm-device-id", "5a0f2c1e-7d34-4b53-9c1f-0d6b1a2c3e4f"),
          ("x-pm-boot-id", "0b9d1f6a-2c47-4e0d-8a35-6f1e2d3c4b5a"),
          ("x-pm-counter", "41"),
          ("x-pm-nonce", "aaaaaaaaaaaaaaaaaaaaaaaaaaaaaaaa"),
          ("x-pm-content-sha256", "e3b0c44298fc1c149afbf4c8996fb92427ae41e4649b934ca495991b7852b855"),
          ("x-pm-signature", "d8a934863ffa0a7c5192e3811e0660504e3b781996d18f3e1644fd93d2b61835")]
        method := "POST"
        target := "/api/v2/agent/heartbeat"
        body := ByteArray.empty }
    now := now }

theorem agent_replay_protection_heartbeat :
    (acceptedAgentRequests heartbeatPrimitives {} [heartbeatCall 1, heartbeatCall 2]).length = 1 ∧
    (acceptedAgentRequests heartbeatPrimitives {} [heartbeatCall 1, heartbeatCall 2]).Pairwise fun first second =>
      first.deviceId = second.deviceId → first.bootId = second.bootId → first.counter < second.counter :=
  ⟨by decide +kernel,
    (agent_replay_protection heartbeatPrimitives {} ⟨by simp, by simp⟩ [heartbeatCall 1, heartbeatCall 2]).2.1⟩

end Run

end PowerMonitor.Security
