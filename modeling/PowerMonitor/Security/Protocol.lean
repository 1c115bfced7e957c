import PowerMonitor.Security.Requests
import Mathlib.Algebra.Order.Ring.Int

/-! Authentication of signed device requests and their protection against replay.

A request is protected twice: its timestamp must lie in a clock window around the
server time, and its nonce must not be in the table. The table forgets a nonce when
the window, counted from the server time of the first use, is over.
-/

set_option autoImplicit false
namespace PowerMonitor.Security
open Library

/-- `PROTOCOL` -/
def protocolVersion : String := "pm-protocol/1.0.0"

/-- `CANONICAL_PREFIX` -/
def canonicalHeading : String := "PM-HMAC-SHA256-V1"

def canonicalString (primitives : Primitives) (method target timestamp nonce contentSha256 : String) : String :=
  "\n".intercalate [canonicalHeading, method.toUpper, primitives.canonicalPathAndQuery target, timestamp,
    nonce, contentSha256]

def deriveKey (primitives : Primitives) (secret : ByteArray) (direction : String) : ByteArray :=
  primitives.hkdfSha256 secret
    (if direction = "device-to-server" then "pm-device-to-server-v1" else "pm-server-to-device-v1")

def calculateSignature (primitives : Primitives) (secret : ByteArray)
    (direction method target timestamp nonce contentSha256 : String) : String :=
  primitives.hmacSha256Hex (deriveKey primitives secret direction)
    (canonicalString primitives method target timestamp nonce contentSha256).toUTF8

structure VerifiedDevice where
  device : Device
  credential : DeviceCredential
  deriving DecidableEq, Repr

/-- `int(now.timestamp())`: whole seconds, towards zero. -/
def unixSeconds (now : Int) : Int := now.tdiv 1000000

def WithinWindow (clockWindowSeconds now timestamp : Int) : Prop :=
  |unixSeconds now - timestamp| ≤ clockWindowSeconds

instance (clockWindowSeconds now timestamp : Int) : Decidable (WithinWindow clockWindowSeconds now timestamp) :=
  inferInstanceAs (Decidable (_ ≤ _))

section Verify
variable (primitives : Primitives)

def nonceEntry (deviceId direction nonce : String) (now clockWindowSeconds : Int) : DeviceNonce :=
  { key := ⟨deviceId, direction, primitives.sha256Hex nonce.toLower.toUTF8⟩
    expiresAt := now + seconds clockWindowSeconds }

/-- `verify_device_request`: the new nonce table and the verified device. A raised error
rolls the session back, the purge of expired nonces included. -/
def verifyDeviceRequest (devices : List (String × Device)) (nonces : List DeviceNonce)
    (request : SignedRequest) (direction : String) (now : Int) (clockWindowSeconds : Int := 300) :
    Except VerifyError (List DeviceNonce × VerifiedDevice) := do
  let protocol ← requiredHeader request.headers "X-PM-Protocol"
  rejectIf (protocol ≠ protocolVersion) "protocol_incompatible"
    ("Supported protocol is " ++ protocolVersion) 426
  let deviceId ← requiredHeader request.headers "X-PM-Device-ID"
  let timestampText ← requiredHeader request.headers "X-PM-Timestamp"
  let nonce ← requiredHeader request.headers "X-PM-Nonce"
  let suppliedDigest ← requiredHeader request.headers "X-PM-Content-SHA256"
  let suppliedSignature ← requiredHeader request.headers "X-PM-Signature"
  rejectIf (nonce.length < 32 ∨ nonce.toList.any (fun c => !isHexDigit false c))
    "invalid_nonce" "Nonce must contain at least 32 hexadecimal characters"
  let timestamp ← orReject (parseInt timestampText) "invalid_timestamp" "Timestamp must be Unix seconds"
  rejectIf (¬ WithinWindow clockWindowSeconds now timestamp)
    "stale_timestamp" "Request timestamp is outside the allowed window"
  let sameDigest ← compareDigest (primitives.sha256Hex request.body) suppliedDigest
  rejectIf (sameDigest = false) "body_digest_mismatch" "Request body digest does not match"
  let device ← orReject (devices.lookup deviceId) "unknown_device" "Device is not enrolled"
  rejectIf (device.revokedAt ≠ none) "device_revoked" "Device credential is revoked" 403
  let expected := fun secret => calculateSignature primitives secret direction request.method request.target
    timestampText nonce suppliedDigest
  let matched ← matchCredential primitives.decrypt expected suppliedSignature now device.credentials
  let (credential, _) ← orReject matched "invalid_signature" "Device signature is invalid"
  let stored ← orReject (claimKey now (nonceEntry primitives deviceId direction nonce now clockWindowSeconds) nonces)
    "nonce_replay" "Nonce has already been used"
  pure (stored, ⟨device, credential⟩)

end Verify

/-! ## What a call presents -/

/-- One call with the device rows it finds; they may change between calls. -/
structure DeviceCall where
  devices : List (String × Device)
  request : SignedRequest
  direction : String := "device-to-server"
  now : Int

namespace DeviceCall
variable (call : DeviceCall)

def deviceId : Option String := header call.request.headers "X-PM-Device-ID"
def timestamp : Option Int := (header call.request.headers "X-PM-Timestamp").bind parseInt
def nonce : Option String := (header call.request.headers "X-PM-Nonce").map String.toLower

/-- The same device, direction and nonce; the case of the digits does not count. -/
def SameNonce (left right : DeviceCall) : Prop :=
  left.deviceId = right.deviceId ∧ left.direction = right.direction ∧ left.nonce = right.nonce

def nonceKey (primitives : Primitives) : Option NonceKey :=
  match call.deviceId, call.nonce with
  | some deviceId, some nonce => some ⟨deviceId, call.direction, primitives.sha256Hex nonce.toUTF8⟩
  | _, _ => none

theorem SameNonce.nonceKey_eq {left right : DeviceCall} (same : SameNonce left right)
    (primitives : Primitives) : left.nonceKey primitives = right.nonceKey primitives := by
  obtain ⟨device, direction, nonce⟩ := same
  rw [nonceKey, nonceKey, device, direction, nonce]

end DeviceCall

section Replay
variable {primitives : Primitives} {window : Int} {nonces stored : List DeviceNonce} {call : DeviceCall}
  {verified : VerifiedDevice}

def verifyCall (primitives : Primitives) (window : Int) (nonces : List DeviceNonce) (call : DeviceCall) :
    Except VerifyError (List DeviceNonce × VerifiedDevice) :=
  verifyDeviceRequest primitives call.devices nonces call.request call.direction call.now window

/-- An accepted call was in its clock window, and its nonce was free. -/
theorem verifyCall_ok (accepted : verifyCall primitives window nonces call = .ok (stored, verified)) :
    ∃ key timestamp, call.nonceKey primitives = some key ∧ call.timestamp = some timestamp ∧
      WithinWindow window call.now timestamp ∧
      claimKey call.now ⟨key, call.now + seconds window⟩ nonces = some stored := by
  simp only [verifyCall, verifyDeviceRequest, rejectIf, requiredHeader] at accepted
  obtain ⟨protocol, _, accepted⟩ := bind_eq_ok.mp accepted
  obtain ⟨_, accepted⟩ := raiseIf_bind_eq_ok.mp accepted
  obtain ⟨deviceId, deviceHeader, accepted⟩ := bind_eq_ok.mp accepted
  obtain ⟨timestampText, timestampHeader, accepted⟩ := bind_eq_ok.mp accepted
  obtain ⟨nonce, nonceHeader, accepted⟩ := bind_eq_ok.mp accepted
  obtain ⟨digest, _, accepted⟩ := bind_eq_ok.mp accepted
  obtain ⟨signature, _, accepted⟩ := bind_eq_ok.mp accepted
  obtain ⟨_, accepted⟩ := raiseIf_bind_eq_ok.mp accepted
  obtain ⟨timestamp, parsed, accepted⟩ := bind_eq_ok.mp accepted
  obtain ⟨inWindow, accepted⟩ := raiseIf_bind_eq_ok.mp accepted
  obtain ⟨_, _, accepted⟩ := bind_eq_ok.mp accepted
  obtain ⟨_, accepted⟩ := raiseIf_bind_eq_ok.mp accepted
  obtain ⟨device, _, accepted⟩ := bind_eq_ok.mp accepted
  obtain ⟨_, accepted⟩ := raiseIf_bind_eq_ok.mp accepted
  obtain ⟨_, _, accepted⟩ := bind_eq_ok.mp accepted
  obtain ⟨⟨credential, _⟩, _, accepted⟩ := bind_eq_ok.mp accepted
  obtain ⟨table, claimed, accepted⟩ := bind_eq_ok.mp accepted
  obtain ⟨rfl, _⟩ := Prod.mk.inj (Except.ok.inj accepted)
  rw [orReject_eq_ok] at deviceHeader timestampHeader nonceHeader parsed claimed
  refine ⟨_, timestamp, ?_, ?_, not_not.mp inWindow, claimed⟩
  · simp only [DeviceCall.nonceKey, DeviceCall.deviceId, DeviceCall.nonce, deviceHeader, nonceHeader,
      Option.map_some]
  · rw [DeviceCall.timestamp, timestampHeader]
    exact parsed

/-- The calls of a run that are accepted, in order. -/
def acceptedCalls (primitives : Primitives) (window : Int) : List DeviceNonce → List DeviceCall → List DeviceCall
  | _, [] => []
  | nonces, call :: rest =>
      match verifyCall primitives window nonces call with
      | .ok (stored, _) => call :: acceptedCalls primitives window stored rest
      | .error _ => acceptedCalls primitives window nonces rest

theorem acceptedCalls_sublist (primitives : Primitives) (window : Int) (nonces : List DeviceNonce)
    (calls : List DeviceCall) : (acceptedCalls primitives window nonces calls).Sublist calls := by
  induction calls generalizing nonces with
  | nil => exact List.Sublist.slnil
  | cons head rest ih =>
      rw [acceptedCalls]
      split
      · exact (ih _).cons_cons head
      · exact (ih nonces).cons head

theorem acceptedCalls_withinWindow {calls : List DeviceCall}
    (member : call ∈ acceptedCalls primitives window nonces calls) :
    ∃ timestamp, call.timestamp = some timestamp ∧ WithinWindow window call.now timestamp := by
  induction calls generalizing nonces with
  | nil => simp [acceptedCalls] at member
  | cons head rest ih =>
      rw [acceptedCalls] at member
      split at member
      · next stored verified accepted =>
          rcases List.mem_cons.mp member with rfl | later
          · obtain ⟨_, timestamp, _, carried, inWindow, _⟩ := verifyCall_ok accepted
            exact ⟨timestamp, carried, inWindow⟩
          · exact ih later
      · exact ih member

/-- As long as an entry has not expired, no call that presents its key is accepted. -/
theorem acceptedCalls_expired {calls : List DeviceCall} (ordered : calls.Pairwise fun a b => a.now ≤ b.now)
    {entry : DeviceNonce} (held : entry ∈ nonces) :
    ∀ call ∈ acceptedCalls primitives window nonces calls, call.nonceKey primitives = some entry.key →
      entry.expiresAt < call.now := by
  induction calls generalizing nonces with
  | nil => simp [acceptedCalls]
  | cons head rest ih =>
      obtain ⟨first, later⟩ := List.pairwise_cons.mp ordered
      intro call member presented
      rw [acceptedCalls] at member
      split at member
      · next stored verified accepted =>
          obtain ⟨key, _, headKey, _, _, claimed⟩ := verifyCall_ok accepted
          rcases List.mem_cons.mp member with rfl | member
          · have same := Option.some.inj (presented.symm.trans headKey)
            exact (claimKey_eq_some.mp claimed).1 entry held same
          · -- The head call has either kept the entry or found it expired.
            rcases Int.lt_or_le entry.expiresAt head.now with expired | unexpired
            · have := first call ((acceptedCalls_sublist _ _ _ _).subset member)
              omega
            · exact ih later (claimKey_keeps claimed held unexpired) call member presented
      · exact ih later held call member presented

/-- The last instant at which a timestamp is in the clock window. -/
theorem WithinWindow.now_le {now timestamp : Int} (inWindow : WithinWindow window now timestamp) :
    now ≤ seconds (timestamp + window) + 999999 := by
  have upper := (abs_le.mp inWindow).2
  have split := Int.tdiv_mul_add_tmod now 1000000
  have remainder := Int.tmod_lt_of_pos now (show (0 : Int) < 1000000 by decide)
  simp only [unixSeconds] at upper
  simp only [seconds]
  omega

/-- In every run in which each request in its clock window is a full second old and no nonce is
signed with two timestamps, each nonce is accepted at most once. -/
theorem no_replay_of_aged_requests (primitives : Primitives) (window : Int) (nonces : List DeviceNonce)
    (calls : List DeviceCall) (ordered : calls.Pairwise fun a b => a.now ≤ b.now)
    (aged : ∀ call ∈ calls, ∀ timestamp ∈ call.timestamp, WithinWindow window call.now timestamp →
      seconds timestamp + 999999 ≤ call.now)
    (signedOnce : ∀ a ∈ calls, ∀ b ∈ calls, DeviceCall.SameNonce a b → a.timestamp = b.timestamp) :
    (acceptedCalls primitives window nonces calls).Pairwise fun a b => ¬ DeviceCall.SameNonce a b := by
  induction calls generalizing nonces with
  | nil => simp [acceptedCalls]
  | cons head rest ih =>
      have later := (List.pairwise_cons.mp ordered).2
      have tail := fun stored => ih stored later
        (fun call member => aged call (List.mem_cons_of_mem _ member))
        (fun a left b right => signedOnce a (List.mem_cons_of_mem _ left) b (List.mem_cons_of_mem _ right))
      rw [acceptedCalls]
      split
      · next stored verified accepted =>
          obtain ⟨key, timestamp, headKey, carried, inWindow, claimed⟩ := verifyCall_ok accepted
          refine List.pairwise_cons.mpr ⟨fun call member same => ?_, tail stored⟩
          have expired := acceptedCalls_expired later (claimKey_inserts claimed) call member
            ((same.nonceKey_eq primitives).symm.trans headKey)
          obtain ⟨other, otherCarried, otherWindow⟩ := acceptedCalls_withinWindow member
          have sameTimestamp : timestamp = other := by
            have equal := signedOnce head (by simp) call
              (List.mem_cons_of_mem _ ((acceptedCalls_sublist _ _ _ _).subset member)) same
            rw [carried, otherCarried] at equal
            exact Option.some.inj equal
          have old := aged head (by simp) timestamp carried inWindow
          have bound := otherWindow.now_le
          simp only [seconds] at expired old bound
          omega
      · exact tail nonces

/-- The primitives on the one request below, with the values the real ones give. -/
def capturedPrimitives : Primitives where
  sha256Hex := fun bytes =>
    if bytes.size = 0 then "e3b0c44298fc1c149afbf4c8996fb92427ae41e4649b934ca495991b7852b855"
    else "3ba3f5f43b92602683c19aee62a20342b084dd5971ddd33808d81a328879a547"
  hmacSha256Hex := fun _ _ => "cfecae203ec3d9d7577f13700d250f6cc8c9376ef3c89da8ab92825b252cc1c0"
  hkdfSha256 := fun _ _ => ByteArray.mk #[7, 203, 106, 246, 99, 84, 174, 77, 251, 12, 35, 119, 187, 128, 91, 168, 134, 95, 254, 85, 41,
    166, 170, 37, 226, 49, 138, 7, 151, 51, 8, 189]
  decrypt := fun _ => some (ByteArray.mk #[0, 1, 2, 3, 4, 5, 6, 7, 8, 9, 10, 11, 12, 13, 14, 15, 16, 17, 18, 19, 20, 21, 22, 23, 24, 25,
    26, 27, 28, 29, 30, 31])
  canonicalPathAndQuery := id

def capturedRequest : SignedRequest :=
  { headers := [("x-pm-protocol", "pm-protocol/1.0.0"),
      ("x-pm-device-id", "5a0f2c1e-7d34-4b53-9c1f-0d6b1a2c3e4f"),
      ("x-pm-timestamp", "1700000000"),
      ("x-pm-nonce", "aaaaaaaaaaaaaaaaaaaaaaaaaaaaaaaa"),
      ("x-pm-content-sha256", "e3b0c44298fc1c149afbf4c8996fb92427ae41e4649b934ca495991b7852b855"),
      ("x-pm-signature", "cfecae203ec3d9d7577f13700d250f6cc8c9376ef3c89da8ab92825b252cc1c0")]
    method := "GET"
    target := "/api/v1/device-config/effective"
    body := ByteArray.empty }

/-- The captured request at some server time. -/
def capturedCall (now : Int) : DeviceCall :=
  { devices := [("5a0f2c1e-7d34-4b53-9c1f-0d6b1a2c3e4f",
      { protocolVersion := protocolVersion, credentials := [⟨"credential", "token", 0, none, none⟩] })]
    request := capturedRequest
    now := now }

theorem no_replay_of_aged_requests_captured :
    (acceptedCalls capturedPrimitives 300 []
      [capturedCall 1700000000999999, capturedCall 1700000300500000]).Pairwise
      fun a b => ¬ DeviceCall.SameNonce a b := by
  have carried : ∀ now, (capturedCall now).timestamp = some 1700000000 := by
    intro now
    have parsed : (capturedCall 0).timestamp = some 1700000000 := by decide +kernel
    exact parsed
  refine no_replay_of_aged_requests capturedPrimitives 300 [] _ (by simp [capturedCall]) ?_ ?_
  · intro call member timestamp stamped _
    rcases List.mem_pair.mp member with rfl | rfl
    all_goals
      obtain rfl := Option.some.inj ((carried _).symm.trans stamped)
      decide
  · simp [carried]

/-- A request stamped with the very second of its first use is accepted again 300.5 seconds
later: the nonce has been forgotten and the timestamp is still in the window. -/
theorem captured_request_replayed :
    ¬ ∀ (primitives : Primitives) (window : Int) (calls : List DeviceCall),
      calls.Pairwise (fun a b => a.now ≤ b.now) →
        (acceptedCalls primitives window [] calls).Pairwise fun a b => ¬ DeviceCall.SameNonce a b := by
  intro noReplay
  have distinct := noReplay capturedPrimitives 300
    [capturedCall 1700000000000000, capturedCall 1700000300500000] (by simp [capturedCall])
  have both : (acceptedCalls capturedPrimitives 300 []
      [capturedCall 1700000000000000, capturedCall 1700000300500000]).length = 2 := by
    decide +kernel
  rw [(acceptedCalls_sublist _ _ _ _).eq_of_length both] at distinct
  simp [DeviceCall.SameNonce, DeviceCall.deviceId, DeviceCall.nonce, capturedCall] at distinct

end Replay

end PowerMonitor.Security
