import PowerMonitor.Foundation
import PowerMonitor.Library.ExpiringKeys
import PowerMonitor.Library.Fallible

/-! Signed requests, device credentials and the checks both device protocols share.

SHA-256, HMAC, HKDF, Fernet and the URL canonicalisation are parameters. Header
values are latin-1 texts, so the white space and digits that integer parsing
admits are those of that range.
-/

set_option autoImplicit false
namespace PowerMonitor.Security
open Library

structure ProtocolAuthError where
  code : String
  message : String
  statusCode : Nat := 401
  deriving DecidableEq, Repr

/-- A rejected request, or an error of the runtime that the caller does not catch. -/
inductive VerifyError where
  | auth (error : ProtocolAuthError)
  | typeError (message : String)
  | runtimeError (message : String)
  deriving DecidableEq, Repr

def rejectIf (condition : Prop) [Decidable condition] (code message : String) (statusCode : Nat := 401) :
    Except VerifyError Unit :=
  raiseIf condition (.auth { code := code, message := message, statusCode := statusCode })

/-- A missing value rejects the request. -/
def orReject {α : Type} (value : Option α) (code message : String) (statusCode : Nat := 401) :
    Except VerifyError α :=
  match value with
  | some found => pure found
  | none => throw (.auth { code := code, message := message, statusCode := statusCode })

@[simp] theorem orReject_eq_ok {α : Type} {value : Option α} {code message : String} {statusCode : Nat}
    {found : α} : orReject value code message statusCode = .ok found ↔ value = some found := by
  cases value <;> simp [orReject, pure, Except.pure, throw, throwThe, MonadExceptOf.throw]

/-- Functions of other libraries and of the URL module. -/
structure Primitives where
  sha256Hex : ByteArray → String
  hmacSha256Hex : ByteArray → ByteArray → String
  hkdfSha256 : ByteArray → String → ByteArray
  decrypt : String → Option ByteArray
  canonicalPathAndQuery : String → String

structure SignedRequest where
  headers : List (String × String)
  method : String
  target : String
  body : ByteArray

structure DeviceCredential where
  id : String
  encryptedSecret : String
  validFrom : Int
  validUntil : Option Int := none
  revokedAt : Option Int := none
  deriving DecidableEq, Repr

/-- A device row with its credentials. -/
structure Device where
  protocolVersion : String
  revokedAt : Option Int := none
  credentials : List DeviceCredential := []
  deriving DecidableEq, Repr

structure NonceKey where
  deviceId : String
  direction : String
  nonceHash : String
  deriving DecidableEq, Repr

abbrev DeviceNonce := ExpiringKey NonceKey

/-! ## Headers -/

/-- The value of a header, absent when empty. -/
def header (headers : List (String × String)) (name : String) : Option String :=
  (headers.lookup name.toLower).filter fun value => value ≠ ""

/-- `_required_header` -/
def requiredHeader (headers : List (String × String)) (name : String) : Except VerifyError String :=
  orReject (header headers name) "missing_header" ("Required header " ++ name ++ " is missing")

def isHexDigit (lowercase : Bool) (c : Char) : Bool :=
  c.isDigit || ('a' ≤ c && c ≤ 'f') || (!lowercase && 'A' ≤ c && c ≤ 'F')

/-! ## Integers in headers -/

def isSpace (c : Char) : Bool :=
  c = ' ' || (9 ≤ c.toNat && c.toNat ≤ 13) || (28 ≤ c.toNat && c.toNat ≤ 31) || c.toNat = 0x85 ||
    c.toNat = 0xa0

def strip (text : List Char) : List Char :=
  ((text.dropWhile isSpace).reverse.dropWhile isSpace).reverse

/-- Digits with single underscores between them. -/
def readDigits (value : Nat) : List Char → Option Nat
  | [] => some value
  | '_' :: d :: rest => if d.isDigit then readDigits (value * 10 + (d.toNat - 48)) rest else none
  | d :: rest => if d.isDigit then readDigits (value * 10 + (d.toNat - 48)) rest else none

/-- A literal starts with a digit and has at most 4300 of them. -/
def parseDigits (text : List Char) : Option Nat :=
  if (text.head?.any Char.isDigit) ∧ (text.filter Char.isDigit).length ≤ 4300 then readDigits 0 text else none

/-- `int` of a text. -/
def parseInt (text : String) : Option Int :=
  match strip text.toList with
  | '-' :: digits => (parseDigits digits).map fun value => -(value : Int)
  | '+' :: digits => (parseDigits digits).map Int.ofNat
  | digits => (parseDigits digits).map Int.ofNat

example : parseInt " +1_700_000_000\n" = some 1700000000 := by decide

/-! ## Credentials -/

/-- `hmac.compare_digest` of two texts. -/
def compareDigest (left right : String) : Except VerifyError Bool :=
  if left.toList.all (fun c => c.toNat < 128) && right.toList.all (fun c => c.toNat < 128) then pure (left == right)
  else throw (.typeError "comparing strings with non-ASCII characters is not supported")

def DeviceCredential.Usable (credential : DeviceCredential) (now : Int) : Prop :=
  credential.revokedAt = none ∧ credential.validFrom ≤ now ∧ ∀ limit ∈ credential.validUntil, now ≤ limit

instance (credential : DeviceCredential) (now : Int) : Decidable (credential.Usable now) :=
  inferInstanceAs (Decidable (_ ∧ _ ∧ _))

/-- The last usable credential whose secret gives the supplied signature. -/
def matchCredential (decrypt : String → Option ByteArray) (expected : ByteArray → String)
    (supplied : String) (now : Int) (credentials : List DeviceCredential) :
    Except VerifyError (Option (DeviceCredential × ByteArray)) :=
  (credentials.filter fun credential => credential.Usable now).foldlM (fun matched credential => do
    match decrypt credential.encryptedSecret with
    | none => throw (.runtimeError "encrypted secret cannot be decrypted with APP_MASTER_KEY")
    | some secret =>
        if ← compareDigest (expected secret) supplied then pure (some (credential, secret)) else pure matched) none

end PowerMonitor.Security
