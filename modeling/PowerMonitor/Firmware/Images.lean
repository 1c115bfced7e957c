import PowerMonitor.Calendar.Months
import PowerMonitor.Library.ChunkedSearch
import PowerMonitor.Library.Fallible
import PowerMonitor.Library.Grouping
import PowerMonitor.Security.AgentProtocol
import PowerMonitor.Security.Protocol

/-! Firmware images of the ESP32-S3, as the upload reads them.

An image is a header, segments, padding, a checksum and a hash of everything before. The parser reads the file in chunks.
SHA-256 is a parameter.
-/

set_option autoImplicit false
namespace PowerMonitor.Firmware
open Library Calendar
open Security (agentProtocol hexDigits protocolVersion)

structure FirmwareImageError where
  code : String
  detail : String
  deriving DecidableEq, Repr

def invalidImage (detail : String) : FirmwareImageError := ⟨"firmware_image_invalid", detail⟩

structure ParsedFirmwareImage where
  version : String
  projectName : String
  hardwareTarget : String
  protocolMin : String
  protocolMax : String
  sizeBytes : Nat
  buildHash : String
  buildTimestamp : Int
  imageHash : String
  segmentCount : Nat
  chipId : Nat
  deriving DecidableEq, Repr

/-! ## Texts -/

def asciiText (bytes : List UInt8) : String := String.ofList (bytes.map fun byte => Char.ofNat byte.toNat)

def asciiBytes (text : String) : List UInt8 := text.toList.map fun c => UInt8.ofNat c.toNat

/-- `bytes.hex()` -/
def hexText (bytes : List UInt8) : String :=
  String.ofList (bytes.flatMap fun byte => [hexDigits.getD (byte.toNat / 16) '0', hexDigits.getD (byte.toNat % 16) '0'])

/-- `_descriptor_text` -/
def descriptorText (payload : List UInt8) (field : String) : Except FirmwareImageError String := do
  let value := payload.takeWhile (· ≠ 0)
  let remainder := (payload.dropWhile (· ≠ 0)).drop 1
  raiseIf (payload.dropWhile (· ≠ 0) = [] ∨ ∃ byte ∈ remainder, byte ≠ 0)
    (invalidImage s!"Application descriptor {field} is not bounded")
  raiseIf (∃ byte ∈ value, 128 ≤ byte) (invalidImage s!"Application descriptor {field} is not ASCII")
  raiseIf (value = [] ∨ ∃ byte ∈ value, byte < 0x20 ∨ 0x7E < byte)
    (invalidImage s!"Application descriptor {field} is invalid")
  pure (asciiText value)

/-- One name of a pre-release or a build. -/
def SemverName (part : List Char) : Prop := part ≠ [] ∧ ∀ c ∈ part, c.isAlphanum ∨ c = '-'

/-- A number without leading zeros. -/
def SemverNumber (part : List Char) : Prop := part ≠ [] ∧ (∀ c ∈ part, c.isDigit) ∧ (part.head? = some '0' → part = ['0'])

/-- `_SEMVER`: no number or name holds a plus sign, and no number a hyphen. -/
def Semver (version : String) : Prop :=
  let text := version.toList.takeWhile (· ≠ '+')
  let core := text.takeWhile (· ≠ '-')
  ((core.splitOn '.').length = 3 ∧ ∀ part ∈ core.splitOn '.', SemverNumber part) ∧
    ('-' ∈ text → ∀ part ∈ ((text.dropWhile (· ≠ '-')).drop 1).splitOn '.', SemverName part ∧
      ((∀ c ∈ part, c.isDigit) → SemverNumber part)) ∧
    ('+' ∈ version.toList → ∀ part ∈ ((version.toList.dropWhile (· ≠ '+')).drop 1).splitOn '.', SemverName part)

instance (part : List Char) : Decidable (SemverName part) := inferInstanceAs (Decidable (_ ∧ _))

instance (part : List Char) : Decidable (SemverNumber part) := inferInstanceAs (Decidable (_ ∧ _ ∧ _))

instance (version : String) : Decidable (Semver version) := inferInstanceAs (Decidable ((_ ∧ _) ∧ _ ∧ _))

def monthNames : List (List Char) :=
  ["jan", "feb", "mar", "apr", "may", "jun", "jul", "aug", "sep", "oct", "nov", "dec"].map String.toList

/-- One or two digits in a range. What follows is no digit. -/
def scanNumber (low high : Nat) (text : List Char) : Option (Nat × List Char) :=
  let digits := text.takeWhile Char.isDigit
  let value := digits.foldl (fun value c => 10 * value + (c.toNat - 48)) 0
  if digits ≠ [] ∧ digits.length ≤ 2 ∧ low ≤ value ∧ value ≤ high then some (value, text.dropWhile Char.isDigit) else none

def scanSpaces (text : List Char) : Option (List Char) := if text.head? = some ' ' then some (text.dropWhile (· = ' ')) else none

def scanColon (text : List Char) : Option (List Char) := if text.head? = some ':' then some (text.drop 1) else none

/-- `strptime` with `%b %d %Y %H:%M:%S`, in UTC. -/
def strptime (text : List Char) : Option Int := do
  let month ← monthNames.findIdx? (· = (text.take 3).map Char.toLower)
  let (day, text) ← scanNumber 1 31 (← scanSpaces (text.drop 3))
  let text ← scanSpaces text
  let digits := text.take 4
  guard (digits.length = 4 ∧ digits.all Char.isDigit)
  let year := digits.foldl (fun value c => 10 * value + (c.toNat - 48)) 0
  let (hour, text) ← scanNumber 0 23 (← scanSpaces (text.drop 4))
  let (minute, text) ← scanNumber 0 59 (← scanColon text)
  let (second, text) ← scanNumber 0 59 (← scanColon text)
  guard (text = [] ∧ 1 ≤ year ∧ (day : Int) ≤ monthLength ((year * 12 + month : Nat) : Int))
  pure (wallAt (dateFrom year (month + 1) day) ((hour * 60 + minute : Nat) : Int) + ((second * 1000000 : Nat) : Int))

/-- `_build_timestamp` -/
def buildTimestamp (dateText timeText : String) : Except FirmwareImageError Int :=
  match strptime (dateText ++ " " ++ timeText).toList with
  | some parsed => .ok parsed
  | none => .error (invalidImage "Application descriptor build timestamp is invalid")

/-! ## The parser -/

section Parser
variable (sha256 : List UInt8 → { digest : List UInt8 // digest.length = 32 })

def chunkBytes : Nat := 65536

def littleEndian (bytes : List UInt8) : Nat := bytes.foldr (fun byte rest => byte.toNat + 256 * rest) 0

/-- `_read_exact`: what it reads, and what is left. -/
def readExact (stream : List UInt8) (length : Nat) (detail : String) : Except FirmwareImageError (List UInt8 × List UInt8) :=
  if stream.length < length then .error (invalidImage detail) else .ok (stream.take length, stream.drop length)

structure SegmentScan where
  stream : List UInt8
  checksum : UInt8 := 0xEF
  descriptor : List UInt8 := []

/-- One segment: the checksum runs over its chunks, and the first one opens with the descriptor. -/
def readSegment (sizeBytes : Nat) (scan : SegmentScan) (index : Nat) : Except FirmwareImageError SegmentScan := do
  let (header, stream) ← readExact scan.stream 8 s!"Firmware segment {index} header is truncated"
  let segmentSize := littleEndian (header.drop 4)
  raiseIf (segmentSize = 0 ∨ sizeBytes < segmentSize) (invalidImage s!"Firmware segment {index} length is invalid")
  raiseIf (sizeBytes < sizeBytes - stream.length + segmentSize) (invalidImage s!"Firmware segment {index} is truncated")
  let chunks := chunked chunkBytes (stream.take segmentSize)
  pure
    { stream := stream.drop segmentSize
      checksum := chunks.foldl (fun checksum chunk => chunk.foldl (· ^^^ ·) checksum) scan.checksum
      descriptor := if index = 0 then chunks.foldl (extendOpening 256) [] else scan.descriptor }

/-- The checks of the image header, which give the number of segments. -/
def checkHeader (header : List UInt8) : Except FirmwareImageError Nat := do
  raiseIf (header.getD 0 0 ≠ 0xE9) (invalidImage "ESP image magic is invalid")
  let segmentCount := (header.getD 1 0).toNat
  raiseIf (¬ (1 ≤ segmentCount ∧ segmentCount ≤ 16)) (invalidImage "ESP image segment count is invalid")
  raiseIf (3 < header.getD 2 0) (invalidImage "ESP image SPI mode is invalid")
  raiseIf (littleEndian ((header.drop 12).take 2) ≠ 9) ⟨"firmware_wrong_target", "Firmware image is not built for ESP32-S3"⟩
  raiseIf (header.getD 23 0 ≠ 1) ⟨"firmware_checksum_invalid", "Firmware image must include its appended SHA-256"⟩
  pure segmentCount

/-- Padding, checksum and hash, up to the end of the file. -/
def checkSeal (bytes : List UInt8) (scan : SegmentScan) : Except FirmwareImageError (List UInt8) := do
  let imageWithoutPadding := bytes.length - scan.stream.length
  let checksumOffset := (imageWithoutPadding / 16 + 1) * 16 - 1
  let (padding, stream) ← readExact scan.stream (checksumOffset - imageWithoutPadding) "Firmware checksum padding is truncated"
  raiseIf (∃ byte ∈ padding, byte ≠ 0) (invalidImage "Firmware checksum padding is invalid")
  let (storedChecksum, stream) ← readExact stream 1 "Firmware image checksum is missing"
  raiseIf (storedChecksum ≠ [scan.checksum]) ⟨"firmware_checksum_invalid", "Firmware image checksum does not match"⟩
  let (storedImageHash, stream) ← readExact stream 32 "Firmware image SHA-256 is truncated"
  raiseIf (stream ≠ []) (invalidImage "Firmware image contains unexpected trailing data")
  -- The hasher is fed chunk by chunk.
  let calculatedImageHash := (sha256 (chunked chunkBytes (bytes.take (checksumOffset + 1))).flatten).val
  raiseIf (calculatedImageHash ≠ storedImageHash) ⟨"firmware_checksum_invalid", "Firmware appended SHA-256 does not match"⟩
  pure calculatedImageHash

def slice (bytes : List UInt8) (start finish : Nat) : List UInt8 := (bytes.drop start).take (finish - start)

def describedProtocol (projectName : String) : String :=
  if projectName = "power_monitor_sensor_headless" then agentProtocol else protocolVersion

/-- `_contains_protocol` -/
def containsProtocol (bytes : List UInt8) (protocol : String) : Bool :=
  searchChunks (asciiBytes protocol) [] (chunked chunkBytes bytes)

/-- The checks of the application descriptor, and the result. -/
def describeImage (bytes descriptor imageHash : List UInt8) (segmentCount : Nat) (expectedProjectName : String) :
    Except FirmwareImageError ParsedFirmwareImage := do
  let version ← descriptorText (slice descriptor 16 48) "version"
  raiseIf (¬ Semver version) ⟨"firmware_version_invalid", "Firmware application version is not semantic"⟩
  let projectName ← descriptorText (slice descriptor 48 80) "project name"
  raiseIf (projectName ≠ expectedProjectName)
    ⟨"firmware_project_mismatch", s!"Firmware project must be {expectedProjectName}"⟩
  let buildTime ← descriptorText (slice descriptor 80 96) "build time"
  let buildDate ← descriptorText (slice descriptor 96 112) "build date"
  let buildHash := slice descriptor 144 176
  raiseIf (buildHash.all (· = 0)) (invalidImage "Firmware application build hash is missing")
  let protocol := describedProtocol projectName
  raiseIf (containsProtocol bytes protocol = false) ⟨"firmware_protocol_invalid", s!"Firmware does not declare {protocol}"⟩
  let timestamp ← buildTimestamp buildDate buildTime
  pure
    { version := version, projectName := projectName, hardwareTarget := "esp32-s3", protocolMin := protocol
      protocolMax := protocol, sizeBytes := bytes.length, buildHash := hexText buildHash, buildTimestamp := timestamp
      imageHash := hexText imageHash, segmentCount := segmentCount, chipId := 9 }

/-- `parse_esp32s3_application_image`, of a file that may be missing. -/
def parseEsp32s3ApplicationImage (contents : Option (List UInt8)) (maximumBytes otaPartitionSizeBytes : Nat)
    (expectedProjectName : String := "power-monitor-sensor") : Except FirmwareImageError ParsedFirmwareImage := do
  let bytes ← contents.elim (.error (invalidImage "Firmware image is unavailable")) .ok
  raiseIf (bytes.length = 0) (invalidImage "Firmware image is empty")
  raiseIf (maximumBytes < bytes.length ∨ otaPartitionSizeBytes < bytes.length)
    ⟨"firmware_too_large", "Firmware image does not fit the configured OTA partition"⟩
  let (header, stream) ← readExact bytes 24 "Firmware image header is truncated"
  let segmentCount ← checkHeader header
  let scan ← (List.range segmentCount).foldlM (readSegment bytes.length) { stream := stream }
  raiseIf (scan.descriptor.length < 256) ⟨"firmware_not_application_image", "ESP application descriptor is missing"⟩
  raiseIf (littleEndian (scan.descriptor.take 4) ≠ 0xABCD5432)
    ⟨"firmware_not_application_image", "Image is not an ESP application image at an OTA partition offset"⟩
  let imageHash ← checkSeal sha256 bytes scan
  describeImage bytes scan.descriptor imageHash segmentCount expectedProjectName

/-! ## Well-formed images -/

/-- A zero-terminated text of printable characters, with zeros up to the end of its field. -/
def HoldsText (field : List UInt8) (text : String) : Prop :=
  ∃ value zeros, field = value ++ zeros ∧ zeros ≠ [] ∧ (∀ byte ∈ zeros, byte = 0) ∧
    value ≠ [] ∧ (∀ byte ∈ value, 0x20 ≤ byte ∧ byte ≤ 0x7E) ∧ text = asciiText value

/-- A load address, the length of the data, and the data. -/
structure Segment where
  address : List UInt8
  size : List UInt8
  data : List UInt8
  addressLength : address.length = 4
  sizeLength : size.length = 4
  sizeValue : littleEndian size = data.length
  nonempty : data ≠ []

def Segment.bytes (segment : Segment) : List UInt8 := segment.address ++ segment.size ++ segment.data

/-- Zeros and the checksum, up to a multiple of sixteen bytes. -/
def sealing (length : Nat) (checksum : UInt8) : List UInt8 := List.replicate (15 - length % 16) 0 ++ [checksum]

structure EspImage where
  header : List UInt8
  segments : List Segment
  headerLength : header.length = 24
  magic : header.getD 0 0 = 0xE9
  counted : (header.getD 1 0).toNat = segments.length
  few : 1 ≤ segments.length ∧ segments.length ≤ 16
  spiMode : header.getD 2 0 ≤ 3
  chip : littleEndian ((header.drop 12).take 2) = 9
  hashed : header.getD 23 0 = 1

namespace EspImage
variable (image : EspImage)

def body : List UInt8 := image.header ++ image.segments.flatMap Segment.bytes

def checksum : UInt8 := (image.segments.flatMap Segment.data).foldl (· ^^^ ·) 0xEF

/-- What the hash covers. -/
def covered : List UInt8 := image.body ++ sealing image.body.length image.checksum

def bytes : List UInt8 := image.covered ++ (sha256 image.covered).val

def descriptor : List UInt8 := (image.segments.head?.elim [] Segment.data).take 256

/-- What the result says of an image of the expected project. -/
structure Describes (expectedProjectName : String) (parsed : ParsedFirmwareImage) : Prop where
  application : image.descriptor.length = 256 ∧ littleEndian (image.descriptor.take 4) = 0xABCD5432
  version : HoldsText (slice image.descriptor 16 48) parsed.version ∧ Semver parsed.version
  project : HoldsText (slice image.descriptor 48 80) parsed.projectName ∧ parsed.projectName = expectedProjectName
  built : ∃ time date, HoldsText (slice image.descriptor 80 96) time ∧ HoldsText (slice image.descriptor 96 112) date ∧
    strptime (date ++ " " ++ time).toList = some parsed.buildTimestamp
  buildHash : (∃ byte ∈ slice image.descriptor 144 176, byte ≠ 0) ∧
    parsed.buildHash = hexText (slice image.descriptor 144 176)
  protocol : asciiBytes (describedProtocol parsed.projectName) <:+: image.bytes sha256 ∧
    parsed.protocolMin = describedProtocol parsed.projectName ∧ parsed.protocolMax = describedProtocol parsed.projectName
  imageHash : parsed.imageHash = hexText (sha256 image.covered).val
  target : parsed.hardwareTarget = "esp32-s3" ∧ parsed.chipId = 9
  sizes : parsed.sizeBytes = (image.bytes sha256).length ∧ parsed.segmentCount = image.segments.length

end EspImage

/-! ## What each step reads -/

theorem readExact_eq_ok {stream front rest : List UInt8} {length : Nat} {detail : String} :
    readExact stream length detail = .ok (front, rest) ↔ stream = front ++ rest ∧ front.length = length := by
  unfold readExact
  split
  · next short =>
    refine iff_of_false (fun read => by cases read) ?_
    rintro ⟨rfl, rfl⟩
    rw [List.length_append] at short
    omega
  · next long =>
    constructor
    · intro read
      cases read
      exact ⟨(List.take_append_drop length stream).symm, List.length_take_of_le (not_lt.mp long)⟩
    · rintro ⟨rfl, rfl⟩
      rw [List.take_left, List.drop_left]

theorem readExact_bind_eq_ok {Result : Type} {stream : List UInt8} {length : Nat} {detail : String} {result : Result}
    {next : List UInt8 × List UInt8 → Except FirmwareImageError Result} : (readExact stream length detail >>= next) = .ok result ↔
      ∃ front rest, stream = front ++ rest ∧ front.length = length ∧ next (front, rest) = .ok result := by
  simp only [bind_eq_ok, Prod.exists, readExact_eq_ok, and_assoc]

theorem descriptorText_eq_ok {field : List UInt8} {name text : String} :
    descriptorText field name = .ok text ↔ HoldsText field text := by
  unfold descriptorText
  simp only [raiseIf_bind_eq_ok, pure, Except.pure, Except.ok.injEq]
  constructor
  · rintro ⟨bounded, ascii, printable, rfl⟩
    push Not at bounded printable
    refine ⟨field.takeWhile (· ≠ 0), field.dropWhile (· ≠ 0), List.takeWhile_append_dropWhile.symm, bounded.1, ?_, printable.1,
      fun byte member => ⟨UInt8.not_lt.mp (printable.2 byte member).1, UInt8.not_lt.mp (printable.2 byte member).2⟩, rfl⟩
    intro byte member
    cases kept : field.dropWhile (· ≠ 0) with
    | nil => exact absurd kept bounded.1
    | cons first rest =>
        rw [kept] at member bounded
        rcases List.mem_cons.mp member with rfl | later
        · have stop := List.head?_dropWhile_not (· ≠ (0 : UInt8)) field
          rw [kept] at stop
          simpa using stop
        · exact bounded.2 byte later
  · rintro ⟨value, zeros, rfl, some, zero, nonempty, printable, rfl⟩
    have nonzero : ∀ byte ∈ value, decide (byte ≠ 0) = true := by
      intro byte member
      have low := (printable byte member).1
      rw [decide_eq_true_eq]
      rintro rfl
      exact absurd low (by decide)
    obtain ⟨first, rest, rfl⟩ := List.exists_cons_of_ne_nil some
    have ends : (first :: rest).takeWhile (· ≠ (0 : UInt8)) = [] ∧ (first :: rest).dropWhile (· ≠ (0 : UInt8)) = first :: rest := by
      rw [zero first List.mem_cons_self]
      exact ⟨rfl, rfl⟩
    rw [List.takeWhile_append_of_pos nonzero, List.dropWhile_append_of_pos nonzero, ends.1, ends.2, List.append_nil]
    push Not
    refine ⟨⟨List.cons_ne_nil _ _, fun byte later => zero byte (List.mem_cons_of_mem _ later)⟩, ?_, ⟨nonempty, ?_⟩, rfl⟩
    · exact fun byte member => UInt8.not_le.mpr (UInt8.lt_of_le_of_lt (printable byte member).2 (by decide))
    · exact fun byte member => ⟨UInt8.not_lt.mpr (printable byte member).1, UInt8.not_lt.mpr (printable byte member).2⟩

theorem descriptorText_bind_eq_ok {Result : Type} {field : List UInt8} {name : String} {result : Result}
    {next : String → Except FirmwareImageError Result} : (descriptorText field name >>= next) = .ok result ↔
      ∃ text, HoldsText field text ∧ next text = .ok result := by
  simp only [bind_eq_ok, descriptorText_eq_ok]

theorem buildTimestamp_bind_eq_ok {Result : Type} {date time : String} {result : Result}
    {next : Int → Except FirmwareImageError Result} : (buildTimestamp date time >>= next) = .ok result ↔
      ∃ parsed, strptime (date ++ " " ++ time).toList = some parsed ∧ next parsed = .ok result := by
  rw [bind_eq_ok, buildTimestamp]
  cases strptime (date ++ " " ++ time).toList with
  | none => simp
  | some parsed => simp

/-- The chunks of the file hold the name of a protocol when the file does. -/
theorem containsProtocol_iff (bytes : List UInt8) (projectName : String) :
    containsProtocol bytes (describedProtocol projectName) = true ↔ asciiBytes (describedProtocol projectName) <:+: bytes := by
  have named : asciiBytes (describedProtocol projectName) ≠ [] := by
    unfold describedProtocol
    split <;> decide
  rw [containsProtocol, searchChunks_iff (by simpa using named), List.nil_append, chunked_flatten (by decide)]

theorem checkHeader_eq_ok {header : List UInt8} {count : Nat} : checkHeader header = .ok count ↔
    header.getD 0 0 = 0xE9 ∧ (header.getD 1 0).toNat = count ∧ (1 ≤ count ∧ count ≤ 16) ∧ header.getD 2 0 ≤ 3 ∧
      littleEndian ((header.drop 12).take 2) = 9 ∧ header.getD 23 0 = 1 := by
  unfold checkHeader
  simp only [raiseIf_bind_eq_ok, pure, Except.pure, Except.ok.injEq, ne_eq, not_not, UInt8.not_lt]
  constructor
  · rintro ⟨magic, few, mode, chip, hashed, rfl⟩
    exact ⟨magic, rfl, few, mode, chip, hashed⟩
  · rintro ⟨magic, rfl, few, mode, chip, hashed⟩
    exact ⟨magic, few, mode, chip, hashed, rfl⟩

theorem foldl_checksum (chunks : List (List UInt8)) (checksum : UInt8) :
    chunks.foldl (fun checksum chunk => chunk.foldl (· ^^^ ·) checksum) checksum = chunks.flatten.foldl (· ^^^ ·) checksum := by
  induction chunks generalizing checksum with
  | nil => rfl
  | cons chunk rest ih => rw [List.foldl_cons, ih, List.flatten_cons, List.foldl_append]

/-- A segment is read when the stream starts with one. -/
theorem readSegment_eq_ok {sizeBytes index : Nat} {scan next : SegmentScan} (within : scan.stream.length ≤ sizeBytes) :
    readSegment sizeBytes scan index = .ok next ↔ ∃ segment : Segment, scan.stream = segment.bytes ++ next.stream ∧
      next.checksum = segment.data.foldl (· ^^^ ·) scan.checksum ∧
      next.descriptor = if index = 0 then segment.data.take 256 else scan.descriptor := by
  have opening (data : List UInt8) : (chunked chunkBytes data).foldl (extendOpening 256) [] = data.take 256 := by
    have read := @foldl_extendOpening UInt8 256 (chunked chunkBytes data) []
    rwa [List.take_nil, List.nil_append, chunked_flatten (by decide)] at read
  unfold readSegment
  simp only [readExact_bind_eq_ok, raiseIf_bind_eq_ok, pure, Except.pure, Except.ok.injEq, foldl_checksum, opening,
    chunked_flatten (show 0 < chunkBytes by decide)]
  constructor
  · rintro ⟨front, stream, split, size, length, inside, rfl⟩
    rw [split, List.length_append] at within
    -- The file holds what is left of the stream, and with it the whole segment.
    have fits : littleEndian (front.drop 4) ≤ stream.length := by omega
    refine ⟨⟨front.take 4, front.drop 4, stream.take (littleEndian (front.drop 4)), by rw [List.length_take]; omega,
      by rw [List.length_drop]; omega, (List.length_take_of_le fits).symm, ?_⟩, ?_, rfl, rfl⟩
    · rw [← List.length_pos_iff, List.length_take_of_le fits]
      omega
    · rw [split, Segment.bytes, List.take_append_drop, List.append_assoc, List.take_append_drop]
  · rintro ⟨segment, split, checksum, descriptor⟩
    have length := List.length_pos_iff.mpr segment.nonempty
    have header : segment.size = (segment.address ++ segment.size).drop 4 := by
      rw [← segment.addressLength, List.drop_left]
    rw [split, Segment.bytes, List.length_append, List.length_append] at within
    refine ⟨segment.address ++ segment.size, segment.data ++ next.stream, ?_, ?_, ?_⟩
    · rw [split, Segment.bytes, List.append_assoc]
    · rw [List.length_append, segment.addressLength, segment.sizeLength]
    · rw [← header, segment.sizeValue, List.take_left, List.drop_left, List.length_append, ← checksum, ← descriptor]
      exact ⟨by omega, by omega, rfl⟩

/-- The loop over the segments reads as many as there are passes. -/
theorem readSegments_eq_ok {sizeBytes count first : Nat} {scan next : SegmentScan} (within : scan.stream.length ≤ sizeBytes) :
    (List.range' first count).foldlM (readSegment sizeBytes) scan = .ok next ↔ ∃ segments : List Segment,
      segments.length = count ∧ scan.stream = segments.flatMap Segment.bytes ++ next.stream ∧
      next.checksum = (segments.flatMap Segment.data).foldl (· ^^^ ·) scan.checksum ∧
      next.descriptor = if first = 0 then segments.head?.elim scan.descriptor fun segment => segment.data.take 256
        else scan.descriptor := by
  induction count generalizing first scan with
  | zero =>
      simp only [List.range'_zero, List.foldlM_nil, pure, Except.pure, Except.ok.injEq, List.length_eq_zero_iff]
      constructor
      · rintro rfl
        exact ⟨[], rfl, rfl, rfl, (ite_self _).symm⟩
      · rintro ⟨_, rfl, stream, checksum, descriptor⟩
        cases scan
        cases next
        simp_all
  | succ count ih =>
      rw [List.range'_succ, List.foldlM_cons]
      simp only [bind_eq_ok, readSegment_eq_ok within]
      constructor
      · rintro ⟨middle, ⟨segment, stream, checksum, descriptor⟩, later⟩
        have rest : middle.stream.length ≤ sizeBytes := by
          rw [stream, List.length_append] at within
          omega
        obtain ⟨segments, counted, stream', checksum', descriptor'⟩ := (ih rest).mp later
        refine ⟨segment :: segments, by rw [List.length_cons, counted], ?_, ?_, ?_⟩
        · rw [stream, stream', List.flatMap_cons, List.append_assoc]
        · rw [checksum', checksum, List.flatMap_cons, List.foldl_append]
        · rw [descriptor', if_neg (Nat.succ_ne_zero first), descriptor]
          rfl
      · rintro ⟨segments, counted, stream, checksum, descriptor⟩
        obtain ⟨segment, rest, rfl⟩ := List.exists_cons_of_length_eq_add_one counted
        rw [List.flatMap_cons, List.append_assoc] at stream
        rw [List.flatMap_cons, List.foldl_append] at checksum
        refine ⟨{ stream := rest.flatMap Segment.bytes ++ next.stream, checksum := segment.data.foldl (· ^^^ ·) scan.checksum
                  descriptor := if first = 0 then segment.data.take 256 else scan.descriptor },
          ⟨segment, stream, rfl, rfl⟩, (ih ?_).mpr ⟨rest, Nat.succ.inj counted, rfl, checksum, ?_⟩⟩
        · rw [stream, List.length_append] at within
          exact (Nat.le_add_left _ _).trans within
        · rw [descriptor, if_neg (Nat.succ_ne_zero first)]
          rfl

/-- The end of a file is right when it holds the padding, the checksum and the hash. -/
theorem checkSeal_eq_ok {body hash : List UInt8} {scan : SegmentScan} :
    checkSeal sha256 (body ++ scan.stream) scan = .ok hash ↔
      scan.stream = sealing body.length scan.checksum ++ hash ∧ hash = (sha256 (body ++ sealing body.length scan.checksum)).val := by
  have before : (body ++ scan.stream).length - scan.stream.length = body.length := by
    rw [List.length_append, Nat.add_sub_cancel]
  have gap : (body.length / 16 + 1) * 16 - 1 - body.length = 15 - body.length % 16 := by omega
  have whole : (body.length / 16 + 1) * 16 - 1 + 1 = (body ++ sealing body.length scan.checksum).length := by
    rw [sealing, List.length_append, List.length_append, List.length_replicate, List.length_singleton]
    omega
  have covered (rest : List UInt8) : (body ++ (sealing body.length scan.checksum ++ rest)).take
      ((body.length / 16 + 1) * 16 - 1 + 1) = body ++ sealing body.length scan.checksum := by
    rw [whole, ← List.append_assoc, List.take_left]
  unfold checkSeal
  simp only [readExact_bind_eq_ok, raiseIf_bind_eq_ok, pure, Except.pure, Except.ok.injEq, before, gap,
    chunked_flatten (show 0 < chunkBytes by decide), not_not, ne_eq, not_exists, not_and]
  constructor
  · rintro ⟨padding, tail, split, size, zeros, _, rest, rfl, -, rfl, found, last, rfl, -, rfl, same, rfl⟩
    have blank : padding = List.replicate (15 - body.length % 16) 0 := List.eq_replicate_iff.mpr ⟨size, zeros⟩
    rw [List.append_nil, ← same, ← List.append_assoc, blank, ← sealing] at split
    refine ⟨split, ?_⟩
    rw [split, covered]
  · rintro ⟨split, same⟩
    have hashed : (sha256 ((body ++ scan.stream).take ((body.length / 16 + 1) * 16 - 1 + 1))).val = hash := by
      rw [split, covered, same]
    refine ⟨_, _, split.trans (List.append_assoc ..), List.length_replicate, fun byte member => List.eq_of_mem_replicate member,
      _, _, rfl, rfl, rfl, hash, [], (List.append_nil _).symm, ?_, rfl, hashed, hashed⟩
    rw [same]
    exact (sha256 _).property

theorem EspImage.opening_eq (image : EspImage) : (if 0 = 0 then image.segments.head?.elim [] fun segment => segment.data.take 256
    else []) = image.descriptor := by
  rw [if_pos rfl, EspImage.descriptor]
  cases image.segments.head? with
  | none => rfl
  | some segment => rfl

theorem describeImage_eq_ok {image : EspImage} {expectedProjectName : String} {parsed : ParsedFirmwareImage}
    (application : image.descriptor.length = 256 ∧ littleEndian (image.descriptor.take 4) = 0xABCD5432) :
    describeImage (image.bytes sha256) image.descriptor (sha256 image.covered).val image.segments.length expectedProjectName =
      .ok parsed ↔ image.Describes sha256 expectedProjectName parsed := by
  unfold describeImage
  simp only [descriptorText_bind_eq_ok, raiseIf_bind_eq_ok, buildTimestamp_bind_eq_ok, pure, Except.pure, Except.ok.injEq,
    not_not, ne_eq, Bool.not_eq_false, containsProtocol_iff, List.all_eq_true, decide_eq_true_eq]
  constructor
  · rintro ⟨version, holds, semantic, project, named, expected, time, clock, date, day, built, declared, timestamp, parses, rfl⟩
    push Not at built
    exact ⟨application, ⟨holds, semantic⟩, ⟨named, expected⟩, ⟨time, date, clock, day, parses⟩, ⟨built, rfl⟩,
      ⟨declared, rfl, rfl⟩, rfl, ⟨rfl, rfl⟩, ⟨rfl, rfl⟩⟩
  · intro describes
    cases parsed
    obtain ⟨-, ⟨holds, semantic⟩, ⟨named, expected⟩, ⟨time, date, clock, day, parses⟩, ⟨built, buildHash⟩,
      ⟨declared, least, most⟩, imageHash, ⟨target, chip⟩, size, count⟩ := describes
    dsimp only at *
    subst buildHash least most imageHash target chip size count
    refine ⟨_, holds, semantic, _, named, expected, time, clock, date, day, ?_, declared, _, parses, rfl⟩
    push Not
    exact built

/-- The steps of the parser, one after another. -/
theorem parse_eq_ok {bytes : List UInt8} {maximumBytes otaPartitionSizeBytes : Nat} {expectedProjectName : String}
    {parsed : ParsedFirmwareImage} :
    parseEsp32s3ApplicationImage sha256 (some bytes) maximumBytes otaPartitionSizeBytes expectedProjectName = .ok parsed ↔
      ¬ bytes.length = 0 ∧ (bytes.length ≤ maximumBytes ∧ bytes.length ≤ otaPartitionSizeBytes) ∧
        ∃ header stream, bytes = header ++ stream ∧ header.length = 24 ∧ ∃ count, checkHeader header = .ok count ∧
          ∃ scan, (List.range' 0 count).foldlM (readSegment bytes.length) { stream := stream } = .ok scan ∧
            256 ≤ scan.descriptor.length ∧ littleEndian (scan.descriptor.take 4) = 0xABCD5432 ∧
            ∃ hash, checkSeal sha256 bytes scan = .ok hash ∧
              describeImage bytes scan.descriptor hash count expectedProjectName = .ok parsed := by
  unfold parseEsp32s3ApplicationImage
  rw [Option.elim_some]
  change (raiseIf _ _ >>= _) = _ ↔ _
  simp only [raiseIf_bind_eq_ok, readExact_bind_eq_ok, bind_eq_ok (α := Nat), bind_eq_ok (α := SegmentScan),
    bind_eq_ok (α := List UInt8), List.range_eq_range', not_or, not_lt, not_not, ne_eq]

/-- A file is accepted exactly when it is an image with nothing around it that fits the partition and is described as the
expected project, and the result is its description. The size of the chunks plays no part. -/
theorem image_parsed_iff (contents : Option (List UInt8)) (maximumBytes otaPartitionSizeBytes : Nat) (expectedProjectName : String)
    (parsed : ParsedFirmwareImage) :
    parseEsp32s3ApplicationImage sha256 contents maximumBytes otaPartitionSizeBytes expectedProjectName = .ok parsed ↔
      ∃ image : EspImage, contents = some (image.bytes sha256) ∧ (image.bytes sha256).length ≤ maximumBytes ∧
        (image.bytes sha256).length ≤ otaPartitionSizeBytes ∧ image.Describes sha256 expectedProjectName parsed := by
  cases contents with
  | none =>
      refine iff_of_false (fun done => by cases done) ?_
      rintro ⟨_, missing, _⟩
      cases missing
  | some bytes =>
      rw [parse_eq_ok]
      simp only [Option.some.injEq, checkHeader_eq_ok]
      constructor
      · rintro ⟨-, fits, header, stream, split, size, count, ⟨magic, counted, few, mode, chip, hashed⟩, scan, run, long, descriptor,
          hash, sealed, described⟩
        rw [readSegments_eq_ok (by rw [split]; simp)] at run
        obtain ⟨segments, rfl, rest, checksum, first⟩ := run
        let image : EspImage := ⟨header, segments, size, magic, counted, few, mode, chip, hashed⟩
        have opening : scan.descriptor = image.descriptor := first.trans image.opening_eq
        have same : bytes = image.body ++ scan.stream :=
          (split.trans (congrArg (header ++ ·) rest)).trans (List.append_assoc ..).symm
        have sum : scan.checksum = image.checksum := checksum
        rw [same, checkSeal_eq_ok, sum] at sealed
        have whole : bytes = image.bytes sha256 := by
          rw [same, sealed.1, ← List.append_assoc, sealed.2]
          rfl
        rw [opening] at long descriptor described
        rw [whole] at fits described
        have application : image.descriptor.length = 256 := le_antisymm (List.length_take_le _ _) long
        rw [sealed.2] at described
        exact ⟨image, whole, fits.1, fits.2, (describeImage_eq_ok sha256 ⟨application, descriptor⟩).mp described⟩
      · rintro ⟨image, rfl, small, fits, describes⟩
        have application := describes.application
        have split : image.bytes sha256 = image.header ++ (image.segments.flatMap Segment.bytes ++
            (sealing image.body.length image.checksum ++ (sha256 image.covered).val)) := by
          rw [EspImage.bytes, EspImage.covered, EspImage.body]
          simp only [List.append_assoc]
        refine ⟨?_, ⟨small, fits⟩, image.header, _, split, image.headerLength, image.segments.length,
          ⟨image.magic, image.counted, image.few, image.spiMode, image.chip, image.hashed⟩,
          { stream := sealing image.body.length image.checksum ++ (sha256 image.covered).val, checksum := image.checksum
            descriptor := image.descriptor }, ?_, application.1.ge, application.2, (sha256 image.covered).val, ?_,
          (describeImage_eq_ok sha256 application).mpr describes⟩
        · rw [split, List.length_append, image.headerLength]
          omega
        · rw [readSegments_eq_ok (by rw [split]; simp)]
          exact ⟨image.segments, rfl, rfl, rfl, image.opening_eq.symm⟩
        · have parts : image.bytes sha256 = image.body ++
              (sealing image.body.length image.checksum ++ (sha256 image.covered).val) := by
            rw [EspImage.bytes, EspImage.covered, List.append_assoc]
          rw [parts]
          exact (checkSeal_eq_ok sha256).mpr ⟨rfl, rfl⟩

/-! ## A changed byte -/

theorem foldl_xor (bytes : List UInt8) (start : UInt8) : bytes.foldl (· ^^^ ·) start = start ^^^ bytes.foldl (· ^^^ ·) 0 := by
  induction bytes generalizing start with
  | nil => simp
  | cons byte rest ih => rw [List.foldl_cons, List.foldl_cons, ih, ih (0 ^^^ byte), UInt8.zero_xor, UInt8.xor_assoc]

/-- The checksum after another byte in one place differs. -/
theorem foldl_xor_inj {first front back : List UInt8} {old new start : UInt8}
    (same : (first ++ (front ++ new :: back)).foldl (· ^^^ ·) start = (first ++ (front ++ old :: back)).foldl (· ^^^ ·) start) :
    new = old := by
  simp only [List.foldl_append, List.foldl_cons] at same
  rw [foldl_xor, foldl_xor back (_ ^^^ old)] at same
  exact UInt8.xor_right_inj _ |>.mp (UInt8.xor_left_inj _ |>.mp same)

/-- An image with one byte of its segments' data changed is not accepted, even with a hash that fits. -/
theorem altered_data_rejected (image : EspImage) {before after : List Segment} {segment altered : Segment}
    {front back hash : List UInt8} {old new : UInt8} (parts : image.segments = before ++ segment :: after)
    (data : segment.data = front ++ old :: back)
    (change : altered.address = segment.address ∧ altered.size = segment.size ∧ altered.data = front ++ new :: back)
    (differs : new ≠ old) (maximumBytes otaPartitionSizeBytes : Nat) (expectedProjectName : String) (parsed : ParsedFirmwareImage) :
    parseEsp32s3ApplicationImage sha256 (some (image.header ++ (before ++ altered :: after).flatMap Segment.bytes ++
      sealing image.body.length image.checksum ++ hash)) maximumBytes otaPartitionSizeBytes expectedProjectName ≠ .ok parsed := by
  intro accepted
  obtain ⟨-, -, header, stream, split, size, count, checked, scan, run, -, -, digest, sealed, -⟩ := (parse_eq_ok sha256).mp accepted
  rw [List.append_assoc, List.append_assoc] at split
  obtain ⟨rfl, rfl⟩ := List.append_inj split (image.headerLength.trans size.symm)
  have whole : (before ++ altered :: after).length = count := by
    rw [← (checkHeader_eq_ok.mp checked).2.1, image.counted, parts, List.length_append, List.length_append, List.length_cons,
      List.length_cons]
  -- The altered segments are read as they are, since their sizes are those of the image.
  let next : SegmentScan := ⟨sealing image.body.length image.checksum ++ hash,
    ((before ++ altered :: after).flatMap Segment.data).foldl (· ^^^ ·) 0xEF,
    (before ++ altered :: after).head?.elim [] fun segment => segment.data.take 256⟩
  have same : scan = next := Except.ok.inj (run.symm.trans
    ((readSegments_eq_ok (by simp)).mpr ⟨before ++ altered :: after, whole, rfl, rfl, rfl⟩))
  have ends : scan.stream = sealing image.body.length image.checksum ++ hash := congrArg SegmentScan.stream same
  have sum : scan.checksum = ((before ++ altered :: after).flatMap Segment.data).foldl (· ^^^ ·) 0xEF :=
    congrArg SegmentScan.checksum same
  have long : (image.header ++ (before ++ altered :: after).flatMap Segment.bytes).length = image.body.length := by
    simp only [EspImage.body, parts, Segment.bytes, change, data, List.flatMap_append, List.flatMap_cons, List.length_append,
      List.length_cons]
  rw [List.append_assoc, List.append_assoc, ← ends, ← List.append_assoc] at sealed
  have stored := ((checkSeal_eq_ok sha256).mp sealed).1
  rw [ends, long] at stored
  have checksums := List.append_cancel_left (List.append_inj stored (by simp [sealing])).1
  rw [List.cons.injEq, and_iff_left rfl, sum, EspImage.checksum, parts] at checksums
  simp only [List.flatMap_append, List.flatMap_cons, change, data, List.append_assoc, List.cons_append] at checksums
  exact differs (foldl_xor_inj checksums.symm)

end Parser

/-! ## A small image -/

def twoBytes (second : UInt8) : Segment := ⟨[0, 0, 0, 0], [2, 0, 0, 0], [5, second], rfl, rfl, rfl, List.cons_ne_nil _ _⟩

def smallImage : EspImage where
  header := [0xE9, 1, 0, 0, 0, 0, 0, 0, 0, 0, 0, 0, 9, 0, 0, 0, 0, 0, 0, 0, 0, 0, 0, 1]
  segments := [twoBytes 7]
  headerLength := rfl
  magic := rfl
  counted := rfl
  few := ⟨le_rfl, Nat.le_of_ble_eq_true rfl⟩
  spiMode := by decide
  chip := rfl
  hashed := rfl

theorem altered_data_rejected_small : ¬ ∃ parsed, parseEsp32s3ApplicationImage (fun _ => ⟨List.replicate 32 0, rfl⟩)
    (some (smallImage.header ++ [twoBytes 8].flatMap Segment.bytes ++ sealing smallImage.body.length smallImage.checksum ++
      List.replicate 32 0)) 4096 4096 "power-monitor-sensor" = .ok parsed := by
  rintro ⟨parsed, accepted⟩
  exact @altered_data_rejected _ smallImage [] [] (twoBytes 7) (twoBytes 8) [5] [] _ 7 8 rfl rfl ⟨rfl, rfl, rfl⟩ (by decide) 4096 4096
    "power-monitor-sensor" parsed accepted

end PowerMonitor.Firmware
