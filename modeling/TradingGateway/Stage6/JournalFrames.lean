import TradingGateway.Stage6.VersionedRecord

/-! Physical framing of the journal: a header, then one frame for each record,
each frame bound to the digest of the one before it. -/

set_option autoImplicit false

namespace TradingGateway.Stage6.JournalFrames

open DurableIdentity JournalRecord ReconciliationV2 VersionedRecord
open Foundation.Bytes Foundation.ExceptRun

def stage6JournalStorageSchemaVersion : UInt16 := 1
def stage6JournalMaxRecordBytes : Nat := 1024 * 1024

/-- The bytes of `S6JNLV1`, and a zero. -/
def journalMagic : List UInt8 := [0x53, 0x36, 0x4a, 0x4e, 0x4c, 0x56, 0x31, 0]

/-- The bytes of `S6F1`. -/
def frameMagic : List UInt8 := [0x53, 0x36, 0x46, 0x31]

def journalHeaderBytes : Nat := journalMagic.length + 2
def frameVersion : UInt16 := 1
def framePrefixBytes : Nat := frameMagic.length + 2 + 4 + 32
def frameHashBytes : Nat := 32
def frameHashDomain : List UInt8 := "stage6-journal-frame-v1".toUTF8.toList
def frameGenesisDomain : List UInt8 := "stage6-journal-frame-genesis-v1".toUTF8.toList

/-- What the operating system says about a failed file operation; it is only passed on. -/
inductive ErrorKind where
  | notFound
  | permissionDenied
  | invalidInput
  | interrupted
  | unexpectedEof
  | writeZero
  | storageFull
  | other
deriving DecidableEq

inductive Stage6JournalStorageError where
  | unsupportedStorageSchema (found : UInt16)
  | invalidJournalHeader
  | invalidFrameHeader
  | invalidFrameLength (declared : Nat)
  | tornFrame
  | frameHashMismatch
  | frameChainMismatch
  | nonCanonicalRecord
  | recordDecodeFailed (source : Stage6DurableIdentityError)
  | trailingGarbage
  | durabilityUncertain
  | checkpointInvalid
  | externalMutationDetected
  | io (kind : ErrorKind)
deriving DecidableEq

/-- How an operation on the journal stops: with an error, or by the panic of a
record decoder. -/
inductive Stage6JournalStorageHalt where
  | rejected (error : Stage6JournalStorageError)
  | panicked
deriving DecidableEq

structure Stage6JournalFrontierV1 where
  storageSchemaVersion : UInt16
  frameCount : Nat
  journalByteLength : Nat
  lastFrameSha256 : HexText
  lastRecordId : Option Stage6JournalRecordId
  lastLifecycleSequence : Option Stage6LifecycleSequence
deriving DecidableEq

def validateRecordLength (length : Nat) : Except Stage6JournalStorageError Nat := do
  rejectIf (length = 0 ∨ stage6JournalMaxRecordBytes < length ∨ 2 ^ 32 ≤ length) (.invalidFrameLength length)
  .ok length

def mapVersionedRecordError : Stage6ReconciliationV2Error → Stage6JournalStorageError
  | .nonCanonicalEncoding => .nonCanonicalRecord
  | .unsupportedSchema _ => .recordDecodeFailed .unsupportedSchema
  | _ => .recordDecodeFailed .decodeFailed

def mapVersionedRecordHalt : Stage6ReconciliationV2Halt → Stage6JournalStorageHalt
  | .rejected error => .rejected (mapVersionedRecordError error)
  | .panicked => .panicked

def journalHeader : List UInt8 :=
  journalMagic ++ toBigEndian 2 stage6JournalStorageSchemaVersion.toNat

section Frames

variable (codec : ReconciliationCodec)

def genesisDigest : Sha256Output :=
  codec.sha256 frameGenesisDomain

def frameDigest (recordLength : Nat) (previous recordBytes : List UInt8) : Sha256Output :=
  codec.sha256 (frameHashDomain ++ toBigEndian 2 frameVersion.toNat ++ toBigEndian 4 recordLength ++
    previous ++ recordBytes)

def Stage6JournalFrontierV1.empty : Stage6JournalFrontierV1 :=
  { storageSchemaVersion := stage6JournalStorageSchemaVersion
    frameCount := 0
    journalByteLength := journalHeaderBytes
    lastFrameSha256 := (genesisDigest codec).hex
    lastRecordId := none
    lastLifecycleSequence := none }

def Stage6JournalFrontierV1.validate (frontier : Stage6JournalFrontierV1) :
    Except Stage6JournalStorageError Unit := do
  rejectIf (frontier.storageSchemaVersion ≠ stage6JournalStorageSchemaVersion)
    (.unsupportedStorageSchema frontier.storageSchemaVersion)
  rejectIf (isCanonicalSha256 frontier.lastFrameSha256 = false) .checkpointInvalid
  if frontier.frameCount = 0 then
    rejectIf (frontier.journalByteLength ≠ journalHeaderBytes ∨
      frontier.lastFrameSha256 ≠ (genesisDigest codec).hex ∨ frontier.lastRecordId.isSome = true ∨
      frontier.lastLifecycleSequence.isSome = true) .checkpointInvalid
  else
    rejectIf (frontier.journalByteLength ≤ journalHeaderBytes ∨ frontier.lastRecordId = none ∨
      frontier.lastLifecycleSequence = none) .checkpointInvalid

structure EncodedFrame where
  framePrefix : List UInt8
  hashBytes : List UInt8
  digest : Sha256Output
  bytes : List UInt8

def encodeFrame (recordBytes : List UInt8) (previous : Sha256Output) :
    Except Stage6JournalStorageError EncodedFrame := do
  let length ← validateRecordLength recordBytes.length
  let framePrefix := frameMagic ++ toBigEndian 2 frameVersion.toNat ++ toBigEndian 4 length ++ previous.bytes
  let digest := frameDigest codec length previous.bytes recordBytes
  .ok {
    framePrefix := framePrefix
    hashBytes := digest.bytes
    digest := digest
    bytes := framePrefix ++ recordBytes ++ digest.bytes }

/-- Write one more frame behind the bytes written so far and the digest they end with. -/
def appendFrame (written : List UInt8 × Sha256Output) (record : Stage6JournalRecordVersioned codec) :
    Except Stage6JournalStorageError (List UInt8 × Sha256Output) := do
  let frame ← encodeFrame codec record.encodeCanonical written.2
  .ok (written.1 ++ frame.bytes, frame.digest)

/-- `frame_versioned_records_for_test`: the journal that holds the given records. -/
def frameVersionedRecords (records : List (Stage6JournalRecordVersioned codec)) :
    Except Stage6JournalStorageError (List UInt8) := do
  let written ← records.foldlM (appendFrame codec) (journalHeader, genesisDigest codec)
  .ok written.1

structure ScannedJournal where
  records : List (Stage6JournalRecordV1 codec.toDurableRecordCodec)
  versionedRecords : List (Stage6JournalRecordVersioned codec)
  frontiers : List Stage6JournalFrontierV1
  frontier : Stage6JournalFrontierV1
  lastFrameDigest : Sha256Output

structure ScannedFrame where
  record : Stage6JournalRecordVersioned codec
  computed : Sha256Output
  frameTotal : Nat
  rest : List UInt8

/-- A tail too short for a frame is torn if it could start one. -/
def shortTailError (tail : List UInt8) : Stage6JournalStorageError :=
  if (tail.take (min tail.length frameMagic.length)).isPrefixOf frameMagic then .tornFrame else .trailingGarbage

def scanShortTail (remaining : Nat) (reader : List UInt8) :
    Except Stage6JournalStorageHalt (ScannedFrame codec) := do
  let (tail, _) ← orReject (readExact remaining reader) (.rejected .tornFrame)
  .error (.rejected (shortTailError tail))

/-- The magic number, the version and the record length stand at fixed places of a prefix. -/
def scanFramePrefix (framePrefix : List UInt8) : Except Stage6JournalStorageHalt Nat := do
  rejectIf (framePrefix.take 4 ≠ frameMagic) (.rejected .invalidFrameHeader)
  rejectIf (UInt16.ofNat (ofBigEndian ((framePrefix.drop 4).take 2)) ≠ frameVersion)
    (.rejected .invalidFrameHeader)
  (validateRecordLength (ofBigEndian ((framePrefix.drop 6).take 4))).mapError .rejected

/-- What follows the prefix: the chain, the record and the hash over them. -/
def scanFrameBody (remaining recordLength : Nat) (storedPrevious : List UInt8) (previous : Sha256Output)
    (reader : List UInt8) : Except Stage6JournalStorageHalt (ScannedFrame codec) := do
  let frameTotal := framePrefixBytes + recordLength + frameHashBytes
  rejectIf (remaining < frameTotal) (.rejected .tornFrame)
  rejectIf (storedPrevious ≠ previous.bytes) (.rejected .frameChainMismatch)
  let (recordBytes, reader) ← orReject (readExact recordLength reader) (.rejected .tornFrame)
  let (storedHash, reader) ← orReject (readExact frameHashBytes reader) (.rejected .tornFrame)
  let computed := frameDigest codec recordLength storedPrevious recordBytes
  rejectIf (storedHash ≠ computed.bytes) (.rejected .frameHashMismatch)
  let record ← (Stage6JournalRecordVersioned.decodeCanonical codec recordBytes).mapError
    mapVersionedRecordHalt
  .ok { record := record, computed := computed, frameTotal := frameTotal, rest := reader }

def scanFrame (remaining : Nat) (previous : Sha256Output) (reader : List UInt8) :
    Except Stage6JournalStorageHalt (ScannedFrame codec) := do
  if remaining < framePrefixBytes + frameHashBytes then scanShortTail codec remaining reader
  else
    let (framePrefix, reader) ← orReject (readExact framePrefixBytes reader) (.rejected .tornFrame)
    let recordLength ← scanFramePrefix framePrefix
    scanFrameBody codec remaining recordLength (framePrefix.drop 10) previous reader

structure ScanProgress where
  offset : Nat
  previous : Sha256Output
  records : List (Stage6JournalRecordV1 codec.toDurableRecordCodec)
  versionedRecords : List (Stage6JournalRecordVersioned codec)
  frontiers : List Stage6JournalFrontierV1

def ScanProgress.start : ScanProgress codec :=
  { offset := journalHeaderBytes
    previous := genesisDigest codec
    records := []
    versionedRecords := []
    frontiers := [] }

end Frames

section Scan

variable {codec : ReconciliationCodec}

def asV1? (record : Stage6JournalRecordVersioned codec) :
    Option (Stage6JournalRecordV1 codec.toDurableRecordCodec) :=
  match record with
  | .v1 v1 => some v1
  | _ => none

def ScanProgress.push (progress : ScanProgress codec) (frame : ScannedFrame codec) : ScanProgress codec :=
  let offset := progress.offset + frame.frameTotal
  let versionedRecords := progress.versionedRecords ++ [frame.record]
  { offset := offset
    previous := frame.computed
    records := progress.records ++ (asV1? frame.record).toList
    versionedRecords := versionedRecords
    frontiers := progress.frontiers ++ [{
      storageSchemaVersion := stage6JournalStorageSchemaVersion
      frameCount := versionedRecords.length
      journalByteLength := offset
      lastFrameSha256 := frame.computed.hex
      lastRecordId := some frame.record.journalRecordId
      lastLifecycleSequence := some frame.record.lifecycleSequence }] }

theorem scanFrameBody_ok {remaining recordLength : Nat} {storedPrevious reader : List UInt8}
    {previous : Sha256Output} {frame : ScannedFrame codec}
    (success : scanFrameBody codec remaining recordLength storedPrevious previous reader = .ok frame) :
    ∃ recordBytes, reader = recordBytes ++ frame.computed.bytes ++ frame.rest ∧
      recordBytes.length = recordLength ∧ storedPrevious = previous.bytes ∧
        frame.computed = frameDigest codec recordLength storedPrevious recordBytes ∧
          frame.frameTotal = framePrefixBytes + recordLength + frameHashBytes ∧
            Stage6JournalRecordVersioned.decodeCanonical codec recordBytes = .ok frame.record := by
  obtain ⟨_, success⟩ := check_bind_ok_iff.1 success
  obtain ⟨chained, success⟩ := check_bind_ok_iff.1 success
  obtain ⟨⟨recordBytes, afterRecord⟩, readRecord, success⟩ := bind_ok_iff.1 success
  obtain ⟨⟨storedHash, afterHash⟩, readHash, success⟩ := bind_ok_iff.1 success
  obtain ⟨hashed, success⟩ := check_bind_ok_iff.1 success
  obtain ⟨record, decoded, result⟩ := bind_ok_iff.1 success
  cases result
  rw [orReject_ok_iff, readExact_eq_some_iff] at readRecord readHash
  simp only [rejectIf_ok_iff, ne_eq, not_not] at chained hashed
  rw [mapError_ok_iff] at decoded
  exact ⟨recordBytes, by rw [readRecord.1, readHash.1, hashed, List.append_assoc], readRecord.2, chained, rfl,
    rfl, decoded⟩

theorem scanFrame_ok {remaining : Nat} {previous : Sha256Output} {reader : List UInt8}
    {frame : ScannedFrame codec} (success : scanFrame codec remaining previous reader = .ok frame) :
    ∃ framePrefix recordLength rest, reader = framePrefix ++ rest ∧ framePrefix.length = framePrefixBytes ∧
      scanFramePrefix framePrefix = .ok recordLength ∧
        scanFrameBody codec remaining recordLength (framePrefix.drop 10) previous rest = .ok frame := by
  unfold scanFrame at success
  split at success
  · obtain ⟨_, _, impossible⟩ := bind_ok_iff.1 success
    cases impossible
  · obtain ⟨⟨framePrefix, rest⟩, read, success⟩ := bind_ok_iff.1 success
    obtain ⟨recordLength, header, body⟩ := bind_ok_iff.1 success
    rw [orReject_ok_iff, readExact_eq_some_iff] at read
    exact ⟨framePrefix, recordLength, rest, read.1, read.2, header, body⟩

/-- Every turn of the loop moves the reader. -/
theorem scanFrame_shrinks {remaining : Nat} {previous : Sha256Output} {reader : List UInt8}
    {frame : ScannedFrame codec} (success : scanFrame codec remaining previous reader = .ok frame) :
    frame.rest.length < reader.length := by
  obtain ⟨framePrefix, recordLength, rest, shape, width, _, body⟩ := scanFrame_ok success
  obtain ⟨recordBytes, bodyShape, _⟩ := scanFrameBody_ok body
  have positive : 0 < framePrefixBytes := by decide
  rw [shape, bodyShape]
  simp only [List.length_append]
  omega

def scanFrames (totalLength : Nat) (progress : ScanProgress codec) (reader : List UInt8) :
    Except Stage6JournalStorageHalt (ScanProgress codec) :=
  if progress.offset < totalLength then
    match _scanned : scanFrame codec (totalLength - progress.offset) progress.previous reader with
    | .error halt => .error halt
    | .ok frame => scanFrames totalLength (progress.push frame) frame.rest
  else .ok progress
termination_by reader.length
decreasing_by exact scanFrame_shrinks _scanned

def ScanProgress.finish (progress : ScanProgress codec) :
    Except Stage6JournalStorageHalt (ScannedJournal codec) := do
  let frontier := progress.frontiers.getLast?.getD (.empty codec)
  (frontier.validate codec).mapError .rejected
  .ok {
    records := progress.records
    versionedRecords := progress.versionedRecords
    frontiers := progress.frontiers
    frontier := frontier
    lastFrameDigest := progress.previous }

variable (codec)

/-- `scan_reader`, on a reader that stands at the start of its bytes. -/
def scanReader (reader : List UInt8) (totalLength : Nat) :
    Except Stage6JournalStorageHalt (ScannedJournal codec) := do
  rejectIf (totalLength < journalHeaderBytes) (.rejected .invalidJournalHeader)
  let (header, reader) ← orReject (readExact journalHeaderBytes reader) (.rejected .invalidJournalHeader)
  rejectIf (header.take journalMagic.length ≠ journalMagic) (.rejected .invalidJournalHeader)
  let storageVersion := UInt16.ofNat (ofBigEndian (header.drop journalMagic.length))
  rejectIf (storageVersion ≠ stage6JournalStorageSchemaVersion)
    (.rejected (.unsupportedStorageSchema storageVersion))
  let progress ← scanFrames totalLength (.start codec) reader
  progress.finish

def scanBytes (bytes : List UInt8) : Except Stage6JournalStorageHalt (ScannedJournal codec) :=
  scanReader codec bytes bytes.length

end Scan

end TradingGateway.Stage6.JournalFrames
