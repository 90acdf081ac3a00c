import TradingGateway.Stage6.JournalFramesProperties

/-! The scanner of the read-only journal reader: a parser of its own for the
framing that the journal backends scan. -/

set_option autoImplicit false

namespace TradingGateway.Stage6.JournalFrames

open JournalRecord ReconciliationV2 VersionedRecord
open Foundation.Bytes Foundation.ExceptRun

section Scanner

variable (codec : ReconciliationCodec)

def scanVersionedFrame (remaining : Nat) (previous : Sha256Output) (reader : List UInt8) :
    Except Stage6JournalStorageHalt (ScannedFrame codec) := do
  if remaining < framePrefixBytes + frameHashBytes then
    let (tail, _) ← orReject (readExact remaining reader) (.rejected .tornFrame)
    rejectIf ((tail.take (min tail.length frameMagic.length)).isPrefixOf frameMagic = true) (.rejected .tornFrame)
    .error (.rejected .trailingGarbage)
  else
    let (framePrefix, reader) ← orReject (readExact framePrefixBytes reader) (.rejected .tornFrame)
    rejectIf (framePrefix.take frameMagic.length ≠ frameMagic) (.rejected .invalidFrameHeader)
    let version := UInt16.ofNat (ofBigEndian ((framePrefix.drop 4).take 2))
    rejectIf (version ≠ frameVersion) (.rejected .invalidFrameHeader)
    let declared := ofBigEndian ((framePrefix.drop 6).take 4)
    let recordLength ← (validateRecordLength declared).mapError .rejected
    let frameTotal := framePrefixBytes + recordLength + frameHashBytes
    rejectIf (frameTotal > remaining) (.rejected .tornFrame)
    let storedPrevious := framePrefix.drop 10
    rejectIf (storedPrevious ≠ previous.bytes) (.rejected .frameChainMismatch)
    let (recordBytes, reader) ← orReject (readExact recordLength reader) (.rejected .tornFrame)
    let (storedHash, reader) ← orReject (readExact frameHashBytes reader) (.rejected .tornFrame)
    let computed := frameDigest codec declared storedPrevious recordBytes
    rejectIf (storedHash ≠ computed.bytes) (.rejected .frameHashMismatch)
    let record ← (Stage6JournalRecordVersioned.decodeCanonical codec recordBytes).mapError fun halt =>
      match halt with
      | .rejected .nonCanonicalEncoding => .rejected .nonCanonicalRecord
      | .rejected (.unsupportedSchema _) => .rejected (.recordDecodeFailed .unsupportedSchema)
      | .rejected _ => .rejected (.recordDecodeFailed .decodeFailed)
      | .panicked => .panicked
    .ok { record := record, computed := computed, frameTotal := frameTotal, rest := reader }

/-- The two parsers read a frame alike, the refused ones included. -/
theorem scanVersionedFrame_eq (remaining : Nat) (previous : Sha256Output) (reader : List UInt8) :
    scanVersionedFrame codec remaining previous reader = scanFrame codec remaining previous reader := by
  have mapped : (fun halt : Stage6ReconciliationV2Halt =>
      (match halt with
      | .rejected .nonCanonicalEncoding => .rejected .nonCanonicalRecord
      | .rejected (.unsupportedSchema _) => .rejected (.recordDecodeFailed .unsupportedSchema)
      | .rejected _ => .rejected (.recordDecodeFailed .decodeFailed)
      | .panicked => .panicked : Stage6JournalStorageHalt)) = mapVersionedRecordHalt := by
    funext halt
    cases halt with
    | rejected error => cases error <;> rfl
    | panicked => rfl
  unfold scanVersionedFrame scanFrame
  rw [mapped]
  split
  next short =>
    unfold scanShortTail shortTailError
    cases orReject (readExact remaining reader) (Stage6JournalStorageHalt.rejected .tornFrame) with
    | error halt => rfl
    | ok read =>
        rw [ok_bind, ok_bind]
        dsimp only
        unfold rejectIf
        split <;> rfl
  next long =>
    cases orReject (readExact framePrefixBytes reader) (Stage6JournalStorageHalt.rejected .tornFrame) with
    | error halt => rfl
    | ok read =>
        obtain ⟨framePrefix, rest⟩ := read
        rw [ok_bind, ok_bind]
        dsimp only
        unfold scanFramePrefix
        have magic : rejectIf (framePrefix.take frameMagic.length ≠ frameMagic)
            (Stage6JournalStorageHalt.rejected .invalidFrameHeader) =
              rejectIf (framePrefix.take 4 ≠ frameMagic) (.rejected .invalidFrameHeader) := rfl
        rw [magic, bind_assoc]
        refine bind_congr fun _ => ?_
        rw [bind_assoc]
        refine bind_congr fun _ => ?_
        cases declared : validateRecordLength (ofBigEndian ((framePrefix.drop 6).take 4)) with
        | error error => rfl
        | ok recordLength =>
            obtain ⟨_, _, same⟩ := validateRecordLength_ok_iff.1 declared
            rw [← same]
            rfl

def scanVersionedFrames (totalLength offset : Nat) (previous : Sha256Output)
    (records : List (Stage6JournalRecordVersioned codec)) (reader : List UInt8) :
    Except Stage6JournalStorageHalt (List (Stage6JournalRecordVersioned codec)) :=
  if offset < totalLength then
    match _scanned : scanVersionedFrame codec (totalLength - offset) previous reader with
    | .error halt => .error halt
    | .ok frame =>
        scanVersionedFrames totalLength (offset + frame.frameTotal) frame.computed (records ++ [frame.record])
          frame.rest
  else .ok records
termination_by reader.length
decreasing_by exact scanFrame_shrinks (scanVersionedFrame_eq codec _ _ _ ▸ _scanned)

/-- `scan_versioned_framed_bytes`. -/
def scanVersionedFramedBytes (bytes : List UInt8) :
    Except Stage6JournalStorageHalt (List (Stage6JournalRecordVersioned codec)) := do
  let totalLength := bytes.length
  rejectIf (totalLength < journalHeaderBytes) (.rejected .invalidJournalHeader)
  let (header, reader) ← orReject (readExact journalHeaderBytes bytes) (.rejected .invalidJournalHeader)
  rejectIf (header.take journalMagic.length ≠ journalMagic) (.rejected .invalidJournalHeader)
  let storageVersion := UInt16.ofNat (ofBigEndian (header.drop journalMagic.length))
  rejectIf (storageVersion ≠ stage6JournalStorageSchemaVersion)
    (.rejected (.unsupportedStorageSchema storageVersion))
  scanVersionedFrames codec totalLength journalHeaderBytes (genesisDigest codec) [] reader

end Scanner

section Agreement

variable {codec : ReconciliationCodec}

theorem scanVersionedFrames_turn {totalLength offset : Nat} {previous : Sha256Output}
    {records : List (Stage6JournalRecordVersioned codec)} (reader : List UInt8) (more : offset < totalLength) :
    scanVersionedFrames codec totalLength offset previous records reader =
      scanFrame codec (totalLength - offset) previous reader >>= fun frame =>
        scanVersionedFrames codec totalLength (offset + frame.frameTotal) frame.computed
          (records ++ [frame.record]) frame.rest := by
  rw [← scanVersionedFrame_eq, scanVersionedFrames, if_pos more]
  split
  next halt failed => rw [failed, error_bind]
  next frame scanned => rw [scanned, ok_bind]

/-- The two loops run together: a sound scan that ends also passes the check of
its frontier, which only the longer one makes. -/
theorem scanVersionedFrames_eq {totalLength : Nat} (progress : ScanProgress codec) (sound : progress.Sound)
    (reader : List UInt8) :
    scanVersionedFrames codec totalLength progress.offset progress.previous progress.versionedRecords reader =
      (·.versionedRecords) <$> (scanFrames totalLength progress reader >>= ScanProgress.finish) := by
  induction measure : reader.length using Nat.strongRecOn generalizing progress reader with
  | _ length ih =>
      by_cases more : progress.offset < totalLength
      · rw [scanVersionedFrames_turn reader more, scanFrames_turn reader more]
        cases scanned : scanFrame codec (totalLength - progress.offset) progress.previous reader with
        | error halt => rfl
        | ok frame =>
            have shorter := scanFrame_shrinks scanned
            have pushed : (progress.push frame).Sound := by
              rw [push_eq_pushRecord scanned]
              exact sound.pushRecord frame.record
            rw [ok_bind, ok_bind, ← ih frame.rest.length (by omega) (progress.push frame) pushed frame.rest rfl]
            rfl
      · rw [scanFrames_done reader more, scanVersionedFrames, if_neg more, ok_bind, sound.finish]
        rfl

/-- The two scanners agree on every byte string: the same records, or the same refusal. -/
theorem scanVersionedFramedBytes_agrees (codec : ReconciliationCodec) (bytes : List UInt8) :
    scanVersionedFramedBytes codec bytes = (·.versionedRecords) <$> scanBytes codec bytes := by
  unfold scanVersionedFramedBytes scanBytes scanReader
  simp only [map_bind]
  refine bind_congr fun _ => bind_congr fun read => bind_congr fun _ => bind_congr fun _ => ?_
  rw [← map_bind]
  exact scanVersionedFrames_eq (.start codec) start_sound read.2

end Agreement

end TradingGateway.Stage6.JournalFrames
