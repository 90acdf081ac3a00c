import TradingGateway.Stage6.FileJournalProperties

/-! Checkpoints of a journal, and the journal that is kept in memory. -/

set_option autoImplicit false

namespace TradingGateway.Stage6.MemoryJournal

open JournalFrames FileJournal JournalRecord VersionedRecord
open Foundation.ExceptRun Foundation.Triples Foundation.Triples.Action

def checkpointHashDomain : List UInt8 := "stage6-journal-checkpoint-v1".toUTF8.toList

structure CheckpointCodec extends ReconciliationCodec where
  checkpointInputToVec : UInt16 → Stage6JournalFrontierV1 → List UInt8

structure Stage6JournalCheckpointV1 where
  storageSchemaVersion : UInt16
  frontier : Stage6JournalFrontierV1
  checkpointSha256 : HexText
deriving DecidableEq

section Checkpoints

variable (codec : CheckpointCodec)

def checkpointDigest (frontier : Stage6JournalFrontierV1) : HexText :=
  (codec.sha256 (checkpointHashDomain ++
    codec.checkpointInputToVec stage6JournalStorageSchemaVersion frontier)).hex

namespace Stage6JournalCheckpointV1

def fromFrontier (frontier : Stage6JournalFrontierV1) :
    Except Stage6JournalStorageError Stage6JournalCheckpointV1 := do
  frontier.validate codec.toReconciliationCodec
  .ok {
    storageSchemaVersion := stage6JournalStorageSchemaVersion
    frontier := frontier
    checkpointSha256 := checkpointDigest codec frontier }

def validate (checkpoint : Stage6JournalCheckpointV1) : Except Stage6JournalStorageError Unit := do
  rejectIf (checkpoint.storageSchemaVersion ≠ stage6JournalStorageSchemaVersion)
    (.unsupportedStorageSchema checkpoint.storageSchemaVersion)
  checkpoint.frontier.validate codec.toReconciliationCodec
  rejectIf (checkpoint.checkpointSha256 ≠ checkpointDigest codec checkpoint.frontier) .checkpointInvalid

end Stage6JournalCheckpointV1

/-- The frontier of a journal after its first `count` frames. -/
def frontierAt (scan : ScannedJournal codec.toReconciliationCodec) (count : Nat) : Option Stage6JournalFrontierV1 :=
  if count = 0 then some (.empty codec.toReconciliationCodec) else scan.frontiers[count - 1]?

def validateCheckpointAgainstScan (checkpoint : Stage6JournalCheckpointV1)
    (scan : ScannedJournal codec.toReconciliationCodec) : Except Stage6JournalStorageError Unit := do
  checkpoint.validate codec
  rejectIf (scan.frontier.frameCount < checkpoint.frontier.frameCount) .checkpointInvalid
  rejectIf (frontierAt codec scan checkpoint.frontier.frameCount ≠ some checkpoint.frontier) .checkpointInvalid

end Checkpoints

section Memory

variable (codec : ReconciliationCodec)

structure Stage6MemoryJournalBackend where
  bytes : List UInt8
  scan : ScannedJournal codec

/-- `Stage6MemoryJournalBackend::new`; an empty journal that did not scan would be a panic. -/
def Stage6MemoryJournalBackend.new : Except Stage6JournalStorageHalt (Stage6MemoryJournalBackend codec) := do
  let scan ← (scanBytes codec journalHeader).mapError fun _ => .panicked
  .ok { bytes := journalHeader, scan := scan }

def Stage6MemoryJournalBackend.fromFramedBytes (bytes : List UInt8) :
    Except Stage6JournalStorageHalt (Stage6MemoryJournalBackend codec) := do
  let scan ← scanBytes codec bytes
  .ok { bytes := bytes, scan := scan }

variable {codec}

abbrev MemoryAction (codec : ReconciliationCodec) :=
  Action (Stage6MemoryJournalBackend codec) Stage6JournalStorageHalt

/-- `Stage6MemoryJournalBackend::append_versioned`. -/
def appendInMemory (record : Stage6JournalRecordVersioned codec) :
    MemoryAction codec Stage6JournalAppendReceipt := do
  let recordBytes ← Action.ofExcept (validateVersionedRecordForStorage codec record)
  let backend ← get
  let frame ← Action.ofExcept
    ((encodeFrame codec recordBytes backend.scan.lastFrameDigest).mapError Stage6JournalStorageHalt.rejected)
  modify fun backend => { backend with bytes := backend.bytes ++ frame.bytes }
  let scan ← Action.ofExcept (scanBytes codec (backend.bytes ++ frame.bytes))
  modify fun backend => { backend with scan := scan }
  pure (appendReceipt record backend.scan.frontier.journalByteLength frame.digest scan.frontier)

def appendAllInMemory (records : List (Stage6JournalRecordVersioned codec)) : MemoryAction codec PUnit :=
  records.forM fun record => do
    let _ ← appendInMemory record
    pure ()

def memoryJournalOf (records : List (Stage6JournalRecordVersioned codec)) :
    Except Stage6JournalStorageHalt (Stage6MemoryJournalBackend codec) := do
  let backend ← Stage6MemoryJournalBackend.new codec
  let (result, filled) := (appendAllInMemory records).outcome backend
  result
  .ok filled

end Memory

section Frontiers

variable {codec : ReconciliationCodec}

/-- The frontier after each record, counted from the records before. -/
theorem scanOf_concat_frontiers (records : List (Stage6JournalRecordVersioned codec))
    (record : Stage6JournalRecordVersioned codec) :
    (scanOf codec (records ++ [record])).frontiers =
      (scanOf codec records).frontiers ++ [(scanOf codec (records ++ [record])).frontier] := by
  unfold scanOf
  simp [List.foldl_append, ScanProgress.pushRecord, ScanProgress.push]

theorem scanOf_frontiers_length (records : List (Stage6JournalRecordVersioned codec)) :
    (scanOf codec records).frontiers.length = records.length := by
  induction records using List.reverseRecOn with
  | nil => rfl
  | append_singleton records record ih => rw [scanOf_concat_frontiers]; simp [ih]

/-- The frontier behind the last record names it. -/
theorem scanOf_concat_frontier (records : List (Stage6JournalRecordVersioned codec))
    (record : Stage6JournalRecordVersioned codec) :
    (scanOf codec (records ++ [record])).frontier.frameCount = records.length + 1 ∧
      (scanOf codec (records ++ [record])).frontier.lastRecordId = some record.journalRecordId ∧
        (scanOf codec (records ++ [record])).frontier.lastLifecycleSequence = some record.lifecycleSequence := by
  have counted : (records.foldl ScanProgress.pushRecord (.start codec)).versionedRecords = records :=
    scanOf_versionedRecords records
  unfold scanOf
  simp [List.foldl_append, ScanProgress.pushRecord, ScanProgress.push, counted]

theorem scanOf_frontier_frameCount (records : List (Stage6JournalRecordVersioned codec)) :
    (scanOf codec records).frontier.frameCount = records.length := by
  cases records using List.reverseRecOn with
  | nil => rfl
  | append_singleton records record => simpa using (scanOf_concat_frontier records record).1

theorem scanOf_frontier_lastRecordId (records : List (Stage6JournalRecordVersioned codec)) :
    (scanOf codec records).frontier.lastRecordId = records.getLast?.map (·.journalRecordId) := by
  cases records using List.reverseRecOn with
  | nil => rfl
  | append_singleton records record => simpa using (scanOf_concat_frontier records record).2.1

theorem scanOf_frontier_lastLifecycleSequence (records : List (Stage6JournalRecordVersioned codec)) :
    (scanOf codec records).frontier.lastLifecycleSequence = records.getLast?.map (·.lifecycleSequence) := by
  cases records using List.reverseRecOn with
  | nil => rfl
  | append_singleton records record => simpa using (scanOf_concat_frontier records record).2.2

/-- A longer journal keeps the frontiers of a shorter one. -/
theorem scanOf_append_frontiers (front back : List (Stage6JournalRecordVersioned codec)) :
    (scanOf codec front).frontiers <+: (scanOf codec (front ++ back)).frontiers := by
  induction back using List.reverseRecOn with
  | nil => simp
  | append_singleton back record ih =>
      rw [← List.append_assoc, scanOf_concat_frontiers]
      exact ih.trans (List.prefix_append _ _)

end Frontiers

section Coverage

variable {codec : CheckpointCodec} {checkpoint : Stage6JournalCheckpointV1}

theorem frontierAt_length (front back : List (Stage6JournalRecordVersioned codec.toReconciliationCodec)) :
    frontierAt codec (scanOf codec.toReconciliationCodec (front ++ back)) front.length =
      some (scanOf codec.toReconciliationCodec front).frontier := by
  unfold frontierAt
  cases front using List.reverseRecOn with
  | nil => rfl
  | append_singleton front record =>
      have kept := scanOf_append_frontiers (front ++ [record]) back
      rw [scanOf_concat_frontiers] at kept
      have counted := scanOf_frontiers_length front
      obtain ⟨rest, shape⟩ := kept
      rw [if_neg (by simp), ← shape]
      simp [counted]

/-- A checkpoint that covers the first part of a journal is one of that part alone. -/
theorem validateCheckpoint_covered (front back : List (Stage6JournalRecordVersioned codec.toReconciliationCodec))
    (covers : checkpoint.frontier.frameCount = front.length) :
    validateCheckpointAgainstScan codec checkpoint (scanOf codec.toReconciliationCodec (front ++ back)) =
      validateCheckpointAgainstScan codec checkpoint (scanOf codec.toReconciliationCodec front) := by
  have whole := frontierAt_length front back
  have alone := frontierAt_length front []
  rw [List.append_nil] at alone
  unfold validateCheckpointAgainstScan
  have longEnough : ¬ (front ++ back).length < front.length := by simp
  rw [covers, whole, alone, scanOf_frontier_frameCount, scanOf_frontier_frameCount,
    rejectIf_of_not _ longEnough, rejectIf_of_not _ (Nat.lt_irrefl _)]

theorem scanOf_frontier_validate (records : List (Stage6JournalRecordVersioned codec.toReconciliationCodec)) :
    (scanOf codec.toReconciliationCodec records).frontier.validate codec.toReconciliationCodec = .ok () := by
  have sound := pushRecords_sound start_sound records
  unfold scanOf
  dsimp only
  cases last : (records.foldl ScanProgress.pushRecord (.start codec.toReconciliationCodec)).frontiers.getLast? with
  | none => exact empty_validate
  | some frontier => exact sound.frontiers frontier (List.mem_of_getLast? last)

variable (codec) in
def checkpointOf (records : List (Stage6JournalRecordVersioned codec.toReconciliationCodec)) :
    Stage6JournalCheckpointV1 :=
  { storageSchemaVersion := stage6JournalStorageSchemaVersion
    frontier := (scanOf codec.toReconciliationCodec records).frontier
    checkpointSha256 := checkpointDigest codec (scanOf codec.toReconciliationCodec records).frontier }

theorem fromFrontier_scanOf (records : List (Stage6JournalRecordVersioned codec.toReconciliationCodec)) :
    Stage6JournalCheckpointV1.fromFrontier codec (scanOf codec.toReconciliationCodec records).frontier =
      .ok (checkpointOf codec records) := by
  unfold Stage6JournalCheckpointV1.fromFrontier
  rw [scanOf_frontier_validate]
  rfl

/-- The checkpoint of a journal is confirmed by every longer one. -/
theorem checkpointOf_validates (front back : List (Stage6JournalRecordVersioned codec.toReconciliationCodec)) :
    validateCheckpointAgainstScan codec (checkpointOf codec front)
      (scanOf codec.toReconciliationCodec (front ++ back)) = .ok () := by
  have counted := scanOf_frontier_frameCount front
  have covers : (checkpointOf codec front).frontier.frameCount = front.length := counted
  have own : (checkpointOf codec front).validate codec = .ok () := by
    unfold Stage6JournalCheckpointV1.validate checkpointOf
    rw [scanOf_frontier_validate]
    simp
  have reached := frontierAt_length front back
  have longEnough : ¬ (front ++ back).length < front.length := by simp
  unfold validateCheckpointAgainstScan
  rw [own, covers, reached, scanOf_frontier_frameCount, rejectIf_of_not _ longEnough]
  simp [checkpointOf]

end Coverage

section MemoryRuns

variable {codec : ReconciliationCodec}

def Stage6MemoryJournalBackend.holding (records : List (Stage6JournalRecordVersioned codec)) :
    Stage6MemoryJournalBackend codec :=
  { bytes := journalBytes codec records, scan := scanOf codec records }

theorem new_holding : Stage6MemoryJournalBackend.new codec = .ok (.holding []) := by
  have empty : journalBytes codec [] = journalHeader := by simp [journalBytes]
  have scanned : scanBytes codec (journalBytes codec []) = .ok (scanOf codec []) :=
    scanBytes_journalBytes (by simp)
  unfold Stage6MemoryJournalBackend.new Stage6MemoryJournalBackend.holding
  rw [empty] at scanned ⊢
  rw [scanned]
  rfl

/-- Appending a record that a journal can hold puts it behind the others. -/
theorem appendInMemory_holding {records : List (Stage6JournalRecordVersioned codec)}
    (storable : ∀ record ∈ records, Storable record) {record : Stage6JournalRecordVersioned codec}
    (next : Storable record) :
    ∃ receipt, (appendInMemory record).outcome (.holding records) = (.ok receipt, .holding (records ++ [record])) := by
  have validated := validateVersionedRecordForStorage_ok_iff.2
    ⟨next.lengthValid, ⟨record, storedAs_self next⟩, rfl⟩
  obtain ⟨frame, encoded⟩ : ∃ frame, encodeFrame codec record.encodeCanonical (scanOf codec records).lastFrameDigest =
      .ok frame := by
    exact ⟨_, encodeFrame_record_ok_iff.2 ⟨next.lengthValid, rfl⟩⟩
  have frameBytes : frame.bytes = recordFrame codec (scanOf codec records).lastFrameDigest record := by
    rw [(encodeFrame_record_ok_iff.1 encoded).2]
  have scanned := scanBytes_journalBytes (storable_concat storable next)
  rw [journalBytes_concat] at scanned
  refine ⟨appendReceipt record (scanOf codec records).frontier.journalByteLength frame.digest
    (scanOf codec (records ++ [record])).frontier, ?_⟩
  unfold appendInMemory
  have framed : (encodeFrame codec record.encodeCanonical (scanOf codec records).lastFrameDigest).mapError
      Stage6JournalStorageHalt.rejected = .ok frame := (mapError_ok_iff ..).2 encoded
  simp only [outcome_bind, outcome_ofExcept, outcome_get, outcome_modify, outcome_pure, validated,
    Stage6MemoryJournalBackend.holding, framed, frameBytes, scanned, journalBytes_concat]

/-- Appending records that a journal can hold puts them behind the others. -/
theorem appendAllInMemory_holding {records added : List (Stage6JournalRecordVersioned codec)}
    (storable : ∀ record ∈ records ++ added, Storable record) :
    (appendAllInMemory added).outcome (.holding records) = (.ok (), .holding (records ++ added)) := by
  induction added generalizing records with
  | nil => simp [appendAllInMemory]
  | cons record rest ih =>
      have split : records ++ record :: rest = (records ++ [record]) ++ rest := by simp
      rw [split] at storable ⊢
      have earlier : ∀ other ∈ records, Storable other := fun other member =>
        storable other (by simp [member])
      obtain ⟨receipt, appended⟩ := appendInMemory_holding earlier (storable record (by simp))
      have later := ih storable
      unfold appendAllInMemory at later ⊢
      change outcome ((appendInMemory record >>= fun _ => pure ()) >>= fun _ => rest.forM _) _ = _
      rw [outcome_bind, outcome_bind, appended]
      exact later

theorem memoryJournalOf_ok {records : List (Stage6JournalRecordVersioned codec)}
    (storable : ∀ record ∈ records, Storable record) : memoryJournalOf records = .ok (.holding records) := by
  unfold memoryJournalOf
  rw [new_holding, ok_bind, appendAllInMemory_holding (by simpa using storable)]
  rfl

end MemoryRuns

end TradingGateway.Stage6.MemoryJournal
