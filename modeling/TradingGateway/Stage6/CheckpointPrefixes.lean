import TradingGateway.Foundation.Runs
import TradingGateway.Stage6.MemoryJournal

/-! Checkpoints against the journal a runtime owns, over its whole life: those
of its earlier moments stay valid, and no other self-consistent one is. -/

set_option autoImplicit false

namespace TradingGateway.Stage6.CheckpointPrefixes

open JournalFrames FileJournal MemoryJournal VersionedRecord
open PlainReconciliationCodec
open Foundation.ChainedFrames Foundation.ExceptRun Foundation.Runs Foundation.Triples.Action

section Memory

variable {codec : ReconciliationCodec} {records : List (Stage6JournalRecordVersioned codec)}

/-- Whatever an append to a journal in memory accepts stands behind the other records. -/
theorem appendInMemory_ok (storable : ∀ record ∈ records, Storable record)
    {record : Stage6JournalRecordVersioned codec} {receipt : Stage6JournalAppendReceipt}
    {after : Stage6MemoryJournalBackend codec}
    (appended : (appendInMemory record).outcome (.holding records) = (.ok receipt, after)) :
    ∃ stored, Storable stored ∧ StoredAs record stored ∧ after = .holding (records ++ [stored]) := by
  unfold appendInMemory at appended
  rw [outcome_bind, outcome_ofExcept] at appended
  cases validated : validateVersionedRecordForStorage codec record with
  | error halt =>
      rw [validated] at appended
      cases appended
  | ok recordBytes =>
      obtain ⟨valid, ⟨stored, storedAs⟩, rfl⟩ := validateVersionedRecordForStorage_ok_iff.1 validated
      have next := storedAs.storable valid
      obtain ⟨frame, encoded⟩ : ∃ frame, encodeFrame codec record.encodeCanonical
          (scanOf codec records).lastFrameDigest = .ok frame := ⟨_, encodeFrame_record_ok_iff.2 ⟨valid, rfl⟩⟩
      have frameBytes : frame.bytes = recordFrame codec (scanOf codec records).lastFrameDigest stored := by
        rw [(encodeFrame_record_ok_iff.1 encoded).2, storedAs.recordFrame_eq]
      have framed : (encodeFrame codec record.encodeCanonical (scanOf codec records).lastFrameDigest).mapError
          Stage6JournalStorageHalt.rejected = .ok frame := (mapError_ok_iff ..).2 encoded
      have scanned := scanBytes_journalBytes (storable_concat storable next)
      rw [journalBytes_concat] at scanned
      refine ⟨stored, next, storedAs, ?_⟩
      simp only [outcome_bind, outcome_ofExcept, outcome_get, outcome_modify, outcome_pure, validated,
        Stage6MemoryJournalBackend.holding, framed, frameBytes, scanned, Prod.mk.injEq] at appended
      rw [← appended.2]
      simp only [Stage6MemoryJournalBackend.holding, journalBytes_concat]

end Memory

section Owned

variable (codec : ReconciliationCodec)

inductive Stage6OwnedJournalBackend where
  | memory (backend : Stage6MemoryJournalBackend codec)
  | file (backend : Stage6FileJournalBackend codec)

variable {codec}

namespace Stage6OwnedJournalBackend

def scan : Stage6OwnedJournalBackend codec → ScannedJournal codec
  | .memory backend => backend.scan
  | .file backend => backend.scan

def frontier (backend : Stage6OwnedJournalBackend codec) : Stage6JournalFrontierV1 :=
  backend.scan.frontier

def content : Stage6OwnedJournalBackend codec → List UInt8
  | .memory backend => backend.bytes
  | .file backend => backend.file.content

def appendVersioned (faults : AppendFaults) (record : Stage6JournalRecordVersioned codec) :
    Stage6OwnedJournalBackend codec →
      Except Stage6JournalStorageHalt Stage6JournalAppendReceipt × Stage6OwnedJournalBackend codec
  | .memory backend =>
      let (result, after) := (appendInMemory record).outcome backend
      (result, .memory after)
  | .file backend =>
      let (result, after) := (FileJournal.appendVersioned faults record).outcome backend
      (result, .file after)

/-- Where the life of a journal begins: in memory, new or from its bytes, or in an opened file. -/
inductive Started : Stage6OwnedJournalBackend codec → Prop
  | new {backend : Stage6MemoryJournalBackend codec} (made : Stage6MemoryJournalBackend.new codec = .ok backend) :
      Started (.memory backend)
  | framed {bytes : List UInt8} {backend : Stage6MemoryJournalBackend codec}
      (accepted : Stage6MemoryJournalBackend.fromFramedBytes codec bytes = .ok backend) : Started (.memory backend)
  | opened {faults : RescanFaults} {bytes : List UInt8} {backend : Stage6FileJournalBackend codec}
      (opens : openExisting codec faults bytes = .ok backend) : Started (.file backend)

def AppendsTo (backend : Stage6OwnedJournalBackend codec)
    (call : AppendFaults × Stage6JournalRecordVersioned codec) (after : Stage6OwnedJournalBackend codec) : Prop :=
  ∃ receipt, backend.appendVersioned call.1 call.2 = (.ok receipt, after)

def Keeps (records : List (Stage6JournalRecordVersioned codec)) : Stage6OwnedJournalBackend codec → Prop
  | .memory backend => backend = .holding records
  | .file backend => Settled records backend

variable {records : List (Stage6JournalRecordVersioned codec)} {backend after : Stage6OwnedJournalBackend codec}

theorem Keeps.scan_eq (keeps : Keeps records backend) : backend.scan = scanOf codec records := by
  cases backend with
  | memory backend =>
      cases keeps
      rfl
  | file backend =>
      have settled : Settled records backend := keeps
      exact settled.scan

theorem Keeps.content_eq (keeps : Keeps records backend) : backend.content = journalBytes codec records := by
  cases backend with
  | memory backend =>
      cases keeps
      rfl
  | file backend =>
      have settled : Settled records backend := keeps
      exact settled.file

theorem Started.keeps (started : Started backend) :
    ∃ records, (∀ record ∈ records, Storable record) ∧ Keeps records backend := by
  cases started with
  | new made =>
      rw [new_holding] at made
      cases made
      exact ⟨[], by simp, rfl⟩
  | framed accepted =>
      obtain ⟨scan, scanned, built⟩ := bind_ok_iff.1 accepted
      cases built
      obtain ⟨records, storable, rfl, rfl⟩ := scanBytes_ok_iff.1 scanned
      exact ⟨records, storable, rfl⟩
  | opened opens =>
      obtain ⟨scanned, sameContent, certain⟩ := scanBytes_of_openExisting opens
      obtain ⟨records, storable, rfl, scan⟩ := scanBytes_ok_iff.1 scanned
      exact ⟨records, storable, { file := sameContent, scan := scan, durabilityUncertain := certain }⟩

/-- A successful append puts one record behind the others. -/
theorem AppendsTo.keeps {call : AppendFaults × Stage6JournalRecordVersioned codec}
    (appends : AppendsTo backend call after) (storable : ∀ record ∈ records, Storable record)
    (keeps : Keeps records backend) : ∃ stored, Storable stored ∧ Keeps (records ++ [stored]) after := by
  obtain ⟨receipt, appended⟩ := appends
  cases backend with
  | memory backend =>
      cases keeps
      cases ran : (appendInMemory call.2).outcome (Stage6MemoryJournalBackend.holding records) with
      | mk result final =>
          unfold appendVersioned at appended
          simp only [ran, Prod.mk.injEq] at appended
          obtain ⟨rfl, rfl⟩ := appended
          obtain ⟨stored, next, _, rfl⟩ := appendInMemory_ok storable ran
          exact ⟨stored, next, rfl⟩
  | file backend =>
      have settled : Settled records backend := keeps
      cases ran : (FileJournal.appendVersioned call.1 call.2).outcome backend with
      | mk result final =>
          unfold appendVersioned at appended
          simp only [ran, Prod.mk.injEq] at appended
          obtain ⟨rfl, rfl⟩ := appended
          obtain ⟨stored, _, next, _, _, _, grown, _⟩ :=
            (appendVersioned_spec storable call.1 call.2).returned settled ran
          exact ⟨stored, next, grown⟩

/-- A run of appends only puts records behind those there were. -/
theorem run_keeps {calls : List (AppendFaults × Stage6JournalRecordVersioned codec)}
    (run : Run AppendsTo backend calls after) (storable : ∀ record ∈ records, Storable record)
    (keeps : Keeps records backend) :
    ∃ added, (∀ record ∈ records ++ added, Storable record) ∧ Keeps (records ++ added) after := by
  induction run generalizing records with
  | nil => exact ⟨[], by simpa using storable, by simpa using keeps⟩
  | cons stepped _ ih =>
      obtain ⟨stored, next, grown⟩ := stepped.keeps storable keeps
      obtain ⟨added, all, reached⟩ := ih (storable_concat storable next) grown
      rw [List.append_assoc] at all reached
      exact ⟨[stored] ++ added, all, reached⟩

end Stage6OwnedJournalBackend

end Owned

section Checkpoints

variable {codec : CheckpointCodec}

open Stage6OwnedJournalBackend

/-- `validate_checkpoint` of the owned journal. -/
def Stage6OwnedJournalBackend.validateCheckpoint (codec : CheckpointCodec)
    (backend : Stage6OwnedJournalBackend codec.toReconciliationCodec) (checkpoint : Stage6JournalCheckpointV1) :
    Except Stage6JournalStorageError Unit :=
  validateCheckpointAgainstScan codec checkpoint backend.scan

theorem journalBytes_front {codec : ReconciliationCodec} (front back : List (Stage6JournalRecordVersioned codec)) :
    journalBytes codec front <+: journalBytes codec (front ++ back) := by
  unfold journalBytes
  rw [Format.writeAll_append, ← List.append_assoc]
  exact List.prefix_append _ _

/-- Whichever frame count a checkpoint may claim, the journal has a frontier there: that of its
records up to the count. -/
theorem frontierAt_front {records : List (Stage6JournalRecordVersioned codec.toReconciliationCodec)} {count : Nat}
    (within : count ≤ records.length) :
    frontierAt codec (scanOf codec.toReconciliationCodec records) count =
      some (scanOf codec.toReconciliationCodec (records.take count)).frontier := by
  have reached := frontierAt_length (records.take count) (records.drop count)
  rwa [List.take_append_drop, List.length_take_of_le within] at reached

/-- A self-consistent checkpoint passes its own check. -/
theorem validate_of_fromFrontier {checkpoint : Stage6JournalCheckpointV1}
    (consistent : Stage6JournalCheckpointV1.fromFrontier codec checkpoint.frontier = .ok checkpoint) :
    checkpoint.validate codec = .ok () := by
  unfold Stage6JournalCheckpointV1.fromFrontier at consistent
  obtain ⟨valid, built⟩ := check_bind_ok_iff.1 consistent
  have same := Except.ok.inj built
  unfold Stage6JournalCheckpointV1.validate
  rw [valid, ← same]
  simp

/-- A self-consistent checkpoint of no prefix of the journal is refused. -/
theorem validateCheckpoint_refused {records : List (Stage6JournalRecordVersioned codec.toReconciliationCodec)}
    {checkpoint : Stage6JournalCheckpointV1}
    (consistent : Stage6JournalCheckpointV1.fromFrontier codec checkpoint.frontier = .ok checkpoint)
    (foreignTo : ∀ front, front <+: records →
      checkpoint.frontier ≠ (scanOf codec.toReconciliationCodec front).frontier) :
    validateCheckpointAgainstScan codec checkpoint (scanOf codec.toReconciliationCodec records) =
      .error .checkpointInvalid := by
  have counted := scanOf_frontier_frameCount records
  unfold validateCheckpointAgainstScan
  rw [validate_of_fromFrontier consistent, ok_bind, counted]
  by_cases within : checkpoint.frontier.frameCount ≤ records.length
  · have differs := foreignTo (records.take checkpoint.frontier.frameCount) (List.take_prefix _ _)
    rw [rejectIf_of_not _ (Nat.not_lt.2 within), ok_bind, frontierAt_front within]
    refine rejectIf_error_iff.2 ⟨?_, rfl⟩
    intro same
    exact differs (Option.some.inj same).symm
  · have beyond : rejectIf (records.length < checkpoint.frontier.frameCount)
        Stage6JournalStorageError.checkpointInvalid = .error .checkpointInvalid :=
      rejectIf_error_iff.2 ⟨Nat.not_le.1 within, rfl⟩
    rw [beyond, error_bind]

/-- Over the whole life of a journal: the checkpoint of any earlier moment is made and confirmed,
a self-consistent checkpoint of no prefix of its bytes is refused, and no frame count that
passes the first comparison is looked up out of range. -/
theorem checkpoints_valid_for_prefixes {first earlier later : Stage6OwnedJournalBackend codec.toReconciliationCodec}
    {calls more : List (AppendFaults × Stage6JournalRecordVersioned codec.toReconciliationCodec)}
    (started : Started first) (before : Run AppendsTo first calls earlier) (behind : Run AppendsTo earlier more later) :
    (∃ checkpoint, Stage6JournalCheckpointV1.fromFrontier codec earlier.frontier = .ok checkpoint ∧
      later.validateCheckpoint codec checkpoint = .ok ()) ∧
    (∀ checkpoint, Stage6JournalCheckpointV1.fromFrontier codec checkpoint.frontier = .ok checkpoint →
      (∀ bytes scan, bytes <+: later.content → scanBytes codec.toReconciliationCodec bytes = .ok scan →
        checkpoint.frontier ≠ scan.frontier) →
      later.validateCheckpoint codec checkpoint = .error .checkpointInvalid) ∧
    ∀ count ≤ later.frontier.frameCount, (frontierAt codec later.scan count).isSome = true := by
  obtain ⟨records, storable, keeps⟩ := started.keeps
  obtain ⟨added, storable, keeps⟩ := run_keeps before storable keeps
  have earlierScan := keeps.scan_eq
  obtain ⟨appended, storable, keeps⟩ := run_keeps behind storable keeps
  have laterScan := keeps.scan_eq
  have laterContent := keeps.content_eq
  unfold Stage6OwnedJournalBackend.validateCheckpoint Stage6OwnedJournalBackend.frontier
  rw [earlierScan, laterScan, laterContent]
  refine ⟨⟨_, fromFrontier_scanOf _, checkpointOf_validates _ _⟩, ?_, ?_⟩
  · intro checkpoint consistent foreignTo
    refine validateCheckpoint_refused consistent fun front within => ?_
    obtain ⟨back, split⟩ := within
    rw [← split] at storable foreignTo
    refine foreignTo _ _ (journalBytes_front front back) (scanBytes_journalBytes fun record member => ?_)
    exact storable record (List.mem_append_left _ member)
  · intro count within
    rw [scanOf_frontier_frameCount] at within
    rw [frontierAt_front within]
    rfl

/-- A journal in memory with the acceptance of a request, and the same one after its dispatch is appended. -/
theorem checkpoints_valid_for_prefixes_dispatched :
    ∃ (codec : CheckpointCodec) (earlier later : Stage6OwnedJournalBackend codec.toReconciliationCodec),
      earlier.frontier.frameCount = 1 ∧ later.frontier.frameCount = 2 ∧
      (∃ checkpoint, Stage6JournalCheckpointV1.fromFrontier codec earlier.frontier = .ok checkpoint ∧
        later.validateCheckpoint codec checkpoint = .ok ()) ∧
      (∀ checkpoint, Stage6JournalCheckpointV1.fromFrontier codec checkpoint.frontier = .ok checkpoint →
        (∀ bytes scan, bytes <+: later.content → scanBytes codec.toReconciliationCodec bytes = .ok scan →
          checkpoint.frontier ≠ scan.frontier) →
        later.validateCheckpoint codec checkpoint = .error .checkpointInvalid) ∧
      ∀ count ≤ later.frontier.frameCount, (frontierAt codec later.scan count).isSome = true := by
  obtain ⟨sample, _, accepted, attempt⟩ := dispatchedPlace_storable
  let codec : CheckpointCodec := { readingCodec sample.known with checkpointInputToVec := fun _ _ => [] }
  have appends (held : List (Stage6JournalRecordVersioned codec.toReconciliationCodec))
      (storable : ∀ record ∈ held, Storable record) {record : Stage6JournalRecordVersioned codec.toReconciliationCodec}
      (next : Storable record) :
      AppendsTo (.memory (.holding held)) (.none, record) (.memory (.holding (held ++ [record]))) := by
    obtain ⟨receipt, appended⟩ := @appendInMemory_holding codec.toReconciliationCodec held storable record next
    refine ⟨receipt, ?_⟩
    unfold Stage6OwnedJournalBackend.appendVersioned
    simp only [appended]
  have first := appends [] (by simp) accepted
  have second := appends [.v1 sample.accepted] (by simpa using accepted) attempt
  exact ⟨codec, .memory (.holding [.v1 sample.accepted]), .memory (.holding [.v1 sample.accepted, .v1 sample.attempt]),
    scanOf_frontier_frameCount [.v1 sample.accepted], scanOf_frontier_frameCount [.v1 sample.accepted, .v1 sample.attempt],
    checkpoints_valid_for_prefixes (.new new_holding) (.cons first (.nil _)) (.cons second (.nil _))⟩

end Checkpoints

end TradingGateway.Stage6.CheckpointPrefixes
