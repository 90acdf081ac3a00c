import TradingGateway.BrokerCore.Commands
import TradingGateway.Stage5e.ScheduleSource
import TradingGateway.Stage6d.LiveCoreErrors
import TradingGateway.Stage8b.WorkingLimitBuilders

/-! How a prepared schedule binding of a LIMIT order is held against the runtime and
becomes a record of the journal. -/

set_option autoImplicit false

namespace TradingGateway.Stage8b.ScheduleBindings

open BrokerCore.Commands BrokerCore.Identifiers BrokerCore.Orders
open Stage5e.ScheduleSource
open Stage6.DurableIdentity Stage6.JournalFrames Stage6.JournalRecord Stage6.ReconciliationV2 Stage6.VersionedRecord
open Stage6d.LiveCore
open WorkingLimitBook WorkingLimitBuilders WorkingLimitEvidence WorkingLimitInputs
open Foundation.Bytes Foundation.ExceptRun

/-- The codecs of the journal and of the working book, and what the schedule and
the commands take from outside the repository. -/
structure BindingCodec extends Stage6.MemoryJournal.CheckpointCodec, WorkingLimitCodec where
  fromTimestampMillis : Int → Option DateTimeUtc
  dayText : NaiveDate → String
  brokerCommandToVec : BrokerCommand → List UInt8

def BindingCodec.calendar (codec : BindingCodec) : SourceCalendar :=
  { codec.chrono with
    fromTimestampMillis := codec.fromTimestampMillis
    dayText := codec.dayText }

abbrev BindingRecord (codec : BindingCodec) := Stage6JournalRecordVersioned codec.toReconciliationCodec

structure Stage8bP1d3ReplacementProjectionV1 where
  schemaVersion : UInt16
  phase : Stage8bP1d3BookPhase
  workingBook : Stage8bP1d3WorkingBookProjectionV1
  latestOutcomeEvidence : Option Stage8bP1d3OutcomeEvidenceV1
  latestOutcomeEvidenceSha256 : Option HexText
  latestEvaluationEvidence : Option Stage8bP1d3EvaluationEvidenceV1
  latestEvaluationEvidenceSha256 : Option HexText
  outcomeChainHeadSha256 : HexText
  latestStage6ReservationSha256 : HexText
  authenticatedStage6CheckpointSha256 : HexText

/-- The pending decision of the strategy. What `validate` says of it is a field: no bar is part of that. -/
structure Stage5gP1SemanticCommitProjectionV1 where
  validates : Bool
  operationalIdentitySha256 : HexText
  m10RedisId : String
  m10SemanticIdSha256 : HexText
  m10PayloadSha256 : HexText
  intentCount : Nat
  requestId : Option StrategyRequestId
  canonicalCommand : Option BrokerCommand
  canonicalCommandSha256 : Option HexText
  durableRequestIdentity : Option Stage6DurableRequestIdentityV1
  durableCommandSnapshot : Option Stage6DurableCommandSnapshotV1

/-- The recovered runtime, as far as bindings are held against it. A first boot has neither a
pending decision nor a replacement. -/
structure ScheduleRuntime (codec : BindingCodec) where
  versionedRecords : List (BindingRecord codec)
  authenticatedCheckpoint : Stage6.MemoryJournal.Stage6JournalCheckpointV1
  operationalIdentitySha256 : Option HexText
  semanticCommit : Option Stage5gP1SemanticCommitProjectionV1
  replacement : Option Stage8bP1d3ReplacementProjectionV1

section Replacement

variable (codec : BindingCodec) (replacement : Stage8bP1d3ReplacementProjectionV1)

def validateEvaluated (evidence : Stage8bP1d3EvaluationEvidenceV1) (digest : HexText) :
    Except Stage8bP1d3Error Unit := do
  let book := replacement.workingBook
  let bytes ← encodeEvaluation codec.toWorkingLimitCodec evidence
  rejectIf (sha256Hex codec.toWorkingLimitCodec bytes ≠ digest ∨
    replacement.outcomeChainHeadSha256 ≠ evidence.previousOutcomeEvidenceSha256 ∨
    replacement.outcomeChainHeadSha256 ≠ book.latestOutcomeEvidenceSha256 ∨
    evidence.operationalIdentitySha256 ≠ book.operationalIdentitySha256 ∨
    evidence.packageGeneration ≠ book.packageGeneration ∨ evidence.accountId ≠ book.accountId ∨
    evidence.instrument ≠ book.instrument ∨ book.phase ≠ .eval ∨
    postBookStateSha256 codec.toWorkingLimitCodec book ≠ evidence.expectedPostBookSha256 ∨
    book.totalSequenceFrontier ≠ evidence.sequenceFrontier) .invalidTransition

def validateOutcome (evidence : Stage8bP1d3OutcomeEvidenceV1) (digest : HexText) : Except Stage8bP1d3Error Unit := do
  let book := replacement.workingBook
  let actual ← evidence.digestSha256 codec.toOutcomeEvidenceCodec
  rejectIf (actual ≠ digest ∨ replacement.outcomeChainHeadSha256 ≠ digest ∨
    evidence.operationalIdentitySha256 ≠ book.operationalIdentitySha256 ∨
    evidence.packageGeneration ≠ book.packageGeneration ∨ evidence.accountId ≠ book.accountId ∨
    evidence.instrument ≠ book.instrument ∨
    evidence.stage6ReservedCheckpointSha256 ≠ replacement.latestStage6ReservationSha256) .identityMismatch
  let bookSha256 ← book.canonicalSha256 codec.toWorkingLimitCodec
  match replacement.phase with
  | .ack => rejectIf (bookSha256 ≠ evidence.preBookSha256) .invalidTransition
  | .working | .terminal =>
      rejectIf (postBookStateSha256 codec.toWorkingLimitCodec book ≠ evidence.expectedPostBookSha256 ∨
        book.latestOutcomeEvidenceSha256 ≠ digest) .invalidTransition
  | .cancelRecovered =>
      rejectIf (bookSha256 ≠ evidence.preBookSha256 ∨ bookSha256 ≠ evidence.expectedPostBookSha256 ∨
        (evidence.outcomeKind ≠ .cancelExecutionObserved ∧
          evidence.outcomeKind ≠ .cancelAlreadyTerminalNonExecution)) .invalidTransition
  -- No other phase reaches this check.
  | .eval | .migrated => .error .invalidTransition

def Stage8bP1d3ReplacementProjectionV1.validate : Except Stage8bP1d3Error Unit := do
  rejectIf (replacement.schemaVersion ≠ 1 ∨ isCanonicalSha256 replacement.latestStage6ReservationSha256 = false ∨
    isCanonicalSha256 replacement.outcomeChainHeadSha256 = false ∨
    isCanonicalSha256 replacement.authenticatedStage6CheckpointSha256 = false) .identityMismatch
  replacement.workingBook.validate codec.toWorkingLimitCodec
  match replacement.phase, replacement.latestOutcomeEvidence, replacement.latestOutcomeEvidenceSha256,
      replacement.latestEvaluationEvidence, replacement.latestEvaluationEvidenceSha256 with
  | .migrated, none, none, none, none =>
      rejectIf (replacement.workingBook.phase ≠ .migrated ∨
        replacement.outcomeChainHeadSha256 ≠ replacement.workingBook.latestOutcomeEvidenceSha256) .invalidTransition
  | .eval, none, none, some evidence, some digest => validateEvaluated codec replacement evidence digest
  | .migrated, _, _, _, _ | .eval, _, _, _, _ => .error .invalidTransition
  | _, some evidence, some digest, none, none => validateOutcome codec replacement evidence digest
  | _, _, _, _, _ => .error .invalidTransition

def EvaluatedLast (active : Stage8bP1d3OrderRecordV1) (bar : Stage8bP1eM10IdentityV1) : Prop :=
  active.lastEvaluatedM10RedisId = some bar.redisId ∧
    active.lastEvaluatedM10SemanticIdSha256 = some bar.semanticIdSha256 ∧
    active.lastEvaluatedM10PayloadSha256 = some bar.payloadSha256 ∧
    active.lastEvaluatedCloseTsUtcMs = some bar.closeTsUtcMs ∧ bar.openTsUtcMs = bar.closeTsUtcMs - 600000

instance (active : Stage8bP1d3OrderRecordV1) (bar : Stage8bP1eM10IdentityV1) : Decidable (EvaluatedLast active bar) :=
  inferInstanceAs (Decidable (_ ∧ _))

def NamesOrder (book : Stage8bP1d3WorkingBookProjectionV1) (active : Stage8bP1d3OrderRecordV1)
    (candidate : Stage8bP1eScheduleBindingCandidateV1) : Prop :=
  candidate.requestOrOrderBinding.activeBrokerOrderId = some active.brokerOrderId.value ∧
    candidate.requestOrOrderBinding.workingBookTransitionSha256 = some book.latestTransitionSha256 ∧
    active.tradingDayIdentity = candidate.tradingDay

instance (book : Stage8bP1d3WorkingBookProjectionV1) (active : Stage8bP1d3OrderRecordV1)
    (candidate : Stage8bP1eScheduleBindingCandidateV1) : Decidable (NamesOrder book active candidate) :=
  inferInstanceAs (Decidable (_ ∧ _))

/-- `matches_stage8b_p1e_schedule_candidate`. -/
def matchesScheduleCandidate (candidate : Stage8bP1eScheduleBindingCandidateV1) : Except Stage8bP1d3Error Bool := do
  replacement.validate codec
  let book := replacement.workingBook
  if (replacement.phase ≠ .working ∧ replacement.phase ≠ .eval) ∨
      (candidate.transitionKind ≠ .workingLimitEvaluation ∧ candidate.transitionKind ≠ .cancelStep ∧
        candidate.transitionKind ≠ .dayExpiry) ∨
      candidate.operationalIdentitySha256 ≠ book.operationalIdentitySha256 then .ok false
  else
    match book.activeRecord with
    | none => .ok false
    | some active =>
        if ¬ NamesOrder book active candidate then .ok false
        else if candidate.transitionKind ≠ .dayExpiry then .ok (EvaluatedLast active candidate.predecessorM10)
        else .ok (EvaluatedLast active candidate.candidateOrLastEligibleM10)

end Replacement

section Runtime

variable (codec : BindingCodec) (runtime : ScheduleRuntime codec)

def ScheduleRuntime.records : List (Stage6JournalRecordV1 codec.toDurableRecordCodec) :=
  runtime.versionedRecords.filterMap fun record =>
    match record with
    | .v1 record => some record
    | _ => none

def ScheduleRuntime.frontier : Stage6JournalFrontierV1 :=
  (scanOf codec.toReconciliationCodec runtime.versionedRecords).frontier

/-- `stage7a_accepted_record`. -/
def ScheduleRuntime.acceptedRecord (requestId : StrategyRequestId) :
    Option (Stage6JournalRecordV1 codec.toDurableRecordCodec) :=
  (runtime.records codec).find? fun record =>
    record.eventKind = .requestAccepted && record.durableRequestIdentity.strategyRequestId = requestId

/-- The journal ends with the acceptance of a request whose identity is a sought one. -/
def ScheduleRuntime.endsWithAcceptance (isSought : Stage6DurableRequestIdentityV1 → Bool) : Bool :=
  match runtime.versionedRecords.getLast? with
  | some (.v1 record) => record.eventKind = .requestAccepted && isSought record.durableRequestIdentity
  | _ => false

def isDayLimit (command : PlaceOrder) (snapshot : Stage6DurableCommandSnapshotV1) : Bool :=
  command.orderType = .limit && command.timeInForce = .day && command.ttlMs.isNone &&
    match snapshot.payload with
    | .place shape => shape.orderType = .limit && shape.timeInForce = .day
    | .cancel _ => false

/-- `stage8b_p1e_initial_limit_candidate_matches_runtime`, outside a recovery. -/
def initialLimitCandidateMatchesRuntime (candidate : Stage8bP1eScheduleBindingCandidateV1)
    (expectedStage5CheckpointSha256 : HexText) : Bool :=
  match runtime.semanticCommit, runtime.replacement with
  | some semantic, some replacement =>
      match semantic.requestId, semantic.canonicalCommand, semantic.durableRequestIdentity,
          semantic.durableCommandSnapshot, semantic.canonicalCommandSha256 with
      | some requestId, some (.placeOrder place), some identity, some snapshot, some commandSha256 =>
          let binding := candidate.requestOrOrderBinding
          let predecessor := candidate.predecessorM10
          let successor := candidate.candidateOrLastEligibleM10
          semantic.validates && semantic.intentCount = 1 &&
            replacement.authenticatedStage6CheckpointSha256 = expectedStage5CheckpointSha256 &&
            candidate.operationalIdentitySha256 = semantic.operationalIdentitySha256 &&
            candidate.operationalIdentitySha256 = replacement.workingBook.operationalIdentitySha256 &&
            identity.strategyRequestId = requestId && identity.action = .place && place.requestId = requestId &&
            isDayLimit place snapshot &&
            binding.strategyRequestId = some (String.ofList requestId.toText) &&
            binding.canonicalCommandSha256 = some commandSha256 && binding.activeBrokerOrderId.isNone &&
            binding.workingBookTransitionSha256.isNone && predecessor.redisId = semantic.m10RedisId &&
            predecessor.semanticIdSha256 = semantic.m10SemanticIdSha256 &&
            predecessor.payloadSha256 = semantic.m10PayloadSha256 &&
            predecessor.openTsUtcMs = predecessor.closeTsUtcMs - 600000 &&
            successor.openTsUtcMs = predecessor.closeTsUtcMs &&
            (runtime.acceptedRecord codec requestId).any (fun record =>
              record.durableRequestIdentity = identity &&
                match record.payload with
                | .requestAccepted command => command == snapshot
                | _ => false) &&
            runtime.endsWithAcceptance codec (· = identity)
      | _, _, _, _, _ => false
  | _, _ => false

/-- The pending command is the CANCEL that the binding names, decided on its predecessor. -/
def cancelCandidateMatchesRuntime (candidate : Stage8bP1eScheduleBindingCandidateV1) : Bool :=
  match runtime.semanticCommit with
  | none => false
  | some semantic =>
      match semantic.requestId, semantic.canonicalCommand with
      | some requestId, some (.cancelOrder cancel) =>
          let binding := candidate.requestOrOrderBinding
          let commandSha256 := sha256Hex codec.toWorkingLimitCodec (codec.brokerCommandToVec (.cancelOrder cancel))
          semantic.intentCount = 1 && (runtime.acceptedRecord codec requestId).isSome &&
            cancel.requestId = requestId && semantic.canonicalCommandSha256 = some commandSha256 &&
            binding.strategyRequestId = some (String.ofList requestId.toText) &&
            binding.canonicalCommandSha256 = some commandSha256 &&
            binding.activeBrokerOrderId = some cancel.orderId.value &&
            semantic.m10RedisId = candidate.predecessorM10.redisId &&
            semantic.m10SemanticIdSha256 = candidate.predecessorM10.semanticIdSha256 &&
            semantic.m10PayloadSha256 = candidate.predecessorM10.payloadSha256 &&
            runtime.endsWithAcceptance codec (·.strategyRequestId = requestId)
      | _, _ => false

/-- The replacement under the expected checkpoint names the order of the candidate and its last bar. -/
def replacementMatches (candidate : Stage8bP1eScheduleBindingCandidateV1)
    (expectedStage5CheckpointSha256 : HexText) : Except Stage6dLiveCoreError Bool :=
  match runtime.replacement with
  | none => .ok false
  | some replacement =>
      if replacement.authenticatedStage6CheckpointSha256 ≠ expectedStage5CheckpointSha256 then .ok false
      else (matchesScheduleCandidate codec replacement candidate).mapError fun _ => .stage8bP1d3WorkingLimit

/-- `stage8b_p1e_candidate_matches_runtime`, outside a recovery and for the bindings of a LIMIT order. -/
def candidateMatchesRuntime (candidate : Stage8bP1eScheduleBindingCandidateV1)
    (expectedStage5CheckpointSha256 : HexText) : Except Stage6dLiveCoreError Bool :=
  match candidate.transitionKind with
  | .initialLimitEvaluation =>
      .ok (initialLimitCandidateMatchesRuntime codec runtime candidate expectedStage5CheckpointSha256)
  | .cancelStep => do
      let names ← replacementMatches codec runtime candidate expectedStage5CheckpointSha256
      .ok (names && cancelCandidateMatchesRuntime codec runtime candidate)
  | .workingLimitEvaluation | .dayExpiry =>
      replacementMatches codec runtime candidate expectedStage5CheckpointSha256
  | .marketExecution => .ok false

def scheduleM10 (bar : Stage8bP1eM10IdentityV1) : Except Stage6ReconciliationV2Error Stage6ScheduleM10IdentityV4 := do
  let opened ← orReject (codec.fromTimestampMillis bar.openTsUtcMs) .invalidPayload
  let closed ← orReject (codec.fromTimestampMillis bar.closeTsUtcMs) .invalidPayload
  .ok {
    redisId := bar.redisId
    semanticIdSha256 := bar.semanticIdSha256
    payloadSha256 := bar.payloadSha256
    openTsUtc := codec.chrono.toRfc3339Micros opened
    closeTsUtc := codec.chrono.toRfc3339Micros closed }

/-- `from_stage8b_p1e_candidate`. What it builds matches its candidate, so that check is left out. -/
def fromStage8bP1eCandidate (candidate : Stage8bP1eScheduleBindingCandidateV1)
    (lifecycleSequence : Stage6LifecycleSequence) (previousRecordId : Stage6JournalRecordId)
    (priorCoveringSealGeneration : UInt64) (boundAtUtc : DateTimeUtc) :
    Except Stage6ReconciliationV2Error (Stage6JournalRecordV4 codec.toReconciliationCodec) := do
  let expected ← orReject (checkedAdd priorCoveringSealGeneration 1) .invalidPayload
  let predecessorM10 ← scheduleM10 codec candidate.predecessorM10
  let candidateM10 ← scheduleM10 codec candidate.candidateOrLastEligibleM10
  let body : Stage6JournalRecordBodyV4 := {
    schemaVersion := stage6DurableRecordSchemaVersionV4
    recordKind := "schedule_evidence_bound"
    previousRecordId := previousRecordId
    causalParentId := previousRecordId
    lifecycleSequence := toString lifecycleSequence.value.toNat
    priorCoveringSealGeneration := toString priorCoveringSealGeneration.toNat
    expectedCoveringSealGeneration := toString expected.toNat
    operationalIdentitySha256 := candidate.operationalIdentitySha256
    transitionKind := candidate.transitionKind
    transitionBindingSha256 := List.replicate 64 '1'
    authorityKind := candidate.authorityKind
    tradingDay := candidate.tradingDay
    instrument := "IMOEXF@RTSX"
    timeframeSec := 600
    predecessorM10 := predecessorM10
    candidateOrLastEligibleM10 := candidateM10
    requestOrOrderBinding := candidate.requestOrOrderBinding
    redisStreamId := candidate.redisStreamId
    sourceGeneration := toString candidate.sourceGeneration.toNat
    publicationSequence := toString candidate.publicationSequence.toNat
    semanticRevision := toString candidate.semanticRevision.toNat
    scheduleSemanticSha256 := candidate.scheduleSemanticSha256
    exactEnvelopeHex := hexString candidate.exactEnvelopeBytes
    envelopeSha256 := candidate.envelopeSha256
    boundAtUtc := codec.chrono.toRfc3339Micros boundAtUtc }
  let bound := { body with
    transitionBindingSha256 := body.deriveTransitionBindingSha256 codec.toReconciliationCodec }
  let recordId ← bound.deriveRecordId codec.toReconciliationCodec
  let record ← Stage6JournalRecordV4.ofWire { bound with journalRecordId := recordId }
  rejectIf (boundAtUtc.After candidate.validUntil) .invalidPayload
  .ok record

/-- `append_stage8b_p1e_schedule_binding`, up to the write: the record it appends. -/
def scheduleBindingRecord (candidate : Stage8bP1eScheduleBindingCandidateV1)
    (priorCoveringSealGeneration : UInt64) (boundAtUtc : DateTimeUtc) :
    Except Stage6dLiveCoreError (Stage6JournalRecordV4 codec.toReconciliationCodec) := do
  rejectIf (runtime.authenticatedCheckpoint.frontier ≠ runtime.frontier codec ∨
    runtime.operationalIdentitySha256 ≠ some candidate.operationalIdentitySha256) .durableOrderingViolation
  let isMatch ← candidateMatchesRuntime codec runtime candidate runtime.authenticatedCheckpoint.checkpointSha256
  rejectIf (isMatch = false) .durableOrderingViolation
  rejectIf ((candidate.transitionKind = .initialLimitEvaluation ∨ candidate.transitionKind = .cancelStep) ∧
    candidate.requestOrOrderBinding.publicationSealCommitmentSha256.bind
      (fun _ => candidate.requestOrOrderBinding.publicationSealGeneration) ≠ some priorCoveringSealGeneration)
    .durableOrderingViolation
  let previousRecordId ← orReject (runtime.frontier codec).lastRecordId .durableOrderingViolation
  let last ← orReject (runtime.frontier codec).lastLifecycleSequence .durableOrderingViolation
  let next ← orReject (checkedAdd last.value 1) .durableOrderingViolation
  let sequence ← (Stage6LifecycleSequence.new next).mapError fun _ => .durableOrderingViolation
  (fromStage8bP1eCandidate codec candidate sequence previousRecordId priorCoveringSealGeneration
    boundAtUtc).mapError .reconciliationV2

end Runtime

end TradingGateway.Stage8b.ScheduleBindings
