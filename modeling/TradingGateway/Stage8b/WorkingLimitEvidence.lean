import TradingGateway.Stage6.Replay

/-! The canonical outcome evidence of a working limit order, as the records of
the third version carry it, and its effect on the request it names. -/

set_option autoImplicit false

namespace TradingGateway.Stage8b.WorkingLimitEvidence

open BrokerCore.FixedPoint BrokerCore.Identifiers BrokerCore.Orders
open Stage6.JournalRecord Stage6.Replay
open Foundation.ExceptRun

def stage8bP1d3OutcomeEvidenceSchemaVersion : UInt16 := 1

def stage8bP1d3OutcomeEvidenceDomain : String := "moex.stage8b.p1d3.outcome-evidence.v1"

def m10Millis : Int := 600000

inductive Stage8bP1d3Error where
  | identityMismatch
  | invalidChronology
  | invalidDecimal
  | invalidRegistry
  | invalidTransition
  | invalidSequence
  | invalidEncoding
deriving DecidableEq

inductive Stage8bP1d3OutcomeKind where
  | initialWorking
  | initialFilled
  | initialExpired
  | laterFilled
  | laterExpired
  | cancelCanceled
  | cancelExecutionObserved
  | cancelAlreadyTerminalNonExecution
deriving DecidableEq

def Stage8bP1d3OutcomeKind.canonicalName : Stage8bP1d3OutcomeKind → String
  | .initialWorking => "initial_working"
  | .initialFilled => "initial_filled"
  | .initialExpired => "initial_expired"
  | .laterFilled => "later_filled"
  | .laterExpired => "later_expired"
  | .cancelCanceled => "cancel_canceled"
  | .cancelExecutionObserved => "cancel_execution_observed"
  | .cancelAlreadyTerminalNonExecution => "cancel_already_terminal_non_execution"

inductive Stage8bP1d3ConsumedWitnessKind where
  | scheduleStep
  | dayExpiry
deriving DecidableEq

/-- The identity of a ten-minute bar, each part of which may be missing. -/
structure M10Fields where
  redisId : Option String
  semanticIdSha256 : Option HexText
  payloadSha256 : Option HexText
  openTsUtcMs : Option Int
  closeTsUtcMs : Option Int
deriving DecidableEq

structure Stage8bP1d3OutcomeEvidenceV1 where
  schemaVersion : UInt16
  domain : String
  outcomeKind : Stage8bP1d3OutcomeKind
  transitionOrdinal : UInt64
  operationalIdentitySha256 : HexText
  packageGeneration : UInt64
  accountId : BrokerAccountId
  instrument : InstrumentId
  attributionFingerprintSha256 : HexText
  requestId : Option StrategyRequestId
  durableRequestClientId : Option ClientOrderId
  canonicalCommandSha256 : Option HexText
  acceptedCommandPayloadSha256 : Option HexText
  acceptedStage6IdentitySha256 : HexText
  targetPlaceClientId : Option ClientOrderId
  targetBrokerOrderId : Option BrokerOrderId
  /-- The five `source_m10_` fields. -/
  sourceM10 : M10Fields
  /-- The five `candidate_m10_` fields. -/
  candidateM10 : M10Fields
  consumedWitnessKind : Stage8bP1d3ConsumedWitnessKind
  scheduleFingerprintSha256 : HexText
  tradingDayIdentity : String
  lastEligibleM10RedisId : String
  boundaryTsUtcMs : Option Int
  preBookGeneration : UInt64
  preBookSha256 : HexText
  expectedPostBookSha256 : HexText
  brokerOrderId : BrokerOrderId
  brokerTradeId : Option BrokerTradeId
  side : OrderSide
  qtyDecimalBytes : Vector UInt8 16
  limitPriceDecimalBytes : Vector UInt8 16
  fillPriceDecimalBytes : Option (Vector UInt8 16)
  prePositionQtyDecimalBytes : Vector UInt8 16
  prePositionAvgPriceDecimalBytes : Option (Vector UInt8 16)
  transitionSourceTsUtcMs : Int
  transitionReceivedTsUtcMs : Int
  reservedSeqAck : Option UInt64
  reservedSeqTruth : Option UInt64
  sequenceAllocationFrontier : UInt64
  stage6DispatchRecordId : Option HexText
  stage6OutcomeRecordId : HexText
  stage6PredecessorFrontierSha256 : HexText
  stage6ReservedCheckpointSha256 : HexText
  stage7RequestFinalizedRecordId : Option HexText
  stage7RequestFinalizedFingerprintSha256 : Option HexText
  previousOutcomeEvidenceSha256 : HexText
deriving DecidableEq

/-- What outcome evidence takes from outside the repository: its JSON reader and
writer, and the sixteen-byte form of a decimal in both directions. -/
structure OutcomeEvidenceCodec extends ReplayCodec where
  evidenceToVec : Stage8bP1d3OutcomeEvidenceV1 → List UInt8
  evidenceFromSlice : List UInt8 → Option Stage8bP1d3OutcomeEvidenceV1
  decimalDeserialize : Vector UInt8 16 → Decimal
  decimalSerialize : Decimal → Vector UInt8 16

/-- `u64::checked_add`. -/
def checkedAdd (value increment : UInt64) : Option UInt64 :=
  if value.toNat + increment.toNat < 2 ^ 64 then some (value + increment) else none

/-- `Option::zip`. -/
def zip {Left Right : Type} : Option Left → Option Right → Option (Left × Right)
  | some left, some right => some (left, right)
  | _, _ => none

def isIntegral (value : Decimal) : Bool :=
  value.magnitude % 10 ^ value.scale = 0

def Stage8bP1d3OutcomeKind.isRequestScoped : Stage8bP1d3OutcomeKind → Bool
  | .initialWorking | .initialFilled | .initialExpired
  | .cancelCanceled | .cancelExecutionObserved | .cancelAlreadyTerminalNonExecution => true
  | .laterFilled | .laterExpired => false

def Stage8bP1d3OutcomeKind.isCancelScoped : Stage8bP1d3OutcomeKind → Bool
  | .cancelCanceled | .cancelExecutionObserved | .cancelAlreadyTerminalNonExecution => true
  | _ => false

def Stage8bP1d3OutcomeKind.excludesTrade : Stage8bP1d3OutcomeKind → Bool
  | .initialWorking | .initialExpired | .laterExpired | .cancelCanceled
  | .cancelAlreadyTerminalNonExecution => true
  | _ => false

def Stage8bP1d3OutcomeKind.isFilled : Stage8bP1d3OutcomeKind → Bool
  | .initialFilled | .laterFilled => true
  | _ => false

/-- A bar identity is all there or all missing, its digests are canonical, its
id is its close, and it spans one aligned ten-minute step. -/
def M10Fields.Malformed (fields : M10Fields) : Prop :=
  fields.redisId.isSome ≠ (fields.semanticIdSha256.isSome && fields.payloadSha256.isSome &&
      fields.openTsUtcMs.isSome && fields.closeTsUtcMs.isSome) ∨
    fields.semanticIdSha256.any (fun value => !isCanonicalSha256 value) = true ∨
    fields.payloadSha256.any (fun value => !isCanonicalSha256 value) = true ∨
    fields.redisId ≠ fields.closeTsUtcMs.map (fun close => toString close ++ "-0") ∨
    ∃ close ∈ fields.closeTsUtcMs, ∃ opened ∈ fields.openTsUtcMs,
      close - opened ≠ m10Millis ∨ close % m10Millis ≠ 0

instance (fields : M10Fields) : Decidable fields.Malformed :=
  inferInstanceAs (Decidable (_ ∨ _))

namespace Stage8bP1d3OutcomeEvidenceV1

/-- The fields that only request-scoped evidence fills, all present and canonical. -/
def namesRequest (evidence : Stage8bP1d3OutcomeEvidenceV1) : Bool :=
  evidence.requestId.isSome && evidence.durableRequestClientId.isSome &&
    evidence.canonicalCommandSha256.any isCanonicalSha256 &&
    evidence.acceptedCommandPayloadSha256.any isCanonicalSha256 &&
    evidence.stage6DispatchRecordId.any isCanonicalSha256 &&
    evidence.stage7RequestFinalizedRecordId.any isCanonicalSha256 &&
    evidence.stage7RequestFinalizedFingerprintSha256.any isCanonicalSha256

def validateReservedSequences (evidence : Stage8bP1d3OutcomeEvidenceV1) : Except Stage8bP1d3Error Unit := do
  match evidence.outcomeKind with
  | .initialWorking | .initialFilled | .initialExpired | .cancelCanceled =>
      let ack ← orReject evidence.reservedSeqAck .invalidSequence
      let truth ← orReject evidence.reservedSeqTruth .invalidSequence
      rejectIf (checkedAdd ack 1 ≠ some truth) .invalidSequence
  | .laterFilled | .laterExpired =>
      rejectIf (¬ (evidence.reservedSeqAck = none ∧ evidence.reservedSeqTruth ≠ none)) .invalidSequence
  | .cancelExecutionObserved | .cancelAlreadyTerminalNonExecution =>
      rejectIf (¬ (evidence.reservedSeqAck ≠ none ∧ evidence.reservedSeqTruth = none)) .invalidSequence

def validateAllocatedSequences (evidence : Stage8bP1d3OutcomeEvidenceV1) : Except Stage8bP1d3Error Unit :=
  let frontier := evidence.sequenceAllocationFrontier
  match evidence.outcomeKind with
  | .initialWorking | .initialFilled | .initialExpired | .cancelCanceled =>
      rejectIf (zip (checkedAdd frontier 1) (checkedAdd frontier 2) ≠
        zip evidence.reservedSeqAck evidence.reservedSeqTruth) .invalidSequence
  | .laterFilled | .laterExpired =>
      rejectIf (checkedAdd frontier 1 ≠ evidence.reservedSeqTruth) .invalidSequence
  | .cancelExecutionObserved | .cancelAlreadyTerminalNonExecution =>
      rejectIf (checkedAdd frontier 1 ≠ evidence.reservedSeqAck) .invalidSequence

/-- The witness that was consumed fits the candidate bar and the boundary. -/
def validateConsumedWitness (evidence : Stage8bP1d3OutcomeEvidenceV1) : Except Stage8bP1d3Error Unit :=
  match evidence.consumedWitnessKind with
  | .scheduleStep =>
      rejectIf (evidence.candidateM10.redisId = none ∨ evidence.boundaryTsUtcMs ≠ none) .invalidChronology
  | .dayExpiry =>
      rejectIf (evidence.candidateM10.redisId ≠ none ∨
        evidence.boundaryTsUtcMs ≠ some evidence.transitionSourceTsUtcMs) .invalidChronology

variable (codec : OutcomeEvidenceCodec)

/-- Sixteen bytes are a decimal if writing it gives them back. -/
def decimal (bytes : Vector UInt8 16) : Except Stage8bP1d3Error Decimal :=
  let value := codec.decimalDeserialize bytes
  if codec.decimalSerialize value = bytes then .ok value else .error .invalidDecimal

def decimalOption (bytes : Option (Vector UInt8 16)) : Except Stage8bP1d3Error (Option Decimal) :=
  match bytes with
  | none => .ok none
  | some bytes => some <$> decimal codec bytes

def validateFields (evidence : Stage8bP1d3OutcomeEvidenceV1) : Except Stage8bP1d3Error Unit := do
  let prePositionQty ← decimal codec evidence.prePositionQtyDecimalBytes
  let prePositionAvg ← decimalOption codec evidence.prePositionAvgPriceDecimalBytes
  rejectIf (evidence.schemaVersion ≠ stage8bP1d3OutcomeEvidenceSchemaVersion ∨
    evidence.domain ≠ stage8bP1d3OutcomeEvidenceDomain ∨ evidence.transitionOrdinal = 0 ∨
    evidence.packageGeneration = 0) .identityMismatch
  rejectIf ([evidence.operationalIdentitySha256, evidence.attributionFingerprintSha256,
    evidence.preBookSha256, evidence.expectedPostBookSha256, evidence.previousOutcomeEvidenceSha256,
    evidence.scheduleFingerprintSha256, evidence.stage6PredecessorFrontierSha256,
    evidence.stage6ReservedCheckpointSha256, evidence.stage6OutcomeRecordId,
    evidence.acceptedStage6IdentitySha256].any (fun value => !isCanonicalSha256 value)) .identityMismatch
  rejectIf (evidence.preBookGeneration ≠ evidence.packageGeneration ∨
    evidence.targetPlaceClientId = none ∨ evidence.targetBrokerOrderId ≠ some evidence.brokerOrderId ∨
    evidence.transitionSourceTsUtcMs ≠ evidence.transitionReceivedTsUtcMs) .identityMismatch
  let qty ← decimal codec evidence.qtyDecimalBytes
  rejectIf (qty ≤ Decimal.zero ∨ isIntegral qty = false) .identityMismatch
  let limitPrice ← decimal codec evidence.limitPriceDecimalBytes
  rejectIf (limitPrice ≤ Decimal.zero ∨ isIntegral prePositionQty = false ∨
    (∃ value ∈ prePositionAvg, value ≤ Decimal.zero) ∨
    (prePositionQty.Same Decimal.zero ∧ prePositionAvg.isSome = true) ∨
    (¬ prePositionQty.Same Decimal.zero ∧ prePositionAvg.isSome = false)) .identityMismatch

/-- The record id is derived from the evidence, and request-scoped evidence names its request. -/
def validateScope (evidence : Stage8bP1d3OutcomeEvidenceV1) : Except Stage8bP1d3Error Unit := do
  let expectedRecordId := Stage6JournalRecordId.deriveStage8bP1d3Outcome codec.toDurableRecordCodec
    evidence.operationalIdentitySha256 evidence.brokerOrderId evidence.transitionOrdinal
    evidence.outcomeKind.canonicalName
  rejectIf (expectedRecordId.value ≠ evidence.stage6OutcomeRecordId) .identityMismatch
  rejectIf (evidence.outcomeKind.isRequestScoped ≠ evidence.namesRequest) .identityMismatch
  rejectIf (evidence.outcomeKind.isCancelScoped = true ∧
    evidence.durableRequestClientId = evidence.targetPlaceClientId) .identityMismatch
  rejectIf (evidence.outcomeKind.isRequestScoped = false ∧
    (evidence.stage7RequestFinalizedRecordId ≠ none ∨
      evidence.stage7RequestFinalizedFingerprintSha256 ≠ none)) .identityMismatch

def validate (evidence : Stage8bP1d3OutcomeEvidenceV1) : Except Stage8bP1d3Error Unit := do
  evidence.validateFields codec
  evidence.validateScope codec
  rejectIf (evidence.sourceM10.redisId = none ∨ evidence.sourceM10.Malformed) .invalidChronology
  rejectIf evidence.candidateM10.Malformed .invalidChronology
  evidence.validateConsumedWitness
  evidence.validateReservedSequences
  evidence.validateAllocatedSequences
  rejectIf (evidence.outcomeKind.isFilled ≠ evidence.fillPriceDecimalBytes.isSome ∨
    (evidence.outcomeKind.isFilled = true ∧ evidence.brokerTradeId = none) ∨
    (evidence.outcomeKind.excludesTrade = true ∧ evidence.brokerTradeId ≠ none)) .invalidTransition

def encodeCanonical (evidence : Stage8bP1d3OutcomeEvidenceV1) : Except Stage8bP1d3Error (List UInt8) := do
  evidence.validate codec
  .ok (codec.evidenceToVec evidence)

def decodeCanonical (bytes : List UInt8) : Except Stage8bP1d3Error Stage8bP1d3OutcomeEvidenceV1 := do
  let value ← orReject (codec.evidenceFromSlice bytes) .invalidEncoding
  value.validate codec
  rejectIf (codec.evidenceToVec value ≠ bytes) .invalidEncoding
  .ok value

def digestSha256 (evidence : Stage8bP1d3OutcomeEvidenceV1) : Except Stage8bP1d3Error HexText := do
  let bytes ← evidence.encodeCanonical codec
  .ok (codec.sha256 (stage8bP1d3OutcomeEvidenceDomain.toUTF8.toList ++ 0 :: lengthPrefixed bytes)).hex

end Stage8bP1d3OutcomeEvidenceV1

inductive Stage8bP1d3Stage6RequestReplayEffectKind where
  | place (brokerOrderId : BrokerOrderId) (brokerTradeId : Option BrokerTradeId)
  | cancel (targetBrokerOrderId : BrokerOrderId) (targetPlaceClientId : ClientOrderId)
      (outcome : Stage6CancelOutcomeV1)

structure Stage8bP1d3Stage6RequestReplayEffect where
  requestId : StrategyRequestId
  durableRequestClientId : ClientOrderId
  accountId : BrokerAccountId
  instrument : InstrumentId
  attributionFingerprintSha256 : HexText
  acceptedCommandPayloadSha256 : HexText
  acceptedStage6IdentitySha256 : HexText
  stage6DispatchRecordId : HexText
  kind : Stage8bP1d3Stage6RequestReplayEffectKind

namespace Stage8bP1d3OutcomeEvidenceV1

def cancelEffect (evidence : Stage8bP1d3OutcomeEvidenceV1) (outcome : Stage6CancelOutcomeV1) :
    Except Stage8bP1d3Error (Option Stage8bP1d3Stage6RequestReplayEffectKind) := do
  let targetPlaceClientId ← orReject evidence.targetPlaceClientId .identityMismatch
  .ok (some (.cancel evidence.brokerOrderId targetPlaceClientId outcome))

/-- Later outcomes of a working order have no request to act on. -/
def effectKind (evidence : Stage8bP1d3OutcomeEvidenceV1) :
    Except Stage8bP1d3Error (Option Stage8bP1d3Stage6RequestReplayEffectKind) :=
  match evidence.outcomeKind with
  | .initialWorking | .initialFilled | .initialExpired =>
      .ok (some (.place evidence.brokerOrderId evidence.brokerTradeId))
  | .cancelCanceled => evidence.cancelEffect .canceled
  | .cancelExecutionObserved => evidence.cancelEffect .executionObserved
  | .cancelAlreadyTerminalNonExecution => evidence.cancelEffect .alreadyTerminalNonExecution
  | .laterFilled | .laterExpired => .ok none

def requestEffect (evidence : Stage8bP1d3OutcomeEvidenceV1)
    (kind : Stage8bP1d3Stage6RequestReplayEffectKind) :
    Except Stage8bP1d3Error Stage8bP1d3Stage6RequestReplayEffect := do
  let requestId ← orReject evidence.requestId .identityMismatch
  let durableRequestClientId ← orReject evidence.durableRequestClientId .identityMismatch
  let acceptedCommandPayloadSha256 ← orReject evidence.acceptedCommandPayloadSha256 .identityMismatch
  let stage6DispatchRecordId ← orReject evidence.stage6DispatchRecordId .identityMismatch
  .ok {
    requestId := requestId
    durableRequestClientId := durableRequestClientId
    accountId := evidence.accountId
    instrument := evidence.instrument
    attributionFingerprintSha256 := evidence.attributionFingerprintSha256
    acceptedCommandPayloadSha256 := acceptedCommandPayloadSha256
    acceptedStage6IdentitySha256 := evidence.acceptedStage6IdentitySha256
    stage6DispatchRecordId := stage6DispatchRecordId
    kind := kind }

def stage6RequestReplayEffect (codec : OutcomeEvidenceCodec) (evidence : Stage8bP1d3OutcomeEvidenceV1) :
    Except Stage8bP1d3Error (Option Stage8bP1d3Stage6RequestReplayEffect) := do
  evidence.validate codec
  match ← evidence.effectKind with
  | none => .ok none
  | some kind => some <$> evidence.requestEffect kind

end Stage8bP1d3OutcomeEvidenceV1

end TradingGateway.Stage8b.WorkingLimitEvidence
