import TradingGateway.Stage8b.WorkingLimitBook

/-! What a transition of the working book is computed from: canonical ten-minute
bars, schedule authorities and the inputs of the four builders, with their checks. -/

set_option autoImplicit false

namespace TradingGateway.Stage8b.WorkingLimitInputs

open BrokerCore.FixedPoint BrokerCore.HybridAttribution BrokerCore.Identifiers
open BrokerCore.Orders Stage6.JournalRecord
open WorkingLimitBook WorkingLimitEvidence
open Foundation.ExceptRun

structure Stage8bP1d3CanonicalM10Evidence where
  redisId : String
  semanticIdSha256 : HexText
  payloadSha256 : HexText
  canonicalBytesSha256 : HexText
  operationalIdentitySha256 : HexText
  instrument : InstrumentId
  openTsUtcMs : Int
  closeTsUtcMs : Int
  opened : Decimal
  high : Decimal
  low : Decimal
  closed : Decimal
deriving DecidableEq

inductive Stage8bP1d3ScheduleStepRoute where
  | legacy
  | initial
  | working
  | cancel
deriving DecidableEq

structure Stage8bP1d3ScheduleStepAuthority where
  scheduleFingerprintSha256 : HexText
  tradingDayIdentity : String
  lastEligibleM10RedisId : String
  predecessorRedisId : String
  candidateRedisId : String
  route : Stage8bP1d3ScheduleStepRoute

structure Stage8bP1d3DayExpiryAuthority where
  scheduleFingerprintSha256 : HexText
  tradingDayIdentity : String
  lastEligibleM10RedisId : String
  boundaryTsUtcMs : Int
  /-- `v4_proof.is_some()`; nothing reads the proof itself. -/
  hasV4Proof : Bool

inductive Stage8bP1d3LimitDecision where
  | working
  | filled
deriving DecidableEq

structure Stage8bP1d3InitialLimitInput where
  operationalIdentitySha256 : HexText
  packageGeneration : UInt64
  accountId : BrokerAccountId
  instrument : InstrumentId
  attribution : HybridRuntimeAttribution
  requestId : StrategyRequestId
  durableClientOrderId : ClientOrderId
  canonicalCommandSha256 : HexText
  acceptedCommandPayloadSha256 : HexText
  acceptedStage6IdentitySha256 : HexText
  decisionM10RedisId : String
  decisionM10SemanticIdSha256 : HexText
  decisionM10PayloadSha256 : HexText
  decisionM10OpenTsUtcMs : Int
  decisionM10CloseTsUtcMs : Int
  side : OrderSide
  qty : Decimal
  limitPrice : Decimal
  prePositionQty : Decimal
  prePositionAvgPrice : Option Decimal
  sequenceAllocationFrontier : UInt64
  stage6DispatchRecordId : HexText
  stage6OutcomeLifecycleSequence : UInt64
  stage6PredecessorFrontierSha256 : HexText
  stage6ReservedCheckpointSha256 : HexText
  previousOutcomeEvidenceSha256 : HexText

structure Stage8bP1d3AutonomousInput where
  operationalIdentitySha256 : HexText
  packageGeneration : UInt64
  accountId : BrokerAccountId
  instrument : InstrumentId
  attribution : HybridRuntimeAttribution
  prePositionQty : Decimal
  prePositionAvgPrice : Option Decimal
  sequenceAllocationFrontier : UInt64
  stage6PredecessorFrontierSha256 : HexText
  stage6ReservedCheckpointSha256 : HexText
  previousOutcomeEvidenceSha256 : HexText

structure Stage8bP1d3CancelInput where
  operationalIdentitySha256 : HexText
  packageGeneration : UInt64
  accountId : BrokerAccountId
  instrument : InstrumentId
  attribution : HybridRuntimeAttribution
  requestId : StrategyRequestId
  durableRequestClientId : ClientOrderId
  canonicalCommandSha256 : HexText
  acceptedCommandPayloadSha256 : HexText
  acceptedStage6IdentitySha256 : HexText
  targetBrokerOrderId : BrokerOrderId
  targetPlaceClientId : Option ClientOrderId
  decisionM10RedisId : String
  decisionM10SemanticIdSha256 : HexText
  decisionM10PayloadSha256 : HexText
  decisionM10OpenTsUtcMs : Int
  decisionM10CloseTsUtcMs : Int
  prePositionQty : Decimal
  prePositionAvgPrice : Option Decimal
  sequenceAllocationFrontier : UInt64
  stage6DispatchRecordId : HexText
  stage6DispatchLifecycleSequence : UInt64
  stage6PredecessorFrontierSha256 : HexText
  targetStage6ReservedCheckpointSha256 : Option HexText
  stage6ReservedCheckpointSha256 : HexText
  previousOutcomeEvidenceSha256 : HexText

/-- The `(before, behind)` of the last occurrence of a separator. -/
def rsplitOnce (separator : List Char) : List Char → Option (List Char × List Char)
  | [] => none
  | head :: rest =>
      match rsplitOnce separator rest with
      | some (before, behind) => some (head :: before, behind)
      | none =>
          if separator.isPrefixOf (head :: rest) then some ([], (head :: rest).drop separator.length) else none

def cancelAttribution (source : HybridRuntimeAttribution) :
    Except Stage8bP1d3Error HybridRuntimeAttribution := do
  let (comment, _) ← orReject (rsplitOnce "|r=".toList source.internalComment.toList) .identityMismatch
  (HybridRuntimeAttribution.parseSourceComment (String.ofList comment ++ "|r=CANCEL")).mapError
    fun _ => .identityMismatch

def allocatePair (frontier : UInt64) : Except Stage8bP1d3Error (UInt64 × UInt64) := do
  let ack ← orReject (checkedAdd frontier 1) .invalidSequence
  let truth ← orReject (checkedAdd ack 1) .invalidSequence
  .ok (ack, truth)

section Clock

variable (codec : WorkingLimitCodec)

def exactTimestamp (value : Int) : Except Stage8bP1d3Error DateTimeUtc :=
  orReject (codec.timestampMillisOpt value) .invalidChronology

def tradingDay (timestampMs : Int) : Except Stage8bP1d3Error String :=
  codec.dateNaiveText <$> exactTimestamp codec timestampMs

/-- An expiry bound to a schedule record is received just after its boundary. -/
def orderedAutonomousReceiptTimestamp (sourceTimestamp : DateTimeUtc) (outcomeKind : Stage8bP1d3OutcomeKind)
    (afterScheduleBinding : Bool) : Except Stage8bP1d3Error DateTimeUtc :=
  if afterScheduleBinding = true ∧ outcomeKind = .laterExpired then
    orReject (codec.addNanosecond sourceTimestamp) .invalidChronology
  else .ok sourceTimestamp

end Clock

def decimalMax (left right : Decimal) : Decimal :=
  if left ≤ right then right else left

def decimalMin (left right : Decimal) : Decimal :=
  if left ≤ right then left else right

def validateBar (bar : Stage8bP1d3CanonicalM10Evidence) : Except Stage8bP1d3Error Unit := do
  rejectIf ([bar.semanticIdSha256, bar.payloadSha256, bar.canonicalBytesSha256,
    bar.operationalIdentitySha256].any (fun value => !isCanonicalSha256 value)) .invalidChronology
  rejectIf (bar.redisId ≠ toString bar.closeTsUtcMs ++ "-0" ∨ bar.openTsUtcMs ≤ 0 ∨
    bar.closeTsUtcMs - bar.openTsUtcMs ≠ 600000 ∨ bar.closeTsUtcMs % 600000 ≠ 0 ∨
    bar.opened ≤ Decimal.zero ∨ bar.high < decimalMax bar.opened bar.closed ∨
    decimalMin bar.opened bar.closed < bar.low ∨ bar.high < bar.low) .invalidChronology

def validateScopedBar (book : Stage8bP1d3WorkingBookProjectionV1) (bar : Stage8bP1d3CanonicalM10Evidence) :
    Except Stage8bP1d3Error Unit := do
  validateBar bar
  rejectIf (bar.operationalIdentitySha256 ≠ book.operationalIdentitySha256 ∨
    bar.instrument ≠ book.instrument) .identityMismatch

def decideLimit (side : OrderSide) (limitPrice : Decimal) (bar : Stage8bP1d3CanonicalM10Evidence) :
    Except Stage8bP1d3Error (Stage8bP1d3LimitDecision × Option Decimal) := do
  validateBar bar
  rejectIf (limitPrice ≤ Decimal.zero) .invalidDecimal
  match side with
  | .buy =>
      if limitPrice < bar.low then .ok (.working, none)
      else .ok (.filled, some (if bar.opened < limitPrice then bar.opened else limitPrice))
  | .sell =>
      if bar.high < limitPrice then .ok (.working, none)
      else .ok (.filled, some (if limitPrice < bar.opened then bar.opened else limitPrice))

section Checks

variable (codec : WorkingLimitCodec)

def validateStepIdentity (step : Stage8bP1d3ScheduleStepAuthority) (expectedPredecessor : String)
    (candidate : Stage8bP1d3CanonicalM10Evidence) : Except Stage8bP1d3Error Unit := do
  rejectIf (isCanonicalSha256 step.scheduleFingerprintSha256 = false ∨
    step.predecessorRedisId ≠ expectedPredecessor ∨ step.candidateRedisId ≠ candidate.redisId ∨
    (compareBytes step.lastEligibleM10RedisId step.candidateRedisId).isLT = true) .identityMismatch
  let day ← tradingDay codec candidate.closeTsUtcMs
  rejectIf (step.tradingDayIdentity ≠ day) .identityMismatch

/-- The three step checks, each with the one route it takes beside the legacy one. -/
def validateStepOn (route : Stage8bP1d3ScheduleStepRoute) (step : Stage8bP1d3ScheduleStepAuthority)
    (expectedPredecessor : String) (candidate : Stage8bP1d3CanonicalM10Evidence) :
    Except Stage8bP1d3Error Unit := do
  rejectIf (step.route ≠ .legacy ∧ step.route ≠ route) .invalidTransition
  validateStepIdentity codec step expectedPredecessor candidate

def validateWorkingStep := validateStepOn codec .working

def validateInitialStep := validateStepOn codec .initial

def validateCancelStep := validateStepOn codec .cancel

def validateExpiry (record : Stage8bP1d3OrderRecordV1) (expiry : Stage8bP1d3DayExpiryAuthority) :
    Except Stage8bP1d3Error Unit :=
  rejectIf (isCanonicalSha256 expiry.scheduleFingerprintSha256 = false ∨
    expiry.tradingDayIdentity ≠ record.tradingDayIdentity ∨
    record.lastEvaluatedM10RedisId ≠ some expiry.lastEligibleM10RedisId ∨
    record.lastEvaluatedCloseTsUtcMs.all (fun last => expiry.boundaryTsUtcMs < last) = true ∨
    (exactTimestamp codec expiry.boundaryTsUtcMs).isOk = false) .invalidChronology

def validateInitialExpiry (input : Stage8bP1d3InitialLimitInput) (expiry : Stage8bP1d3DayExpiryAuthority) :
    Except Stage8bP1d3Error Unit := do
  rejectIf (isCanonicalSha256 expiry.scheduleFingerprintSha256 = false ∨
    expiry.lastEligibleM10RedisId ≠ input.decisionM10RedisId) .invalidChronology
  let day ← tradingDay codec input.decisionM10CloseTsUtcMs
  rejectIf (expiry.tradingDayIdentity ≠ day ∨ expiry.boundaryTsUtcMs < input.decisionM10CloseTsUtcMs ∨
    (exactTimestamp codec expiry.boundaryTsUtcMs).isOk = false) .invalidChronology

end Checks

def validateInitialInput (book : Stage8bP1d3WorkingBookProjectionV1) (input : Stage8bP1d3InitialLimitInput) :
    Except Stage8bP1d3Error Unit := do
  rejectIf (input.operationalIdentitySha256 ≠ book.operationalIdentitySha256 ∨
    input.packageGeneration ≠ book.packageGeneration ∨ input.accountId ≠ book.accountId ∨
    input.instrument ≠ book.instrument ∨ input.attribution ≠ book.attribution ∨
    input.durableClientOrderId ≠ ClientOrderId.fromStrategyRequest input.requestId) .identityMismatch
  rejectIf (input.qty ≤ Decimal.zero ∨ isIntegral input.qty = false ∨
    input.limitPrice ≤ Decimal.zero) .identityMismatch
  rejectIf ([input.canonicalCommandSha256, input.acceptedCommandPayloadSha256,
    input.acceptedStage6IdentitySha256, input.decisionM10SemanticIdSha256, input.decisionM10PayloadSha256,
    input.stage6DispatchRecordId, input.stage6PredecessorFrontierSha256, input.stage6ReservedCheckpointSha256,
    input.previousOutcomeEvidenceSha256].any (fun value => !isCanonicalSha256 value)) .identityMismatch
  rejectIf (input.decisionM10RedisId ≠ toString input.decisionM10CloseTsUtcMs ++ "-0" ∨
    input.decisionM10CloseTsUtcMs - input.decisionM10OpenTsUtcMs ≠ 600000 ∨
    input.decisionM10CloseTsUtcMs % 600000 ≠ 0 ∨ input.stage6OutcomeLifecycleSequence = 0 ∨
    input.sequenceAllocationFrontier ≠ book.totalSequenceFrontier) .identityMismatch

def validateAutonomousInput (book : Stage8bP1d3WorkingBookProjectionV1) (input : Stage8bP1d3AutonomousInput) :
    Except Stage8bP1d3Error Unit := do
  rejectIf (input.operationalIdentitySha256 ≠ book.operationalIdentitySha256 ∨
    input.packageGeneration ≠ book.packageGeneration ∨ input.accountId ≠ book.accountId ∨
    input.instrument ≠ book.instrument ∨ input.attribution ≠ book.attribution ∨
    input.sequenceAllocationFrontier ≠ book.totalSequenceFrontier) .identityMismatch
  rejectIf ([input.stage6PredecessorFrontierSha256, input.stage6ReservedCheckpointSha256,
    input.previousOutcomeEvidenceSha256].any (fun value => !isCanonicalSha256 value) = true ∨
    isIntegral input.prePositionQty = false) .identityMismatch

def validateCancelInput (book : Stage8bP1d3WorkingBookProjectionV1) (input : Stage8bP1d3CancelInput) :
    Except Stage8bP1d3Error Unit := do
  rejectIf (input.operationalIdentitySha256 ≠ book.operationalIdentitySha256 ∨
    input.packageGeneration ≠ book.packageGeneration ∨ input.accountId ≠ book.accountId ∨
    input.instrument ≠ book.instrument) .identityMismatch
  let attribution ← cancelAttribution book.attribution
  rejectIf (input.attribution ≠ attribution ∨
    input.durableRequestClientId ≠ ClientOrderId.fromStrategyRequest input.requestId ∨
    input.targetPlaceClientId = none ∨ input.targetPlaceClientId = some input.durableRequestClientId ∨
    input.sequenceAllocationFrontier ≠ book.totalSequenceFrontier) .identityMismatch
  rejectIf ([input.canonicalCommandSha256, input.acceptedCommandPayloadSha256,
    input.decisionM10SemanticIdSha256, input.decisionM10PayloadSha256, input.stage6DispatchRecordId,
    input.stage6PredecessorFrontierSha256, input.stage6ReservedCheckpointSha256,
    input.previousOutcomeEvidenceSha256].any (fun value => !isCanonicalSha256 value)) .identityMismatch
  rejectIf (input.decisionM10RedisId ≠ toString input.decisionM10CloseTsUtcMs ++ "-0" ∨
    input.decisionM10CloseTsUtcMs - input.decisionM10OpenTsUtcMs ≠ 600000 ∨
    isIntegral input.prePositionQty = false ∨ input.stage6DispatchLifecycleSequence = 0 ∨
    input.targetStage6ReservedCheckpointSha256.any (fun value => !isCanonicalSha256 value) = true)
    .identityMismatch

end TradingGateway.Stage8b.WorkingLimitInputs
