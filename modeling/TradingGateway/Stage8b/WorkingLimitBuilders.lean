import TradingGateway.Stage8b.WorkingLimitProjections

/-! The builders that compute the next working book from live inputs: the initial
observation of a limit order, a later one, a cancel, and the cancel that follows a
fill of its own target. -/

set_option autoImplicit false

namespace TradingGateway.Stage8b.WorkingLimitBuilders

open BrokerCore.FixedPoint BrokerCore.Identifiers BrokerCore.OperationalSnapshot
open BrokerCore.Orders Stage6.DurableIdentity Stage6.JournalRecord
open WorkingLimitBook WorkingLimitEvidence WorkingLimitInputs WorkingLimitProjections
open Foundation.ExceptRun

def stage8bP1d3EvaluationEvidenceDomain : String := "moex.stage8b.p1d3.evaluation-evidence.v1"

structure Stage8bP1d3TransitionPlan where
  evidence : Stage8bP1d3OutcomeEvidenceV1
  evidenceBytes : List UInt8
  evidenceSha256 : HexText
  postBook : Stage8bP1d3WorkingBookProjectionV1
  ack : Option CommandAck
  truth : Option BrokerTruthSnapshot

inductive Stage8bP1d3LaterEvaluationPlan where
  | alreadyEvaluated (book : Stage8bP1d3WorkingBookProjectionV1)
  | untouched (evidence : Stage8bP1d3EvaluationEvidenceV1) (evidenceBytes : List UInt8)
      (postBook : Stage8bP1d3WorkingBookProjectionV1)
  | outcome (plan : Stage8bP1d3TransitionPlan)

/-- What is left to do once the fill of a cancel's own target is sealed. -/
structure Stage8bP1d3DeferredCancelAfterTarget where
  input : Stage8bP1d3CancelInput
  candidate : Stage8bP1d3CanonicalM10Evidence
  step : Stage8bP1d3ScheduleStepAuthority
  expectedTargetPostBookSha256 : HexText
  targetOutcomeEvidenceSha256 : HexText

inductive Stage8bP1d3CancelTransitionPlan where
  | ready (plan : Stage8bP1d3TransitionPlan)
  | targetThenCancel (targetTransition : Stage8bP1d3TransitionPlan)
      (continuation : Stage8bP1d3DeferredCancelAfterTarget)

/-- `Stage8bP1d3EvaluationEvidenceV1::validate`. -/
def validateEvaluation (evidence : Stage8bP1d3EvaluationEvidenceV1) : Except Stage8bP1d3Error Unit := do
  rejectIf (evidence.schemaVersion ≠ 1 ∨ evidence.domain ≠ stage8bP1d3EvaluationEvidenceDomain ∨
    evidence.packageGeneration = 0 ∨ evidence.transitionOrdinal = 0) .identityMismatch
  rejectIf ([evidence.operationalIdentitySha256, evidence.attributionFingerprintSha256,
    evidence.candidateM10SemanticIdSha256, evidence.candidateM10PayloadSha256,
    evidence.candidateM10CanonicalBytesSha256, evidence.scheduleFingerprintSha256, evidence.preBookSha256,
    evidence.expectedPostBookSha256].any (fun value => !isCanonicalSha256 value)) .identityMismatch
  rejectIf (evidence.candidateM10RedisId ≠ toString evidence.candidateM10CloseTsUtcMs ++ "-0" ∨
    evidence.candidateM10CloseTsUtcMs - evidence.candidateM10OpenTsUtcMs ≠ 600000) .identityMismatch

/-- `Stage8bP1d3EvaluationEvidenceV1::encode_canonical`. -/
def encodeEvaluation (codec : WorkingLimitCodec) (evidence : Stage8bP1d3EvaluationEvidenceV1) :
    Except Stage8bP1d3Error (List UInt8) := do
  validateEvaluation evidence
  .ok (codec.evaluationToVec evidence)

/-- The five fields that name a candidate bar, all there or all missing. -/
def candidateM10Of (candidate : Option Stage8bP1d3CanonicalM10Evidence) : M10Fields :=
  { redisId := candidate.map (·.redisId)
    semanticIdSha256 := candidate.map (·.semanticIdSha256)
    payloadSha256 := candidate.map (·.payloadSha256)
    openTsUtcMs := candidate.map (·.openTsUtcMs)
    closeTsUtcMs := candidate.map (·.closeTsUtcMs) }

structure InitialObservation where
  kind : Stage8bP1d3OutcomeKind
  witnessKind : Stage8bP1d3ConsumedWitnessKind
  scheduleFingerprintSha256 : HexText
  tradingDayIdentity : String
  lastEligibleM10RedisId : String
  transitionTs : Int
  status : OrderStatus
  lifecycle : BrokerOrderLifecycle
  filled : Decimal
  remaining : Decimal
  fill : Option Decimal
  boundaryTsUtcMs : Option Int

section Initial

variable (codec : WorkingLimitCodec)

def observeInitialCandidate (preBook : Stage8bP1d3WorkingBookProjectionV1) (input : Stage8bP1d3InitialLimitInput)
    (bar : Stage8bP1d3CanonicalM10Evidence) (step : Stage8bP1d3ScheduleStepAuthority) :
    Except Stage8bP1d3Error InitialObservation := do
  validateScopedBar preBook bar
  validateInitialStep codec step input.decisionM10RedisId bar
  rejectIf (bar.closeTsUtcMs ≤ input.decisionM10CloseTsUtcMs) .invalidChronology
  let (decision, fill) ← decideLimit input.side input.limitPrice bar
  .ok <| match decision with
    | .working => {
        kind := .initialWorking
        witnessKind := .scheduleStep
        scheduleFingerprintSha256 := step.scheduleFingerprintSha256
        tradingDayIdentity := step.tradingDayIdentity
        lastEligibleM10RedisId := step.lastEligibleM10RedisId
        transitionTs := bar.closeTsUtcMs
        status := .working
        lifecycle := .active
        filled := Decimal.zero
        remaining := input.qty
        fill := none
        boundaryTsUtcMs := none }
    | .filled => {
        kind := .initialFilled
        witnessKind := .scheduleStep
        scheduleFingerprintSha256 := step.scheduleFingerprintSha256
        tradingDayIdentity := step.tradingDayIdentity
        lastEligibleM10RedisId := step.lastEligibleM10RedisId
        transitionTs := bar.closeTsUtcMs
        status := .filled
        lifecycle := .terminal
        filled := input.qty
        remaining := Decimal.zero
        fill := fill
        boundaryTsUtcMs := none }

def observeInitialExpiry (input : Stage8bP1d3InitialLimitInput) (expiry : Stage8bP1d3DayExpiryAuthority) :
    Except Stage8bP1d3Error InitialObservation := do
  validateInitialExpiry codec input expiry
  .ok {
    kind := .initialExpired
    witnessKind := .dayExpiry
    scheduleFingerprintSha256 := expiry.scheduleFingerprintSha256
    tradingDayIdentity := expiry.tradingDayIdentity
    lastEligibleM10RedisId := expiry.lastEligibleM10RedisId
    transitionTs := expiry.boundaryTsUtcMs
    status := .expired
    lifecycle := .terminal
    filled := Decimal.zero
    remaining := input.qty
    fill := none
    boundaryTsUtcMs := some expiry.boundaryTsUtcMs }

def observeInitial (preBook : Stage8bP1d3WorkingBookProjectionV1) (input : Stage8bP1d3InitialLimitInput)
    (candidate : Option Stage8bP1d3CanonicalM10Evidence) (step : Option Stage8bP1d3ScheduleStepAuthority)
    (expiry : Option Stage8bP1d3DayExpiryAuthority) : Except Stage8bP1d3Error InitialObservation :=
  match candidate, step, expiry with
  | some bar, some step, none => observeInitialCandidate codec preBook input bar step
  | none, none, some expiry => observeInitialExpiry codec input expiry
  | _, _, _ => .error .invalidTransition

def initialTradingDay (candidate : Option Stage8bP1d3CanonicalM10Evidence) (observed : InitialObservation) :
    Except Stage8bP1d3Error String :=
  match candidate with
  | some bar => tradingDay codec bar.closeTsUtcMs
  | none => .ok observed.tradingDayIdentity

def initialRecord (preBook : Stage8bP1d3WorkingBookProjectionV1) (input : Stage8bP1d3InitialLimitInput)
    (candidate : Option Stage8bP1d3CanonicalM10Evidence) (observed : InitialObservation)
    (brokerOrderId : BrokerOrderId) (brokerTradeId : Option BrokerTradeId) (order : BrokerOrderSnapshot)
    (tradingDayIdentity : String) (seqTruth : UInt64) : Stage8bP1d3OrderRecordV1 :=
  { brokerOrderId := brokerOrderId
    originalRequestId := input.requestId
    originalDurablePlaceClientId := input.durableClientOrderId
    canonicalCommandSha256 := input.canonicalCommandSha256
    acceptedStage6IdentitySha256 := input.acceptedStage6IdentitySha256
    deterministicOrderFingerprintSha256 := orderFingerprintSha256 codec brokerOrderId input.requestId
      input.durableClientOrderId input.canonicalCommandSha256
    accountId := input.accountId
    instrument := input.instrument
    attribution := input.attribution
    side := input.side
    qtyDecimalBytes := codec.decimalSerialize input.qty
    limitPriceDecimalBytes := codec.decimalSerialize input.limitPrice
    status := observed.status
    lifecycle := observed.lifecycle
    filledQtyDecimalBytes := codec.decimalSerialize observed.filled
    remainingQtyDecimalBytes := codec.decimalSerialize observed.remaining
    decisionM10RedisId := input.decisionM10RedisId
    decisionM10SemanticIdSha256 := input.decisionM10SemanticIdSha256
    decisionM10PayloadSha256 := input.decisionM10PayloadSha256
    decisionM10OpenTsUtcMs := input.decisionM10OpenTsUtcMs
    decisionM10CloseTsUtcMs := input.decisionM10CloseTsUtcMs
    firstObservationRedisId := candidate.map (·.redisId)
    firstObservationSemanticIdSha256 := candidate.map (·.semanticIdSha256)
    firstObservationPayloadSha256 := candidate.map (·.payloadSha256)
    lastEvaluatedM10RedisId := candidate.map (·.redisId)
    lastEvaluatedM10SemanticIdSha256 := candidate.map (·.semanticIdSha256)
    lastEvaluatedM10PayloadSha256 := candidate.map (·.payloadSha256)
    lastEvaluatedCloseTsUtcMs := candidate.map (·.closeTsUtcMs)
    scheduleFingerprintSha256 := observed.scheduleFingerprintSha256
    tradingDayIdentity := tradingDayIdentity
    latestOrderProjectionSha256 := sha256Hex codec (codec.orderToVec order)
    brokerTradeId := brokerTradeId
    totalSequenceFrontier := seqTruth
    transitionOrdinal := preBook.transitionOrdinal + 1 }

def placeFinalization (input : Stage8bP1d3InitialLimitInput) (outcomeRecordId : HexText)
    (transitionTime : DateTimeUtc) : Except Stage8bP1d3Error (HexText × HexText) := do
  let createdTs ← exactTimestamp codec input.decisionM10CloseTsUtcMs
  let placeIdentity ← (Stage6DurableRequestIdentityV1.fromPlace {
      requestId := input.requestId
      createdTs := createdTs
      ttlMs := none
      accountId := input.accountId
      clientOrderId := input.durableClientOrderId
      instrument := input.instrument
      side := input.side
      orderType := .limit
      qty := input.qty
      limitPrice := some input.limitPrice
      timeInForce := .day
      comment := some input.attribution.internalComment } input.attribution).mapError
    fun _ => .identityMismatch
  requestFinalizationBinding codec placeIdentity outcomeRecordId input.stage6OutcomeLifecycleSequence
    transitionTime

def initialEvidence (preBook : Stage8bP1d3WorkingBookProjectionV1) (input : Stage8bP1d3InitialLimitInput)
    (candidate : Option Stage8bP1d3CanonicalM10Evidence) (observed : InitialObservation)
    (brokerOrderId : BrokerOrderId) (brokerTradeId : Option BrokerTradeId) (sequences : UInt64 × UInt64)
    (preBookSha256 expectedPostBookSha256 : HexText) (finalized : HexText × HexText) :
    Stage8bP1d3OutcomeEvidenceV1 :=
  { schemaVersion := stage8bP1d3OutcomeEvidenceSchemaVersion
    domain := stage8bP1d3OutcomeEvidenceDomain
    outcomeKind := observed.kind
    transitionOrdinal := preBook.transitionOrdinal + 1
    operationalIdentitySha256 := input.operationalIdentitySha256
    packageGeneration := input.packageGeneration
    accountId := input.accountId
    instrument := input.instrument
    attributionFingerprintSha256 := attributionSha256 codec input.attribution
    requestId := some input.requestId
    durableRequestClientId := some input.durableClientOrderId
    canonicalCommandSha256 := some input.canonicalCommandSha256
    acceptedCommandPayloadSha256 := some input.acceptedCommandPayloadSha256
    acceptedStage6IdentitySha256 := input.acceptedStage6IdentitySha256
    targetPlaceClientId := some input.durableClientOrderId
    targetBrokerOrderId := some brokerOrderId
    sourceM10 := {
      redisId := some input.decisionM10RedisId
      semanticIdSha256 := some input.decisionM10SemanticIdSha256
      payloadSha256 := some input.decisionM10PayloadSha256
      openTsUtcMs := some input.decisionM10OpenTsUtcMs
      closeTsUtcMs := some input.decisionM10CloseTsUtcMs }
    candidateM10 := candidateM10Of candidate
    consumedWitnessKind := observed.witnessKind
    scheduleFingerprintSha256 := observed.scheduleFingerprintSha256
    tradingDayIdentity := observed.tradingDayIdentity
    lastEligibleM10RedisId := observed.lastEligibleM10RedisId
    boundaryTsUtcMs := observed.boundaryTsUtcMs
    preBookGeneration := preBook.packageGeneration
    preBookSha256 := preBookSha256
    expectedPostBookSha256 := expectedPostBookSha256
    brokerOrderId := brokerOrderId
    brokerTradeId := brokerTradeId
    side := input.side
    qtyDecimalBytes := codec.decimalSerialize input.qty
    limitPriceDecimalBytes := codec.decimalSerialize input.limitPrice
    fillPriceDecimalBytes := observed.fill.map codec.decimalSerialize
    prePositionQtyDecimalBytes := codec.decimalSerialize input.prePositionQty
    prePositionAvgPriceDecimalBytes := input.prePositionAvgPrice.map codec.decimalSerialize
    transitionSourceTsUtcMs := observed.transitionTs
    transitionReceivedTsUtcMs := observed.transitionTs
    reservedSeqAck := some sequences.1
    reservedSeqTruth := some sequences.2
    sequenceAllocationFrontier := input.sequenceAllocationFrontier
    stage6DispatchRecordId := some input.stage6DispatchRecordId
    stage6OutcomeRecordId := outcomeRecordId codec input.operationalIdentitySha256 brokerOrderId
      (preBook.transitionOrdinal + 1) observed.kind
    stage6PredecessorFrontierSha256 := input.stage6PredecessorFrontierSha256
    stage6ReservedCheckpointSha256 := input.stage6ReservedCheckpointSha256
    stage7RequestFinalizedRecordId := some finalized.1
    stage7RequestFinalizedFingerprintSha256 := some finalized.2
    previousOutcomeEvidenceSha256 := input.previousOutcomeEvidenceSha256 }

def sealOutcome (inserted : Stage8bP1d3WorkingBookProjectionV1) (evidence : Stage8bP1d3OutcomeEvidenceV1)
    (phase : Stage8bP1d3BookPhase) (totalSequenceFrontier : UInt64) (ack : Option CommandAck)
    (truth : Option BrokerTruthSnapshot) : Except Stage8bP1d3Error Stage8bP1d3TransitionPlan := do
  let evidenceBytes ← evidence.encodeCanonical codec.toOutcomeEvidenceCodec
  let evidenceSha256 ← evidence.digestSha256 codec.toOutcomeEvidenceCodec
  let postBook ← { inserted with latestOutcomeEvidenceSha256 := evidenceSha256 }.advance codec evidenceBytes
    phase totalSequenceFrontier
  .ok {
    evidence := evidence
    evidenceBytes := evidenceBytes
    evidenceSha256 := evidenceSha256
    postBook := postBook
    ack := ack
    truth := truth }

def buildInitialLimitTransition (preBook : Stage8bP1d3WorkingBookProjectionV1)
    (input : Stage8bP1d3InitialLimitInput) (candidate : Option Stage8bP1d3CanonicalM10Evidence)
    (step : Option Stage8bP1d3ScheduleStepAuthority) (expiry : Option Stage8bP1d3DayExpiryAuthority) :
    Except Stage8bP1d3Error Stage8bP1d3TransitionPlan := do
  preBook.validate codec
  validateInitialInput preBook input
  rejectIf (preBook.activeRecord.isSome = true ∨
    p1d3MaxOrderRecordsPerGeneration ≤ preBook.records.length) .invalidRegistry
  let brokerOrderId := deriveOrderId codec input.operationalIdentitySha256 input.requestId
    input.canonicalCommandSha256
  let observed ← observeInitial codec preBook input candidate step expiry
  let transitionTime ← exactTimestamp codec observed.transitionTs
  -- A fill always comes with its candidate bar.
  let brokerTradeId := (zip observed.fill candidate).map fun (_, bar) =>
    deriveTradeId codec brokerOrderId bar.semanticIdSha256
  let sequences ← allocatePair input.sequenceAllocationFrontier
  let order := exactOrderSnapshot input.accountId brokerOrderId input.durableClientOrderId input.instrument
    input.side input.qty input.limitPrice observed.status observed.lifecycle observed.filled
    observed.remaining transitionTime
  let truth ← exactTruth codec input order brokerTradeId observed.fill transitionTime
  let tradingDayIdentity ← initialTradingDay codec candidate observed
  let recordId := outcomeRecordId codec input.operationalIdentitySha256 brokerOrderId
    (preBook.transitionOrdinal + 1) observed.kind
  let finalized ← placeFinalization codec input recordId transitionTime
  let inserted ← preBook.insertOrReplace (initialRecord codec preBook input candidate observed brokerOrderId
    brokerTradeId order tradingDayIdentity sequences.2)
  let preBookSha256 ← preBook.canonicalSha256 codec
  let evidence := initialEvidence codec preBook input candidate observed brokerOrderId brokerTradeId sequences
    preBookSha256 (postBookStateSha256 codec inserted) finalized
  sealOutcome codec inserted evidence (if observed.lifecycle = .active then .working else .terminal)
    sequences.2
    (some {
      requestId := input.requestId
      clientOrderId := some input.durableClientOrderId
      brokerOrderId := some brokerOrderId
      status := .accepted
      reason := none
      receivedTs := transitionTime })
    (some truth)

end Initial

section Later

variable (codec : WorkingLimitCodec)

/-- The working order after a bar that left it alone. -/
def untouchedRecord (record : Stage8bP1d3OrderRecordV1) (candidate : Stage8bP1d3CanonicalM10Evidence)
    (step : Stage8bP1d3ScheduleStepAuthority) (ordinal : UInt64) : Stage8bP1d3OrderRecordV1 :=
  { record with
    lastEvaluatedM10RedisId := some candidate.redisId
    lastEvaluatedM10SemanticIdSha256 := some candidate.semanticIdSha256
    lastEvaluatedM10PayloadSha256 := some candidate.payloadSha256
    lastEvaluatedCloseTsUtcMs := some candidate.closeTsUtcMs
    scheduleFingerprintSha256 := step.scheduleFingerprintSha256
    tradingDayIdentity := step.tradingDayIdentity
    transitionOrdinal := ordinal }

def buildUntouchedEvaluation (preBook : Stage8bP1d3WorkingBookProjectionV1) (record : Stage8bP1d3OrderRecordV1)
    (candidate : Stage8bP1d3CanonicalM10Evidence) (step : Stage8bP1d3ScheduleStepAuthority)
    (sequenceFrontier : UInt64) (previousOutcomeEvidenceSha256 : HexText) :
    Except Stage8bP1d3Error Stage8bP1d3LaterEvaluationPlan := do
  let ordinal ← orReject (checkedAdd preBook.transitionOrdinal 1) .invalidTransition
  let inserted ← preBook.insertOrReplace (untouchedRecord record candidate step ordinal)
  let preBookSha256 ← preBook.canonicalSha256 codec
  let evidence : Stage8bP1d3EvaluationEvidenceV1 := {
    schemaVersion := 1
    domain := stage8bP1d3EvaluationEvidenceDomain
    operationalIdentitySha256 := preBook.operationalIdentitySha256
    packageGeneration := preBook.packageGeneration
    accountId := preBook.accountId
    instrument := preBook.instrument
    attributionFingerprintSha256 := attributionSha256 codec preBook.attribution
    brokerOrderId := record.brokerOrderId
    candidateM10RedisId := candidate.redisId
    candidateM10SemanticIdSha256 := candidate.semanticIdSha256
    candidateM10PayloadSha256 := candidate.payloadSha256
    candidateM10CanonicalBytesSha256 := candidate.canonicalBytesSha256
    candidateM10OpenTsUtcMs := candidate.openTsUtcMs
    candidateM10CloseTsUtcMs := candidate.closeTsUtcMs
    scheduleFingerprintSha256 := step.scheduleFingerprintSha256
    tradingDayIdentity := step.tradingDayIdentity
    lastEligibleM10RedisId := step.lastEligibleM10RedisId
    preBookSha256 := preBookSha256
    expectedPostBookSha256 := postBookStateSha256 codec inserted
    sequenceFrontier := sequenceFrontier
    transitionOrdinal := preBook.transitionOrdinal + 1
    previousOutcomeEvidenceSha256 := previousOutcomeEvidenceSha256 }
  let evidenceBytes ← encodeEvaluation codec evidence
  let postBook ← inserted.advance codec evidenceBytes .eval sequenceFrontier
  .ok (.untouched evidence evidenceBytes postBook)

structure AutonomousEnd where
  kind : Stage8bP1d3OutcomeKind
  status : OrderStatus
  filled : Decimal
  remaining : Decimal
  transitionTs : Int
  witnessKind : Stage8bP1d3ConsumedWitnessKind
  scheduleFingerprintSha256 : HexText
  tradingDayIdentity : String
  lastEligibleM10RedisId : String

inductive AutonomousCause where
  | filled (candidate : Stage8bP1d3CanonicalM10Evidence) (step : Stage8bP1d3ScheduleStepAuthority)
      (fillPrice : Option Decimal)
  | expired (expiry : Stage8bP1d3DayExpiryAuthority)

def AutonomousCause.candidate : AutonomousCause → Option Stage8bP1d3CanonicalM10Evidence
  | .filled candidate _ _ => some candidate
  | .expired _ => none

def AutonomousCause.expiry : AutonomousCause → Option Stage8bP1d3DayExpiryAuthority
  | .filled _ _ _ => none
  | .expired expiry => some expiry

def AutonomousCause.fillPrice : AutonomousCause → Option Decimal
  | .filled _ _ fillPrice => fillPrice
  | .expired _ => none

def autonomousEnd (record : Stage8bP1d3OrderRecordV1) (cause : AutonomousCause) :
    Except Stage8bP1d3Error AutonomousEnd :=
  match cause with
  | .filled bar step fillPrice => do
      let fill ← orReject fillPrice .invalidTransition
      rejectIf (fill ≤ Decimal.zero) .invalidDecimal
      let qty ← record.qty codec
      .ok {
        kind := .laterFilled
        status := .filled
        filled := qty
        remaining := Decimal.zero
        transitionTs := bar.closeTsUtcMs
        witnessKind := .scheduleStep
        scheduleFingerprintSha256 := step.scheduleFingerprintSha256
        tradingDayIdentity := step.tradingDayIdentity
        lastEligibleM10RedisId := step.lastEligibleM10RedisId }
  | .expired expiry => do
      let qty ← record.qty codec
      .ok {
        kind := .laterExpired
        status := .expired
        filled := Decimal.zero
        remaining := qty
        transitionTs := expiry.boundaryTsUtcMs
        witnessKind := .dayExpiry
        scheduleFingerprintSha256 := expiry.scheduleFingerprintSha256
        tradingDayIdentity := expiry.tradingDayIdentity
        lastEligibleM10RedisId := expiry.lastEligibleM10RedisId }

/-- The bar fields of a record, taken over from a candidate where there is one. -/
def evaluatedRecord (record : Stage8bP1d3OrderRecordV1) (candidate : Option Stage8bP1d3CanonicalM10Evidence) :
    Stage8bP1d3OrderRecordV1 :=
  match candidate with
  | some bar => { record with
      lastEvaluatedM10RedisId := some bar.redisId
      lastEvaluatedM10SemanticIdSha256 := some bar.semanticIdSha256
      lastEvaluatedM10PayloadSha256 := some bar.payloadSha256
      lastEvaluatedCloseTsUtcMs := some bar.closeTsUtcMs }
  | none => record

def autonomousRecord (preBook : Stage8bP1d3WorkingBookProjectionV1) (record : Stage8bP1d3OrderRecordV1)
    (candidate : Option Stage8bP1d3CanonicalM10Evidence) (ended : AutonomousEnd)
    (brokerTradeId : Option BrokerTradeId) (order : BrokerOrderSnapshot) (seqTruth : UInt64) :
    Stage8bP1d3OrderRecordV1 :=
  { evaluatedRecord record candidate with
    status := ended.status
    lifecycle := .terminal
    filledQtyDecimalBytes := codec.decimalSerialize ended.filled
    remainingQtyDecimalBytes := codec.decimalSerialize ended.remaining
    scheduleFingerprintSha256 := ended.scheduleFingerprintSha256
    tradingDayIdentity := ended.tradingDayIdentity
    latestOrderProjectionSha256 := sha256Hex codec (codec.orderToVec order)
    brokerTradeId := brokerTradeId
    totalSequenceFrontier := seqTruth
    transitionOrdinal := preBook.transitionOrdinal + 1 }

/-- `outcome_evidence`, as the later outcomes call it: without a request. -/
def autonomousEvidence (preBook : Stage8bP1d3WorkingBookProjectionV1) (input : Stage8bP1d3AutonomousInput)
    (record : Stage8bP1d3OrderRecordV1) (cause : AutonomousCause) (ended : AutonomousEnd) (seqTruth : UInt64)
    (preBookSha256 expectedPostBookSha256 : HexText) : Stage8bP1d3OutcomeEvidenceV1 :=
  { schemaVersion := stage8bP1d3OutcomeEvidenceSchemaVersion
    domain := stage8bP1d3OutcomeEvidenceDomain
    outcomeKind := ended.kind
    transitionOrdinal := preBook.transitionOrdinal + 1
    operationalIdentitySha256 := preBook.operationalIdentitySha256
    packageGeneration := preBook.packageGeneration
    accountId := preBook.accountId
    instrument := preBook.instrument
    attributionFingerprintSha256 := attributionSha256 codec preBook.attribution
    requestId := none
    durableRequestClientId := none
    canonicalCommandSha256 := none
    acceptedCommandPayloadSha256 := none
    acceptedStage6IdentitySha256 := record.acceptedStage6IdentitySha256
    targetPlaceClientId := some record.originalDurablePlaceClientId
    targetBrokerOrderId := some record.brokerOrderId
    sourceM10 := {
      redisId := some record.decisionM10RedisId
      semanticIdSha256 := some record.decisionM10SemanticIdSha256
      payloadSha256 := some record.decisionM10PayloadSha256
      openTsUtcMs := some record.decisionM10OpenTsUtcMs
      closeTsUtcMs := some record.decisionM10CloseTsUtcMs }
    candidateM10 := candidateM10Of cause.candidate
    consumedWitnessKind := ended.witnessKind
    scheduleFingerprintSha256 := ended.scheduleFingerprintSha256
    tradingDayIdentity := ended.tradingDayIdentity
    lastEligibleM10RedisId := ended.lastEligibleM10RedisId
    boundaryTsUtcMs := cause.expiry.map (·.boundaryTsUtcMs)
    preBookGeneration := preBook.packageGeneration
    preBookSha256 := preBookSha256
    expectedPostBookSha256 := expectedPostBookSha256
    brokerOrderId := record.brokerOrderId
    brokerTradeId := record.brokerTradeId
    side := record.side
    qtyDecimalBytes := record.qtyDecimalBytes
    limitPriceDecimalBytes := record.limitPriceDecimalBytes
    fillPriceDecimalBytes := cause.fillPrice.map codec.decimalSerialize
    prePositionQtyDecimalBytes := codec.decimalSerialize input.prePositionQty
    prePositionAvgPriceDecimalBytes := input.prePositionAvgPrice.map codec.decimalSerialize
    transitionSourceTsUtcMs := ended.transitionTs
    transitionReceivedTsUtcMs := ended.transitionTs
    reservedSeqAck := none
    reservedSeqTruth := some seqTruth
    sequenceAllocationFrontier := input.sequenceAllocationFrontier
    stage6DispatchRecordId := none
    stage6OutcomeRecordId := outcomeRecordId codec input.operationalIdentitySha256 record.brokerOrderId
      (preBook.transitionOrdinal + 1) ended.kind
    stage6PredecessorFrontierSha256 := input.stage6PredecessorFrontierSha256
    stage6ReservedCheckpointSha256 := input.stage6ReservedCheckpointSha256
    stage7RequestFinalizedRecordId := none
    stage7RequestFinalizedFingerprintSha256 := none
    previousOutcomeEvidenceSha256 := input.previousOutcomeEvidenceSha256 }

def buildAutonomousOutcome (preBook : Stage8bP1d3WorkingBookProjectionV1) (input : Stage8bP1d3AutonomousInput)
    (record : Stage8bP1d3OrderRecordV1) (cause : AutonomousCause) :
    Except Stage8bP1d3Error Stage8bP1d3TransitionPlan := do
  let ended ← autonomousEnd codec record cause
  let seqTruth ← orReject (checkedAdd input.sequenceAllocationFrontier 1) .invalidSequence
  let timestamp ← exactTimestamp codec ended.transitionTs
  let receiptTimestamp ← orderedAutonomousReceiptTimestamp codec timestamp ended.kind
    (cause.expiry.any (·.hasV4Proof))
  let tradeId := (zip cause.fillPrice cause.candidate).map fun (_, bar) =>
    deriveTradeId codec record.brokerOrderId bar.semanticIdSha256
  let qty ← record.qty codec
  let limit ← record.limitPrice codec
  let order := exactOrderSnapshot record.accountId record.brokerOrderId record.originalDurablePlaceClientId
    record.instrument record.side qty limit ended.status .terminal ended.filled ended.remaining receiptTimestamp
  let truth ← exactTruthFromRecord codec record order tradeId cause.fillPrice input.prePositionQty
    input.prePositionAvgPrice receiptTimestamp
  let changed := autonomousRecord codec preBook record cause.candidate ended tradeId order seqTruth
  let inserted ← preBook.insertOrReplace changed
  let preBookSha256 ← preBook.canonicalSha256 codec
  let evidence := autonomousEvidence codec preBook input changed cause ended seqTruth preBookSha256
    (postBookStateSha256 codec inserted)
  sealOutcome codec inserted evidence .terminal seqTruth none (some truth)

/-- The bar was evaluated before: nothing to do if it is the same bar. -/
def alreadyEvaluated (preBook : Stage8bP1d3WorkingBookProjectionV1) (record : Stage8bP1d3OrderRecordV1)
    (candidate : Stage8bP1d3CanonicalM10Evidence) : Except Stage8bP1d3Error Stage8bP1d3LaterEvaluationPlan := do
  rejectIf (record.lastEvaluatedM10SemanticIdSha256 ≠ some candidate.semanticIdSha256 ∨
    record.lastEvaluatedM10PayloadSha256 ≠ some candidate.payloadSha256 ∨
    record.lastEvaluatedCloseTsUtcMs ≠ some candidate.closeTsUtcMs) .identityMismatch
  .ok (.alreadyEvaluated preBook)

def evaluateCandidate (preBook : Stage8bP1d3WorkingBookProjectionV1) (input : Stage8bP1d3AutonomousInput)
    (record : Stage8bP1d3OrderRecordV1) (candidate : Stage8bP1d3CanonicalM10Evidence)
    (step : Stage8bP1d3ScheduleStepAuthority) : Except Stage8bP1d3Error Stage8bP1d3LaterEvaluationPlan := do
  let predecessor ← orReject record.lastEvaluatedM10RedisId .invalidChronology
  validateWorkingStep codec step predecessor candidate
  let limit ← record.limitPrice codec
  let (decision, fill) ← decideLimit record.side limit candidate
  match decision with
  | .working =>
      buildUntouchedEvaluation codec preBook record candidate step input.sequenceAllocationFrontier
        input.previousOutcomeEvidenceSha256
  | .filled => .outcome <$> buildAutonomousOutcome codec preBook input record (.filled candidate step fill)

def buildLaterLimitTransition (preBook : Stage8bP1d3WorkingBookProjectionV1) (input : Stage8bP1d3AutonomousInput)
    (candidate : Option Stage8bP1d3CanonicalM10Evidence) (step : Option Stage8bP1d3ScheduleStepAuthority)
    (expiry : Option Stage8bP1d3DayExpiryAuthority) :
    Except Stage8bP1d3Error Stage8bP1d3LaterEvaluationPlan := do
  preBook.validate codec
  validateAutonomousInput preBook input
  let record ← orReject preBook.activeRecord .invalidTransition
  match candidate, step, expiry with
  | some candidate, some step, none => do
      validateScopedBar preBook candidate
      if record.lastEvaluatedM10RedisId = some candidate.redisId then alreadyEvaluated preBook record candidate
      else evaluateCandidate codec preBook input record candidate step
  | none, none, some expiry => do
      validateExpiry codec record expiry
      .outcome <$> buildAutonomousOutcome codec preBook input record (.expired expiry)
  | _, _, _ => .error .invalidTransition

end Later

section Cancel

variable (codec : WorkingLimitCodec)

/-- What a cancel does: its acknowledgement, its sequences, and the canceled order
where there was one to cancel. -/
structure CancelEffect where
  ackStatus : CommandAckStatus
  ackReason : Option CommandAckReason
  seqAck : UInt64
  seqTruth : Option UInt64
  truth : Option BrokerTruthSnapshot
  record : Stage8bP1d3OrderRecordV1
  changedBook : Bool

def canceledRecord (preBook : Stage8bP1d3WorkingBookProjectionV1) (record : Stage8bP1d3OrderRecordV1)
    (candidate : Stage8bP1d3CanonicalM10Evidence) (step : Stage8bP1d3ScheduleStepAuthority)
    (order : BrokerOrderSnapshot) (seqTruth : UInt64) : Stage8bP1d3OrderRecordV1 :=
  { record with
    status := .canceled
    lifecycle := .terminal
    lastEvaluatedM10RedisId := some candidate.redisId
    lastEvaluatedM10SemanticIdSha256 := some candidate.semanticIdSha256
    lastEvaluatedM10PayloadSha256 := some candidate.payloadSha256
    lastEvaluatedCloseTsUtcMs := some candidate.closeTsUtcMs
    scheduleFingerprintSha256 := step.scheduleFingerprintSha256
    tradingDayIdentity := step.tradingDayIdentity
    latestOrderProjectionSha256 := sha256Hex codec (codec.orderToVec order)
    totalSequenceFrontier := seqTruth
    transitionOrdinal := preBook.transitionOrdinal + 1 }

def canceledTruth (accountId : BrokerAccountId) (order : BrokerOrderSnapshot) (timestamp : DateTimeUtc) :
    BrokerTruthSnapshot :=
  { accountId := accountId
    orders := [order]
    positions := []
    cash := none
    trades := []
    instruments := []
    receivedTs := timestamp }

def cancelWorkingOrder (preBook : Stage8bP1d3WorkingBookProjectionV1) (record : Stage8bP1d3OrderRecordV1)
    (candidate : Stage8bP1d3CanonicalM10Evidence) (step : Stage8bP1d3ScheduleStepAuthority)
    (sequenceFrontier : UInt64) (timestamp : DateTimeUtc) : Except Stage8bP1d3Error CancelEffect := do
  rejectIf (record.lifecycle ≠ .active ∨ record.status ≠ .working) .invalidTransition
  let sequences ← allocatePair sequenceFrontier
  let qty ← record.qty codec
  let limit ← record.limitPrice codec
  let order := exactOrderSnapshot record.accountId record.brokerOrderId record.originalDurablePlaceClientId
    record.instrument record.side qty limit .canceled .terminal Decimal.zero qty timestamp
  .ok {
    ackStatus := .accepted
    ackReason := none
    seqAck := sequences.1
    seqTruth := some sequences.2
    truth := some (canceledTruth record.accountId order timestamp)
    record := canceledRecord codec preBook record candidate step order sequences.2
    changedBook := true }

/-- The target had already ended: acknowledge that and leave the book alone. -/
def observeEndedOrder (record : Stage8bP1d3OrderRecordV1) (sequenceFrontier : UInt64) :
    Except Stage8bP1d3Error CancelEffect := do
  rejectIf (record.lifecycle ≠ .terminal) .invalidTransition
  let seqAck ← orReject (checkedAdd sequenceFrontier 1) .invalidSequence
  .ok {
    ackStatus := .recovered
    ackReason := some { code := .recoveredByBrokerTruth }
    seqAck := seqAck
    seqTruth := none
    truth := none
    record := record
    changedBook := false }

def cancelEffect (preBook : Stage8bP1d3WorkingBookProjectionV1) (record : Stage8bP1d3OrderRecordV1)
    (kind : Stage8bP1d3OutcomeKind) (candidate : Stage8bP1d3CanonicalM10Evidence)
    (step : Stage8bP1d3ScheduleStepAuthority) (sequenceFrontier : UInt64) (timestamp : DateTimeUtc) :
    Except Stage8bP1d3Error CancelEffect :=
  match kind with
  | .cancelCanceled => cancelWorkingOrder codec preBook record candidate step sequenceFrontier timestamp
  | .cancelExecutionObserved | .cancelAlreadyTerminalNonExecution => observeEndedOrder record sequenceFrontier
  | _ => .error .invalidTransition

def cancelFinalization (input : Stage8bP1d3CancelInput) (outcomeRecordId : HexText)
    (outcomeLifecycleSequence : UInt64) (timestamp : DateTimeUtc) :
    Except Stage8bP1d3Error (HexText × HexText) := do
  let createdTs ← exactTimestamp codec input.decisionM10CloseTsUtcMs
  let cancelIdentity ← (Stage6DurableRequestIdentityV1.fromCancel {
      requestId := input.requestId
      createdTs := createdTs
      ttlMs := none
      accountId := input.accountId
      orderId := input.targetBrokerOrderId
      clientOrderId := input.targetPlaceClientId } input.instrument input.attribution).mapError
    fun _ => .identityMismatch
  requestFinalizationBinding codec cancelIdentity outcomeRecordId outcomeLifecycleSequence timestamp

structure CancelPredecessors where
  previousOutcomeEvidenceSha256 : HexText
  stage6PredecessorFrontierSha256 : HexText
  stage6ReservedCheckpointSha256 : HexText

def cancelEvidence (preBook : Stage8bP1d3WorkingBookProjectionV1) (input : Stage8bP1d3CancelInput)
    (kind : Stage8bP1d3OutcomeKind) (effect : CancelEffect) (candidate : Stage8bP1d3CanonicalM10Evidence)
    (step : Stage8bP1d3ScheduleStepAuthority) (sequenceFrontier ordinal : UInt64)
    (predecessors : CancelPredecessors) (preBookSha256 expectedPostBookSha256 : HexText)
    (finalized : HexText × HexText) : Stage8bP1d3OutcomeEvidenceV1 :=
  { schemaVersion := stage8bP1d3OutcomeEvidenceSchemaVersion
    domain := stage8bP1d3OutcomeEvidenceDomain
    outcomeKind := kind
    transitionOrdinal := ordinal
    operationalIdentitySha256 := input.operationalIdentitySha256
    packageGeneration := input.packageGeneration
    accountId := input.accountId
    instrument := input.instrument
    attributionFingerprintSha256 := attributionSha256 codec input.attribution
    requestId := some input.requestId
    durableRequestClientId := some input.durableRequestClientId
    canonicalCommandSha256 := some input.canonicalCommandSha256
    acceptedCommandPayloadSha256 := some input.acceptedCommandPayloadSha256
    acceptedStage6IdentitySha256 := input.acceptedStage6IdentitySha256
    targetPlaceClientId := some effect.record.originalDurablePlaceClientId
    targetBrokerOrderId := some effect.record.brokerOrderId
    sourceM10 := {
      redisId := some input.decisionM10RedisId
      semanticIdSha256 := some input.decisionM10SemanticIdSha256
      payloadSha256 := some input.decisionM10PayloadSha256
      openTsUtcMs := some input.decisionM10OpenTsUtcMs
      closeTsUtcMs := some input.decisionM10CloseTsUtcMs }
    candidateM10 := candidateM10Of (some candidate)
    consumedWitnessKind := .scheduleStep
    scheduleFingerprintSha256 := step.scheduleFingerprintSha256
    tradingDayIdentity := step.tradingDayIdentity
    lastEligibleM10RedisId := step.lastEligibleM10RedisId
    boundaryTsUtcMs := none
    preBookGeneration := preBook.packageGeneration
    preBookSha256 := preBookSha256
    expectedPostBookSha256 := expectedPostBookSha256
    brokerOrderId := effect.record.brokerOrderId
    brokerTradeId := effect.record.brokerTradeId
    side := effect.record.side
    qtyDecimalBytes := effect.record.qtyDecimalBytes
    limitPriceDecimalBytes := effect.record.limitPriceDecimalBytes
    fillPriceDecimalBytes := none
    prePositionQtyDecimalBytes := codec.decimalSerialize input.prePositionQty
    prePositionAvgPriceDecimalBytes := input.prePositionAvgPrice.map codec.decimalSerialize
    transitionSourceTsUtcMs := candidate.closeTsUtcMs
    transitionReceivedTsUtcMs := candidate.closeTsUtcMs
    reservedSeqAck := some effect.seqAck
    reservedSeqTruth := effect.seqTruth
    sequenceAllocationFrontier := sequenceFrontier
    stage6DispatchRecordId := some input.stage6DispatchRecordId
    stage6OutcomeRecordId := outcomeRecordId codec input.operationalIdentitySha256 effect.record.brokerOrderId
      ordinal kind
    stage6PredecessorFrontierSha256 := predecessors.stage6PredecessorFrontierSha256
    stage6ReservedCheckpointSha256 := predecessors.stage6ReservedCheckpointSha256
    stage7RequestFinalizedRecordId := some finalized.1
    stage7RequestFinalizedFingerprintSha256 := some finalized.2
    previousOutcomeEvidenceSha256 := predecessors.previousOutcomeEvidenceSha256 }

def cancelAck (input : Stage8bP1d3CancelInput) (effect : CancelEffect) (timestamp : DateTimeUtc) : CommandAck :=
  { requestId := input.requestId
    clientOrderId := some input.durableRequestClientId
    brokerOrderId := some effect.record.brokerOrderId
    status := effect.ackStatus
    reason := effect.ackReason
    receivedTs := timestamp }

def recoveredPlan (preBook : Stage8bP1d3WorkingBookProjectionV1) (evidence : Stage8bP1d3OutcomeEvidenceV1)
    (ack : CommandAck) : Except Stage8bP1d3Error Stage8bP1d3TransitionPlan := do
  let evidenceBytes ← evidence.encodeCanonical codec.toOutcomeEvidenceCodec
  let evidenceSha256 ← evidence.digestSha256 codec.toOutcomeEvidenceCodec
  .ok {
    evidence := evidence
    evidenceBytes := evidenceBytes
    evidenceSha256 := evidenceSha256
    postBook := preBook
    ack := some ack
    truth := none }

def buildCancelOutcome (preBook : Stage8bP1d3WorkingBookProjectionV1) (input : Stage8bP1d3CancelInput)
    (record : Stage8bP1d3OrderRecordV1) (kind : Stage8bP1d3OutcomeKind)
    (candidate : Stage8bP1d3CanonicalM10Evidence) (step : Stage8bP1d3ScheduleStepAuthority)
    (sequenceFrontier : UInt64) (predecessors : CancelPredecessors) (outcomeLifecycleSequence : UInt64) :
    Except Stage8bP1d3Error Stage8bP1d3TransitionPlan := do
  let timestamp ← exactTimestamp codec candidate.closeTsUtcMs
  let effect ← cancelEffect codec preBook record kind candidate step sequenceFrontier timestamp
  let preBookSha256 ← preBook.canonicalSha256 codec
  if effect.changedBook then do
    let inserted ← preBook.insertOrReplace effect.record
    let finalized ← cancelFinalization codec input (outcomeRecordId codec input.operationalIdentitySha256
      effect.record.brokerOrderId (preBook.transitionOrdinal + 1) kind) outcomeLifecycleSequence timestamp
    let evidence := cancelEvidence codec preBook input kind effect candidate step sequenceFrontier
      (preBook.transitionOrdinal + 1) predecessors preBookSha256 (postBookStateSha256 codec inserted) finalized
    let seqTruth ← orReject effect.seqTruth .invalidSequence
    sealOutcome codec inserted evidence .terminal seqTruth (some (cancelAck input effect timestamp)) effect.truth
  else do
    let finalized ← cancelFinalization codec input (outcomeRecordId codec input.operationalIdentitySha256
      effect.record.brokerOrderId preBook.transitionOrdinal kind) outcomeLifecycleSequence timestamp
    let evidence := cancelEvidence codec preBook input kind effect candidate step sequenceFrontier
      preBook.transitionOrdinal predecessors preBookSha256 preBookSha256 finalized
    recoveredPlan codec preBook evidence (cancelAck input effect timestamp)

def cancelPredecessors (input : Stage8bP1d3CancelInput) : CancelPredecessors :=
  { previousOutcomeEvidenceSha256 := input.previousOutcomeEvidenceSha256
    stage6PredecessorFrontierSha256 := input.stage6PredecessorFrontierSha256
    stage6ReservedCheckpointSha256 := input.stage6ReservedCheckpointSha256 }

def fillThenCancel (preBook : Stage8bP1d3WorkingBookProjectionV1) (input : Stage8bP1d3CancelInput)
    (record : Stage8bP1d3OrderRecordV1) (candidate : Stage8bP1d3CanonicalM10Evidence)
    (step : Stage8bP1d3ScheduleStepAuthority) (fill : Option Decimal) :
    Except Stage8bP1d3Error Stage8bP1d3CancelTransitionPlan := do
  let targetCheckpoint ← orReject input.targetStage6ReservedCheckpointSha256 .identityMismatch
  let target ← buildAutonomousOutcome codec preBook {
      operationalIdentitySha256 := input.operationalIdentitySha256
      packageGeneration := input.packageGeneration
      accountId := input.accountId
      instrument := input.instrument
      attribution := input.attribution
      prePositionQty := input.prePositionQty
      prePositionAvgPrice := input.prePositionAvgPrice
      sequenceAllocationFrontier := input.sequenceAllocationFrontier
      stage6PredecessorFrontierSha256 := input.stage6PredecessorFrontierSha256
      stage6ReservedCheckpointSha256 := targetCheckpoint
      previousOutcomeEvidenceSha256 := input.previousOutcomeEvidenceSha256 } record
    (.filled candidate step fill)
  .ok (.targetThenCancel target {
    input := input
    candidate := candidate
    step := step
    expectedTargetPostBookSha256 := postBookStateSha256 codec target.postBook
    targetOutcomeEvidenceSha256 := target.evidenceSha256 })

def cancelDirectly (preBook : Stage8bP1d3WorkingBookProjectionV1) (input : Stage8bP1d3CancelInput)
    (record : Stage8bP1d3OrderRecordV1) (kind : Stage8bP1d3OutcomeKind)
    (candidate : Stage8bP1d3CanonicalM10Evidence) (step : Stage8bP1d3ScheduleStepAuthority) :
    Except Stage8bP1d3Error Stage8bP1d3CancelTransitionPlan := do
  rejectIf (input.targetStage6ReservedCheckpointSha256.isSome = true) .identityMismatch
  let outcomeSequence ← orReject (checkedAdd input.stage6DispatchLifecycleSequence 1) .invalidSequence
  .ready <$> buildCancelOutcome codec preBook input record kind candidate step input.sequenceAllocationFrontier
    (cancelPredecessors input) outcomeSequence

def endedOutcomeKind (status : OrderStatus) : Except Stage8bP1d3Error Stage8bP1d3OutcomeKind :=
  match status with
  | .filled => .ok .cancelExecutionObserved
  | .canceled | .expired | .rejected => .ok .cancelAlreadyTerminalNonExecution
  | _ => .error .invalidTransition

def cancelActive (preBook : Stage8bP1d3WorkingBookProjectionV1) (input : Stage8bP1d3CancelInput)
    (record : Stage8bP1d3OrderRecordV1) (candidate : Stage8bP1d3CanonicalM10Evidence)
    (step : Stage8bP1d3ScheduleStepAuthority) : Except Stage8bP1d3Error Stage8bP1d3CancelTransitionPlan := do
  let limit ← record.limitPrice codec
  let (decision, fill) ← decideLimit record.side limit candidate
  match decision with
  | .filled => fillThenCancel codec preBook input record candidate step fill
  | .working => cancelDirectly codec preBook input record .cancelCanceled candidate step

def buildCancelTransition (preBook : Stage8bP1d3WorkingBookProjectionV1) (input : Stage8bP1d3CancelInput)
    (candidate : Stage8bP1d3CanonicalM10Evidence) (step : Stage8bP1d3ScheduleStepAuthority) :
    Except Stage8bP1d3Error Stage8bP1d3CancelTransitionPlan := do
  preBook.validate codec
  validateCancelInput preBook input
  validateScopedBar preBook candidate
  rejectIf (candidate.closeTsUtcMs ≤ input.decisionM10CloseTsUtcMs ∨
    candidate.redisId = input.decisionM10RedisId) .invalidChronology
  let record ← orReject (preBook.record input.targetBrokerOrderId) .invalidRegistry
  rejectIf (input.targetPlaceClientId.any (fun value => value ≠ record.originalDurablePlaceClientId) = true)
    .identityMismatch
  validateCancelStep codec step (record.lastEvaluatedM10RedisId.getD record.decisionM10RedisId) candidate
  if record.lifecycle = .active then cancelActive codec preBook input record candidate step
  else do
    let kind ← endedOutcomeKind record.status
    cancelDirectly codec preBook input record kind candidate step

def candidateOfTarget (target : Stage8bP1d3OutcomeEvidenceV1) (fillPrice : Decimal) :
    Except Stage8bP1d3Error Stage8bP1d3CanonicalM10Evidence := do
  let redisId ← orReject target.candidateM10.redisId .invalidChronology
  let semanticId ← orReject target.candidateM10.semanticIdSha256 .invalidChronology
  let payload ← orReject target.candidateM10.payloadSha256 .invalidChronology
  let closed ← orReject target.candidateM10.closeTsUtcMs .invalidChronology
  let opened ← orReject target.candidateM10.openTsUtcMs .invalidChronology
  .ok {
    redisId := redisId
    semanticIdSha256 := semanticId
    payloadSha256 := payload
    canonicalBytesSha256 := payload
    operationalIdentitySha256 := target.operationalIdentitySha256
    instrument := target.instrument
    openTsUtcMs := opened
    closeTsUtcMs := closed
    opened := fillPrice
    high := fillPrice
    low := fillPrice
    closed := fillPrice }

def buildCancelAfterTargetTransition (preBook : Stage8bP1d3WorkingBookProjectionV1)
    (input : Stage8bP1d3CancelInput) (target : Stage8bP1d3OutcomeEvidenceV1) :
    Except Stage8bP1d3Error Stage8bP1d3TransitionPlan := do
  preBook.validate codec
  target.validate codec.toOutcomeEvidenceCodec
  rejectIf (target.outcomeKind ≠ .laterFilled ∨ target.requestId.isSome = true ∨
    target.brokerOrderId ≠ input.targetBrokerOrderId) .identityMismatch
  let targetSha256 ← target.digestSha256 codec.toOutcomeEvidenceCodec
  rejectIf (targetSha256 ≠ input.previousOutcomeEvidenceSha256 ∨
    target.expectedPostBookSha256 ≠ postBookStateSha256 codec preBook ∨
    target.candidateM10.redisId ≠ some (toString target.transitionSourceTsUtcMs ++ "-0")) .identityMismatch
  let fillPriceBytes ← orReject target.fillPriceDecimalBytes .invalidTransition
  let fillPrice ← Stage8bP1d3OutcomeEvidenceV1.decimal codec.toOutcomeEvidenceCodec fillPriceBytes
  let candidate ← candidateOfTarget target fillPrice
  let step : Stage8bP1d3ScheduleStepAuthority := {
    scheduleFingerprintSha256 := target.scheduleFingerprintSha256
    tradingDayIdentity := target.tradingDayIdentity
    lastEligibleM10RedisId := target.lastEligibleM10RedisId
    predecessorRedisId := candidate.redisId
    candidateRedisId := candidate.redisId
    route := .legacy }
  validateCancelInput preBook input
  let record ← orReject (preBook.record input.targetBrokerOrderId) .invalidRegistry
  rejectIf (record.lifecycle ≠ .terminal ∨ record.status ≠ .filled) .invalidTransition
  let outcomeSequence ← orReject (checkedAdd input.stage6DispatchLifecycleSequence 2) .invalidSequence
  buildCancelOutcome codec preBook input record .cancelExecutionObserved candidate step
    input.sequenceAllocationFrontier (cancelPredecessors input) outcomeSequence

/-- `Stage8bP1d3DeferredCancelAfterTarget::complete`. -/
def Stage8bP1d3DeferredCancelAfterTarget.complete (deferred : Stage8bP1d3DeferredCancelAfterTarget)
    (targetBook : Stage8bP1d3WorkingBookProjectionV1) (postTargetCheckpointSha256 : HexText) :
    Except Stage8bP1d3Error Stage8bP1d3TransitionPlan := do
  targetBook.validate codec
  rejectIf (isCanonicalSha256 postTargetCheckpointSha256 = false ∨
    postBookStateSha256 codec targetBook ≠ deferred.expectedTargetPostBookSha256) .identityMismatch
  let record ← orReject (targetBook.record deferred.input.targetBrokerOrderId) .invalidRegistry
  rejectIf (record.lifecycle ≠ .terminal ∨ record.status ≠ .filled) .invalidTransition
  let input := { deferred.input with
    sequenceAllocationFrontier := targetBook.totalSequenceFrontier
    stage6PredecessorFrontierSha256 := postTargetCheckpointSha256
    targetStage6ReservedCheckpointSha256 := none
    previousOutcomeEvidenceSha256 := deferred.targetOutcomeEvidenceSha256 }
  let outcomeSequence ← orReject (checkedAdd input.stage6DispatchLifecycleSequence 2) .invalidSequence
  buildCancelOutcome codec targetBook input record .cancelExecutionObserved deferred.candidate deferred.step
    targetBook.totalSequenceFrontier (cancelPredecessors input) outcomeSequence

end Cancel

end TradingGateway.Stage8b.WorkingLimitBuilders
