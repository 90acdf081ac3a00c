import TradingGateway.Stage8b.WorkingLimitBuilders

/-! Recovery of a transition from its journal record alone: the same book, answer and
truth, computed from the authenticated outcome evidence. -/

set_option autoImplicit false

namespace TradingGateway.Stage8b.WorkingLimitRecovery

open BrokerCore.FixedPoint BrokerCore.HybridAttribution BrokerCore.Identifiers BrokerCore.OperationalSnapshot
open BrokerCore.Orders Stage6.JournalRecord
open WorkingLimitBook WorkingLimitBuilders WorkingLimitEvidence WorkingLimitInputs WorkingLimitProjections
open Foundation.ExceptRun

structure Stage8bP1d3AuthenticatedOutcomeEvidence where
  evidence : Stage8bP1d3OutcomeEvidenceV1
  canonicalBytes : List UInt8

structure Stage8bP1d3Stage6RecoveryBinding where
  outcomeRecordId : HexText
  predecessorFrontierSha256 : HexText
  reservedCheckpointSha256 : HexText
  requestFinalizedRecordId : Option HexText
  requestFinalizedFingerprintSha256 : Option HexText
  authenticatedPostCheckpointSha256 : HexText

def authenticateStage8bP1d3OutcomeEvidence (codec : OutcomeEvidenceCodec) (canonicalBytes : List UInt8)
    (binding : Stage8bP1d3Stage6RecoveryBinding) :
    Except Stage8bP1d3Error Stage8bP1d3AuthenticatedOutcomeEvidence := do
  let evidence ← Stage8bP1d3OutcomeEvidenceV1.decodeCanonical codec canonicalBytes
  rejectIf (isCanonicalSha256 binding.outcomeRecordId = false ∨
    isCanonicalSha256 binding.predecessorFrontierSha256 = false ∨
    isCanonicalSha256 binding.reservedCheckpointSha256 = false ∨
    isCanonicalSha256 binding.authenticatedPostCheckpointSha256 = false ∨
    evidence.stage6OutcomeRecordId ≠ binding.outcomeRecordId ∨
    evidence.stage6PredecessorFrontierSha256 ≠ binding.predecessorFrontierSha256 ∨
    evidence.stage6ReservedCheckpointSha256 ≠ binding.reservedCheckpointSha256 ∨
    evidence.stage7RequestFinalizedRecordId ≠ binding.requestFinalizedRecordId ∨
    evidence.stage7RequestFinalizedFingerprintSha256 ≠ binding.requestFinalizedFingerprintSha256) .identityMismatch
  .ok { evidence := evidence, canonicalBytes := canonicalBytes }

structure RecoveredInputs where
  timestamp : DateTimeUtc
  qty : Decimal
  limit : Decimal
  fill : Option Decimal
  prePositionQty : Decimal
  prePositionAvg : Option Decimal

structure RecoveredEffect where
  postBook : Stage8bP1d3WorkingBookProjectionV1
  ack : Option CommandAck
  truth : Option BrokerTruthSnapshot
  changedBook : Bool
  phase : Stage8bP1d3BookPhase

section Recovery

variable (codec : WorkingLimitCodec)

def exactBoundRecord (book : Stage8bP1d3WorkingBookProjectionV1) (evidence : Stage8bP1d3OutcomeEvidenceV1)
    (requireActive : Bool) : Except Stage8bP1d3Error Stage8bP1d3OrderRecordV1 := do
  let record ← orReject (book.record evidence.brokerOrderId) .invalidRegistry
  let targetPlaceClientId ← orReject evidence.targetPlaceClientId .identityMismatch
  rejectIf ((requireActive = true ∧ record.lifecycle ≠ .active) ∨ record.accountId ≠ evidence.accountId ∨
    record.instrument ≠ evidence.instrument ∨ record.side ≠ evidence.side ∨
    record.qtyDecimalBytes ≠ evidence.qtyDecimalBytes ∨
    record.limitPriceDecimalBytes ≠ evidence.limitPriceDecimalBytes ∨
    record.originalDurablePlaceClientId ≠ targetPlaceClientId ∨
    (evidence.outcomeKind.isCancelScoped = false ∧
      record.acceptedStage6IdentitySha256 ≠ evidence.acceptedStage6IdentitySha256)) .identityMismatch
  .ok record

def verifyTradeIdentity (evidence : Stage8bP1d3OutcomeEvidenceV1) : Except Stage8bP1d3Error Unit :=
  let expected := evidence.candidateM10.semanticIdSha256.map (deriveTradeId codec evidence.brokerOrderId)
  rejectIf (evidence.outcomeKind.isFilled ≠ evidence.brokerTradeId.isSome ∨
    (evidence.outcomeKind.isFilled = true ∧ expected ≠ evidence.brokerTradeId)) .identityMismatch

def exactCancelRequestIdentity (evidence : Stage8bP1d3OutcomeEvidenceV1) :
    Except Stage8bP1d3Error StrategyRequestId := do
  let requestId ← orReject evidence.requestId .identityMismatch
  rejectIf (evidence.durableRequestClientId ≠ some (ClientOrderId.fromStrategyRequest requestId) ∨
    evidence.durableRequestClientId = evidence.targetPlaceClientId) .identityMismatch
  .ok requestId

def exactCancelAck (evidence : Stage8bP1d3OutcomeEvidenceV1) (requestId : StrategyRequestId) (recovered : Bool)
    (timestamp : DateTimeUtc) : Except Stage8bP1d3Error CommandAck := do
  let durableRequestClientId ← orReject evidence.durableRequestClientId .identityMismatch
  .ok {
    requestId := requestId
    clientOrderId := some durableRequestClientId
    brokerOrderId := some evidence.brokerOrderId
    status := if recovered then .recovered else .accepted
    reason := if recovered then some { code := .recoveredByBrokerTruth } else none
    receivedTs := timestamp }

def expectedAttribution (preBook : Stage8bP1d3WorkingBookProjectionV1) (kind : Stage8bP1d3OutcomeKind) :
    Except Stage8bP1d3Error HybridRuntimeAttribution :=
  if kind.isCancelScoped then cancelAttribution preBook.attribution else .ok preBook.attribution

def checkScope (preBook : Stage8bP1d3WorkingBookProjectionV1) (evidence : Stage8bP1d3OutcomeEvidenceV1) :
    Except Stage8bP1d3Error Unit := do
  let attribution ← expectedAttribution preBook evidence.outcomeKind
  rejectIf (evidence.operationalIdentitySha256 ≠ preBook.operationalIdentitySha256 ∨
    evidence.packageGeneration ≠ preBook.packageGeneration ∨
    evidence.preBookGeneration ≠ preBook.packageGeneration ∨ evidence.accountId ≠ preBook.accountId ∨
    evidence.instrument ≠ preBook.instrument ∨
    evidence.attributionFingerprintSha256 ≠ attributionSha256 codec attribution) .identityMismatch
  let preBookSha256 ← preBook.canonicalSha256 codec
  rejectIf (evidence.preBookSha256 ≠ preBookSha256) .identityMismatch

def recoverInputs (evidence : Stage8bP1d3OutcomeEvidenceV1) : Except Stage8bP1d3Error RecoveredInputs := do
  let timestamp ← exactTimestamp codec evidence.transitionSourceTsUtcMs
  let qty ← Stage8bP1d3OutcomeEvidenceV1.decimal codec.toOutcomeEvidenceCodec evidence.qtyDecimalBytes
  let limit ← Stage8bP1d3OutcomeEvidenceV1.decimal codec.toOutcomeEvidenceCodec evidence.limitPriceDecimalBytes
  let fill ← Stage8bP1d3OutcomeEvidenceV1.decimalOption codec.toOutcomeEvidenceCodec
    evidence.fillPriceDecimalBytes
  let prePositionQty ← Stage8bP1d3OutcomeEvidenceV1.decimal codec.toOutcomeEvidenceCodec
    evidence.prePositionQtyDecimalBytes
  let prePositionAvg ← Stage8bP1d3OutcomeEvidenceV1.decimalOption codec.toOutcomeEvidenceCodec
    evidence.prePositionAvgPriceDecimalBytes
  .ok {
    timestamp := timestamp
    qty := qty
    limit := limit
    fill := fill
    prePositionQty := prePositionQty
    prePositionAvg := prePositionAvg }

/-- Status, lifecycle, filled and remaining quantity of a first observation. -/
def initialShape (kind : Stage8bP1d3OutcomeKind) (qty : Decimal) :
    OrderStatus × BrokerOrderLifecycle × Decimal × Decimal :=
  match kind with
  | .initialWorking => (.working, .active, Decimal.zero, qty)
  | .initialFilled => (.filled, .terminal, qty, Decimal.zero)
  | _ => (.expired, .terminal, Decimal.zero, qty)

def recoverInitialRecord (preBook : Stage8bP1d3WorkingBookProjectionV1) (evidence : Stage8bP1d3OutcomeEvidenceV1)
    (requestId : StrategyRequestId) (clientId : ClientOrderId) (commandSha256 : HexText)
    (shape : OrderStatus × BrokerOrderLifecycle × Decimal × Decimal) (order : BrokerOrderSnapshot) :
    Except Stage8bP1d3Error Stage8bP1d3OrderRecordV1 := do
  let decisionM10RedisId ← orReject evidence.sourceM10.redisId .identityMismatch
  let decisionM10SemanticIdSha256 ← orReject evidence.sourceM10.semanticIdSha256 .identityMismatch
  let decisionM10PayloadSha256 ← orReject evidence.sourceM10.payloadSha256 .identityMismatch
  let decisionM10OpenTsUtcMs ← orReject evidence.sourceM10.openTsUtcMs .identityMismatch
  let decisionM10CloseTsUtcMs ← orReject evidence.sourceM10.closeTsUtcMs .identityMismatch
  let totalSequenceFrontier ← orReject evidence.reservedSeqTruth .invalidSequence
  .ok {
    brokerOrderId := evidence.brokerOrderId
    originalRequestId := requestId
    originalDurablePlaceClientId := clientId
    canonicalCommandSha256 := commandSha256
    acceptedStage6IdentitySha256 := evidence.acceptedStage6IdentitySha256
    deterministicOrderFingerprintSha256 := orderFingerprintSha256 codec evidence.brokerOrderId requestId clientId
      commandSha256
    accountId := evidence.accountId
    instrument := evidence.instrument
    attribution := preBook.attribution
    side := evidence.side
    qtyDecimalBytes := evidence.qtyDecimalBytes
    limitPriceDecimalBytes := evidence.limitPriceDecimalBytes
    status := shape.1
    lifecycle := shape.2.1
    filledQtyDecimalBytes := codec.decimalSerialize shape.2.2.1
    remainingQtyDecimalBytes := codec.decimalSerialize shape.2.2.2
    decisionM10RedisId := decisionM10RedisId
    decisionM10SemanticIdSha256 := decisionM10SemanticIdSha256
    decisionM10PayloadSha256 := decisionM10PayloadSha256
    decisionM10OpenTsUtcMs := decisionM10OpenTsUtcMs
    decisionM10CloseTsUtcMs := decisionM10CloseTsUtcMs
    firstObservationRedisId := evidence.candidateM10.redisId
    firstObservationSemanticIdSha256 := evidence.candidateM10.semanticIdSha256
    firstObservationPayloadSha256 := evidence.candidateM10.payloadSha256
    lastEvaluatedM10RedisId := evidence.candidateM10.redisId
    lastEvaluatedM10SemanticIdSha256 := evidence.candidateM10.semanticIdSha256
    lastEvaluatedM10PayloadSha256 := evidence.candidateM10.payloadSha256
    lastEvaluatedCloseTsUtcMs := evidence.candidateM10.closeTsUtcMs
    scheduleFingerprintSha256 := evidence.scheduleFingerprintSha256
    tradingDayIdentity := evidence.tradingDayIdentity
    latestOrderProjectionSha256 := sha256Hex codec (codec.orderToVec order)
    brokerTradeId := evidence.brokerTradeId
    totalSequenceFrontier := totalSequenceFrontier
    transitionOrdinal := evidence.transitionOrdinal }

def recoveredInitialOrder (evidence : Stage8bP1d3OutcomeEvidenceV1) (clientId : ClientOrderId)
    (inputs : RecoveredInputs) : BrokerOrderSnapshot :=
  let shape := initialShape evidence.outcomeKind inputs.qty
  exactOrderSnapshot evidence.accountId evidence.brokerOrderId clientId evidence.instrument evidence.side inputs.qty
    inputs.limit shape.1 shape.2.1 shape.2.2.1 shape.2.2.2 inputs.timestamp

def recoverInitial (preBook : Stage8bP1d3WorkingBookProjectionV1) (evidence : Stage8bP1d3OutcomeEvidenceV1)
    (inputs : RecoveredInputs) : Except Stage8bP1d3Error RecoveredEffect := do
  rejectIf (preBook.activeRecord.isSome = true ∨ (preBook.record evidence.brokerOrderId).isSome = true ∨
    evidence.transitionOrdinal ≠ preBook.transitionOrdinal + 1) .invalidTransition
  let requestId ← orReject evidence.requestId .identityMismatch
  let clientId ← orReject evidence.durableRequestClientId .identityMismatch
  let commandSha256 ← orReject evidence.canonicalCommandSha256 .identityMismatch
  rejectIf (clientId ≠ ClientOrderId.fromStrategyRequest requestId ∨
    evidence.targetPlaceClientId ≠ some clientId ∨
    deriveOrderId codec evidence.operationalIdentitySha256 requestId commandSha256 ≠ evidence.brokerOrderId)
    .identityMismatch
  let shape := initialShape evidence.outcomeKind inputs.qty
  verifyTradeIdentity codec evidence
  let order := recoveredInitialOrder evidence clientId inputs
  let record ← recoverInitialRecord codec preBook evidence requestId clientId commandSha256 shape order
  let truth ← exactTruthFromRecord codec record order evidence.brokerTradeId inputs.fill inputs.prePositionQty
    inputs.prePositionAvg inputs.timestamp
  let postBook ← preBook.insertOrReplace record
  .ok {
    postBook := postBook
    ack := some {
      requestId := requestId
      clientOrderId := some clientId
      brokerOrderId := some evidence.brokerOrderId
      status := .accepted
      reason := none
      receivedTs := inputs.timestamp }
    truth := some truth
    changedBook := true
    phase := if shape.2.1 = .active then .working else .terminal }

/-- The bar fields of a record, taken over from the evidence where it names a candidate. -/
def reevaluatedRecord (record : Stage8bP1d3OrderRecordV1) (candidate : M10Fields) : Stage8bP1d3OrderRecordV1 :=
  if candidate.redisId.isSome then { record with
    lastEvaluatedM10RedisId := candidate.redisId
    lastEvaluatedM10SemanticIdSha256 := candidate.semanticIdSha256
    lastEvaluatedM10PayloadSha256 := candidate.payloadSha256
    lastEvaluatedCloseTsUtcMs := candidate.closeTsUtcMs }
  else record

def laterShape (kind : Stage8bP1d3OutcomeKind) (qty : Decimal) : OrderStatus × Decimal × Decimal :=
  if kind = .laterFilled then (.filled, qty, Decimal.zero) else (.expired, Decimal.zero, qty)

def recoveredLaterOrder (record : Stage8bP1d3OrderRecordV1) (evidence : Stage8bP1d3OutcomeEvidenceV1)
    (inputs : RecoveredInputs) (receiptTimestamp : DateTimeUtc) : BrokerOrderSnapshot :=
  let shape := laterShape evidence.outcomeKind inputs.qty
  exactOrderSnapshot record.accountId record.brokerOrderId record.originalDurablePlaceClientId record.instrument
    record.side inputs.qty inputs.limit shape.1 .terminal shape.2.1 shape.2.2 receiptTimestamp

def recoveredLaterRecord (record : Stage8bP1d3OrderRecordV1) (evidence : Stage8bP1d3OutcomeEvidenceV1)
    (inputs : RecoveredInputs) (order : BrokerOrderSnapshot) (totalSequenceFrontier : UInt64) :
    Stage8bP1d3OrderRecordV1 :=
  let shape := laterShape evidence.outcomeKind inputs.qty
  { reevaluatedRecord record evidence.candidateM10 with
    status := shape.1
    lifecycle := .terminal
    filledQtyDecimalBytes := codec.decimalSerialize shape.2.1
    remainingQtyDecimalBytes := codec.decimalSerialize shape.2.2
    scheduleFingerprintSha256 := evidence.scheduleFingerprintSha256
    tradingDayIdentity := evidence.tradingDayIdentity
    latestOrderProjectionSha256 := sha256Hex codec (codec.orderToVec order)
    brokerTradeId := evidence.brokerTradeId
    totalSequenceFrontier := totalSequenceFrontier
    transitionOrdinal := evidence.transitionOrdinal }

def recoverLater (preBook : Stage8bP1d3WorkingBookProjectionV1) (evidence : Stage8bP1d3OutcomeEvidenceV1)
    (inputs : RecoveredInputs) (afterScheduleBinding : Bool) : Except Stage8bP1d3Error RecoveredEffect := do
  rejectIf (evidence.transitionOrdinal ≠ preBook.transitionOrdinal + 1) .invalidTransition
  let record ← exactBoundRecord preBook evidence true
  verifyTradeIdentity codec evidence
  let receiptTimestamp ← orderedAutonomousReceiptTimestamp codec inputs.timestamp evidence.outcomeKind
    afterScheduleBinding
  let order := recoveredLaterOrder record evidence inputs receiptTimestamp
  let totalSequenceFrontier ← orReject evidence.reservedSeqTruth .invalidSequence
  let changed := recoveredLaterRecord codec record evidence inputs order totalSequenceFrontier
  let truth ← exactTruthFromRecord codec changed order evidence.brokerTradeId inputs.fill inputs.prePositionQty
    inputs.prePositionAvg receiptTimestamp
  let postBook ← preBook.insertOrReplace changed
  .ok {
    postBook := postBook
    ack := none
    truth := some truth
    changedBook := true
    phase := .terminal }

def recoveredCanceledRecord (record : Stage8bP1d3OrderRecordV1) (evidence : Stage8bP1d3OutcomeEvidenceV1)
    (order : BrokerOrderSnapshot) (totalSequenceFrontier : UInt64) : Stage8bP1d3OrderRecordV1 :=
  { record with
    status := .canceled
    lifecycle := .terminal
    lastEvaluatedM10RedisId := evidence.candidateM10.redisId
    lastEvaluatedM10SemanticIdSha256 := evidence.candidateM10.semanticIdSha256
    lastEvaluatedM10PayloadSha256 := evidence.candidateM10.payloadSha256
    lastEvaluatedCloseTsUtcMs := evidence.candidateM10.closeTsUtcMs
    scheduleFingerprintSha256 := evidence.scheduleFingerprintSha256
    tradingDayIdentity := evidence.tradingDayIdentity
    latestOrderProjectionSha256 := sha256Hex codec (codec.orderToVec order)
    totalSequenceFrontier := totalSequenceFrontier
    transitionOrdinal := evidence.transitionOrdinal }

def recoverCanceled (preBook : Stage8bP1d3WorkingBookProjectionV1) (evidence : Stage8bP1d3OutcomeEvidenceV1)
    (inputs : RecoveredInputs) : Except Stage8bP1d3Error RecoveredEffect := do
  rejectIf (evidence.transitionOrdinal ≠ preBook.transitionOrdinal + 1) .invalidTransition
  let requestId ← exactCancelRequestIdentity evidence
  let record ← exactBoundRecord preBook evidence true
  let order := exactOrderSnapshot record.accountId record.brokerOrderId record.originalDurablePlaceClientId
    record.instrument record.side inputs.qty inputs.limit .canceled .terminal Decimal.zero inputs.qty
    inputs.timestamp
  let totalSequenceFrontier ← orReject evidence.reservedSeqTruth .invalidSequence
  let ack ← exactCancelAck evidence requestId false inputs.timestamp
  let postBook ← preBook.insertOrReplace (recoveredCanceledRecord codec record evidence order totalSequenceFrontier)
  .ok {
    postBook := postBook
    ack := some ack
    truth := some (canceledTruth record.accountId order inputs.timestamp)
    changedBook := true
    phase := .terminal }

def recoverObserved (preBook : Stage8bP1d3WorkingBookProjectionV1) (evidence : Stage8bP1d3OutcomeEvidenceV1)
    (inputs : RecoveredInputs) : Except Stage8bP1d3Error RecoveredEffect := do
  rejectIf (evidence.transitionOrdinal ≠ preBook.transitionOrdinal) .invalidTransition
  let requestId ← exactCancelRequestIdentity evidence
  let record ← exactBoundRecord preBook evidence false
  rejectIf ((evidence.outcomeKind = .cancelExecutionObserved ↔ record.status ≠ .filled) ∨
    (evidence.outcomeKind ≠ .cancelExecutionObserved ∧
      ¬ (record.status = .canceled ∨ record.status = .expired ∨ record.status = .rejected)) ∨
    evidence.brokerTradeId ≠ record.brokerTradeId) .invalidTransition
  let ack ← exactCancelAck evidence requestId true inputs.timestamp
  .ok {
    postBook := preBook
    ack := some ack
    truth := none
    changedBook := false
    phase := .cancelRecovered }

def recoverEffect (preBook : Stage8bP1d3WorkingBookProjectionV1) (evidence : Stage8bP1d3OutcomeEvidenceV1)
    (inputs : RecoveredInputs) (afterScheduleBinding : Bool) : Except Stage8bP1d3Error RecoveredEffect :=
  match evidence.outcomeKind with
  | .initialWorking | .initialFilled | .initialExpired => recoverInitial codec preBook evidence inputs
  | .laterFilled | .laterExpired => recoverLater codec preBook evidence inputs afterScheduleBinding
  | .cancelCanceled => recoverCanceled codec preBook evidence inputs
  | .cancelExecutionObserved | .cancelAlreadyTerminalNonExecution => recoverObserved preBook evidence inputs

/-- Check the predicted book, and seal the evidence into a changed one. -/
def sealRecovered (evidence : Stage8bP1d3OutcomeEvidenceV1) (canonicalBytes : List UInt8)
    (effect : RecoveredEffect) : Except Stage8bP1d3Error Stage8bP1d3TransitionPlan :=
  if effect.changedBook then do
    rejectIf (postBookStateSha256 codec effect.postBook ≠ evidence.expectedPostBookSha256) .identityMismatch
    let evidenceSha256 ← evidence.digestSha256 codec.toOutcomeEvidenceCodec
    let frontier ← orReject evidence.reservedSeqTruth .invalidSequence
    let postBook ← { effect.postBook with latestOutcomeEvidenceSha256 := evidenceSha256 }.advance codec
      canonicalBytes effect.phase frontier
    .ok {
      evidence := evidence
      evidenceBytes := canonicalBytes
      evidenceSha256 := evidenceSha256
      postBook := postBook
      ack := effect.ack
      truth := effect.truth }
  else do
    let actualPostSha256 ← effect.postBook.canonicalSha256 codec
    rejectIf (actualPostSha256 ≠ evidence.expectedPostBookSha256) .identityMismatch
    let evidenceSha256 ← evidence.digestSha256 codec.toOutcomeEvidenceCodec
    .ok {
      evidence := evidence
      evidenceBytes := canonicalBytes
      evidenceSha256 := evidenceSha256
      postBook := effect.postBook
      ack := effect.ack
      truth := effect.truth }

def recoverStage8bP1d3OutcomeTransitionInner (preBook : Stage8bP1d3WorkingBookProjectionV1)
    (authenticated : Stage8bP1d3AuthenticatedOutcomeEvidence) (afterScheduleBinding : Bool) :
    Except Stage8bP1d3Error Stage8bP1d3TransitionPlan := do
  preBook.validate codec
  checkScope codec preBook authenticated.evidence
  let inputs ← recoverInputs codec authenticated.evidence
  let effect ← recoverEffect codec preBook authenticated.evidence inputs afterScheduleBinding
  sealRecovered codec authenticated.evidence authenticated.canonicalBytes effect

end Recovery

end TradingGateway.Stage8b.WorkingLimitRecovery
