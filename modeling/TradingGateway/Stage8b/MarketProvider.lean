import TradingGateway.Stage5e.ScheduleGrid
import TradingGateway.Stage6d.PaperCommands

/-! The provider of paper fills for market orders: the wait for the next bar, the fill
it gives, and the same fill rebuilt after a crash. -/

set_option autoImplicit false

namespace TradingGateway.Stage8b.MarketProvider

open BrokerCore.Commands BrokerCore.FixedPoint BrokerCore.Identifiers BrokerCore.Orders
open Stage5e.ScheduleGrid Stage6.DurableIdentity Stage6.JournalRecord Stage6d.LiveCore Stage6d.PaperCommands
open Foundation.Bytes Foundation.ExceptRun

def m10Millis : Int := 600000

structure Stage8bP1d1CommandDecisionBinding where
  command : BrokerCommand
  durableIdentity : Stage6DurableRequestIdentityV1
  durableCommandSnapshot : Stage6DurableCommandSnapshotV1
  acceptedCommandPayloadSha256 : Stage6Sha256Digest
  operationalIdentitySha256 : HexText
  canonicalCommandSha256 : HexText
  predecessorRedisId : String
  predecessorSemanticIdSha256 : HexText
  predecessorPayloadSha256 : HexText
  predecessorCloseTsUtcMs : Int

structure Stage8bP1d1CanonicalExecutionAuthority where
  strategyRequestId : StrategyRequestId
  canonicalCommandSha256 : HexText
  predecessorRedisId : String
  predecessorSemanticIdSha256 : HexText
  predecessorPayloadSha256 : HexText
  sourceRedisId : String
  sourceCanonicalBytesSha256 : HexText
  operationalIdentitySha256 : HexText
  instrument : InstrumentId
  semanticIdSha256 : HexText
  payloadSha256 : HexText
  openTsUtcMs : Int
  closeTsUtcMs : Int
  opened : Decimal
  timeframeSec : UInt32
  isFinal : Bool
  isLive : Bool

structure Stage8bP1d1CanonicalM10Evidence where
  sourceRedisId : String
  sourceCanonicalBytesSha256 : HexText
  operationalIdentitySha256 : HexText
  instrument : InstrumentId
  semanticIdSha256 : HexText
  payloadSha256 : HexText
  openTsUtcMs : Int
  closeTsUtcMs : Int
  opened : Decimal

/-- The schedule of one observation, and when the record that binds it was written, if there is one. -/
structure Stage8bP1d1ExecutionScheduleAuthority where
  projection : Stage5eScheduleWindowEvidence
  boundAtUtc : Option DateTimeUtc

inductive Stage8bP1d1ExecutionEligibilityBlockReason where
  | multipleCandidates
  | wrongRequest
  | wrongCommand
  | wrongPredecessor
  | wrongOperationalIdentity
  | wrongInstrument
  | nonCanonicalIdentity
  | historyOrWarmup
  | nonFinal
  | invalidTimeframe
  | invalidChronology
  | sameBar
  | crossTradingDay
  | executionBarGap
  | scheduleNotYetObserved
  | scheduleExpired
  | candidateObservedInFuture
  | scheduleRejected
deriving DecidableEq

inductive Stage8bP1d1ProviderError where
  | unsupportedCommand
  | unsupportedTimeInForce
  | ttlForbidden
  | commandBindingMismatch
  | dispatchBindingMismatch
deriving DecidableEq

inductive Stage8bP1d1ScheduleBridgeBlockReason where
  | instrumentMismatch
  | notYetObserved
  | expired
  | candidateInFuture
  | crossTradingDay
  | executionBarGap
  | rejected
deriving DecidableEq

structure Stage8bP1d1ScheduleProjectionApproved where
  projection : Stage5eScheduleWindowEvidence
  identityFingerprint : List UInt8
  expiresAt : DateTimeUtc

structure Stage8bP1d1AwaitingExecutionBar where
  scheduleProjection : Stage5eScheduleWindowEvidence
  decision : Stage8bP1d1CommandDecisionBinding

structure Stage8bP1d1ExecutionEligible where
  decision : Stage8bP1d1CommandDecisionBinding
  executionBar : Stage8bP1d1CanonicalExecutionAuthority
  scheduleApproval : Stage8bP1d1ScheduleProjectionApproved

inductive Stage8bP1d1ExecutionObservation where
  | noInput (awaiting : Stage8bP1d1AwaitingExecutionBar)
  | eligible (capability : Stage8bP1d1ExecutionEligible)
  | blocked (reason : Stage8bP1d1ExecutionEligibilityBlockReason) (awaiting : Stage8bP1d1AwaitingExecutionBar)

structure Stage8bP1d1MarketDispatchReady where
  eligibility : Stage8bP1d1ExecutionEligible
  dispatchReceipt : Stage6dPaperDispatchReceipt

structure Stage8bP1d1MarketOutcomeEvidence where
  strategyRequestId : StrategyRequestId
  canonicalCommandSha256 : HexText
  acceptedCommandPayloadSha256 : Stage6Sha256Digest
  executionBarSemanticIdSha256 : HexText
  executionBarPayloadSha256 : HexText
  fillPrice : Decimal
  fillQty : Decimal
  fillSourceTsUtcMs : Int
  fillReceivedTsUtcMs : Int
  brokerOrderId : BrokerOrderId
  brokerTradeId : BrokerTradeId

structure Stage8bP1d1MarketOutcomeBundle extends Stage8bP1d1MarketOutcomeEvidence where
  dispatchReceipt : Stage6dPaperDispatchReceipt
  stage6Outcome : Stage6dPaperOutcome

structure MarketCodec extends ScheduleCodec where
  brokerCommandToVec : BrokerCommand → List UInt8

/-- `str::parse::<i64>` of a text without a minus sign. -/
def parseI64 (text : List Char) : Option Int :=
  let digits := if text.head? = some '+' then text.drop 1 else text
  let number := digits.foldl (fun total digit => total * 10 + (digit.toNat - '0'.toNat)) 0
  if digits = [] ∨ digits.any (fun digit => !digit.isDigit) ∨ 2 ^ 63 ≤ number then none else some number

def exactRedisCloseMs (value : String) : Option Int :=
  match value.toList.span (· != '-') with
  | (millis, ['-', '0']) =>
      if millis = [] ∨ (1 < millis.length ∧ millis.head? = some '0') then none
      else (parseI64 millis).filter fun parsed => 0 < parsed ∧ value = toString parsed ++ "-0"
  | _ => none

/-- `DateTime::from_timestamp_millis`. -/
def fromTimestampMillis (millis : Int) : Option DateTimeUtc :=
  (DateTimeUtc.timestampOpt (millis / 1000)).map fun time =>
    { time with nanos := UInt32.ofNat ((millis % 1000).toNat * 1000000) }

section Binding

variable (codec : MarketCodec)

def sha256Hex (bytes : List UInt8) : HexText :=
  (codec.sha256 bytes).hex

def stage8bP1d1CommandDecisionBindingFromSource (command : BrokerCommand)
    (durableIdentity : Stage6DurableRequestIdentityV1) (durableCommandSnapshot : Stage6DurableCommandSnapshotV1)
    (acceptedCommandPayloadSha256 : Stage6Sha256Digest)
    (operationalIdentitySha256 canonicalCommandSha256 : HexText) (predecessorRedisId : String)
    (predecessorSemanticIdSha256 predecessorPayloadSha256 : HexText) :
    Except Stage8bP1d1ProviderError Stage8bP1d1CommandDecisionBinding := do
  let predecessorCloseTsUtcMs ← orReject (exactRedisCloseMs predecessorRedisId) .commandBindingMismatch
  match command with
  | .cancelOrder _ => .error .unsupportedCommand
  | .placeOrder place =>
      rejectIf (place.orderType ≠ .market) .unsupportedCommand
      let exactIdentity ← (Stage6DurableRequestIdentityV1.fromPlace place durableIdentity.attribution).mapError
        fun _ => .commandBindingMismatch
      let exactSnapshot ← (Stage6DurableCommandSnapshotV1.fromPlace exactIdentity place).mapError
        fun _ => .commandBindingMismatch
      rejectIf (exactIdentity ≠ durableIdentity ∨ exactSnapshot ≠ durableCommandSnapshot ∨
        sha256Hex codec (codec.brokerCommandToVec command) ≠ canonicalCommandSha256 ∨
        [operationalIdentitySha256, canonicalCommandSha256, predecessorSemanticIdSha256,
          predecessorPayloadSha256].any (fun value => !isCanonicalSha256 value) = true ∨
        predecessorCloseTsUtcMs ≤ 0 ∨ predecessorCloseTsUtcMs % m10Millis ≠ 0) .commandBindingMismatch
      .ok {
        command := command
        durableIdentity := durableIdentity
        durableCommandSnapshot := durableCommandSnapshot
        acceptedCommandPayloadSha256 := acceptedCommandPayloadSha256
        operationalIdentitySha256 := operationalIdentitySha256
        canonicalCommandSha256 := canonicalCommandSha256
        predecessorRedisId := predecessorRedisId
        predecessorSemanticIdSha256 := predecessorSemanticIdSha256
        predecessorPayloadSha256 := predecessorPayloadSha256
        predecessorCloseTsUtcMs := predecessorCloseTsUtcMs }

end Binding

def validateExecutionCandidate (decision : Stage8bP1d1CommandDecisionBinding)
    (candidate : Stage8bP1d1CanonicalExecutionAuthority) :
    Except Stage8bP1d1ExecutionEligibilityBlockReason Unit := do
  rejectIf (candidate.strategyRequestId ≠ decision.command.requestId) .wrongRequest
  rejectIf (candidate.canonicalCommandSha256 ≠ decision.canonicalCommandSha256) .wrongCommand
  rejectIf (candidate.predecessorRedisId ≠ decision.predecessorRedisId ∨
    candidate.predecessorSemanticIdSha256 ≠ decision.predecessorSemanticIdSha256 ∨
    candidate.predecessorPayloadSha256 ≠ decision.predecessorPayloadSha256) .wrongPredecessor
  rejectIf (candidate.operationalIdentitySha256 ≠ decision.operationalIdentitySha256) .wrongOperationalIdentity
  match decision.command with
  | .cancelOrder _ => .error .wrongCommand
  | .placeOrder place =>
      rejectIf (candidate.instrument ≠ place.instrument) .wrongInstrument
      rejectIf ([candidate.semanticIdSha256, candidate.payloadSha256, candidate.operationalIdentitySha256,
        candidate.sourceCanonicalBytesSha256].any (fun value => !isCanonicalSha256 value) = true ∨
        candidate.sourceRedisId ≠ toString candidate.closeTsUtcMs ++ "-0") .nonCanonicalIdentity
      rejectIf (candidate.isLive = false) .historyOrWarmup
      rejectIf (candidate.isFinal = false) .nonFinal
      rejectIf (candidate.timeframeSec ≠ 600) .invalidTimeframe
      rejectIf (candidate.openTsUtcMs ≤ 0 ∨ candidate.closeTsUtcMs ≤ 0 ∨
        candidate.closeTsUtcMs - candidate.openTsUtcMs ≠ m10Millis ∨ candidate.closeTsUtcMs % m10Millis ≠ 0 ∨
        candidate.opened ≤ Decimal.zero) .invalidChronology
      rejectIf (candidate.closeTsUtcMs = decision.predecessorCloseTsUtcMs) .sameBar
      rejectIf (candidate.closeTsUtcMs < decision.predecessorCloseTsUtcMs) .invalidChronology

section Observation

variable (codec : MarketCodec)

def schedulePreflight (window : Stage5eScheduleWindowEvidence) (instrument : InstrumentId)
    (candidateCloseTs : Int) (observedAt : DateTimeUtc) : Except Stage8bP1d1ScheduleBridgeBlockReason Unit := do
  rejectIf (window.instrument ≠ instrument) .instrumentMismatch
  rejectIf (window.effectiveObservedAt.After observedAt) .notYetObserved
  rejectIf (observedAt.After window.expiresAt) .expired
  rejectIf (observedAt.seconds < candidateCloseTs) .candidateInFuture

def mapClassificationBlock : Stage5eScheduleClassificationBlockReason → Stage8bP1d1ScheduleBridgeBlockReason
  | .crossTradingDay => .crossTradingDay
  | .interiorTradableOpen | .interiorUnknown | .endpointOrCandidateUncovered
  | .endpointOrCandidateAmbiguous => .executionBarGap
  | _ => .rejected

def classificationField : Stage5eScheduleSequenceClassification → List UInt8
  | .contiguous => encodedField 12 [1]
  | .approvedNonTradableBoundary boundary => encodedField 12 [2] ++ encodedField 13 boundary

def classifyStage8bP1d1ExecutionBar (window : Stage5eScheduleWindowEvidence) (instrument : InstrumentId)
    (predecessorCloseTs candidateCloseTs : Int) (observedAt : DateTimeUtc) :
    Except Stage8bP1d1ScheduleBridgeBlockReason Stage8bP1d1ScheduleProjectionApproved := do
  schedulePreflight window instrument candidateCloseTs observedAt
  let classification ← (classifyExpectedCloseGrid codec.toScheduleCodec window predecessorCloseTs candidateCloseTs
    600).mapError mapClassificationBlock
  .ok {
    projection := window
    identityFingerprint := (codec.sha256 (utf8Bytes "stage8b-p1d1-schedule-execution-eligibility-v1" ++
      encodedField 1 window.fingerprint ++ encodeInstrument instrument ++
      encodedField 10 (signedBigEndian predecessorCloseTs) ++ encodedField 11 (signedBigEndian candidateCloseTs) ++
      classificationField classification)).bytes
    expiresAt := window.expiresAt }

def mapScheduleBlock : Stage8bP1d1ScheduleBridgeBlockReason → Stage8bP1d1ExecutionEligibilityBlockReason
  | .instrumentMismatch => .wrongInstrument
  | .notYetObserved => .scheduleNotYetObserved
  | .expired => .scheduleExpired
  | .candidateInFuture => .candidateObservedInFuture
  | .crossTradingDay => .crossTradingDay
  | .executionBarGap => .executionBarGap
  | .rejected => .scheduleRejected

def Stage8bP1d1AwaitingExecutionBar.observeCandidates (awaiting : Stage8bP1d1AwaitingExecutionBar)
    (candidates : List Stage8bP1d1CanonicalExecutionAuthority) (observedAt : DateTimeUtc) :
    Stage8bP1d1ExecutionObservation :=
  match candidates with
  | [] => .noInput awaiting
  | [candidate] =>
      match validateExecutionCandidate awaiting.decision candidate with
      | .error reason => .blocked reason awaiting
      | .ok () =>
          match classifyStage8bP1d1ExecutionBar codec awaiting.scheduleProjection candidate.instrument
            (awaiting.decision.predecessorCloseTsUtcMs / 1000) (candidate.closeTsUtcMs / 1000) observedAt with
          | .ok scheduleApproval =>
              .eligible {
                decision := awaiting.decision
                executionBar := candidate
                scheduleApproval := scheduleApproval }
          | .error reason => .blocked (mapScheduleBlock reason) awaiting
  | _ => .blocked .multipleCandidates awaiting

def beginStage8bP1d1MarketWait (scheduleProjection : Stage5eScheduleWindowEvidence)
    (decision : Stage8bP1d1CommandDecisionBinding) :
    Except Stage8bP1d1ProviderError Stage8bP1d1AwaitingExecutionBar :=
  match decision.command with
  | .cancelOrder _ => .error .unsupportedCommand
  | .placeOrder place => do
      rejectIf (place.orderType ≠ .market) .unsupportedCommand
      rejectIf (place.timeInForce ≠ .day) .unsupportedTimeInForce
      rejectIf (place.ttlMs ≠ none) .ttlForbidden
      rejectIf (place.limitPrice ≠ none ∨ place.qty ≤ Decimal.zero ∨
        [decision.operationalIdentitySha256, decision.canonicalCommandSha256, decision.predecessorSemanticIdSha256,
          decision.predecessorPayloadSha256].any (fun value => !isCanonicalSha256 value) = true ∨
        decision.predecessorCloseTsUtcMs ≤ 0 ∨ decision.predecessorCloseTsUtcMs % m10Millis ≠ 0 ∨
        decision.predecessorRedisId ≠ toString decision.predecessorCloseTsUtcMs ++ "-0") .commandBindingMismatch
      rejectIf (sha256Hex codec (codec.brokerCommandToVec decision.command) ≠ decision.canonicalCommandSha256)
        .commandBindingMismatch
      .ok { scheduleProjection := scheduleProjection, decision := decision }

def canonicalExecutionCandidate (decision : Stage8bP1d1CommandDecisionBinding)
    (evidence : Stage8bP1d1CanonicalM10Evidence) : Stage8bP1d1CanonicalExecutionAuthority :=
  { strategyRequestId := decision.command.requestId
    canonicalCommandSha256 := decision.canonicalCommandSha256
    predecessorRedisId := decision.predecessorRedisId
    predecessorSemanticIdSha256 := decision.predecessorSemanticIdSha256
    predecessorPayloadSha256 := decision.predecessorPayloadSha256
    sourceRedisId := evidence.sourceRedisId
    sourceCanonicalBytesSha256 := evidence.sourceCanonicalBytesSha256
    operationalIdentitySha256 := evidence.operationalIdentitySha256
    instrument := evidence.instrument
    semanticIdSha256 := evidence.semanticIdSha256
    payloadSha256 := evidence.payloadSha256
    openTsUtcMs := evidence.openTsUtcMs
    closeTsUtcMs := evidence.closeTsUtcMs
    opened := evidence.opened
    timeframeSec := 600
    isFinal := true
    isLive := true }

def stage8bP1d1EligibleFromCanonicalM10 (decision : Stage8bP1d1CommandDecisionBinding)
    (scheduleAuthority : Stage8bP1d1ExecutionScheduleAuthority) (evidence : Stage8bP1d1CanonicalM10Evidence) :
    Except Stage8bP1d1ExecutionEligibilityBlockReason Stage8bP1d1ExecutionEligible := do
  let observedAt ← orReject (scheduleAuthority.boundAtUtc.or (fromTimestampMillis evidence.closeTsUtcMs))
    .invalidChronology
  let waiting ← (beginStage8bP1d1MarketWait codec scheduleAuthority.projection decision).mapError
    fun _ => .wrongCommand
  match waiting.observeCandidates codec [canonicalExecutionCandidate waiting.decision evidence] observedAt with
  | .eligible capability => .ok capability
  | .blocked reason _ => .error reason
  | .noInput _ => .error .nonCanonicalIdentity

end Observation

section Outcome

variable (codec : MarketCodec)

/-- The digest of texts behind one another, a zero byte between any two. -/
def nulSeparatedSha256 (fields : List (List Char)) : HexText :=
  sha256Hex codec (charBytes (List.intercalate ['\x00'] fields))

def deriveOrderId (operationalIdentitySha256 : HexText) (requestId : StrategyRequestId)
    (canonicalCommandSha256 : HexText) : BrokerOrderId :=
  { value := "P1D-O-" ++ String.ofList (nulSeparatedSha256 codec ["moex.stage8b.p1d.order-id.v1".toList,
      operationalIdentitySha256, requestId.toText, canonicalCommandSha256])
    nonEmpty := by simp }

def deriveTradeId (brokerOrderId : BrokerOrderId) (executionBarSemanticIdSha256 : HexText) : BrokerTradeId :=
  { value := "P1D-T-" ++ String.ofList (nulSeparatedSha256 codec ["moex.stage8b.p1d.trade-id.v1".toList,
      brokerOrderId.value.toList, executionBarSemanticIdSha256, ['1']])
    nonEmpty := by simp }

/-- The fill of a market order at the open of a bar; `none` is the abort at any other command. -/
def deterministicMarketOutcomeEvidence (decision : Stage8bP1d1CommandDecisionBinding)
    (executionBar : Stage8bP1d1CanonicalExecutionAuthority) : Option Stage8bP1d1MarketOutcomeEvidence :=
  match decision.command with
  | .cancelOrder _ => none
  | .placeOrder place =>
      let brokerOrderId := deriveOrderId codec decision.operationalIdentitySha256 place.requestId
        decision.canonicalCommandSha256
      some {
        strategyRequestId := place.requestId
        canonicalCommandSha256 := decision.canonicalCommandSha256
        acceptedCommandPayloadSha256 := decision.acceptedCommandPayloadSha256
        executionBarSemanticIdSha256 := executionBar.semanticIdSha256
        executionBarPayloadSha256 := executionBar.payloadSha256
        fillPrice := executionBar.opened
        fillQty := place.qty
        fillSourceTsUtcMs := executionBar.openTsUtcMs
        fillReceivedTsUtcMs := executionBar.closeTsUtcMs
        brokerOrderId := brokerOrderId
        brokerTradeId := deriveTradeId codec brokerOrderId executionBar.semanticIdSha256 }

def Stage8bP1d1MarketDispatchReady.execute (ready : Stage8bP1d1MarketDispatchReady) :
    Option Stage8bP1d1MarketOutcomeBundle := do
  let evidence ← deterministicMarketOutcomeEvidence codec ready.eligibility.decision ready.eligibility.executionBar
  some {
    toStage8bP1d1MarketOutcomeEvidence := evidence
    dispatchReceipt := ready.dispatchReceipt
    stage6Outcome := .marketFilled evidence.brokerOrderId evidence.brokerTradeId }

/-- The fill again, without the schedule: only the bar that closes one timeframe behind the
decision bar is taken. -/
def reconstructStage8bP1d1MarketOutcomeEvidence (decision : Stage8bP1d1CommandDecisionBinding)
    (canonicalM10 : Stage8bP1d1CanonicalM10Evidence) :
    Except Stage8bP1d1ProviderError (Option Stage8bP1d1MarketOutcomeEvidence) := do
  let candidate := canonicalExecutionCandidate decision canonicalM10
  (validateExecutionCandidate decision candidate).mapError fun _ => .commandBindingMismatch
  let expectedClose := decision.predecessorCloseTsUtcMs + m10Millis
  rejectIf (2 ^ 63 ≤ expectedClose) .commandBindingMismatch
  rejectIf (candidate.closeTsUtcMs ≠ expectedClose) .commandBindingMismatch
  .ok (deterministicMarketOutcomeEvidence codec decision candidate)

end Outcome

end TradingGateway.Stage8b.MarketProvider
