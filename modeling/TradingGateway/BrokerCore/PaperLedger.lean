import Mathlib.Algebra.Order.Field.Rat
import TradingGateway.BrokerCore.Commands
import TradingGateway.BrokerCore.OrderPathStores
import TradingGateway.BrokerCore.Timestamps

/-! The paper ledger: market decisions filled at the open of the next bar, and the adapter
that feeds them to it bar by bar. Decimals are exact here. -/

set_option autoImplicit false

namespace TradingGateway.BrokerCore.PaperLedger

open Commands Orders OrderPathStores
open Foundation.ExceptRun Foundation.Triples

structure RuntimeDecisionId where
  value : String
deriving DecidableEq

structure PaperOrderId where
  value : String
deriving DecidableEq

structure PaperTradeId where
  value : String
deriving DecidableEq

inductive RuntimeBarOrigin where
  | history
  | historyGap
  | live
  | replay
deriving DecidableEq

inductive PaperExecutionMode where
  | liveOnly
  | historySim
deriving DecidableEq

def PaperExecutionMode.canAdvance (mode : PaperExecutionMode) (origin : RuntimeBarOrigin) : Bool :=
  match mode with
  | .liveOnly => origin == .live
  | .historySim => true

inductive PaperFillPolicy where
  | nextFinalBarOpen
  | limitBarTouch
  | cancelIfWorking
  | manualReviewRequired (reason : String)
deriving DecidableEq

inductive PaperIntentKind where
  | enter
  | exit
  | cancel
deriving DecidableEq

inductive PaperOrderStatus where
  | pending
  | working
  | filled
  | partiallyFilled
  | canceled
  | rejected
  | expired
  | manualReview
deriving DecidableEq

def PaperOrderStatus.isActive : PaperOrderStatus → Bool
  | .pending | .working | .partiallyFilled => true
  | _ => false

inductive PaperAckKind where
  | accepted
  | filled
  | canceled
  | rejected
  | duplicateIgnored
  | suppressed
  | manualReviewRequired
deriving DecidableEq

structure PaperSafetyBoundary where
  liveOrdersEnabled : Bool
  runtimeLiveReadyEnabled : Bool
  commandConsumerToRealFinamEnabled : Bool
  externalOrderEndpointEnabled : Bool
  stopSltpBracketEnabled : Bool
deriving DecidableEq

def PaperSafetyBoundary.isClosed (boundary : PaperSafetyBoundary) : Bool :=
  !boundary.liveOrdersEnabled && !boundary.runtimeLiveReadyEnabled &&
    !boundary.commandConsumerToRealFinamEnabled && !boundary.externalOrderEndpointEnabled &&
    !boundary.stopSltpBracketEnabled

structure RuntimeBarInput where
  schemaVersion : UInt16
  instrument : InstrumentId
  origin : RuntimeBarOrigin
  timeframeSec : UInt32
  openTs : DateTimeUtc
  closeTs : DateTimeUtc
  opened : ℚ
  high : ℚ
  low : ℚ
  close : ℚ
  volume : ℚ
  isFinal : Bool
  sourceStream : String
  provenance : String

def RuntimeBarInput.isLiveFinalTimeframe (bar : RuntimeBarInput) (expectedTimeframeSec : UInt32) : Bool :=
  bar.origin == .live && bar.isFinal && bar.timeframeSec == expectedTimeframeSec

inductive RuntimeSuppressionReason where
  | nonLiveOrigin
  | nonFinalBar
  | timeframeMismatch (expectedSec actualSec : UInt32)
  | duplicateDecision
  | runtimeNotReady
  | manualPolicy (policy : String)
deriving DecidableEq

structure PaperIntent where
  schemaVersion : UInt16
  intentId : RuntimeDecisionId
  kind : PaperIntentKind
  strategyId : String
  strategyOwner : Option String
  strategyCycleId : Option String
  decisionBarKey : String
  instrument : InstrumentId
  side : Option OrderSide
  orderType : Option BrokerCore.Orders.OrderType
  qty : ℚ
  limitPrice : Option ℚ
  fillPolicy : PaperFillPolicy
  createdTs : DateTimeUtc
deriving DecidableEq

/-- The account of a paper order, always absent, is left out. -/
structure PaperOrder where
  schemaVersion : UInt16
  paperOrderId : PaperOrderId
  intentId : RuntimeDecisionId
  strategyId : String
  instrument : InstrumentId
  side : OrderSide
  orderType : BrokerCore.Orders.OrderType
  status : PaperOrderStatus
  qty : ℚ
  filledQty : ℚ
  remainingQty : ℚ
  limitPrice : Option ℚ
  fillPolicy : PaperFillPolicy
  createdTs : DateTimeUtc
  updatedTs : DateTimeUtc
deriving DecidableEq

structure PaperTrade where
  schemaVersion : UInt16
  paperTradeId : PaperTradeId
  paperOrderId : PaperOrderId
  intentId : RuntimeDecisionId
  strategyId : String
  instrument : InstrumentId
  side : OrderSide
  qty : ℚ
  price : ℚ
  commission : Option ℚ
  fillPolicy : PaperFillPolicy
  sourceBarKey : String
  sourceTs : DateTimeUtc
  receivedTs : DateTimeUtc
deriving DecidableEq

structure PaperPosition where
  schemaVersion : UInt16
  strategyId : String
  instrument : InstrumentId
  qty : ℚ
  avgPrice : Option ℚ
  updatedTs : DateTimeUtc
  source : String
deriving DecidableEq

structure PaperAck where
  schemaVersion : UInt16
  intentId : RuntimeDecisionId
  paperOrderId : Option PaperOrderId
  kind : PaperAckKind
  reason : Option String
  createdTs : DateTimeUtc
deriving DecidableEq

structure PaperLedgerExecutorConfig where
  strategyId : String
  instrument : InstrumentId
  executionMode : PaperExecutionMode
  expectedTimeframeSec : UInt32
  safetyBoundary : PaperSafetyBoundary

/-- The ledger, without what only a seed writes: the suppressions, the risk gate and the state
of the strategy that is projected for display. -/
structure PaperLedgerSnapshot where
  schemaVersion : UInt16
  strategyId : String
  instrument : InstrumentId
  executionMode : PaperExecutionMode
  safetyBoundary : PaperSafetyBoundary
  intents : List PaperIntent
  orders : List PaperOrder
  trades : List PaperTrade
  positions : List PaperPosition
  acks : List PaperAck
  lastBarClose : Option ℚ
  currentDayUtc : Option String
  currentDayHigh : Option ℚ
  currentDayLow : Option ℚ
  currentDayClose : Option ℚ
  prevDayClose : Option ℚ
  prevDayRange : Option ℚ
  prevDayReturn : Option ℚ
  dayBeforeClose : Option ℚ
  wasLongToday : Bool
  wasShortToday : Bool
  receivedTs : DateTimeUtc
deriving DecidableEq

inductive PaperLedgerInvariantError where
  | liveBoundaryOpen
  | duplicateIntentId
  | duplicateOrderId
  | duplicateTradeId
  | strategyMismatch
  | instrumentMismatch
  | orderReferencesMissingIntent
  | tradeReferencesMissingOrder
  | tradeReferencesMissingIntent
  | ackReferencesMissingIntent
  | ackReferencesMissingOrder
  | filledQuantityExceedsOrderQuantity
  | remainingQuantityMismatch
deriving DecidableEq

inductive PaperLedgerExecutorError where
  | liveBoundaryOpen
  | strategyMismatch
  | instrumentMismatch
  | executionModeMismatch
  | invalidExpectedTimeframe
  | missingSide
  | missingOrderType
  | unsupportedIntentKind (kind : PaperIntentKind)
  | unsupportedOrderType (orderType : BrokerCore.Orders.OrderType)
  | unsupportedFillPolicy (fillPolicy : PaperFillPolicy)
  | nonPositiveQuantity
  | fillBarNotEligible (reason : RuntimeSuppressionReason)
  | fillBarPrecedesDecision
  | invariant (error : PaperLedgerInvariantError)
deriving DecidableEq

inductive PaperLedgerExecutionOutcome where
  | filled (order : PaperOrder) (trade : PaperTrade) (position : PaperPosition) (ack : PaperAck)
  | duplicateIgnored (ack : PaperAck)

/-- Every character of an identifier as an upper-case letter, a digit or an underscore. -/
def stableIdSuffix (raw : String) : String :=
  String.ofList (raw.toList.map fun character => if character.isAlphanum then character.toUpper else '_')

def paperOrderIdFor (intentId : RuntimeDecisionId) : PaperOrderId :=
  { value := "PAPER_ORDER_" ++ stableIdSuffix intentId.value }

def paperTradeIdFor (intentId : RuntimeDecisionId) : PaperTradeId :=
  { value := "PAPER_TRADE_" ++ stableIdSuffix intentId.value }

def signedQty (side : OrderSide) (qty : ℚ) : ℚ :=
  match side with
  | .buy => qty
  | .sell => -qty

def sameDirectionOrFlat (left right : ℚ) : Bool :=
  left = 0 || right = 0 || (decide (0 < left) == decide (0 < right))

def nextAvgPrice (currentQty currentAvg deltaQty fillPrice : ℚ) : ℚ :=
  let nextQty := currentQty + deltaQty
  if nextQty = 0 then 0
  else if sameDirectionOrFlat currentQty deltaQty then
    (|currentQty| * currentAvg + |deltaQty| * fillPrice) / |nextQty|
  else if |deltaQty| < |currentQty| then currentAvg
  else fillPrice

namespace PaperLedgerSnapshot

def empty (config : PaperLedgerExecutorConfig) (receivedTs : DateTimeUtc) : PaperLedgerSnapshot :=
  { schemaVersion := Commands.schemaVersion
    strategyId := config.strategyId
    instrument := config.instrument
    executionMode := config.executionMode
    safetyBoundary := config.safetyBoundary
    intents := []
    orders := []
    trades := []
    positions := []
    acks := []
    lastBarClose := none
    currentDayUtc := none
    currentDayHigh := none
    currentDayLow := none
    currentDayClose := none
    prevDayClose := none
    prevDayRange := none
    prevDayReturn := none
    dayBeforeClose := none
    wasLongToday := false
    wasShortToday := false
    receivedTs := receivedTs }

section Validation

variable (ledger : PaperLedgerSnapshot)

def validateOrder (order : PaperOrder) : Except PaperLedgerInvariantError Unit := do
  rejectIf (order.instrument ≠ ledger.instrument) .instrumentMismatch
  rejectIf (order.strategyId ≠ ledger.strategyId) .strategyMismatch
  rejectIf (order.intentId ∉ ledger.intents.map (·.intentId)) .orderReferencesMissingIntent
  rejectIf (order.qty < order.filledQty) .filledQuantityExceedsOrderQuantity
  rejectIf (order.qty - order.filledQty ≠ order.remainingQty) .remainingQuantityMismatch

def validateTrade (trade : PaperTrade) : Except PaperLedgerInvariantError Unit := do
  rejectIf (trade.instrument ≠ ledger.instrument) .instrumentMismatch
  rejectIf (trade.strategyId ≠ ledger.strategyId) .strategyMismatch
  rejectIf (trade.paperOrderId ∉ ledger.orders.map (·.paperOrderId)) .tradeReferencesMissingOrder
  rejectIf (trade.intentId ∉ ledger.intents.map (·.intentId)) .tradeReferencesMissingIntent

def validatePosition (position : PaperPosition) : Except PaperLedgerInvariantError Unit := do
  rejectIf (position.instrument ≠ ledger.instrument) .instrumentMismatch
  rejectIf (position.strategyId ≠ ledger.strategyId) .strategyMismatch

def validateAck (ack : PaperAck) : Except PaperLedgerInvariantError Unit := do
  rejectIf (ack.intentId ∉ ledger.intents.map (·.intentId)) .ackReferencesMissingIntent
  rejectIf (ack.paperOrderId.any (fun orderId => orderId ∉ ledger.orders.map (·.paperOrderId)) = true)
    .ackReferencesMissingOrder

def validate : Except PaperLedgerInvariantError Unit := do
  rejectIf (ledger.safetyBoundary.isClosed = false) .liveBoundaryOpen
  rejectIf (¬ (ledger.intents.map (·.intentId)).Nodup) .duplicateIntentId
  rejectIf (¬ (ledger.orders.map (·.paperOrderId)).Nodup) .duplicateOrderId
  rejectIf (¬ (ledger.trades.map (·.paperTradeId)).Nodup) .duplicateTradeId
  ledger.orders.forM ledger.validateOrder
  ledger.trades.forM ledger.validateTrade
  ledger.positions.forM ledger.validatePosition
  ledger.acks.forM ledger.validateAck

end Validation

def targetPositionQty (ledger : PaperLedgerSnapshot) : ℚ :=
  (((ledger.positions.filter (·.instrument = ledger.instrument)).map (·.qty)).getLast?).getD 0

section Executor

variable (ledger : PaperLedgerSnapshot) (config : PaperLedgerExecutorConfig) (intent : PaperIntent)
  (fillBar : RuntimeBarInput)

def validateExecutorConfig : Except PaperLedgerExecutorError Unit := do
  rejectIf (config.safetyBoundary.isClosed = false ∨ ledger.safetyBoundary.isClosed = false) .liveBoundaryOpen
  rejectIf (config.strategyId ≠ ledger.strategyId) .strategyMismatch
  rejectIf (config.instrument ≠ ledger.instrument) .instrumentMismatch
  rejectIf (config.executionMode ≠ ledger.executionMode) .executionModeMismatch
  rejectIf (config.expectedTimeframeSec = 0) .invalidExpectedTimeframe

def validateIntentForNextBarOpen : Except PaperLedgerExecutorError Unit := do
  rejectIf (intent.strategyId ≠ ledger.strategyId) .strategyMismatch
  rejectIf (intent.instrument ≠ ledger.instrument) .instrumentMismatch
  rejectIf (intent.kind ≠ .enter ∧ intent.kind ≠ .exit) (.unsupportedIntentKind intent.kind)
  rejectIf (intent.qty ≤ 0) .nonPositiveQuantity
  rejectIf (intent.fillPolicy ≠ .nextFinalBarOpen) (.unsupportedFillPolicy intent.fillPolicy)

def validateFillBar : Except PaperLedgerExecutorError Unit := do
  rejectIf (fillBar.instrument ≠ ledger.instrument) .instrumentMismatch
  rejectIf (config.executionMode.canAdvance fillBar.origin = false) (.fillBarNotEligible .nonLiveOrigin)
  rejectIf (fillBar.isFinal = false) (.fillBarNotEligible .nonFinalBar)
  rejectIf (fillBar.timeframeSec ≠ config.expectedTimeframeSec)
    (.fillBarNotEligible (.timeframeMismatch config.expectedTimeframeSec fillBar.timeframeSec))
  rejectIf (intent.createdTs.After fillBar.openTs) .fillBarPrecedesDecision

def nextPositionAfterFill (side : OrderSide) : PaperPosition :=
  let currentQty := ledger.targetPositionQty
  let currentAvg := (ledger.positions.getLast?.bind (·.avgPrice)).getD fillBar.opened
  let delta := signedQty side intent.qty
  { schemaVersion := Commands.schemaVersion
    strategyId := ledger.strategyId
    instrument := ledger.instrument
    qty := currentQty + delta
    avgPrice := some (nextAvgPrice currentQty currentAvg delta fillBar.opened)
    updatedTs := fillBar.openTs
    source := "paper_synthetic_position_feedback" }

def paperOrder (side : OrderSide) (orderType : BrokerCore.Orders.OrderType) : PaperOrder :=
  { schemaVersion := Commands.schemaVersion
    paperOrderId := paperOrderIdFor intent.intentId
    intentId := intent.intentId
    strategyId := intent.strategyId
    instrument := intent.instrument
    side := side
    orderType := orderType
    status := .filled
    qty := intent.qty
    filledQty := intent.qty
    remainingQty := 0
    limitPrice := none
    fillPolicy := .nextFinalBarOpen
    createdTs := intent.createdTs
    updatedTs := fillBar.openTs }

def paperTrade (side : OrderSide) : PaperTrade :=
  { schemaVersion := Commands.schemaVersion
    paperTradeId := paperTradeIdFor intent.intentId
    paperOrderId := paperOrderIdFor intent.intentId
    intentId := intent.intentId
    strategyId := intent.strategyId
    instrument := intent.instrument
    side := side
    qty := intent.qty
    price := fillBar.opened
    commission := some 0
    fillPolicy := .nextFinalBarOpen
    sourceBarKey := intent.decisionBarKey
    sourceTs := fillBar.openTs
    receivedTs := fillBar.closeTs }

def filledAck : PaperAck :=
  { schemaVersion := Commands.schemaVersion
    intentId := intent.intentId
    paperOrderId := some (paperOrderIdFor intent.intentId)
    kind := .filled
    reason := some "next_final_bar_open_proxy"
    createdTs := fillBar.openTs }

def duplicateAck : PaperAck :=
  { schemaVersion := Commands.schemaVersion
    intentId := intent.intentId
    paperOrderId := none
    kind := .duplicateIgnored
    reason := some "duplicate_runtime_decision_id"
    createdTs := fillBar.closeTs }

def recordFill (side : OrderSide) (orderType : BrokerCore.Orders.OrderType) : PaperLedgerSnapshot :=
  { ledger with
    intents := ledger.intents ++ [intent]
    orders := ledger.orders ++ [paperOrder intent fillBar side orderType]
    trades := ledger.trades ++ [paperTrade intent fillBar side]
    positions := ledger.positions ++ [ledger.nextPositionAfterFill intent fillBar side]
    acks := ledger.acks ++ [filledAck intent fillBar]
    receivedTs := fillBar.closeTs }

end Executor

def applyNextBarOpenMarketIntent (config : PaperLedgerExecutorConfig) (intent : PaperIntent)
    (fillBar : RuntimeBarInput) :
    Action PaperLedgerSnapshot PaperLedgerExecutorError PaperLedgerExecutionOutcome := do
  let ledger ← get
  Action.ofExcept (ledger.validateExecutorConfig config)
  Action.ofExcept (ledger.validateIntentForNextBarOpen intent)
  Action.ofExcept (ledger.validateFillBar config intent fillBar)
  if intent.intentId ∈ ledger.intents.map (·.intentId) then
    pure (.duplicateIgnored (duplicateAck intent fillBar))
  else
    let side ← Action.ofExcept (orReject intent.side .missingSide)
    let orderType ← Action.ofExcept (orReject intent.orderType .missingOrderType)
    Action.ofExcept (rejectIf (orderType ≠ .market) (.unsupportedOrderType orderType))
    let recorded := ledger.recordFill intent fillBar side orderType
    modify fun _ => recorded
    Action.ofExcept (recorded.validate.mapError .invariant)
    pure (.filled (paperOrder intent fillBar side orderType) (paperTrade intent fillBar side)
      (ledger.nextPositionAfterFill intent fillBar side) (filledAck intent fillBar))

end PaperLedgerSnapshot

structure PaperRuntimeStreams where
  runtimeStateStream : String
  intentsStream : String
  paperAcksStream : String
  ordersStream : String
  tradesStream : String
  positionsStream : String

structure PaperRuntimeAdapterConfig where
  ledger : PaperLedgerExecutorConfig
  streams : PaperRuntimeStreams
  requiredProvenance : String
  safetyBoundary : PaperSafetyBoundary

structure PaperRuntimeState where
  schemaVersion : UInt16
  strategyId : String
  instrument : InstrumentId
  executionMode : PaperExecutionMode
  safetyBoundary : PaperSafetyBoundary
  lastBarKey : Option String
  lastDecisionId : Option RuntimeDecisionId
  position : Option PaperPosition
  activeOrdersCount : Nat
  updatedTs : DateTimeUtc
deriving DecidableEq

inductive PaperRuntimePublishPayload where
  | runtimeState (state : PaperRuntimeState)
  | intent (intent : PaperIntent)
  | ack (ack : PaperAck)
  | order (order : PaperOrder)
  | trade (trade : PaperTrade)
  | position (position : PaperPosition)
deriving DecidableEq

structure PaperRuntimePublishRecord where
  stream : String
  payload : PaperRuntimePublishPayload
deriving DecidableEq

structure PaperRuntimeAdapterOutcome where
  publishPlan : List PaperRuntimePublishRecord
  filledCount : Nat
  duplicateCount : Nat
  stateOnly : Bool
deriving DecidableEq

inductive PaperRuntimeAdapterError where
  | liveBoundaryOpen
  | instrumentMismatch
  | executionModeMismatch
  | invalidExpectedTimeframe
  | runtimeInputNotEligible
  | provenanceMismatch (expected actual : String)
  | invariant (error : PaperLedgerInvariantError)
  | executor (error : PaperLedgerExecutorError)
deriving DecidableEq

/-- The shadow of the strategy, which only decorates the published state, is left out. -/
structure PaperRuntimeAdapter where
  config : PaperRuntimeAdapterConfig
  ledger : PaperLedgerSnapshot

structure PaperClock where
  toRfc3339 : DateTimeUtc → String
  dayText : DateTimeUtc → String

section Bars

variable (clock : PaperClock)

def runtimeBarKey (input : RuntimeBarInput) : String :=
  clock.toRfc3339 input.closeTs ++ "/" ++ toString input.timeframeSec

namespace PaperLedgerSnapshot

def toRuntimeStateForBar (ledger : PaperLedgerSnapshot) (input : RuntimeBarInput) : PaperRuntimeState :=
  { schemaVersion := Commands.schemaVersion
    strategyId := ledger.strategyId
    instrument := ledger.instrument
    executionMode := ledger.executionMode
    safetyBoundary := ledger.safetyBoundary
    lastBarKey := some (runtimeBarKey clock input)
    lastDecisionId := ledger.intents.getLast?.map (·.intentId)
    position := ledger.positions.getLast?
    activeOrdersCount := (ledger.orders.filter (·.status.isActive)).length
    updatedTs := input.closeTs }

/-- The day that ended becomes the day before, if there was one. -/
def rollDay (ledger : PaperLedgerSnapshot) (day : String) : PaperLedgerSnapshot :=
  let rolled :=
    if ledger.currentDayUtc.isSome then
      { ledger with
        dayBeforeClose := ledger.prevDayClose
        prevDayClose := ledger.currentDayClose
        prevDayRange := do return (← ledger.currentDayHigh) - (← ledger.currentDayLow)
        prevDayReturn := do
          let prev ← ledger.currentDayClose
          let dayBefore ← ledger.prevDayClose
          if dayBefore = 0 then none else some ((prev - dayBefore) / dayBefore) }
    else ledger
  { rolled with
    currentDayUtc := some day
    currentDayHigh := none
    currentDayLow := none
    currentDayClose := none
    wasLongToday := false
    wasShortToday := false }

def observeRuntimeBarFeatures (ledger : PaperLedgerSnapshot) (input : RuntimeBarInput) : PaperLedgerSnapshot :=
  let day := clock.dayText input.closeTs
  let ledger := if ledger.currentDayUtc = some day then ledger else ledger.rollDay day
  { ledger with
    lastBarClose := some input.close
    currentDayHigh := some (match ledger.currentDayHigh with
      | some current => max current input.high
      | none => input.high)
    currentDayLow := some (match ledger.currentDayLow with
      | some current => min current input.low
      | none => input.low)
    currentDayClose := some input.close
    receivedTs := input.closeTs }

end PaperLedgerSnapshot

end Bars

def validatePaperRuntimeAdapterConfig (config : PaperRuntimeAdapterConfig) :
    Except PaperRuntimeAdapterError Unit := do
  rejectIf (config.safetyBoundary.isClosed = false ∨ config.ledger.safetyBoundary.isClosed = false) .liveBoundaryOpen
  rejectIf (config.ledger.expectedTimeframeSec ≠ 600) .invalidExpectedTimeframe
  rejectIf (IsBlank config.requiredProvenance.toList)
    (.provenanceMismatch "non-empty" config.requiredProvenance)

namespace PaperRuntimeAdapter

def new (config : PaperRuntimeAdapterConfig) (receivedTs : DateTimeUtc) :
    Except PaperRuntimeAdapterError PaperRuntimeAdapter := do
  validatePaperRuntimeAdapterConfig config
  .ok { config := config, ledger := .empty config.ledger receivedTs }

def validateRuntimeInput (adapter : PaperRuntimeAdapter) (input : RuntimeBarInput) :
    Except PaperRuntimeAdapterError Unit := do
  rejectIf (adapter.config.safetyBoundary.isClosed = false ∨ adapter.ledger.safetyBoundary.isClosed = false)
    .liveBoundaryOpen
  rejectIf (input.instrument ≠ adapter.config.ledger.instrument) .instrumentMismatch
  rejectIf (input.provenance ≠ adapter.config.requiredProvenance)
    (.provenanceMismatch adapter.config.requiredProvenance input.provenance)
  rejectIf (input.isLiveFinalTimeframe adapter.config.ledger.expectedTimeframeSec = false) .runtimeInputNotEligible

end PaperRuntimeAdapter

def publishedOutcome (streams : PaperRuntimeStreams) (intent : PaperIntent) :
    PaperLedgerExecutionOutcome → List PaperRuntimePublishRecord
  | .filled order trade position ack =>
      [{ stream := streams.intentsStream, payload := .intent intent },
        { stream := streams.ordersStream, payload := .order order },
        { stream := streams.tradesStream, payload := .trade trade },
        { stream := streams.positionsStream, payload := .position position },
        { stream := streams.paperAcksStream, payload := .ack ack }]
  | .duplicateIgnored ack => [{ stream := streams.paperAcksStream, payload := .ack ack }]

def PaperLedgerExecutionOutcome.isFilled : PaperLedgerExecutionOutcome → Bool
  | .filled _ _ _ _ => true
  | .duplicateIgnored _ => false

structure ObservedIntents where
  publishPlan : List PaperRuntimePublishRecord
  filledCount : Nat
  duplicateCount : Nat

def observeIntent (config : PaperRuntimeAdapterConfig) (input : RuntimeBarInput) (observed : ObservedIntents)
    (intent : PaperIntent) : Action PaperLedgerSnapshot PaperRuntimeAdapterError ObservedIntents := do
  let outcome ← (PaperLedgerSnapshot.applyNextBarOpenMarketIntent config.ledger intent input).mapError
    PaperRuntimeAdapterError.executor
  pure {
    publishPlan := observed.publishPlan ++ publishedOutcome config.streams intent outcome
    filledCount := if outcome.isFilled then observed.filledCount + 1 else observed.filledCount
    duplicateCount := if outcome.isFilled then observed.duplicateCount else observed.duplicateCount + 1 }

/-- Apply the intents of a list one by one; what those before a failing one did stays. -/
def observeIntents (config : PaperRuntimeAdapterConfig) (input : RuntimeBarInput) :
    List PaperIntent → ObservedIntents → Action PaperLedgerSnapshot PaperRuntimeAdapterError ObservedIntents
  | [], observed => pure observed
  | intent :: rest, observed => do
      let observed ← observeIntent config input observed intent
      observeIntents config input rest observed

namespace PaperRuntimeAdapter

def observeRuntimeBar (clock : PaperClock) (input : RuntimeBarInput) (intents : List PaperIntent) :
    Action PaperRuntimeAdapter PaperRuntimeAdapterError PaperRuntimeAdapterOutcome := do
  let adapter ← get
  Action.ofExcept (adapter.validateRuntimeInput input)
  let observed ← Action.within PaperRuntimeAdapter.ledger (fun adapter ledger => { adapter with ledger := ledger })
    (observeIntents adapter.config input intents { publishPlan := [], filledCount := 0, duplicateCount := 0 })
  modify fun adapter => { adapter with ledger := adapter.ledger.observeRuntimeBarFeatures clock input }
  let adapter ← get
  let runtimeState := adapter.ledger.toRuntimeStateForBar clock input
  pure {
    stateOnly := observed.filledCount = 0 ∧ observed.duplicateCount = 0
    publishPlan := observed.publishPlan ++
      [{ stream := adapter.config.streams.runtimeStateStream, payload := .runtimeState runtimeState }]
    filledCount := observed.filledCount
    duplicateCount := observed.duplicateCount }

end PaperRuntimeAdapter

end TradingGateway.BrokerCore.PaperLedger
