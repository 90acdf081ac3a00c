import TradingGateway.Foundation.Runs
import TradingGateway.HybridIntraday.RuntimeIntents

/-! The callbacks of the strategy, and the machine that they make together. -/

set_option autoImplicit false

namespace TradingGateway.HybridIntraday

open BrokerCore.Identifiers BrokerCore.Orders Foundation.MachineNumbers

namespace HybridIntradayRuntimeStrategy

variable {Value : Type} [F64 Value] (ids : RequestIds) (strategy : HybridIntradayRuntimeStrategy Value)
variable (ctx : StrategyCtx Value)

def new (config : HybridIntradayRuntimeConfig Value) : HybridIntradayRuntimeStrategy Value :=
  { config := config
    orchestrator := .new { config := config.mrConfig } (.new config.breakoutConfig) config.orchestratorConfig
    high180Mr := .new (.frozen Value)
    riskGateShadowMr := .new (.frozen Value)
    lastProcessedBarTs := none
    lastPositionQty := F64.zero
    currentOwner := none
    currentSide := none
    pendingEntry := none
    pendingEntryRequestId := none
    pendingEntryCreatedTsUtc := none
    deferredEntry := none
    pendingExit := none
    pendingExitRequestId := none
    pendingExitCreatedTsUtc := none
    deferredExit := none
    pendingTpRequestId := none
    pendingTpCreatedTsUtc := none
    pendingSlRequestId := none
    pendingSlCreatedTsUtc := none
    tpOrderId := none
    slStopOrderId := none
    slExchangeOrderId := none
    slTriggeredTs := none
    mrTakePrice := none
    mrStopPrice := none
    repairDeadlineTs := none
    nextRepairAtTs := none
    repairBackoffLevel := 0
    repairAttempts := 0
    bracketTerminalReconcileStartedMs := none
    activeCycleId := none
    safeModeCloseOnly := false
    safeModeReason := none
    nextCycleSeq := 0
    lastBarClose := none
    prevDayClose := none
    lastDayLocal := none
    currentDayHigh := none
    currentDayLow := none
    prevDayRange := none
    entryReady := false
    workingOrders := []
    workingStopOrders := []
    cleanupStopRetryAttempts := 0
    startupLiveReplayBoundaryTsUtc := none
    riskGateShadowSessionDate := none
    riskGateShadowPnlPoints := F64.zero
    riskGateShadowTradeCount := 0
    riskGateShadowPosition := none
    riskGateShadowOpen := none
    pendingRiskGateFinalizations := []
    riskGateMrEnabledCurrentSession := none }

/-! ### What a bar teaches -/

def updateDayAggregates (dt : NaiveDateTime) (high low : Value) : HybridIntradayRuntimeStrategy Value :=
  let day := dt.date
  let updated :=
    match strategy.lastDayLocal with
    | none =>
        { strategy with lastDayLocal := some day, currentDayHigh := some high, currentDayLow := some low }
    | some prevDay =>
        if prevDay = day then
          { strategy with
            currentDayHigh := some (F64.maxOf (strategy.currentDayHigh.getD high) high)
            currentDayLow := some (F64.minOf (strategy.currentDayLow.getD low) low) }
        else
          { strategy with
            prevDayRange :=
              match strategy.currentDayHigh, strategy.currentDayLow with
              | some dayHigh, some dayLow => some (F64.maxOf (dayHigh - dayLow) F64.zero)
              | _, _ => strategy.prevDayRange
            prevDayClose := strategy.lastBarClose
            lastDayLocal := some day
            currentDayHigh := some high
            currentDayLow := some low }
  { updated with entryReady := updated.signalsWarmed }

def finalizeRiskGateShadowSession (sessionDate : NaiveDate) : HybridIntradayRuntimeStrategy Value :=
  if isWeekend sessionDate ∨
      ∃ finalization ∈ strategy.pendingRiskGateFinalizations, finalization.sessionDate = sessionDate then strategy
  else
    { strategy with
      pendingRiskGateFinalizations := strategy.pendingRiskGateFinalizations ++ [{
        sessionDate := sessionDate
        shadowPnlPoints := strategy.riskGateShadowPnlPoints
        shadowTradeCount := strategy.riskGateShadowTradeCount }] }

def rollRiskGateShadowSession (sessionDate : NaiveDate) : HybridIntradayRuntimeStrategy Value :=
  match strategy.riskGateShadowSessionDate with
  | none => { strategy with riskGateShadowSessionDate := some sessionDate }
  | some prevDate =>
      if prevDate = sessionDate then strategy
      else
        { strategy.finalizeRiskGateShadowSession prevDate with
          riskGateShadowSessionDate := some sessionDate
          riskGateShadowPnlPoints := F64.zero
          riskGateShadowTradeCount := 0
          riskGateShadowPosition := none
          riskGateShadowOpen := none }

def riskGateMakerCostPoints : Value := F64.decimal 1 1

def shadowExitPrice (dt : NaiveDateTime) (close : Value) : Option Value := do
  let position ← strategy.riskGateShadowPosition
  let held ← strategy.riskGateShadowOpen
  High180MrEngine.evaluateExit dt held ((strategy.utcToLocalNaive position.entryTsUtc).getD dt) position.side close

def closeShadowPosition (position : ShadowHigh180Position Value) (exitPrice : Value) :
    HybridIntradayRuntimeStrategy Value :=
  let gained := match position.side with
    | .long => exitPrice - position.entryPrice
    | .short => position.entryPrice - exitPrice
  { strategy with
    riskGateShadowPnlPoints := strategy.riskGateShadowPnlPoints + (gained - riskGateMakerCostPoints)
    riskGateShadowTradeCount :=
      if strategy.riskGateShadowTradeCount = UInt32.ofNat (2 ^ 32 - 1) then strategy.riskGateShadowTradeCount
      else strategy.riskGateShadowTradeCount + 1
    riskGateShadowPosition := none
    riskGateShadowOpen := none }

def openShadowPosition (dt : NaiveDateTime) (tsUtc : Int) (close closePrev dayRangePrev : Value) :
    HybridIntradayRuntimeStrategy Value :=
  match strategy.riskGateShadowPosition, strategy.riskGateShadowMr.evaluateEntry dt close closePrev dayRangePrev with
  | none, some signal =>
      { strategy with
        riskGateShadowPosition := some { side := signal.side, entryTsUtc := tsUtc, entryPrice := close }
        riskGateShadowOpen := some (.fromSignal signal (.frozen Value)) }
  | _, _ => strategy

def updateRiskGateShadow (dt : NaiveDateTime) (tsUtc : Int) (high low close closePrev dayRangePrev : Value) :
    HybridIntradayRuntimeStrategy Value :=
  if strategy.riskGateShadowEnabled = false ∨ F64.equal close F64.zero then strategy
  else
    let rolled := strategy.rollRiskGateShadowSession dt.date
    let warmed := { rolled with riskGateShadowMr := rolled.riskGateShadowMr.onBar dt high low }
    match warmed.riskGateShadowPosition, warmed.shadowExitPrice dt close with
    | some position, some exitPrice => warmed.closeShadowPosition position exitPrice
    | _, _ => warmed.openShadowPosition dt tsUtc close closePrev dayRangePrev

/-! ### Signals of the mean-reversion variants -/

def high180EntrySignal (dt : NaiveDateTime) (close closePrev dayRangePrev : Value) : Option (EntrySignal Value) :=
  (strategy.high180Mr.evaluateEntry dt close closePrev dayRangePrev).map fun signal =>
    { owner := .meanReversion
      side := signal.side
      entryStyle := .bracket
      reason := signal.reason
      stopPrice := some signal.stopPrice
      takePrice := some signal.targetPrice }

def high180ExitReason (dt : NaiveDateTime) : Option ReasonCode := do
  if strategy.currentOwner ≠ some .meanReversion then none
  else
    let entryTs ← (strategy.activeCycleId.map CycleId.tsUtc).bind strategy.utcToLocalNaive
    if strategy.high180Mr.config.maxHold ≤ dt.seconds - entryTs.seconds then some .meanRevTimeCutoff else none

def author41EntrySignal (dt : NaiveDateTime) (close closePrev dayRangePrev : Value) : Option (EntrySignal Value) :=
  let relRange := dayRangePrev / closePrev
  if (NaiveTime.fromHms 12 0 0).secondOfDay < dt.time.secondOfDay then none
  else if closePrev ≤ F64.zero ∨ dayRangePrev ≤ F64.zero ∨ F64.isFinite close = false then none
  else if ¬ (F64.decimal 5 3 < relRange ∧ relRange < F64.decimal 75 3) then none
  else if ¬ (closePrev < close ∧ close < closePrev + F64.decimal 16 2 * dayRangePrev) then none
  else some {
    owner := .meanReversion
    side := .short
    entryStyle := .bracket
    reason := .morningMeanReversionShort
    stopPrice := some (closePrev + F64.decimal 58 2 * dayRangePrev)
    takePrice := some (closePrev - F64.decimal 2 2 * dayRangePrev) }

def author41ExitReason (dt : NaiveDateTime) : Option ReasonCode :=
  if strategy.currentOwner = some .meanReversion ∧ (NaiveTime.fromHms 20 0 0).secondOfDay ≤ dt.time.secondOfDay then
    some .meanRevTimeCutoff
  else none

def roundToTick (price tickSize : Value) : Value :=
  if tickSize ≤ F64.zero ∨ F64.isFinite price = false then price
  else F64.round (price / tickSize) * tickSize

def mrTakeDistanceTicksAfterRounding (referencePrice : Value) (signal : EntrySignal Value) : Option Value := do
  if signal.owner ≠ .meanReversion ∨ signal.entryStyle ≠ .bracket then none
  else
    let takePrice ← signal.takePrice
    let tickSize := strategy.config.tickSize
    if tickSize ≤ F64.zero ∨ F64.isFinite referencePrice = false ∨ F64.isFinite takePrice = false then none
    else
      let entry := roundToTick referencePrice tickSize
      let take := roundToTick takePrice tickSize
      some ((match signal.side with
        | .long => take - entry
        | .short => entry - take) / tickSize)

/-- Entries whose target would lie within two ticks are dropped. -/
def filterNearZeroMrBracketEntry (referencePrice : Value) (signal : Option (EntrySignal Value)) :
    Option (EntrySignal Value) :=
  signal.filter fun signal =>
    match strategy.mrTakeDistanceTicksAfterRounding referencePrice signal with
    | none => true
    | some distanceTicks => F64.decimal 2 0 ≤ distanceTicks

/-! ### Bars -/

def barInput (dt : NaiveDateTime) (bar : BarEvent Value) (closePrev dayRangePrev : Value) (hasOpenPosition : Bool) :
    BarInput Value :=
  { dt := dt
    opened := bar.o
    high := bar.h
    low := bar.l
    close := bar.close
    closePrev := closePrev
    dayRangePrev := dayRangePrev
    hasOpenPosition := hasOpenPosition
    hasLiveOrders := strategy.hasLiveOrders }

/-- A pending request that was created longer ago than the timeout. -/
def isStale (nowTs : Int) (requestId : Option StrategyRequestId) (createdTsUtc : Option Int) : Prop :=
  requestId.isSome ∧ strategy.pendingTimeoutSec < saturatingSub nowTs (createdTsUtc.getD nowTs)

instance (nowTs : Int) (requestId : Option StrategyRequestId) (createdTsUtc : Option Int) :
    Decidable (strategy.isStale nowTs requestId createdTsUtc) :=
  inferInstanceAs (Decidable (_ ∧ _))

def clearStaleEntry (nowTs : Int) : HybridIntradayRuntimeStrategy Value :=
  if strategy.isStale nowTs strategy.pendingEntryRequestId
      (strategy.pendingEntryCreatedTsUtc.or (strategy.pendingEntry.map fun entry => entry.cycleId.tsUtc)) then
    { strategy.clearPendingEntry with
      orchestrator := strategy.orchestrator.onEntryRejected
      deferredEntry := none
      activeCycleId := if IsFlat strategy.lastPositionQty then none else strategy.activeCycleId }
  else strategy

def clearStaleExit (nowTs : Int) : HybridIntradayRuntimeStrategy Value :=
  if strategy.isStale nowTs strategy.pendingExitRequestId strategy.pendingExitCreatedTsUtc then
    strategy.clearPendingExit
  else strategy

def clearStaleTp (nowTs : Int) : HybridIntradayRuntimeStrategy Value :=
  if strategy.isStale nowTs strategy.pendingTpRequestId strategy.pendingTpCreatedTsUtc then
    { strategy with pendingTpRequestId := none, pendingTpCreatedTsUtc := none }
  else strategy

def clearStaleSl (nowTs : Int) : HybridIntradayRuntimeStrategy Value :=
  if strategy.isStale nowTs strategy.pendingSlRequestId strategy.pendingSlCreatedTsUtc then
    { strategy with pendingSlRequestId := none, pendingSlCreatedTsUtc := none }
  else strategy

/-- Without a position and without working orders, pending requests time out. -/
def clearStalePendingTail (nowTs : Int) (positionQty : Value) : HybridIntradayRuntimeStrategy Value :=
  if IsOpen positionQty ∨ strategy.workingOrders ≠ [] ∨ strategy.workingStopOrders ≠ [] then strategy
  else (((strategy.clearStaleEntry nowTs).clearStaleExit nowTs).clearStaleTp nowTs).clearStaleSl nowTs

def startupLiveReplayToleranceSec : Int := max strategy.pendingTimeoutSec 60

def clearStartupReplayGuard : HybridIntradayRuntimeStrategy Value :=
  { strategy with startupLiveReplayBoundaryTsUtc := none }

def armStartupReplayGuard : HybridIntradayRuntimeStrategy Value :=
  if ctx.tradeMode ≠ .live ∨ ctx.allowLiveOrders = false then strategy.clearStartupReplayGuard
  else
    { strategy with
      startupLiveReplayBoundaryTsUtc := some (saturatingSub ctx.nowTsUtc strategy.startupLiveReplayToleranceSec) }

/-- A replayed bar at the start of a live session is only learnt from. -/
def startupReplayBoundary (bar : BarEvent Value) : Option Int :=
  if ctx.tradeMode ≠ .live then none
  else strategy.startupLiveReplayBoundaryTsUtc.filter fun boundary =>
    !decide (bar.origin = .live ∧ boundary ≤ bar.closeTimeUtc)

def warmBar (input : BarInput Value) : HybridIntradayRuntimeStrategy Value :=
  { strategy with orchestrator := strategy.orchestrator.warmBar input }

/-- The bar is the last one, and stale requests are given up. -/
def acceptBar (bar : BarEvent Value) : HybridIntradayRuntimeStrategy Value :=
  { strategy with
      lastProcessedBarTs := some bar.closeTimeUtc
      lastBarClose := some bar.close }.clearStalePendingTail bar.closeTimeUtc (ctx.positionQty.getD F64.zero)

def suppressStartupReplayBar (input : BarInput Value) (bar : BarEvent Value) : HybridIntradayRuntimeStrategy Value :=
  (strategy.warmBar input).acceptBar ctx bar

/-- `suppress_startup_replay_bar` returns false: outside of live mode, and at the first live bar
behind the boundary, the guard falls. -/
def releaseStartupReplayBar (bar : BarEvent Value) : HybridIntradayRuntimeStrategy Value :=
  if ctx.tradeMode ≠ .live then strategy.clearStartupReplayGuard
  else
    match strategy.startupLiveReplayBoundaryTsUtc with
    | none => strategy
    | some boundary =>
        if bar.origin = .live ∧ boundary ≤ bar.closeTimeUtc then strategy.clearStartupReplayGuard else strategy

def mrEntrySignal (dt : NaiveDateTime) (bar : BarEvent Value) (closePrev dayRangePrev : Value) :
    Option (EntrySignal Value) :=
  strategy.filterNearZeroMrBracketEntry bar.close <|
    if strategy.config.liveMrEntriesEnabled = false then none
    else if strategy.usesHigh180Mr then
      if strategy.mrGateAllowsCurrentSession then strategy.high180EntrySignal dt bar.close closePrev dayRangePrev
      else none
    else author41EntrySignal dt bar.close closePrev dayRangePrev

def mrExitReason (dt : NaiveDateTime) : Option ReasonCode :=
  if strategy.usesHigh180Mr then strategy.high180ExitReason dt else strategy.author41ExitReason dt

def orchestratorActions (dt : NaiveDateTime) (bar : BarEvent Value) (closePrev dayRangePrev : Value)
    (input : BarInput Value) : HybridOrchestrator Value × List (Action Value) :=
  if strategy.boOnlyRiskgateDisabled then strategy.orchestrator.onBarWithMrOverride input none none
  else if strategy.usesMrOverride then
    strategy.orchestrator.onBarWithMrOverride input (strategy.mrEntrySignal dt bar closePrev dayRangePrev)
      (strategy.mrExitReason dt)
  else strategy.orchestrator.onBar input

def hasBreakoutExitAction (actions : List (Action Value)) : Bool :=
  actions.any fun action =>
    match action with
    | .submitExit owner _ => owner = .intradayBreakout
    | _ => false

def breakoutEodTime : NaiveTime := .fromHms 23 30 0

def activeCycleLocalDay : Option NaiveDate :=
  (strategy.activeCycleId.map CycleId.tsUtc).bind fun ts => (strategy.utcToLocalNaive ts).map (·.date)

/-- The position of the breakout has been carried into another day, or past the end of its own. -/
def carriesBreakout (dt : NaiveDateTime) (previousDayLocal : Option NaiveDate) : Bool :=
  let notLater (day : Option NaiveDate) := day.filter fun day => decide (day.day ≤ dt.date.day)
  let referenceDay := (notLater strategy.activeCycleLocalDay).or (notLater previousDayLocal)
  (∃ day ∈ referenceDay, day.day < dt.date.day) ∨ breakoutEodTime.secondOfDay ≤ dt.time.secondOfDay

def appendBreakoutNoOvernightGuard (actions : List (Action Value)) (dt : NaiveDateTime)
    (previousDayLocal : Option NaiveDate) (hasOpenPosition : Bool) : List (Action Value) :=
  if hasOpenPosition = false ∨ strategy.currentOwner ≠ some .intradayBreakout ∨
      strategy.config.orchestratorConfig.breakoutEodMode ≠ .sameDay ∨ strategy.pendingExitRequestId.isSome ∨
      strategy.deferredExit.isSome ∨ hasBreakoutExitAction actions then actions
  else if strategy.carriesBreakout dt previousDayLocal = false then actions
  else actions ++ [.submitExit .intradayBreakout .breakoutEodExit]

def actOnBar (dt : NaiveDateTime) (bar : BarEvent Value) (closePrev dayRangePrev : Value)
    (previousDayLocal : Option NaiveDate) (input : BarInput Value) :
    HybridIntradayRuntimeStrategy Value × List (Intent Value) :=
  let isLive : Bool := bar.origin = .live
  let createdTsUtc := ctx.effectiveCreatedTsUtc bar.closeTimeUtc
  let (orchestrator, actions) := strategy.orchestratorActions dt bar closePrev dayRangePrev input
  let asked := { strategy with orchestrator := orchestrator }
  let guarded := asked.appendBreakoutNoOvernightGuard actions dt previousDayLocal input.hasOpenPosition
  let (repaired, repairs) := asked.maybeEmitRepairIntents ids ctx createdTsUtc
  let (acted, intents) := mapActions ids ctx createdTsUtc (ctx.canEmitNow isLive) (ctx.canExecuteNow isLive)
    repaired guarded
  (acted, repairs ++ intents)

/-- A deferred entry is tried again before the orchestrator is asked. -/
def onBarAfterExit (dt : NaiveDateTime) (bar : BarEvent Value) (closePrev dayRangePrev : Value)
    (previousDayLocal : Option NaiveDate) (referencePrice : Value) (input : BarInput Value) :
    HybridIntradayRuntimeStrategy Value × List (Intent Value) :=
  let isLive : Bool := bar.origin = .live
  match strategy.deferredEntry with
  | none => strategy.actOnBar ids ctx dt bar closePrev dayRangePrev previousDayLocal input
  | some deferred =>
      match (strategy.warmBar input).maybeReissueDeferredEntry ids ctx (ctx.effectiveCreatedTsUtc bar.closeTimeUtc) dt
          (ctx.canEmitNow isLive) (ctx.canExecuteNow isLive) referencePrice deferred with
      | (reissued, some intents) => (reissued, intents)
      | (cleared, none) => cleared.actOnBar ids ctx dt bar closePrev dayRangePrev previousDayLocal input

/-- A deferred exit is tried again before everything else. -/
def processBar (dt : NaiveDateTime) (bar : BarEvent Value) (closePrev dayRangePrev : Value)
    (previousDayLocal : Option NaiveDate) (hasOpenPosition : Bool) :
    HybridIntradayRuntimeStrategy Value × List (Intent Value) :=
  let isLive : Bool := bar.origin = .live
  let referencePrice := strategy.liveReferencePrice
  let input := strategy.barInput dt bar closePrev dayRangePrev hasOpenPosition
  match strategy.deferredExit with
  | none => strategy.onBarAfterExit ids ctx dt bar closePrev dayRangePrev previousDayLocal referencePrice input
  | some deferred =>
      match (strategy.warmBar input).maybeReissueDeferredExit ids ctx (ctx.effectiveCreatedTsUtc bar.closeTimeUtc)
          (ctx.canEmitNow isLive) (ctx.canExecuteNow isLive) referencePrice deferred with
      | (reissued, some intents) => (reissued, intents)
      | (cleared, none) =>
          cleared.onBarAfterExit ids ctx dt bar closePrev dayRangePrev previousDayLocal referencePrice input

def learnFromBar (dt : NaiveDateTime) (bar : BarEvent Value) : HybridIntradayRuntimeStrategy Value :=
  let aggregated := strategy.updateDayAggregates dt bar.h bar.l
  let warmed :=
    if aggregated.usesHigh180Mr then
      { aggregated with high180Mr := aggregated.high180Mr.onBar dt bar.h bar.l }
    else aggregated
  warmed.updateRiskGateShadow dt bar.closeTimeUtc bar.h bar.l bar.close (warmed.prevDayClose.getD bar.close)
    (warmed.prevDayRange.getD F64.zero)

def onBar (bar : BarEvent Value) : HybridIntradayRuntimeStrategy Value × List (Intent Value) :=
  if bar.symbol ≠ strategy.config.symbol ∨ ∃ lastTs ∈ strategy.lastProcessedBarTs, bar.closeTimeUtc ≤ lastTs then
    (strategy, [])
  else
    match strategy.utcToLocalNaive bar.closeTimeUtc with
    | none => (strategy, [])
    | some dt =>
        if strategy.suppressWeekendSignalGeneration dt ∨ strategy.suppressNonModelSessionBar dt then
          ({ strategy with lastProcessedBarTs := some bar.closeTimeUtc }, [])
        else
          let learnt := strategy.learnFromBar dt bar
          let closePrev := learnt.prevDayClose.getD bar.close
          let dayRangePrev := learnt.prevDayRange.getD F64.zero
          let hasOpenPosition : Bool := IsOpen (ctx.positionQty.getD F64.zero)
          match learnt.startupReplayBoundary ctx bar with
          | some _ =>
              (learnt.suppressStartupReplayBar ctx
                (learnt.barInput dt bar closePrev dayRangePrev hasOpenPosition) bar, [])
          | none =>
              ((learnt.releaseStartupReplayBar ctx bar).acceptBar ctx bar).processBar ids ctx dt bar closePrev
                dayRangePrev strategy.lastDayLocal hasOpenPosition

/-! ### Acknowledgements -/

def isNegative (ack : CommandAck) : Prop :=
  ack.status = .rejected ∨ ack.status = .expired ∨ ack.status = .error

instance (ack : CommandAck) : Decidable (isNegative ack) := inferInstanceAs (Decidable (_ ∨ _))

def isWindowClosedRecoverableReject (ack : CommandAck) : Prop :=
  ack.errorCode = some "trading_window_closed" ∧ ack.brokerOrderId = none

instance (ack : CommandAck) : Decidable (isWindowClosedRecoverableReject ack) :=
  inferInstanceAs (Decidable (_ ∧ _))

def deferEntry (ack : CommandAck) (entry : PendingEntry Value) : DeferredEntry Value :=
  { signal := {
      owner := entry.owner
      side := entry.side
      entryStyle := entry.entryStyle
      reason := entry.reason
      stopPrice := entry.stopPrice
      takePrice := entry.takePrice }
    cycleId := entry.cycleId
    deferredTsUtc := ack.processedTsUtc
    originalRequestId := ack.requestId }

/-- A refused entry is deferred where the trading window was closed, and ends entries otherwise. -/
def rejectEntry (ack : CommandAck) : HybridIntradayRuntimeStrategy Value :=
  let rejected := { strategy.clearPendingEntry with
    orchestrator := strategy.orchestrator.onEntryRejected
    activeCycleId := none
    tpOrderId := none
    slStopOrderId := none
    slExchangeOrderId := none }
  if isWindowClosedRecoverableReject ack then
    { rejected with
      deferredEntry := (strategy.pendingEntry.map (deferEntry ack)).or strategy.deferredEntry }
  else rejected.enterSafeMode "entry_rejected"

def rejectExit (ack : CommandAck) : HybridIntradayRuntimeStrategy Value :=
  if isWindowClosedRecoverableReject ack then
    let (numbered, cycle) := strategy.activeOrNextCycle ack.processedTsUtc
    { numbered.clearPendingExit with
      deferredExit := strategy.pendingExit.map fun pending => {
        owner := pending.owner
        reason := pending.reason
        cycleId := cycle
        deferredTsUtc := ack.processedTsUtc
        originalRequestId := ack.requestId } }
  else strategy.clearPendingExit

/-- A refused command, without a position but with working stop orders, has them deleted again. -/
def retrySiblingCleanup (ack : CommandAck) : HybridIntradayRuntimeStrategy Value × List (Intent Value) :=
  if isNegative ack ∧ IsFlat strategy.lastPositionQty ∧ strategy.workingStopOrders ≠ [] ∧
      strategy.cleanupStopRetryAttempts < maxCleanupStopRetries then
    ({ strategy with cleanupStopRetryAttempts := strategy.cleanupStopRetryAttempts + 1 },
      (strategy.workingStopOrders.insertionSort fun left right => left.value ≤ right.value).map
        (deleteStopCleanup none))
  else (strategy, [])

def onAck (ack : CommandAck) : HybridIntradayRuntimeStrategy Value × List (Intent Value) :=
  if some ack.requestId = strategy.pendingEntryRequestId then
    (if isNegative ack then strategy.rejectEntry ack else strategy, [])
  else if some ack.requestId = strategy.pendingExitRequestId then
    (if isNegative ack then strategy.rejectExit ack else strategy, [])
  else if some ack.requestId = strategy.pendingTpRequestId then
    (if isNegative ack then
      { strategy with pendingTpRequestId := none, pendingTpCreatedTsUtc := none }.scheduleNextRepair ack.processedTsUtc
    else strategy, [])
  else if some ack.requestId = strategy.pendingSlRequestId then
    (if isNegative ack then
      { strategy with pendingSlRequestId := none, pendingSlCreatedTsUtc := none }.scheduleNextRepair ack.processedTsUtc
    else strategy, [])
  else strategy.retrySiblingCleanup ack

/-! ### Order events -/

def isOurTag (comment : Option String) : Prop :=
  ∃ tag ∈ parseHybridTag comment, tag.sid = ctx.strategyId

instance (comment : Option String) : Decidable (isOurTag ctx comment) :=
  inferInstanceAs (Decidable (∃ _ ∈ _, _))

def hasRole (role : TagRole) (comment : Option String) : Prop :=
  (parseHybridTag comment).bind (·.role) = some role

instance (role : TagRole) (comment : Option String) : Decidable (hasRole role comment) :=
  inferInstanceAs (Decidable (_ = _))

def markBracketTerminalReconcile (nowMs : Int) : HybridIntradayRuntimeStrategy Value :=
  { strategy with bracketTerminalReconcileStartedMs := some nowMs }

def noteTakeProfit (nowMs : Int) (orderId : BrokerOrderId) (status : String) : HybridIntradayRuntimeStrategy Value :=
  let noted := { strategy with
    pendingTpRequestId := none
    pendingTpCreatedTsUtc := none
    tpOrderId := if isTerminalOrderStatus status then none else some orderId }
  if status = "filled" then noted.markBracketTerminalReconcile nowMs else noted

def trackOrder (orderId : BrokerOrderId) (status : String) : HybridIntradayRuntimeStrategy Value :=
  { strategy with
    workingOrders :=
      if isTerminalOrderStatus status then strategy.workingOrders.filter (· ≠ orderId)
      else strategy.workingOrders.insert orderId }

def onOrder (nowMs : Int) (order : OrderEvent) : HybridIntradayRuntimeStrategy Value × List (Intent Value) :=
  if order.symbol ≠ strategy.config.symbol ∨ ¬ isOurTag ctx order.comment then (strategy, [])
  else
    let status := asciiLowercase order.status
    let adopted :=
      if isTerminalOrderStatus status then strategy else strategy.ensureActiveCycleFromComment order.comment
    let noted :=
      if hasRole .tp order.comment then adopted.noteTakeProfit nowMs order.orderId status else adopted
    (noted.trackOrder order.orderId status, [])

/-- A stop order of the stop role is the one the strategy knows, while it works; once it is
triggered, the take-profit order is cancelled. -/
def noteStopLoss (nowMs : Int) (order : StopOrderEvent) (status : String) :
    HybridIntradayRuntimeStrategy Value × List (Intent Value) :=
  let noted := { strategy with
    pendingSlRequestId := none
    pendingSlCreatedTsUtc := none
    slStopOrderId := if isTerminalStopOrderStatus status then none else some order.stopOrderId
    slExchangeOrderId :=
      if status ∈ ["canceled", "cancelled", "expired", "rejected"] then none
      else order.exchangeOrderId.or strategy.slExchangeOrderId }
  if isTriggeredStopOrderStatus status then
    ({ noted.markBracketTerminalReconcile nowMs with
        slTriggeredTs := some (max order.tsUtc 0)
        tpOrderId := none },
      noted.tpOrderId.toList.map cancelCleanup)
  else (noted, [])

def trackStopOrder (orderId : BrokerStopOrderId) (status : String) : HybridIntradayRuntimeStrategy Value :=
  if isTerminalStopOrderStatus status then
    let remaining := strategy.workingStopOrders.filter (· ≠ orderId)
    { strategy with
      workingStopOrders := remaining
      cleanupStopRetryAttempts := if remaining = [] then 0 else strategy.cleanupStopRetryAttempts }
  else { strategy with workingStopOrders := strategy.workingStopOrders.insert orderId }

def onStopOrder (nowMs : Int) (order : StopOrderEvent) : HybridIntradayRuntimeStrategy Value × List (Intent Value) :=
  if order.symbol ≠ strategy.config.symbol ∨ ¬ isOurTag ctx order.comment then (strategy, [])
  else
    let status := asciiLowercase order.status
    let adopted :=
      if isTerminalStopOrderStatus status then strategy else strategy.ensureActiveCycleFromComment order.comment
    let (noted, intents) :=
      if hasRole .sl order.comment then adopted.noteStopLoss nowMs order status else (adopted, [])
    (noted.trackStopOrder order.stopOrderId status, intents)

/-! ### Positions -/

/-- Why a position that a pending entry does not explain is closed. -/
def partialEntryFault (entry : PendingEntry Value) (cur : Value) : String :=
  if F64.equal (F64.signum cur) (F64.signum (expectedEntryQty entry)) = false then "partial_entry_sign_mismatch"
  else if entry.targetQty + F64.epsilon < F64.abs cur then "partial_entry_overfill"
  else "partial_entry_position_reduced"

def setPositionQty (qty : Value) : HybridIntradayRuntimeStrategy Value :=
  { strategy with lastPositionQty := qty }

def fillEntry (pos : PositionEvent Value) (entry : PendingEntry Value) :
    HybridIntradayRuntimeStrategy Value × List (Intent Value) :=
  { strategy.clearPendingEntry with
    cleanupStopRetryAttempts := 0
    deferredEntry := none
    currentOwner := some entry.owner
    currentSide := some entry.side
    activeCycleId := some entry.cycleId
    repairAttempts := 0
    repairBackoffLevel := 0
    nextRepairAtTs := some pos.tsUtc
    repairDeadlineTs := some (saturatingAdd pos.tsUtc (asI64 strategy.config.repairDeadlineSec))
    mrTakePrice := entry.takePrice
    mrStopPrice := entry.stopPrice
    orchestrator := strategy.orchestrator.onEntryFilled entry.owner (some entry.side) }.emitMrBracketIntents ids ctx
      pos entry

/-- A position without a pending entry has no owner; it is closed unless it was there before. -/
def recoverPosition (pos : PositionEvent Value) : HybridIntradayRuntimeStrategy Value × List (Intent Value) :=
  let (numbered, cycle) := strategy.activeOrNextCycle pos.tsUtc
  let unowned := { numbered with
    cleanupStopRetryAttempts := 0
    deferredEntry := none
    currentOwner := none
    currentSide := none
    activeCycleId := some cycle }.enterSafeMode "recovered_position_owner_unknown"
  if pos.existing then (unowned, [])
  else unowned.emitBrokerResidualEmergencyExit ids ctx pos "unexpected_broker_residual"

/-- The position is closed: everything about it ends, and its protection is cancelled. -/
def closePosition : HybridIntradayRuntimeStrategy Value × List (Intent Value) :=
  let (cleaned, intents) := { strategy.clearPendingEntry.clearPendingExit with
    cleanupStopRetryAttempts := 0
    orchestrator := strategy.orchestrator.onExitFilled
    currentOwner := none
    currentSide := none
    deferredEntry := none
    deferredExit := none
    bracketTerminalReconcileStartedMs := none
    activeCycleId := none
    safeModeCloseOnly := false
    safeModeReason := none
    slTriggeredTs := none }.emitCancelAllProtection strategy.currentSide
  (cleaned.resetRepairTracking, intents)

def settlePosition (pos : PositionEvent Value) (completesPendingEntry : Bool) :
    HybridIntradayRuntimeStrategy Value × List (Intent Value) :=
  if (IsFlat strategy.lastPositionQty ∨ completesPendingEntry) ∧ IsOpen pos.qty then
    match strategy.pendingEntry with
    | some entry => strategy.fillEntry ids ctx pos entry
    | none => strategy.recoverPosition ids ctx pos
  else if IsOpen strategy.lastPositionQty ∧ IsFlat pos.qty then strategy.closePosition
  else (strategy, [])

/-- An open position of another size: the bracket may be settling, and is else given up. -/
def onPositionResized (nowMs : Int) (pos : PositionEvent Value) :
    HybridIntradayRuntimeStrategy Value × List (Intent Value) :=
  if strategy.bracketTerminalReconcileActive nowMs then (strategy, [])
  else strategy.emitBrokerResidualEmergencyExit ids ctx pos
    (if F64.equal (F64.signum strategy.lastPositionQty) (F64.signum pos.qty) = false then "broker_position_sign_flip"
    else "broker_position_size_changed")

def explainPosition (nowMs : Int) (pos : PositionEvent Value) :
    HybridIntradayRuntimeStrategy Value × List (Intent Value) :=
  let prev := strategy.lastPositionQty
  match strategy.pendingEntry.filter fun _ => decide (IsOpen pos.qty) with
  | some entry =>
      if ¬ partialEntryProgressIsValid entry prev pos.qty then
        let (closing, intents) := strategy.emitBrokerResidualEmergencyExit ids ctx pos (partialEntryFault entry pos.qty)
        ({ closing with pendingEntry := none }, intents)
      else if waitsForPartialEntryTarget entry ∧ F64.abs pos.qty + F64.epsilon < entry.targetQty then
        ({ strategy with
            pendingEntry := some { entry with
              partialStartedAtMs := entry.partialStartedAtMs.or (some nowMs) } }, [])
      else strategy.settlePosition ids ctx pos true
  | none =>
      if IsOpen prev ∧ IsOpen pos.qty ∧ IsOpen (prev - pos.qty) then strategy.onPositionResized ids ctx nowMs pos
      else strategy.settlePosition ids ctx pos false

def onPosition (nowMs : Int) (pos : PositionEvent Value) : HybridIntradayRuntimeStrategy Value × List (Intent Value) :=
  if pos.symbol ≠ strategy.config.symbol then (strategy, [])
  else
    let (explained, intents) := strategy.explainPosition ids ctx nowMs pos
    (explained.setPositionQty pos.qty, intents)

def onTimer (nowTsUtcMs : Int) : HybridIntradayRuntimeStrategy Value × List (Intent Value) :=
  let (reconciled, flattening) := strategy.emitBracketReconcileTimeoutExit ids ctx nowTsUtcMs
  let (timedOut, intents) := reconciled.emitPartialEntryTimeoutExit ids ctx nowTsUtcMs
  (timedOut, flattening ++ intents)

/-! ### Start -/

/-- The owners that the tags of working orders name so far, and a conflict between two of them. -/
def noteTagOwner (ownerFromTags : Option Owner) (tag : HybridTag) :
    HybridIntradayRuntimeStrategy Value × Option Owner :=
  match ownerFromTags with
  | none => (strategy, tag.owner)
  | some owner =>
      (if tag.owner.isSome ∧ tag.owner ≠ some owner then strategy.enterSafeMode "bootstrap_conflicting_owner_tags"
      else strategy, ownerFromTags)

def adoptOrder (state : HybridIntradayRuntimeStrategy Value × Option Owner) (row : BrokerOrderId × OrderEvent) :
    HybridIntradayRuntimeStrategy Value × Option Owner :=
  let (strategy, ownerFromTags) := state
  let (orderId, order) := row
  if order.symbol ≠ strategy.config.symbol ∨ ¬ isOurTag ctx order.comment then state
  else
    let adopted := { strategy with workingOrders := strategy.workingOrders.insert orderId }.ensureActiveCycleFromComment
      order.comment
    match parseHybridTag order.comment with
    | none => (adopted, ownerFromTags)
    | some tag =>
        let (noted, owner) := adopted.noteTagOwner ownerFromTags tag
        (if tag.role = some .tp then { noted with tpOrderId := some orderId } else noted, owner)

def adoptStopOrder (state : HybridIntradayRuntimeStrategy Value × Option Owner)
    (row : BrokerStopOrderId × StopOrderEvent) : HybridIntradayRuntimeStrategy Value × Option Owner :=
  let (strategy, ownerFromTags) := state
  let (orderId, order) := row
  if order.symbol ≠ strategy.config.symbol ∨ ¬ isOurTag ctx order.comment then state
  else
    let adopted := { strategy with
      workingStopOrders := strategy.workingStopOrders.insert orderId }.ensureActiveCycleFromComment order.comment
    match parseHybridTag order.comment with
    | none => (adopted, ownerFromTags)
    | some tag =>
        let (noted, owner) := adopted.noteTagOwner ownerFromTags tag
        (if tag.role = some .sl then
          { noted with slStopOrderId := some orderId, slExchangeOrderId := order.exchangeOrderId }
        else noted, owner)

def adoptPosition (position : PositionEvent Value) : HybridIntradayRuntimeStrategy Value :=
  let opened : Bool := IsOpen position.qty
  let sided := { strategy with
    lastPositionQty := position.qty
    currentSide :=
      if strategy.currentSide.isNone ∧ opened then some (if F64.zero ≤ position.qty then .long else .short)
      else strategy.currentSide }
  if opened ∧ sided.pendingEntry.isNone ∧ sided.currentOwner.isNone then
    sided.enterSafeMode "bootstrap_position_owner_unknown"
  else sided

def onBootstrapSnapshot (snapshot : BootstrapSnapshot Value) :
    HybridIntradayRuntimeStrategy Value × List (Intent Value) :=
  let cleared := { strategy with
    workingOrders := []
    workingStopOrders := []
    tpOrderId := none
    slStopOrderId := none
    slExchangeOrderId := none }
  let withOrders := snapshot.workingOrdersStrategy.foldl (adoptOrder ctx) (cleared, none)
  let (adopted, ownerFromTags) := snapshot.workingStopOrdersStrategy.foldl (adoptStopOrder ctx) withOrders
  let owned := { adopted with currentOwner := adopted.currentOwner.or ownerFromTags }
  match snapshot.positionsStrategy.lookup strategy.config.symbol with
  | some position => (owned.adoptPosition position, [])
  | none => (owned, [])

def clearBootStalePendingTail : HybridIntradayRuntimeStrategy Value :=
  let hadStaleTail := strategy.pendingEntry.isSome ∨ strategy.pendingEntryRequestId.isSome ∨
    strategy.pendingExitRequestId.isSome ∨ strategy.pendingTpRequestId.isSome ∨
    strategy.pendingSlRequestId.isSome ∨ strategy.currentOwner.isSome ∨ strategy.currentSide.isSome ∨
    strategy.activeCycleId.isSome
  if IsOpen strategy.lastPositionQty ∨ strategy.workingOrders ≠ [] ∨ strategy.workingStopOrders ≠ [] ∨
      ¬ hadStaleTail then strategy
  else
    { strategy.clearPendingEntry.clearPendingExit.resetRepairTracking with
      deferredEntry := none
      deferredExit := none
      currentOwner := none
      currentSide := none
      activeCycleId := none
      orchestrator := strategy.orchestrator.reset }

def onRuntimeStateRestored : HybridIntradayRuntimeStrategy Value × List (Intent Value) :=
  (strategy.clearBootStalePendingTail.armStartupReplayGuard ctx, [])

end HybridIntradayRuntimeStrategy

inductive Callback (Value : Type) where
  | bar (ctx : StrategyCtx Value) (event : BarEvent Value)
  | ack (ctx : StrategyCtx Value) (event : CommandAck)
  | order (ctx : StrategyCtx Value) (nowMs : Int) (event : OrderEvent)
  | stopOrder (ctx : StrategyCtx Value) (nowMs : Int) (event : StopOrderEvent)
  | position (ctx : StrategyCtx Value) (nowMs : Int) (event : PositionEvent Value)
  | timer (ctx : StrategyCtx Value) (nowTsUtcMs : Int)
  | bootstrapSnapshot (ctx : StrategyCtx Value) (snapshot : BootstrapSnapshot Value)
  | runtimeStateRestored (ctx : StrategyCtx Value)

namespace HybridIntradayRuntimeStrategy

variable {Value : Type} [F64 Value] (ids : RequestIds) (strategy : HybridIntradayRuntimeStrategy Value)

def call : Callback Value → HybridIntradayRuntimeStrategy Value × List (Intent Value)
  | .bar ctx event => strategy.onBar ids ctx event
  | .ack _ event => strategy.onAck event
  | .order ctx nowMs event => strategy.onOrder ctx nowMs event
  | .stopOrder ctx nowMs event => strategy.onStopOrder ctx nowMs event
  | .position ctx nowMs event => strategy.onPosition ids ctx nowMs event
  | .timer ctx nowTsUtcMs => strategy.onTimer ids ctx nowTsUtcMs
  | .bootstrapSnapshot ctx snapshot => strategy.onBootstrapSnapshot ctx snapshot
  | .runtimeStateRestored ctx => strategy.onRuntimeStateRestored ctx

def after (callback : Callback Value) : HybridIntradayRuntimeStrategy Value :=
  (strategy.call ids callback).1

def returned (callback : Callback Value) : List (Intent Value) :=
  (strategy.call ids callback).2

end HybridIntradayRuntimeStrategy

end TradingGateway.HybridIntraday
