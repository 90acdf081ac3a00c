import TradingGateway.HybridIntraday.TradeState

/-! The state that the strategy publishes, and a new strategy that is set to it. Days and local times are
kept as what their texts spell; the figures of the risk gate's ledger, which nothing here reads, are left out. -/

set_option autoImplicit false

namespace TradingGateway.HybridIntraday

open BrokerCore.Identifiers BrokerCore.Orders Foundation.MachineNumbers

theorem CycleId.parse_toText (cycle : CycleId) : CycleId.parse cycle.toText = some cycle := by
  have valid : cycle.toText.toList.length = 10 ∧ cycle.toText.toList.all Char.isHexDigit = true := by
    rw [toText, String.toList_ofList]
    exact ⟨cycle.length_digits, cycle.hex_digits⟩
  unfold parse
  rw [dif_pos valid]
  congr
  rw [toText, String.toList_ofList]

structure IntradayBreakoutSnapshot (Value : Type) where
  curDayDate : Option NaiveDate
  curDayHigh : Option Value
  curDayLow : Option Value
  curDayClose : Option Value
  yesterdayClose : Option Value
  yesterdayRange : Option Value
  yesterdayReturn : Option Value
  dayBeforeClose : Option Value
  wasLongToday : Bool
  wasShortToday : Bool
  todayStart : Option NaiveDateTime

namespace IntradayBreakoutEngine

variable {Value : Type} (engine : IntradayBreakoutEngine Value)

def snapshot : IntradayBreakoutSnapshot Value :=
  { curDayDate := engine.curDayDate
    curDayHigh := engine.curDayHigh
    curDayLow := engine.curDayLow
    curDayClose := engine.curDayClose
    yesterdayClose := engine.yesterdayClose
    yesterdayRange := engine.yesterdayRange
    yesterdayReturn := engine.yesterdayReturn
    dayBeforeClose := engine.dayBeforeClose
    wasLongToday := engine.wasLongToday
    wasShortToday := engine.wasShortToday
    todayStart := engine.todayStart }

def restoreSnapshot (snapshot : IntradayBreakoutSnapshot Value) : IntradayBreakoutEngine Value :=
  { config := engine.config
    curDayDate := snapshot.curDayDate
    curDayHigh := snapshot.curDayHigh
    curDayLow := snapshot.curDayLow
    curDayClose := snapshot.curDayClose
    yesterdayClose := snapshot.yesterdayClose
    yesterdayRange := snapshot.yesterdayRange
    yesterdayReturn := snapshot.yesterdayReturn
    dayBeforeClose := snapshot.dayBeforeClose
    wasLongToday := snapshot.wasLongToday
    wasShortToday := snapshot.wasShortToday
    todayStart := snapshot.todayStart }

end IntradayBreakoutEngine

structure HybridSnapshot where
  state : HybridState
  currentOwner : Option Owner
  currentSide : Option Side
  hasPendingEntry : Bool
  overnightExitArmedDate : Option NaiveDate

namespace HybridOrchestrator

variable {Value : Type} (orchestrator : HybridOrchestrator Value)

def snapshot : HybridSnapshot :=
  { state := orchestrator.state
    currentOwner := orchestrator.currentOwner
    currentSide := orchestrator.currentSide
    hasPendingEntry := orchestrator.pendingEntry.isSome
    overnightExitArmedDate := orchestrator.overnightExitArmedDate }

def restore (snapshot : HybridSnapshot) : HybridOrchestrator Value :=
  { orchestrator with
    state := snapshot.state
    currentOwner := snapshot.currentOwner
    currentSide := snapshot.currentSide
    pendingEntry := none
    overnightExitArmedDate := snapshot.overnightExitArmedDate }

end HybridOrchestrator

/-- `StrategyState::HybridIntradayRuntime`. -/
structure HybridIntradayState (Value : Type) where
  activeCycleId : Option String
  nextCycleSeq : UInt32
  lastPositionQty : Value
  currentOwner : Option Owner
  currentSide : Option Side
  pendingEntryOwner : Option Owner
  pendingEntrySide : Option Side
  pendingEntryCycleId : Option String
  pendingEntryRequestId : Option StrategyRequestId
  pendingEntryCreatedTsUtc : Option Int
  deferredEntryOwner : Option Owner
  deferredEntrySide : Option Side
  deferredEntryCycleId : Option String
  deferredEntryEntryStyle : Option EntryStyle
  deferredEntryReason : Option ReasonCode
  deferredEntryStopPrice : Option Value
  deferredEntryTakePrice : Option Value
  deferredEntryTsUtc : Option Int
  deferredEntryRequestId : Option StrategyRequestId
  pendingExitRequestId : Option StrategyRequestId
  pendingExitCreatedTsUtc : Option Int
  deferredExitOwner : Option Owner
  deferredExitReason : Option ReasonCode
  deferredExitCycleId : Option String
  deferredExitTsUtc : Option Int
  deferredExitRequestId : Option StrategyRequestId
  pendingTpRequestId : Option StrategyRequestId
  pendingTpCreatedTsUtc : Option Int
  pendingSlRequestId : Option StrategyRequestId
  pendingSlCreatedTsUtc : Option Int
  tpOrderId : Option BrokerOrderId
  slStopOrderId : Option BrokerStopOrderId
  slExchangeOrderId : Option BrokerOrderId
  slTriggeredTs : Option Int
  mrTakePrice : Option Value
  mrStopPrice : Option Value
  repairDeadlineTs : Option Int
  nextRepairAtTs : Option Int
  repairBackoffLevel : UInt32
  repairAttempts : UInt32
  safeModeCloseOnly : Bool
  safeModeReason : Option String
  entryReady : Bool
  lastBarClose : Option Value
  prevDayClose : Option Value
  lastDayLocal : Option NaiveDate
  currentDayHigh : Option Value
  currentDayLow : Option Value
  prevDayRange : Option Value
  currentDayClose : Option Value
  prevDayReturn : Option Value
  dayBeforeClose : Option Value
  todayStartLocal : Option NaiveDateTime
  wasLongToday : Bool
  wasShortToday : Bool
  overnightExitArmedDate : Option NaiveDate
  riskGateShadowSessionDate : Option NaiveDate
  riskGateShadowPnlPoints : Value
  riskGateShadowTradeCount : UInt32
  riskGateShadowEntryTsUtc : Option Int
  riskGateShadowEntryPrice : Option Value
  riskGateShadowSide : Option Side
  riskGateShadowTargetPrice : Option Value
  riskGateShadowStopPrice : Option Value
  riskGatePendingSessionDate : Option NaiveDate
  riskGatePendingShadowPnlPoints : Value
  riskGatePendingShadowTradeCount : UInt32
  riskGateMrEnabledCurrentSession : Option Bool

inductive StrategyState (Value : Type) where
  | idle
  | hybridIntradayRuntime (state : HybridIntradayState Value)

namespace HybridIntradayRuntimeStrategy

variable {Value : Type} [F64 Value] (strategy : HybridIntradayRuntimeStrategy Value)

/-- The state that `sync_state` publishes. -/
def syncState : StrategyState Value :=
  let breakout := strategy.orchestrator.intradayBreakout.snapshot
  let orchestrator := strategy.orchestrator.snapshot
  let pendingRiskGateFinalization := strategy.pendingRiskGateFinalizations.head?
  .hybridIntradayRuntime
    { activeCycleId := strategy.activeCycleId.map CycleId.toText
      nextCycleSeq := strategy.nextCycleSeq
      lastPositionQty := strategy.lastPositionQty
      currentOwner := strategy.currentOwner
      currentSide := strategy.currentSide
      pendingEntryOwner := strategy.pendingEntry.map (·.owner)
      pendingEntrySide := strategy.pendingEntry.map (·.side)
      pendingEntryCycleId := strategy.pendingEntry.map fun entry => entry.cycleId.toText
      pendingEntryRequestId := strategy.pendingEntryRequestId
      pendingEntryCreatedTsUtc := strategy.pendingEntryCreatedTsUtc
      deferredEntryOwner := strategy.deferredEntry.map (·.signal.owner)
      deferredEntrySide := strategy.deferredEntry.map (·.signal.side)
      deferredEntryCycleId := strategy.deferredEntry.map fun deferred => deferred.cycleId.toText
      deferredEntryEntryStyle := strategy.deferredEntry.map (·.signal.entryStyle)
      deferredEntryReason := strategy.deferredEntry.map (·.signal.reason)
      deferredEntryStopPrice := strategy.deferredEntry.bind (·.signal.stopPrice)
      deferredEntryTakePrice := strategy.deferredEntry.bind (·.signal.takePrice)
      deferredEntryTsUtc := strategy.deferredEntry.map (·.deferredTsUtc)
      deferredEntryRequestId := strategy.deferredEntry.map (·.originalRequestId)
      pendingExitRequestId := strategy.pendingExitRequestId
      pendingExitCreatedTsUtc := strategy.pendingExitCreatedTsUtc
      deferredExitOwner := strategy.deferredExit.map (·.owner)
      deferredExitReason := strategy.deferredExit.map (·.reason)
      deferredExitCycleId := strategy.deferredExit.map fun deferred => deferred.cycleId.toText
      deferredExitTsUtc := strategy.deferredExit.map (·.deferredTsUtc)
      deferredExitRequestId := strategy.deferredExit.map (·.originalRequestId)
      pendingTpRequestId := strategy.pendingTpRequestId
      pendingTpCreatedTsUtc := strategy.pendingTpCreatedTsUtc
      pendingSlRequestId := strategy.pendingSlRequestId
      pendingSlCreatedTsUtc := strategy.pendingSlCreatedTsUtc
      tpOrderId := strategy.tpOrderId
      slStopOrderId := strategy.slStopOrderId
      slExchangeOrderId := strategy.slExchangeOrderId
      slTriggeredTs := strategy.slTriggeredTs
      mrTakePrice := strategy.mrTakePrice
      mrStopPrice := strategy.mrStopPrice
      repairDeadlineTs := strategy.repairDeadlineTs
      nextRepairAtTs := strategy.nextRepairAtTs
      repairBackoffLevel := strategy.repairBackoffLevel
      repairAttempts := strategy.repairAttempts
      safeModeCloseOnly := strategy.safeModeCloseOnly
      safeModeReason := strategy.safeModeReason
      entryReady := strategy.entryReady
      lastBarClose := strategy.lastBarClose
      prevDayClose := strategy.prevDayClose
      lastDayLocal := strategy.lastDayLocal
      currentDayHigh := strategy.currentDayHigh
      currentDayLow := strategy.currentDayLow
      prevDayRange := strategy.prevDayRange
      currentDayClose := breakout.curDayClose
      prevDayReturn := breakout.yesterdayReturn
      dayBeforeClose := breakout.dayBeforeClose
      todayStartLocal := breakout.todayStart
      wasLongToday := breakout.wasLongToday
      wasShortToday := breakout.wasShortToday
      overnightExitArmedDate := orchestrator.overnightExitArmedDate
      riskGateShadowSessionDate := strategy.riskGateShadowSessionDate
      riskGateShadowPnlPoints := strategy.riskGateShadowPnlPoints
      riskGateShadowTradeCount := strategy.riskGateShadowTradeCount
      riskGateShadowEntryTsUtc := strategy.riskGateShadowPosition.map (·.entryTsUtc)
      riskGateShadowEntryPrice := strategy.riskGateShadowPosition.map (·.entryPrice)
      riskGateShadowSide := strategy.riskGateShadowPosition.map (·.side)
      riskGateShadowTargetPrice := strategy.riskGateShadowOpen.map (·.targetPrice)
      riskGateShadowStopPrice := strategy.riskGateShadowOpen.map (·.stopPrice)
      riskGatePendingSessionDate := pendingRiskGateFinalization.map (·.sessionDate)
      riskGatePendingShadowPnlPoints :=
        (pendingRiskGateFinalization.map (·.shadowPnlPoints)).getD F64.zero
      riskGatePendingShadowTradeCount := (pendingRiskGateFinalization.map (·.shadowTradeCount)).getD 0
      riskGateMrEnabledCurrentSession := strategy.riskGateMrEnabledCurrentSession }

def restoredPendingEntry (state : HybridIntradayState Value) : Option (PendingEntry Value) := do
  some {
    owner := ← state.pendingEntryOwner
    side := ← state.pendingEntrySide
    cycleId := ← state.pendingEntryCycleId.bind CycleId.parse
    reason := .morningMeanReversionLong
    entryStyle := .market
    stopPrice := none
    takePrice := none
    targetQty := F64.maxOf strategy.config.qty F64.one
    partialStartedAtMs := none }

omit [F64 Value] in
def restoredDeferredEntry (state : HybridIntradayState Value) : Option (DeferredEntry Value) := do
  let owner ← state.deferredEntryOwner
  let side ← state.deferredEntrySide
  let cycleId ← state.deferredEntryCycleId.bind CycleId.parse
  let entryStyle ← state.deferredEntryEntryStyle
  let reason ← state.deferredEntryReason
  let deferredTsUtc ← state.deferredEntryTsUtc
  let originalRequestId ← state.deferredEntryRequestId
  some {
    signal := {
      owner := owner
      side := side
      entryStyle := entryStyle
      reason := reason
      stopPrice := state.deferredEntryStopPrice
      takePrice := state.deferredEntryTakePrice }
    cycleId := cycleId
    deferredTsUtc := deferredTsUtc
    originalRequestId := originalRequestId }

def restoredDeferredExit (state : HybridIntradayState Value) : Option DeferredExit := do
  some {
    owner := ← state.deferredExitOwner
    reason := ← state.deferredExitReason
    cycleId := ← state.deferredExitCycleId.bind CycleId.parse
    deferredTsUtc := ← state.deferredExitTsUtc
    originalRequestId := ← state.deferredExitRequestId }

def restoredShadowPosition (state : HybridIntradayState Value) : Option (ShadowHigh180Position Value) := do
  some {
    side := ← state.riskGateShadowSide
    entryTsUtc := ← state.riskGateShadowEntryTsUtc
    entryPrice := ← state.riskGateShadowEntryPrice }

def restoredShadowOpen (state : HybridIntradayState Value) : Option (High180Open Value) := do
  some {
    targetPrice := ← state.riskGateShadowTargetPrice
    stopPrice := ← state.riskGateShadowStopPrice
    maxHold := (High180MrConfig.frozen Value).maxHold }

def restoredFinalizations (state : HybridIntradayState Value) : List (RiskGateSessionFinalization Value) :=
  state.riskGatePendingSessionDate.toList.map fun sessionDate =>
    { sessionDate := sessionDate
      shadowPnlPoints := state.riskGatePendingShadowPnlPoints
      shadowTradeCount := state.riskGatePendingShadowTradeCount }

def restoredOrchestrator (state : HybridIntradayState Value) : HybridOrchestrator Value :=
  let pendingEntry := strategy.restoredPendingEntry state
  let restored := strategy.orchestrator.restore {
    state :=
      if pendingEntry.isSome ∨ state.pendingEntryRequestId.isSome then .pending
      else if IsOpen state.lastPositionQty ∧ state.currentOwner.isSome ∧ state.currentSide.isSome then .opened
      else .flat
    currentOwner := state.currentOwner
    currentSide := state.currentSide
    hasPendingEntry := pendingEntry.isSome
    overnightExitArmedDate := state.overnightExitArmedDate }
  { restored with
    intradayBreakout := restored.intradayBreakout.restoreSnapshot {
      curDayDate := state.lastDayLocal
      curDayHigh := state.currentDayHigh
      curDayLow := state.currentDayLow
      curDayClose := state.currentDayClose
      yesterdayClose := state.prevDayClose
      yesterdayRange := state.prevDayRange
      yesterdayReturn := state.prevDayReturn
      dayBeforeClose := state.dayBeforeClose
      wasLongToday := state.wasLongToday
      wasShortToday := state.wasShortToday
      todayStart := state.todayStartLocal } }

def setState : StrategyState Value → HybridIntradayRuntimeStrategy Value
  | .idle => strategy
  | .hybridIntradayRuntime state =>
      { strategy with
        activeCycleId := state.activeCycleId.bind CycleId.parse
        nextCycleSeq := state.nextCycleSeq
        lastPositionQty := state.lastPositionQty
        currentOwner := state.currentOwner
        currentSide := state.currentSide
        pendingEntry := strategy.restoredPendingEntry state
        pendingEntryRequestId := state.pendingEntryRequestId
        pendingEntryCreatedTsUtc := state.pendingEntryCreatedTsUtc
        deferredEntry := restoredDeferredEntry state
        pendingExit := none
        pendingExitRequestId := state.pendingExitRequestId
        pendingExitCreatedTsUtc := state.pendingExitCreatedTsUtc
        deferredExit := restoredDeferredExit state
        pendingTpRequestId := state.pendingTpRequestId
        pendingTpCreatedTsUtc := state.pendingTpCreatedTsUtc
        pendingSlRequestId := state.pendingSlRequestId
        pendingSlCreatedTsUtc := state.pendingSlCreatedTsUtc
        tpOrderId := state.tpOrderId
        slStopOrderId := state.slStopOrderId
        slExchangeOrderId := state.slExchangeOrderId
        slTriggeredTs := state.slTriggeredTs
        mrTakePrice := state.mrTakePrice
        mrStopPrice := state.mrStopPrice
        repairDeadlineTs := state.repairDeadlineTs
        nextRepairAtTs := state.nextRepairAtTs
        repairBackoffLevel := state.repairBackoffLevel
        repairAttempts := state.repairAttempts
        safeModeCloseOnly := state.safeModeCloseOnly
        safeModeReason := state.safeModeReason
        lastBarClose := state.lastBarClose
        prevDayClose := state.prevDayClose
        lastDayLocal := state.lastDayLocal
        currentDayHigh := state.currentDayHigh
        currentDayLow := state.currentDayLow
        prevDayRange := state.prevDayRange
        orchestrator := strategy.restoredOrchestrator state
        entryReady := state.entryReady && (state.prevDayRange.isSome && state.prevDayClose.isSome)
        riskGateShadowSessionDate := state.riskGateShadowSessionDate
        riskGateShadowPnlPoints := state.riskGateShadowPnlPoints
        riskGateShadowTradeCount := state.riskGateShadowTradeCount
        riskGateShadowPosition := restoredShadowPosition state
        riskGateShadowOpen := restoredShadowOpen state
        pendingRiskGateFinalizations := restoredFinalizations state
        riskGateMrEnabledCurrentSession := state.riskGateMrEnabledCurrentSession }

/-! ### When a callback publishes -/

variable (ctx : StrategyCtx Value)

def acceptsBar (bar : BarEvent Value) : Bool :=
  bar.symbol = strategy.config.symbol ∧ (∀ lastTs ∈ strategy.lastProcessedBarTs, lastTs < bar.closeTimeUtc) ∧
    ∃ dt ∈ strategy.utcToLocalNaive bar.closeTimeUtc,
      strategy.suppressWeekendSignalGeneration dt = false ∧ strategy.suppressNonModelSessionBar dt = false

/-- The acknowledgement is one the strategy waits for, or makes it retry the cleanup. -/
def heedsAck (ack : CommandAck) : Bool :=
  some ack.requestId = strategy.pendingEntryRequestId ∨ some ack.requestId = strategy.pendingExitRequestId ∨
    some ack.requestId = strategy.pendingTpRequestId ∨ some ack.requestId = strategy.pendingSlRequestId ∨
    (isNegative ack ∧ IsFlat strategy.lastPositionQty ∧ strategy.workingStopOrders ≠ [] ∧
      strategy.cleanupStopRetryAttempts < maxCleanupStopRetries)

/-- The callback goes through `sync_state`. -/
def publishes : Callback Value → Bool
  | .bar _ bar => strategy.acceptsBar bar
  | .ack _ ack => strategy.heedsAck ack
  | .order ctx _ order => order.symbol = strategy.config.symbol ∧ isOurTag ctx order.comment
  | .stopOrder ctx _ order => order.symbol = strategy.config.symbol ∧ isOurTag ctx order.comment
  | .position _ _ pos => pos.symbol = strategy.config.symbol
  | .timer _ _ | .bootstrapSnapshot _ _ | .runtimeStateRestored _ => true

def publishedAfter (ids : RequestIds) (published : StrategyState Value) (callback : Callback Value) :
    StrategyState Value :=
  if strategy.publishes callback then (strategy.after ids callback).syncState else published

/-! ### What is read back -/

variable {strategy}

omit [F64 Value] in
theorem acceptsBar_iff {bar : BarEvent Value} : strategy.acceptsBar bar = true ↔ ∃ dt, strategy.AcceptsBar bar dt := by
  unfold acceptsBar AcceptsBar
  rw [decide_eq_true_iff]
  constructor
  · rintro ⟨symbol, new, dt, localTime, working, inSession⟩
    exact ⟨dt, symbol, new, localTime, working, inSession⟩
  · rintro ⟨dt, symbol, new, localTime, working, inSession⟩
    exact ⟨symbol, new, dt, localTime, working, inSession⟩

/-- A bar that is not learnt from is counted as the last one, or not at all. -/
theorem onBar_of_not_accepted {ids : RequestIds} {bar : BarEvent Value} (idle : strategy.acceptsBar bar = false) :
    ∃ lastTs, (strategy.onBar ids ctx bar).1 = { strategy with lastProcessedBarTs := lastTs } := by
  have refuses (dt : NaiveDateTime) : ¬ strategy.AcceptsBar bar dt := fun accepts =>
    Bool.false_ne_true (idle.symm.trans (acceptsBar_iff.2 ⟨dt, accepts⟩))
  unfold onBar
  split
  case isTrue => exact ⟨strategy.lastProcessedBarTs, rfl⟩
  case isFalse new =>
    rw [not_or, not_not] at new
    split
    case h_1 => exact ⟨strategy.lastProcessedBarTs, rfl⟩
    case h_2 dt localTime =>
      split
      case isTrue => exact ⟨some bar.closeTimeUtc, rfl⟩
      case isFalse kept =>
        refine absurd ⟨new.1, ?_, localTime, ?_, ?_⟩ (refuses dt)
        · intro lastTs last
          by_contra late
          exact new.2 ⟨lastTs, last, by omega⟩
        · exact Bool.eq_false_of_not_eq_true fun suppressed => kept (.inl suppressed)
        · exact Bool.eq_false_of_not_eq_true fun suppressed => kept (.inr suppressed)

theorem onAck_of_not_heeded {ack : CommandAck} (idle : strategy.heedsAck ack = false) :
    (strategy.onAck ack).1 = strategy := by
  unfold heedsAck at idle
  simp only [decide_eq_false_iff_not, not_or] at idle
  obtain ⟨entry, exit, takeProfit, stopLoss, retry⟩ := idle
  unfold onAck retrySiblingCleanup
  rw [if_neg entry, if_neg exit, if_neg takeProfit, if_neg stopLoss, if_neg retry]

/-- What a callback does not publish has not changed. -/
theorem syncState_of_not_published {ids : RequestIds} {callback : Callback Value}
    (silent : strategy.publishes callback = false) : (strategy.after ids callback).syncState = strategy.syncState := by
  cases callback with
  | bar ctx bar =>
      obtain ⟨lastTs, same⟩ := @onBar_of_not_accepted _ _ strategy ctx ids bar silent
      change (strategy.onBar ids ctx bar).1.syncState = strategy.syncState
      rw [same]
      rfl
  | ack ctx ack => exact congrArg syncState (onAck_of_not_heeded silent)
  | order ctx nowMs order =>
      have foreign : order.symbol ≠ strategy.config.symbol ∨ ¬ isOurTag ctx order.comment := by
        by_contra ours
        rw [not_or, not_not, not_not] at ours
        exact of_decide_eq_false silent ours
      change (strategy.onOrder ctx nowMs order).1.syncState = strategy.syncState
      unfold onOrder
      rw [if_pos foreign]
  | stopOrder ctx nowMs order =>
      have foreign : order.symbol ≠ strategy.config.symbol ∨ ¬ isOurTag ctx order.comment := by
        by_contra ours
        rw [not_or, not_not, not_not] at ours
        exact of_decide_eq_false silent ours
      change (strategy.onStopOrder ctx nowMs order).1.syncState = strategy.syncState
      unfold onStopOrder
      rw [if_pos foreign]
  | position ctx nowMs pos =>
      have foreign : pos.symbol ≠ strategy.config.symbol := of_decide_eq_false silent
      change (strategy.onPosition ids ctx nowMs pos).1.syncState = strategy.syncState
      unfold onPosition
      rw [if_pos foreign]
  | timer ctx nowTsUtcMs => cases silent
  | bootstrapSnapshot ctx snapshot => cases silent
  | runtimeStateRestored ctx => cases silent

/-- Once something is published, the published state is that of the strategy. -/
theorem publishedAfter_eq {ids : RequestIds} {published : StrategyState Value} (callback : Callback Value)
    (current : published = strategy.syncState) :
    strategy.publishedAfter ids published callback = (strategy.after ids callback).syncState := by
  unfold publishedAfter
  split
  case isTrue => rfl
  case isFalse silent =>
    rw [current, syncState_of_not_published (Bool.eq_false_of_not_eq_true silent)]

end HybridIntradayRuntimeStrategy

end TradingGateway.HybridIntraday
