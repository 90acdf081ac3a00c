import TradingGateway.HybridIntraday.Runtime

/-! The intents that the strategy emits, and the pending requests it then waits for. -/

set_option autoImplicit false

namespace TradingGateway.HybridIntraday

open BrokerCore.Identifiers BrokerCore.Orders Foundation.MachineNumbers

namespace StrategyCtx

variable {Value : Type} (ctx : StrategyCtx Value)

def canExecuteNow (isLiveBar : Bool) : Bool :=
  match ctx.tradeMode with
  | .live => ctx.allowLiveOrders ∧ ctx.gatewayPhase = .liveReady ∧ isLiveBar
  | .paper =>
      match ctx.paperExecutionMode with
      | .historySim => true
      | .liveOnly => isLiveBar
  | .backtest => true

def canEmitNow (isLiveBar : Bool) : Bool :=
  match ctx.tradeMode with
  | .live => ctx.canExecuteNow isLiveBar
  | .paper | .backtest => true

def effectiveCreatedTsUtc (fallbackTsUtc : Int) : Int :=
  max ctx.eventTsUtc fallbackTsUtc

/-- `HYB|sid=<sid>|c=<cycle>|o=<MR|BO>|r=<role>`. -/
def buildComment (cycle : CycleId) (owner : Owner) (role : TagRole) : String :=
  "HYB|sid=" ++ ctx.strategyId ++ "|c=" ++ cycle.toText ++ "|o=" ++ ownerCode owner ++ "|r=" ++ roleCode role

end StrategyCtx

def closingSide {Value : Type} [F64 Value] (qty : Value) : OrderSide :=
  if F64.zero ≤ qty then .sell else .buy

/-- The order side that closes a position; a position that is not above zero counts as short. -/
def residualClosingSide {Value : Type} [F64 Value] (qty : Value) : OrderSide :=
  if F64.zero < qty then .sell else .buy

def cancelCleanup {Value : Type} (orderId : BrokerOrderId) : Intent Value :=
  (Intent.cancel orderId).withClass .cancelCleanup

def deleteStopCleanup {Value : Type} (side : Option OrderSide) (orderId : BrokerStopOrderId) : Intent Value :=
  (Intent.deleteStopLimit orderId side (some true)).withClass .cancelCleanup

namespace HybridIntradayRuntimeStrategy

variable {Value : Type} [F64 Value] (ids : RequestIds) (strategy : HybridIntradayRuntimeStrategy Value)
variable (ctx : StrategyCtx Value)

def useLiveMarketableLimit : Bool :=
  ctx.tradeMode = .live ∧ strategy.config.liveOrderStyle = .marketableLimit

def marketSequence : OrderSide → UInt8
  | .buy => 3
  | .sell => 4

def liveRequestId (createdTsUtc : Int) (side : OrderSide) : StrategyRequestId :=
  if strategy.useLiveMarketableLimit ctx then
    ids.deterministicRequestId ctx.strategyId ctx.portfolio ctx.symbol "place" createdTsUtc 0
  else
    ids.deterministicRequestId ctx.strategyId ctx.portfolio ctx.symbol "market" createdTsUtc (marketSequence side)

def buildLiveEntryExitIntent (side : OrderSide) (qty referencePrice : Value) (comment : Option String) : Intent Value :=
  if strategy.useLiveMarketableLimit ctx then
    .place (strategy.liveMarketablePriceFromReference side referencePrice) qty side comment
  else .market qty side none comment

def emitTakeProfit (tsUtc : Int) (takePrice qty : Value) (side : Side) (comment : String) :
    HybridIntradayRuntimeStrategy Value × List (Intent Value) :=
  ({ strategy with
      pendingTpRequestId :=
        some (ids.deterministicRequestId ctx.strategyId ctx.portfolio ctx.symbol "place" tsUtc 0)
      pendingTpCreatedTsUtc := some tsUtc },
    [(Intent.place takePrice qty (stopSideForEntrySide side) (some comment)).withClass .protectiveRepair])

def emitStopLoss (tsUtc : Int) (stopPrice qty : Value) (side : Side) (comment : String) :
    HybridIntradayRuntimeStrategy Value × List (Intent Value) :=
  let stopSide := stopSideForEntrySide side
  ({ strategy with
      pendingSlRequestId :=
        some (ids.deterministicRequestId ctx.strategyId ctx.portfolio ctx.symbol "create_stop_limit" tsUtc 5)
      pendingSlCreatedTsUtc := some tsUtc },
    [(Intent.createStopLimit stopSide qty stopPrice (stopLimitPrice stopSide stopPrice ctx.tickSize)
      (stopConditionForEntrySide side) (strategy.resolveStopEndUnixTime tsUtc) (some comment) none
      (some true)).withClass .protectiveRepair])

def emitMrBracketIntents (pos : PositionEvent Value) (entry : PendingEntry Value) :
    HybridIntradayRuntimeStrategy Value × List (Intent Value) :=
  if ¬ isMrBracketEntry entry ∨ IsFlat pos.qty then (strategy, [])
  else
    let (tpSent, tpIntents) :=
      match entry.takePrice with
      | some takePrice =>
          strategy.emitTakeProfit ids ctx pos.tsUtc takePrice (F64.abs pos.qty) entry.side
            (ctx.buildComment entry.cycleId entry.owner .tp)
      | none => (strategy, [])
    let (slSent, slIntents) :=
      match entry.stopPrice with
      | some stopPrice =>
          tpSent.emitStopLoss ids ctx pos.tsUtc stopPrice (F64.abs pos.qty) entry.side
            (ctx.buildComment entry.cycleId entry.owner .sl)
      | none => (tpSent, [])
    (slSent, tpIntents ++ slIntents)

def emitCancelAllProtection (side : Option Side) : HybridIntradayRuntimeStrategy Value × List (Intent Value) :=
  ({ strategy with tpOrderId := none, slStopOrderId := none, slExchangeOrderId := none },
    strategy.tpOrderId.toList.map cancelCleanup ++
      strategy.slStopOrderId.toList.map (deleteStopCleanup (side.map stopSideForEntrySide)) ++
      strategy.slExchangeOrderId.toList.map cancelCleanup)

def armPendingExit (createdTsUtc : Int) (side : OrderSide) (owner : Owner) (reason : ReasonCode) :
    HybridIntradayRuntimeStrategy Value :=
  { strategy with
    pendingExit := some { owner := owner, reason := reason }
    pendingExitRequestId := some (strategy.liveRequestId ids ctx createdTsUtc side)
    pendingExitCreatedTsUtc := some createdTsUtc }

def armPendingExitLifecycle (createdTsUtc : Int) (side : OrderSide) (owner : Owner) (reason : ReasonCode)
    (cycle : CycleId) : HybridIntradayRuntimeStrategy Value :=
  { strategy.armPendingExit ids ctx createdTsUtc side owner reason with
    activeCycleId := some cycle
    currentOwner := some owner }

def exitIntent (side : OrderSide) (qty referencePrice : Value) (comment : String) : Intent Value :=
  (strategy.buildLiveEntryExitIntent ctx side qty referencePrice (some comment)).withClass .exit

def emitBrokerResidualEmergencyExit (pos : PositionEvent Value) (reason : String) :
    HybridIntradayRuntimeStrategy Value × List (Intent Value) :=
  if strategy.pendingExitRequestId.isSome ∨ IsFlat pos.qty then (strategy, [])
  else
    let owner := strategy.currentOwner.getD .meanReversion
    let side := residualClosingSide pos.qty
    let createdTsUtc := ctx.effectiveCreatedTsUtc pos.tsUtc
    let (numbered, cycle) := strategy.activeOrNextCycle createdTsUtc
    let (cleaned, cleanup) := numbered.emitCancelAllProtection numbered.currentSide
    let exit := cleaned.exitIntent ctx side (F64.abs pos.qty) cleaned.liveReferencePrice
      (ctx.buildComment cycle owner .exit)
    let armed := { cleaned.armPendingExit ids ctx createdTsUtc side owner .meanRevTimeCutoff with
      activeCycleId := some cycle }
    (armed.enterSafeMode reason, cleanup ++ [exit])

def clearBracketTerminalReconcile : HybridIntradayRuntimeStrategy Value :=
  { strategy with bracketTerminalReconcileStartedMs := none }

def emitBracketReconcileTimeoutExit (nowTsUtcMs : Int) : HybridIntradayRuntimeStrategy Value × List (Intent Value) :=
  match strategy.bracketTerminalReconcileStartedMs with
  | none => (strategy, [])
  | some started =>
      if saturatingSub nowTsUtcMs started < bracketTerminalReconcileGraceMs then (strategy, [])
      else
        let qty := ctx.positionQty.getD strategy.lastPositionQty
        let cleared := strategy.clearBracketTerminalReconcile
        if IsFlat qty ∨ strategy.pendingExitRequestId.isSome then (cleared, [])
        else
          cleared.emitBrokerResidualEmergencyExit ids ctx
            { symbol := strategy.config.symbol, qty := qty, existing := false, tsUtc := nowTsUtcMs / 1000 }
            "bracket_terminal_reconcile_timeout"

def timedOutPartialEntry (nowTsUtcMs : Int) : Option (PendingEntry Value) :=
  strategy.pendingEntry.filter fun entry =>
    decide (waitsForPartialEntryTarget entry) && !decide (IsFlat strategy.lastPositionQty) &&
      entry.partialStartedAtMs.any fun started =>
        decide (asI64 strategy.config.partialEntryFillTimeoutMs ≤ saturatingSub nowTsUtcMs started)

def emitPartialEntryTimeoutExit (nowTsUtcMs : Int) : HybridIntradayRuntimeStrategy Value × List (Intent Value) :=
  match strategy.timedOutPartialEntry nowTsUtcMs with
  | none => (strategy, [])
  | some entry =>
      let createdTsUtc := nowTsUtcMs / 1000
      let side := residualClosingSide strategy.lastPositionQty
      let exit := strategy.exitIntent ctx side (F64.abs strategy.lastPositionQty) strategy.liveReferencePrice
        (ctx.buildComment entry.cycleId entry.owner .exit)
      let owned := { strategy.clearPendingEntry with
        currentOwner := some entry.owner
        currentSide := some entry.side }
      ((owned.armPendingExit ids ctx createdTsUtc side entry.owner .meanRevTimeCutoff).enterSafeMode
          "partial_entry_fill_timeout",
        strategy.workingOrders.map cancelCleanup ++ [exit])

/-! ### Actions of the orchestrator -/

def submitEntry (createdTsUtc : Int) (canEmit canExecute : Bool) (referencePrice : Value) (entry : EntrySignal Value) :
    HybridIntradayRuntimeStrategy Value × List (Intent Value) :=
  if strategy.entryReady = false ∨ strategy.safeModeCloseOnly ∨ canEmit = false then
    ({ strategy with orchestrator := strategy.orchestrator.onEntryRejected }, [])
  else
    let (numbered, cycle) := strategy.activeOrNextCycle createdTsUtc
    let side := sideToOrderSide entry.side
    let qty := F64.maxOf strategy.config.qty F64.one
    let pending :=
      if canExecute then
        { numbered with
          pendingEntry := some {
            owner := entry.owner
            side := entry.side
            cycleId := cycle
            reason := entry.reason
            entryStyle := entry.entryStyle
            stopPrice := entry.stopPrice
            takePrice := entry.takePrice
            targetQty := qty
            partialStartedAtMs := none }
          pendingEntryRequestId := some (numbered.liveRequestId ids ctx createdTsUtc side)
          pendingEntryCreatedTsUtc := some createdTsUtc
          activeCycleId := some cycle }
      else numbered
    (pending, [(pending.buildLiveEntryExitIntent ctx side qty referencePrice
      (some (ctx.buildComment cycle entry.owner .entry))).withClass .entry])

def submitExit (createdTsUtc : Int) (canEmit canExecute : Bool) (referencePrice : Value) (owner : Owner)
    (reason : ReasonCode) : HybridIntradayRuntimeStrategy Value × List (Intent Value) :=
  if canEmit = false ∨ strategy.pendingExitRequestId.isSome then (strategy, [])
  else
    match ctx.positionQty with
    | none => (strategy, [])
    | some posQty =>
        if IsFlat posQty then (strategy, [])
        else
          let side := closingSide posQty
          let (numbered, cycle) := strategy.activeOrNextCycle createdTsUtc
          let armed :=
            if canExecute then numbered.armPendingExitLifecycle ids ctx createdTsUtc side owner reason cycle
            else numbered
          (armed, [armed.exitIntent ctx side (F64.abs posQty) referencePrice (ctx.buildComment cycle owner .exit)])

def mapActionToIntentsWithReference (createdTsUtc : Int) (canEmit canExecute : Bool) (referencePrice : Value) :
    Action Value → HybridIntradayRuntimeStrategy Value × List (Intent Value)
  | .submitEntry entry => strategy.submitEntry ids ctx createdTsUtc canEmit canExecute referencePrice entry
  | .submitExit owner reason => strategy.submitExit ids ctx createdTsUtc canEmit canExecute referencePrice owner reason
  | .armOvernightExit _ _ _ _ => (strategy, [])

def mapActions (createdTsUtc : Int) (canEmit canExecute : Bool) :
    HybridIntradayRuntimeStrategy Value → List (Action Value) →
      HybridIntradayRuntimeStrategy Value × List (Intent Value)
  | strategy, [] => (strategy, [])
  | strategy, action :: rest =>
      let (next, intents) := strategy.mapActionToIntentsWithReference ids ctx createdTsUtc canEmit canExecute
        strategy.liveReferencePrice action
      let (last, others) := mapActions createdTsUtc canEmit canExecute next rest
      (last, intents ++ others)

/-! ### Repair of the bracket -/

def hasTp : Bool := strategy.tpOrderId.isSome || strategy.pendingTpRequestId.isSome

def hasSl : Bool := strategy.slStopOrderId.isSome || strategy.pendingSlRequestId.isSome

/-- The exit after a stop that was triggered and has not closed the position in time. -/
def emitStopEscalation (nowTs : Int) (posQty : Value) : HybridIntradayRuntimeStrategy Value × List (Intent Value) :=
  let side := closingSide posQty
  let owner := strategy.currentOwner.getD .meanReversion
  let (numbered, cycle) := strategy.activeOrNextCycle (max nowTs 0)
  let armed := numbered.armPendingExitLifecycle ids ctx nowTs side owner .meanRevTimeCutoff cycle
  let exit := armed.exitIntent ctx side (F64.abs posQty) armed.liveReferencePrice (ctx.buildComment cycle owner .exit)
  ({ armed with tpOrderId := none, slExchangeOrderId := none, slTriggeredTs := none }.enterSafeMode
      "sl_triggered_escalation",
    armed.tpOrderId.toList.map cancelCleanup ++ armed.slExchangeOrderId.toList.map cancelCleanup ++ [exit])

def emitRepairDeadlineExit (nowTs : Int) (posQty : Value) (cycle : CycleId) :
    HybridIntradayRuntimeStrategy Value × List (Intent Value) :=
  let side := closingSide posQty
  let owner := strategy.currentOwner.getD .meanReversion
  let armed := strategy.armPendingExitLifecycle ids ctx nowTs side owner .meanRevTimeCutoff cycle
  (armed.enterSafeMode "repair_deadline_force_flatten",
    [armed.exitIntent ctx side (F64.abs posQty) armed.liveReferencePrice (ctx.buildComment cycle owner .exit)])

def emitMissingBracket (nowTs : Int) (posQty takePrice stopPrice : Value) (cycle : CycleId) :
    HybridIntradayRuntimeStrategy Value × List (Intent Value) :=
  let owner := strategy.currentOwner.getD .meanReversion
  let side := strategy.currentSide.getD (if F64.zero ≤ posQty then .long else .short)
  let (tpSent, tpIntents) :=
    if strategy.hasTp then (strategy, [])
    else strategy.emitTakeProfit ids ctx nowTs takePrice (F64.abs posQty) side (ctx.buildComment cycle owner .tp)
  let (slSent, slIntents) :=
    if strategy.hasSl then (tpSent, [])
    else tpSent.emitStopLoss ids ctx nowTs stopPrice (F64.abs posQty) side (ctx.buildComment cycle owner .sl)
  let intents := tpIntents ++ slIntents
  if intents.isEmpty then (slSent, intents)
  else
    ({ slSent with
        repairAttempts :=
          if slSent.repairAttempts = UInt32.ofNat (2 ^ 32 - 1) then slSent.repairAttempts
          else slSent.repairAttempts + 1 }.scheduleNextRepair nowTs, intents)

def repairBracket (nowTs : Int) (posQty takePrice stopPrice : Value) (cycle : CycleId) :
    HybridIntradayRuntimeStrategy Value × List (Intent Value) :=
  if ∃ deadline ∈ strategy.repairDeadlineTs, deadline ≤ nowTs then
    strategy.emitRepairDeadlineExit ids ctx nowTs posQty cycle
  else if ∃ next ∈ strategy.nextRepairAtTs, nowTs < next then (strategy, [])
  else if ctx.canExecuteNow true = false ∨ ctx.gatewayPhase ≠ .liveReady then (strategy.scheduleNextRepair nowTs, [])
  else if strategy.config.maxRepairRetries ≤ strategy.repairAttempts then
    (strategy.enterSafeMode "repair_retries_exhausted", [])
  else strategy.emitMissingBracket ids ctx nowTs posQty takePrice stopPrice cycle

def maybeEmitRepairIntents (nowTs : Int) : HybridIntradayRuntimeStrategy Value × List (Intent Value) :=
  let posQty := ctx.positionQty.getD F64.zero
  if IsFlat posQty ∨ strategy.currentOwner ≠ some .meanReversion then ({ strategy with slTriggeredTs := none }, [])
  else
    match strategy.slTriggeredTs with
    | some triggeredTs =>
        if nowTs < saturatingAdd triggeredTs (asI64 strategy.config.slEscalateTimeoutSec) then (strategy, [])
        else strategy.emitStopEscalation ids ctx nowTs posQty
    | none =>
        if strategy.hasTp ∧ strategy.hasSl then (strategy, [])
        else
          match strategy.activeCycleId with
          | none => (strategy.enterSafeMode "repair_missing_cycle_id", [])
          | some cycle =>
              match strategy.mrTakePrice, strategy.mrStopPrice with
              | some takePrice, some stopPrice =>
                  strategy.repairBracket ids ctx nowTs posQty takePrice stopPrice cycle
              | _, _ => (strategy.enterSafeMode "repair_missing_bracket_levels", [])

/-! ### Requests that were deferred -/

/-- The intents of a reissue; `none` where nothing is left to reissue. -/
def maybeReissueDeferredEntry (createdTsUtc : Int) (dt : NaiveDateTime) (canEmit canExecute : Bool)
    (referencePrice : Value) (deferred : DeferredEntry Value) :
    HybridIntradayRuntimeStrategy Value × Option (List (Intent Value)) :=
  if IsOpen (ctx.positionQty.getD F64.zero) ∨ strategy.deferredEntryExpired deferred dt then
    ({ strategy with deferredEntry := none }, none)
  else if strategy.entryReady = false ∨ strategy.safeModeCloseOnly ∨ canEmit = false ∨ canExecute = false ∨
      strategy.pendingEntryRequestId.isSome then (strategy, some [])
  else
    let (sent, intents) := { strategy with activeCycleId := some deferred.cycleId }.mapActionToIntentsWithReference ids ctx
      createdTsUtc canEmit canExecute referencePrice (.submitEntry deferred.signal)
    (if sent.pendingEntryRequestId.isSome then { sent with deferredEntry := none } else sent, some intents)

def maybeReissueDeferredExit (createdTsUtc : Int) (canEmit canExecute : Bool) (referencePrice : Value)
    (deferred : DeferredExit) : HybridIntradayRuntimeStrategy Value × Option (List (Intent Value)) :=
  if IsFlat (ctx.positionQty.getD F64.zero) then ({ strategy with deferredExit := none }, none)
  else if canEmit = false ∨ canExecute = false ∨ strategy.pendingExitRequestId.isSome then (strategy, some [])
  else
    let (sent, intents) := { strategy with
        activeCycleId := some deferred.cycleId
        currentOwner := some deferred.owner }.mapActionToIntentsWithReference ids ctx createdTsUtc canEmit canExecute
      referencePrice (.submitExit deferred.owner deferred.reason)
    (if sent.pendingExitRequestId.isSome then { sent with deferredExit := none } else sent, some intents)

end HybridIntradayRuntimeStrategy

end TradingGateway.HybridIntraday
