import TradingGateway.HybridIntraday.RuntimeCallbacks

/-! The configuration that the source runs by default, and a context and events to run it in. -/

set_option autoImplicit false

namespace TradingGateway.HybridIntraday

open Foundation.Bytes Foundation.MachineNumbers

section Defaults

variable (Value : Type) [F64 Value]

def IntradayBreakoutConfig.default : IntradayBreakoutConfig Value :=
  { k := F64.decimal 65 2
    stop1Range := F64.decimal 51 2
    stop2Range := F64.decimal 35 2
    bigMoveThreshold := F64.decimal 25 3
    minRange := F64.decimal 101 2
    minRangeMode := .absolute
    excludeWeekends := true
    waitHours := F64.decimal 3 0 }

def MeanReversionConfig.default : MeanReversionConfig Value :=
  { minRangeLong := F64.decimal 13 3
    maxRangeLong := F64.decimal 35 3
    kLong := F64.decimal 32 3
    takeKLong := F64.decimal 11 2
    stopKLong := F64.decimal 44 2
    minRangeShort := F64.decimal 10 3
    maxRangeShort := F64.decimal 45 3
    kShort := F64.decimal 55 3
    takeKShort := F64.decimal 16 2
    stopKShort := F64.decimal 43 2
    tickSize := F64.decimal 5 1
    sessionEndTime := .fromHms 11 59 0
    exitOffset := 5 * 60 * 10 ^ 9 }

def HybridOrchestratorConfig.default : HybridOrchestratorConfig :=
  { breakoutEodMode := .sameDay, breakoutOvernightExitTime := .fromHms 9 30 0 }

/-- `test_config()`. -/
def sampleConfig : HybridIntradayRuntimeConfig Value :=
  { symbol := "IMOEXF"
    mrVariant := .classicPrevDayRange
    liveMrEntriesEnabled := true
    mrGatePolicy := .disabled
    riskGateMode := .disabled
    modelSessionStartTime := none
    modelSessionEndTime := none
    qty := F64.one
    liveOrderStyle := .market
    tickSize := F64.decimal 5 1
    marketableLimitOffsetTicks := 0
    timezoneOffsetHours := 3
    sessionCloseHour := 23
    sessionCloseMinute := 49
    weekendsOff := true
    stopEndBufferSec := 60
    repairDeadlineSec := 180
    slEscalateTimeoutSec := 30
    maxRepairRetries := 3
    repairBackoffBaseSec := 5
    repairBackoffMaxSec := 60
    pendingTimeoutSec := 30
    partialEntryFillTimeoutMs := 3000
    mrConfig := .default Value
    breakoutConfig := .default Value
    orchestratorConfig := .default }

variable {Value}

/-- `test_ctx(position_qty)`, at a time. -/
def sampleCtx (tradeMode : TradeMode) (positionQty : Option Value) (tsUtc : Int) : StrategyCtx Value :=
  { strategyId := "hyb-test"
    portfolio := "demo"
    symbol := "IMOEXF"
    tickSize := F64.decimal 5 1
    tradeMode := tradeMode
    paperExecutionMode := .liveOnly
    allowLiveOrders := true
    gatewayPhase := .liveReady
    positionQty := positionQty
    eventTsUtc := tsUtc
    nowTsUtc := tsUtc }

def flatBar (price : Value) (closeTimeUtc : Int) : BarEvent Value :=
  { symbol := "IMOEXF"
    closeTimeUtc := closeTimeUtc
    close := price
    o := price
    h := price
    l := price
    v := F64.one
    origin := .live }

def positionEvent (qty : Value) (tsUtc : Int) : PositionEvent Value :=
  { symbol := "IMOEXF", qty := qty, existing := false, tsUtc := tsUtc }

end Defaults

/-- `tag(owner, "abc1230001", role)`. -/
def sampleTag (owner role : String) : String :=
  "HYB|sid=hyb-test|c=abc1230001|o=" ++ owner ++ "|r=" ++ role

theorem sampleTakeProfitId_nonEmpty : "T-1" ≠ "" := by decide

theorem sampleStopLossId_nonEmpty : "S-1" ≠ "" := by decide

def takeProfitEvent (status : String) : OrderEvent :=
  { orderId := ⟨"T-1", sampleTakeProfitId_nonEmpty⟩, symbol := "IMOEXF", status := status, comment := some (sampleTag "MR" "TP") }

def stopLossEvent (status : String) (tsUtc : Int) : StopOrderEvent :=
  { stopOrderId := ⟨"S-1", sampleStopLossId_nonEmpty⟩
    exchangeOrderId := none
    symbol := "IMOEXF"
    status := status
    comment := some (sampleTag "MR" "SL")
    tsUtc := tsUtc }

/-- Request ids that differ where the times or the numbers behind them do. -/
def sampleIds : RequestIds :=
  { deterministicRequestId := fun _ _ _ _ createdTsUtc sequence =>
      ⟨⟨(toBigEndian 15 createdTsUtc.toNat ++ [sequence]).toArray, by simp⟩⟩ }

end TradingGateway.HybridIntraday
