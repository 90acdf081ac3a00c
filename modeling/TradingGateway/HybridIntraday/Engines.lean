import TradingGateway.HybridIntraday.Types

/-! The signal engines of the strategy: intraday breakout, classic mean reversion, and the
mean reversion to the midpoint of the day. -/

set_option autoImplicit false

namespace TradingGateway.HybridIntraday

open BrokerCore.Orders Foundation.MachineNumbers

inductive MinRangeMode where
  | disabled
  | absolute
  | relativePrevClose
deriving DecidableEq

structure IntradayBreakoutConfig (Value : Type) where
  k : Value
  stop1Range : Value
  stop2Range : Value
  bigMoveThreshold : Value
  minRange : Value
  minRangeMode : MinRangeMode
  excludeWeekends : Bool
  waitHours : Value

structure IntradayBreakoutEngine (Value : Type) where
  config : IntradayBreakoutConfig Value
  curDayDate : Option NaiveDate
  curDayHigh : Option Value
  curDayLow : Option Value
  curDayClose : Option Value
  yesterdayClose : Option Value
  yesterdayRange : Option Value
  yesterdayReturn : Option Value
  dayBeforeClose : Option Value
  wasLongToday : Bool
  wasShortToday : Bool
  todayStart : Option NaiveDateTime

namespace IntradayBreakoutEngine

variable {Value : Type}

def new (config : IntradayBreakoutConfig Value) : IntradayBreakoutEngine Value :=
  { config := config
    curDayDate := none
    curDayHigh := none
    curDayLow := none
    curDayClose := none
    yesterdayClose := none
    yesterdayRange := none
    yesterdayReturn := none
    dayBeforeClose := none
    wasLongToday := false
    wasShortToday := false
    todayStart := none }

def markEntry (engine : IntradayBreakoutEngine Value) : Side → IntradayBreakoutEngine Value
  | .long => { engine with wasLongToday := true }
  | .short => { engine with wasShortToday := true }

variable [F64 Value] (engine : IntradayBreakoutEngine Value) (dt : NaiveDateTime)

def initNewDay (opened : Value) : IntradayBreakoutEngine Value :=
  { engine with
    curDayDate := some dt.date
    curDayHigh := some opened
    curDayLow := some opened
    curDayClose := some opened
    todayStart := some dt
    wasLongToday := false
    wasShortToday := false }

def updateCurDay (high low close : Value) : IntradayBreakoutEngine Value :=
  { engine with
    curDayHigh := some (F64.maxOf (engine.curDayHigh.getD high) high)
    curDayLow := some (F64.minOf (engine.curDayLow.getD low) low)
    curDayClose := some close }

def onDayClose : IntradayBreakoutEngine Value :=
  let close := engine.curDayClose
  { engine with
    yesterdayClose := close
    yesterdayRange :=
      match engine.curDayHigh, engine.curDayLow with
      | some high, some low => some (high - low)
      | _, _ => none
    yesterdayReturn :=
      match engine.dayBeforeClose, close with
      | some dayBeforeClose, some yesterdayClose =>
          if F64.equal dayBeforeClose F64.zero then none
          else some ((yesterdayClose - dayBeforeClose) / dayBeforeClose)
      | _, _ => none
    dayBeforeClose := close }

def onBar (opened high low close : Value) : IntradayBreakoutEngine Value :=
  if engine.config.excludeWeekends ∧ isWeekend dt.date then engine
  else
    let opening :=
      match engine.curDayDate with
      | none => engine.initNewDay dt opened
      | some day => if dt.date ≠ day then engine.onDayClose.initNewDay dt opened else engine
    opening.updateCurDay high low close

def canCheckEntry : Bool :=
  if engine.config.excludeWeekends ∧ isWeekend dt.date then false
  else
    match engine.todayStart with
    | none => false
    | some todayStart =>
        engine.config.waitHours ≤ F64.ofInt (dt.seconds - todayStart.seconds) / F64.decimal 3600 0

def passesMinRangeFilter : Bool :=
  match engine.config.minRangeMode with
  | .disabled => true
  | .absolute => engine.config.minRange ≤ engine.yesterdayRange.getD F64.zero
  | .relativePrevClose =>
      match engine.yesterdayClose with
      | none => false
      | some yesterdayClose =>
          if F64.equal yesterdayClose F64.zero then false
          else engine.config.minRange ≤ engine.yesterdayRange.getD F64.zero / yesterdayClose

def entrySignal (side : Side) : EntrySignal Value :=
  { owner := .intradayBreakout
    side := side
    entryStyle := .market
    reason := match side with
      | .long => .breakoutLong
      | .short => .breakoutShort
    stopPrice := none
    takePrice := none }

def evaluateEntry (close : Value) : Option (EntrySignal Value) := do
  if engine.canCheckEntry dt = false then none
  else
    let yesterdayClose ← engine.yesterdayClose
    let yesterdayRange ← engine.yesterdayRange
    if engine.passesMinRangeFilter = false then none
    else
      let canLong := ¬ ∃ ret ∈ engine.yesterdayReturn, ret < -engine.config.bigMoveThreshold
      let canShort := ¬ ∃ ret ∈ engine.yesterdayReturn, engine.config.bigMoveThreshold < ret
      let longLevel := yesterdayClose + engine.config.k * yesterdayRange
      let shortLevel := yesterdayClose - engine.config.k * yesterdayRange
      if canLong ∧ engine.wasLongToday = false ∧ longLevel < close then some (entrySignal .long)
      else if canShort ∧ engine.wasShortToday = false ∧ close < shortLevel then some (entrySignal .short)
      else none

def exitSignal (reason : ReasonCode) : ExitSignal :=
  { owner := .intradayBreakout, reason := reason }

def evaluateExit (close : Value) (side : Side) : Option ExitSignal := do
  if engine.config.excludeWeekends ∧ isWeekend dt.date then none
  else
    let yesterdayClose ← engine.yesterdayClose
    let yesterdayRange ← engine.yesterdayRange
    if dt.hour = 23 ∧ dt.minute = 30 then some (exitSignal .breakoutEodExit)
    else
      match side with
      | .long =>
          let stop2Level := yesterdayClose - engine.config.stop2Range * yesterdayRange
          let stop1Level := yesterdayClose + engine.config.stop1Range * yesterdayRange
          if close < stop2Level then some (exitSignal .breakoutStop2Long)
          else if dt.minute = 50 ∧ close < stop1Level then some (exitSignal .breakoutStop1Long)
          else none
      | .short =>
          let stop2Level := yesterdayClose + engine.config.stop2Range * yesterdayRange
          let stop1Level := yesterdayClose - engine.config.stop1Range * yesterdayRange
          if stop2Level < close then some (exitSignal .breakoutStop2Short)
          else if dt.minute = 50 ∧ stop1Level < close then some (exitSignal .breakoutStop1Short)
          else none

end IntradayBreakoutEngine

structure MeanReversionConfig (Value : Type) where
  minRangeLong : Value
  maxRangeLong : Value
  kLong : Value
  takeKLong : Value
  stopKLong : Value
  minRangeShort : Value
  maxRangeShort : Value
  kShort : Value
  takeKShort : Value
  stopKShort : Value
  tickSize : Value
  sessionEndTime : NaiveTime
  exitOffset : Int

structure MeanReversionEngine (Value : Type) where
  config : MeanReversionConfig Value

namespace MeanReversionEngine

variable {Value : Type} [F64 Value] (engine : MeanReversionEngine Value) (dt : NaiveDateTime)

def isActiveWindow : Bool := dt.hour < 12

def shouldForceExit : Bool :=
  (andTime dt.date engine.config.sessionEndTime).seconds * 10 ^ 9 - engine.config.exitOffset ≤ dt.seconds * 10 ^ 9

def roundToTick (price : Value) : Value :=
  let tick := engine.config.tickSize
  if tick ≤ F64.zero then price else F64.floor (price / tick + F64.decimal 5 1) * tick

def evaluateEntry (close closePrev dayRangePrev : Value) : Option (EntrySignal Value) :=
  if isActiveWindow dt = false then none
  else if F64.equal close F64.zero ∨ F64.isNan closePrev ∨ F64.isNan dayRangePrev then none
  else
    let config := engine.config
    let relDayRange := dayRangePrev / close
    if config.minRangeLong < relDayRange ∧ relDayRange < config.maxRangeLong ∧ close < closePrev ∧
        closePrev - config.kLong * dayRangePrev < close then
      some {
        owner := .meanReversion
        side := .long
        entryStyle := .bracket
        reason := .morningMeanReversionLong
        stopPrice := some (engine.roundToTick (close - config.stopKLong * dayRangePrev))
        takePrice := some (engine.roundToTick (close + config.takeKLong * dayRangePrev)) }
    else if config.minRangeShort < relDayRange ∧ relDayRange < config.maxRangeShort ∧ closePrev < close ∧
        close < closePrev + config.kShort * dayRangePrev then
      some {
        owner := .meanReversion
        side := .short
        entryStyle := .bracket
        reason := .morningMeanReversionShort
        stopPrice := some (engine.roundToTick (close + config.stopKShort * dayRangePrev))
        takePrice := some (engine.roundToTick (close - config.takeKShort * dayRangePrev)) }
    else none

end MeanReversionEngine

structure High180MrConfig (Value : Type) where
  minRelRange : Value
  maxRelRange : Value
  kLong : Value
  kShort : Value
  stopLossMult : Value
  maxHold : Int
  entryEndTime : NaiveTime

/-- `High180MrConfig::default()`. -/
def High180MrConfig.frozen (Value : Type) [F64 Value] : High180MrConfig Value :=
  { minRelRange := F64.decimal 5 3
    maxRelRange := F64.decimal 50 3
    kLong := F64.decimal 85 3
    kShort := F64.decimal 90 3
    stopLossMult := F64.decimal 7 0
    maxHold := 180 * 60
    entryEndTime := .fromHms 11 59 59 }

structure High180Signal (Value : Type) where
  side : Side
  targetPrice : Value
  stopPrice : Value
  reason : ReasonCode

structure High180Open (Value : Type) where
  targetPrice : Value
  stopPrice : Value
  maxHold : Int

def High180Open.fromSignal {Value : Type} (signal : High180Signal Value) (config : High180MrConfig Value) :
    High180Open Value :=
  { targetPrice := signal.targetPrice, stopPrice := signal.stopPrice, maxHold := config.maxHold }

structure High180MrEngine (Value : Type) where
  config : High180MrConfig Value
  currentDay : Option NaiveDate
  dayHigh : Option Value
  dayLow : Option Value

namespace High180MrEngine

variable {Value : Type}

def new (config : High180MrConfig Value) : High180MrEngine Value :=
  { config := config, currentDay := none, dayHigh := none, dayLow := none }

variable [F64 Value] (engine : High180MrEngine Value) (ts : NaiveDateTime)

def onBar (high low : Value) : High180MrEngine Value :=
  if engine.currentDay ≠ some ts.date then
    { engine with currentDay := some ts.date, dayHigh := some high, dayLow := some low }
  else
    { engine with
      dayHigh := some (F64.maxOf (engine.dayHigh.getD high) high)
      dayLow := some (F64.minOf (engine.dayLow.getD low) low) }

def evaluateEntry (close closePrev dayRangePrev : Value) : Option (High180Signal Value) := do
  let config := engine.config
  if config.entryEndTime.secondOfDay < ts.time.secondOfDay then none
  else if F64.equal close F64.zero ∨ F64.isNan closePrev ∨ F64.isNan dayRangePrev then none
  else if ¬ (config.minRelRange < dayRangePrev / close ∧ dayRangePrev / close < config.maxRelRange) then none
  else
    let midpoint := ((← engine.dayHigh) + (← engine.dayLow)) / F64.decimal 2 0
    if close < closePrev ∧ closePrev - config.kLong * dayRangePrev < close then
      if midpoint ≤ close then none
      else some {
        side := .long
        targetPrice := midpoint
        stopPrice := close - config.stopLossMult * (midpoint - close)
        reason := .morningMeanReversionLong }
    else if closePrev < close ∧ close < closePrev + config.kShort * dayRangePrev then
      if close ≤ midpoint then none
      else some {
        side := .short
        targetPrice := midpoint
        stopPrice := close + config.stopLossMult * (close - midpoint)
        reason := .morningMeanReversionShort }
    else none

/-- The price at which an open shadow position closes; the text of its reason is only logged. -/
def evaluateExit (held : High180Open Value) (entryTs : NaiveDateTime) (side : Side) (close : Value) : Option Value :=
  if ts.seconds ≤ entryTs.seconds then none
  else
    let reached : Bool := match side with
      | .long => held.targetPrice ≤ close ∨ close ≤ held.stopPrice
      | .short => close ≤ held.targetPrice ∨ held.stopPrice ≤ close
    if reached ∨ held.maxHold ≤ ts.seconds - entryTs.seconds then some close else none

end High180MrEngine

end TradingGateway.HybridIntraday
