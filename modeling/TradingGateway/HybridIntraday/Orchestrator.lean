import TradingGateway.HybridIntraday.Engines

/-! The orchestrator of the two engines: which of them owns the position, and what it asks for on a bar. -/

set_option autoImplicit false

namespace TradingGateway.HybridIntraday

open BrokerCore.Orders Foundation.MachineNumbers

inductive HybridState where
  | flat
  | pending
  | opened
deriving DecidableEq

inductive BreakoutEodMode where
  | sameDay
  | overnight
deriving DecidableEq

structure HybridOrchestratorConfig where
  breakoutEodMode : BreakoutEodMode
  breakoutOvernightExitTime : NaiveTime

structure HybridOrchestrator (Value : Type) where
  meanReversion : MeanReversionEngine Value
  intradayBreakout : IntradayBreakoutEngine Value
  config : HybridOrchestratorConfig
  state : HybridState
  currentOwner : Option Owner
  currentSide : Option Side
  pendingEntry : Option (EntrySignal Value)
  overnightExitArmedDate : Option NaiveDate

structure BarInput (Value : Type) where
  dt : NaiveDateTime
  opened : Value
  high : Value
  low : Value
  close : Value
  closePrev : Value
  dayRangePrev : Value
  hasOpenPosition : Bool
  hasLiveOrders : Bool

namespace HybridOrchestrator

variable {Value : Type}

def new (meanReversion : MeanReversionEngine Value) (intradayBreakout : IntradayBreakoutEngine Value)
    (config : HybridOrchestratorConfig) : HybridOrchestrator Value :=
  { meanReversion := meanReversion
    intradayBreakout := intradayBreakout
    config := config
    state := .flat
    currentOwner := none
    currentSide := none
    pendingEntry := none
    overnightExitArmedDate := none }

variable (orchestrator : HybridOrchestrator Value)

def reset : HybridOrchestrator Value :=
  { orchestrator with
    state := .flat
    currentOwner := none
    currentSide := none
    pendingEntry := none
    overnightExitArmedDate := none }

/-- `on_order_filled("entry", ..)`. -/
def onEntryFilled (owner : Owner) (side : Option Side) : HybridOrchestrator Value :=
  { orchestrator with
    state := .opened
    currentOwner := some owner
    currentSide := side
    pendingEntry := none
    intradayBreakout :=
      match owner, side with
      | .intradayBreakout, some side => orchestrator.intradayBreakout.markEntry side
      | _, _ => orchestrator.intradayBreakout }

/-- `on_order_filled("exit", ..)`; the owner and the side are not read. -/
def onExitFilled : HybridOrchestrator Value :=
  orchestrator.reset

/-- `on_order_rejected("entry")`; a rejected exit changes nothing. -/
def onEntryRejected : HybridOrchestrator Value :=
  { orchestrator with
    state := .flat
    currentOwner := none
    currentSide := none
    pendingEntry := none }

def emitEntryAction (signal : EntrySignal Value) : HybridOrchestrator Value × List (Action Value) :=
  ({ orchestrator with
      state := .pending
      pendingEntry := some signal
      currentOwner := some signal.owner
      currentSide := some signal.side }, [.submitEntry signal])

def shouldTriggerOvernightExit (dt : NaiveDateTime) : Bool :=
  match orchestrator.overnightExitArmedDate with
  | none => false
  | some armedDate =>
      let exitTime := orchestrator.config.breakoutOvernightExitTime
      armedDate.day < dt.date.day ∧
        (exitTime.hour < dt.hour ∨ (dt.hour = exitTime.hour ∧ exitTime.minute ≤ dt.minute))

variable [F64 Value] (bar : BarInput Value)

def warmBar : HybridOrchestrator Value :=
  { orchestrator with
    intradayBreakout := orchestrator.intradayBreakout.onBar bar.dt bar.opened bar.high bar.low bar.close }

/-- An exit signal of the breakout, which in overnight mode is put off at the end of the day. -/
def onBreakoutExit (reason : ReasonCode) : HybridOrchestrator Value × List (Action Value) :=
  if reason = .breakoutEodExit ∧ orchestrator.config.breakoutEodMode = .overnight then
    ({ orchestrator with overnightExitArmedDate := some bar.dt.date },
      [.armOvernightExit .intradayBreakout .breakoutEodExit bar.dt.date
        orchestrator.config.breakoutOvernightExitTime])
  else (orchestrator, [.submitExit .intradayBreakout reason])

/-- What follows where no exit is due: an entry, from a flat state without live orders. -/
def onBarEntry (mrEntrySignal : Option (EntrySignal Value)) : HybridOrchestrator Value × List (Action Value) :=
  if bar.hasOpenPosition ∨ bar.hasLiveOrders ∨ orchestrator.state = .pending then (orchestrator, [])
  else if orchestrator.config.breakoutEodMode = .sameDay ∧
      (23 < bar.dt.hour ∨ (bar.dt.hour = 23 ∧ 30 ≤ bar.dt.minute)) then (orchestrator, [])
  else
    match mrEntrySignal.or (orchestrator.intradayBreakout.evaluateEntry bar.dt bar.close) with
    | some signal => orchestrator.emitEntryAction signal
    | none => (orchestrator, [])

def onBarWithMrOverride (mrEntrySignal : Option (EntrySignal Value)) (mrExitReason : Option ReasonCode) :
    HybridOrchestrator Value × List (Action Value) :=
  let warmed := orchestrator.warmBar bar
  if bar.hasOpenPosition ∧ warmed.currentOwner = some .intradayBreakout ∧
      warmed.config.breakoutEodMode = .overnight ∧ warmed.shouldTriggerOvernightExit bar.dt then
    ({ warmed with overnightExitArmedDate := none }, [.submitExit .intradayBreakout .waitfixOvernightExit])
  else if bar.hasOpenPosition ∧ warmed.currentOwner = some .meanReversion then
    match mrExitReason with
    | none => (warmed, [])
    | some reason => (warmed, [.submitExit .meanReversion reason])
  else if bar.hasOpenPosition ∧ warmed.currentOwner = some .intradayBreakout then
    match warmed.currentSide.bind (warmed.intradayBreakout.evaluateExit bar.dt bar.close) with
    | some signal => warmed.onBreakoutExit bar signal.reason
    | none => warmed.onBarEntry bar mrEntrySignal
  else warmed.onBarEntry bar mrEntrySignal

def onBar : HybridOrchestrator Value × List (Action Value) :=
  let mrExitReason :=
    if bar.hasOpenPosition ∧ orchestrator.currentOwner = some .meanReversion ∧
        orchestrator.meanReversion.shouldForceExit bar.dt then some .meanRevTimeCutoff
    else none
  let mrEntrySignal :=
    orchestrator.meanReversion.evaluateEntry bar.dt bar.close bar.closePrev bar.dayRangePrev
  orchestrator.onBarWithMrOverride bar mrEntrySignal mrExitReason

end HybridOrchestrator

end TradingGateway.HybridIntraday
