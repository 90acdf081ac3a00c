import TradingGateway.BrokerCore.Timestamps
import TradingGateway.HybridIntraday.Orchestrator

/-! The hybrid intraday strategy: its configuration, its state, and the parts its callbacks are made of.
Logs, the counters they print and the exported copy of the state are left out. -/

set_option autoImplicit false

namespace TradingGateway.HybridIntraday

open BrokerCore.Identifiers BrokerCore.Orders Foundation.Bytes Foundation.MachineNumbers

inductive MeanReversionVariant where
  | classicPrevDayRange
  | high180
  | author41BoundaryShort
deriving DecidableEq

inductive MrGatePolicy where
  | disabled
  | shadowPnlLb120Positive
deriving DecidableEq

inductive RiskGateMode where
  | disabled
  | bootstrapFromSeed
  | normalAppend
  | rebuildFromHistory
  | shadowOnly
  | enforced
deriving DecidableEq

structure HybridIntradayRuntimeConfig (Value : Type) where
  symbol : String
  mrVariant : MeanReversionVariant
  liveMrEntriesEnabled : Bool
  mrGatePolicy : MrGatePolicy
  riskGateMode : RiskGateMode
  modelSessionStartTime : Option NaiveTime
  modelSessionEndTime : Option NaiveTime
  qty : Value
  liveOrderStyle : MarketBuyAndCloseLiveOrderStyle
  tickSize : Value
  marketableLimitOffsetTicks : Int
  timezoneOffsetHours : Int
  sessionCloseHour : Nat
  sessionCloseMinute : Nat
  weekendsOff : Bool
  stopEndBufferSec : UInt64
  repairDeadlineSec : UInt64
  slEscalateTimeoutSec : UInt64
  maxRepairRetries : UInt32
  repairBackoffBaseSec : UInt64
  repairBackoffMaxSec : UInt64
  pendingTimeoutSec : UInt64
  partialEntryFillTimeoutMs : UInt64
  mrConfig : MeanReversionConfig Value
  breakoutConfig : IntradayBreakoutConfig Value
  orchestratorConfig : HybridOrchestratorConfig

structure PendingEntry (Value : Type) where
  owner : Owner
  side : Side
  cycleId : CycleId
  reason : ReasonCode
  entryStyle : EntryStyle
  stopPrice : Option Value
  takePrice : Option Value
  targetQty : Value
  partialStartedAtMs : Option Int

structure PendingExit where
  owner : Owner
  reason : ReasonCode

structure ShadowHigh180Position (Value : Type) where
  side : Side
  entryTsUtc : Int
  entryPrice : Value

structure DeferredEntry (Value : Type) where
  signal : EntrySignal Value
  cycleId : CycleId
  deferredTsUtc : Int
  originalRequestId : StrategyRequestId

structure DeferredExit where
  owner : Owner
  reason : ReasonCode
  cycleId : CycleId
  deferredTsUtc : Int
  originalRequestId : StrategyRequestId

inductive TagRole where
  | entry
  | tp
  | sl
  | exit
  | cancel
deriving DecidableEq

structure HybridTag where
  sid : String
  cycle : String
  owner : Option Owner
  role : Option TagRole

/-- The two sets of working orders are lists without repetition, in the order they are walked. -/
structure HybridIntradayRuntimeStrategy (Value : Type) where
  config : HybridIntradayRuntimeConfig Value
  orchestrator : HybridOrchestrator Value
  high180Mr : High180MrEngine Value
  riskGateShadowMr : High180MrEngine Value
  lastProcessedBarTs : Option Int
  lastPositionQty : Value
  currentOwner : Option Owner
  currentSide : Option Side
  pendingEntry : Option (PendingEntry Value)
  pendingEntryRequestId : Option StrategyRequestId
  pendingEntryCreatedTsUtc : Option Int
  deferredEntry : Option (DeferredEntry Value)
  pendingExit : Option PendingExit
  pendingExitRequestId : Option StrategyRequestId
  pendingExitCreatedTsUtc : Option Int
  deferredExit : Option DeferredExit
  pendingTpRequestId : Option StrategyRequestId
  pendingTpCreatedTsUtc : Option Int
  pendingSlRequestId : Option StrategyRequestId
  pendingSlCreatedTsUtc : Option Int
  tpOrderId : Option BrokerOrderId
  slStopOrderId : Option BrokerStopOrderId
  slExchangeOrderId : Option BrokerOrderId
  slTriggeredTs : Option Int
  mrTakePrice : Option Value
  mrStopPrice : Option Value
  repairDeadlineTs : Option Int
  nextRepairAtTs : Option Int
  repairBackoffLevel : UInt32
  repairAttempts : UInt32
  bracketTerminalReconcileStartedMs : Option Int
  activeCycleId : Option CycleId
  safeModeCloseOnly : Bool
  safeModeReason : Option String
  nextCycleSeq : UInt32
  lastBarClose : Option Value
  prevDayClose : Option Value
  lastDayLocal : Option NaiveDate
  currentDayHigh : Option Value
  currentDayLow : Option Value
  prevDayRange : Option Value
  entryReady : Bool
  workingOrders : List BrokerOrderId
  workingStopOrders : List BrokerStopOrderId
  cleanupStopRetryAttempts : UInt32
  startupLiveReplayBoundaryTsUtc : Option Int
  riskGateShadowSessionDate : Option NaiveDate
  riskGateShadowPnlPoints : Value
  riskGateShadowTradeCount : UInt32
  riskGateShadowPosition : Option (ShadowHigh180Position Value)
  riskGateShadowOpen : Option (High180Open Value)
  pendingRiskGateFinalizations : List (RiskGateSessionFinalization Value)
  riskGateMrEnabledCurrentSession : Option Bool

/-- The request id that a strategy derives from its names, an action, a time and a number: a hash
from outside the repository. -/
structure RequestIds where
  deterministicRequestId : String → String → String → String → Int → UInt8 → StrategyRequestId

namespace CycleId

def hexValue (digit : Char) : Nat :=
  if digit.isDigit then digit.toNat - 48
  else if 'a' ≤ digit ∧ digit ≤ 'f' then digit.toNat - 87
  else digit.toNat - 55

/-- The second that the first eight digits spell. -/
def tsUtc (cycle : CycleId) : Int :=
  ((cycle.digits.take 8).foldl (fun value digit => value * 16 + hexValue digit) 0 : Nat)

def toText (cycle : CycleId) : String :=
  String.ofList cycle.digits

def parse (raw : String) : Option CycleId :=
  if valid : raw.toList.length = 10 ∧ raw.toList.all Char.isHexDigit = true then
    some { digits := raw.toList, length_digits := valid.1, hex_digits := valid.2 }
  else none

theorem isHexDigit_of_isLowerHex {digit : Char} (lower : isLowerHex digit = true) : digit.isHexDigit = true := by
  simp only [isLowerHex, Bool.or_eq_true, Bool.and_eq_true, decide_eq_true_eq] at lower
  simp only [Char.isHexDigit, Char.isDigit, Bool.or_eq_true, Bool.and_eq_true, decide_eq_true_eq]
  rcases lower with digits | letters
  · exact .inl (.inl digits)
  · exact .inl (.inr letters)

/-- The eight digits of a second and the two of a running number. -/
def ofParts (ts : Nat) (seq : UInt8) : CycleId :=
  { digits := hexString (toBigEndian 4 ts ++ [seq])
    length_digits := by simp
    hex_digits := by
      rw [List.all_eq_true]
      intro digit member
      exact isHexDigit_of_isLowerHex (isLowerHex_of_mem_hexString member) }

end CycleId

def ownerCode : Owner → String
  | .meanReversion => "MR"
  | .intradayBreakout => "BO"

def roleCode : TagRole → String
  | .entry => "ENTRY"
  | .tp => "TP"
  | .sl => "SL"
  | .exit => "EXIT"
  | .cancel => "CANCEL"

def parseTagOwner (value : String) : Option Owner :=
  if value = "MR" then some .meanReversion else if value = "BO" then some .intradayBreakout else none

def parseTagRole (value : String) : Option TagRole :=
  if value = "ENTRY" then some .entry
  else if value = "TP" then some .tp
  else if value = "SL" then some .sl
  else if value = "EXIT" then some .exit
  else if value = "CANCEL" then some .cancel
  else none

structure TagFields where
  sid : Option String
  cycle : Option String
  owner : Option Owner
  role : Option TagRole

/-- One `key=value` part of a comment; a later part overrides an earlier one of its key. -/
def parseTagPart (fields : TagFields) (part : List Char) : Option TagFields :=
  match part.span (· ≠ '=') with
  | (_, []) => none
  | (key, _ :: rest) =>
      let value := String.ofList rest
      if key = "sid".toList then some { fields with sid := some value }
      else if key = "c".toList then some { fields with cycle := some value }
      else if key = "o".toList then some { fields with owner := parseTagOwner value }
      else if key = "r".toList then some { fields with role := parseTagRole value }
      else some fields

def parseHybridTag (comment : Option String) : Option HybridTag := do
  let characters := (← comment).toList
  if characters.all (fun character => character.val < 128) = false ∨
      "HYB|".toList.isPrefixOf characters = false then none
  else
    let fields ← ((characters.splitOn '|').drop 1).foldlM parseTagPart
      { sid := none, cycle := none, owner := none, role := none }
    some { sid := ← fields.sid, cycle := ← fields.cycle, owner := fields.owner, role := fields.role }

def asciiLowercase (text : String) : String :=
  String.ofList (text.toList.map Char.toLower)

def isTerminalOrderStatus (status : String) : Bool :=
  status ∈ ["filled", "canceled", "cancelled", "expired", "rejected"]

def isTriggeredStopOrderStatus (status : String) : Bool :=
  status ∈ ["filled", "executed", "triggered", "done", "completed"]

def isTerminalStopOrderStatus (status : String) : Bool :=
  status ∈ ["filled", "canceled", "cancelled", "expired", "rejected", "executed", "triggered", "done", "completed"]

def stopSideForEntrySide : Side → OrderSide
  | .long => .sell
  | .short => .buy

def stopConditionForEntrySide : Side → StopLimitCondition
  | .long => .lessOrEqual
  | .short => .moreOrEqual

def sideToOrderSide : Side → OrderSide
  | .long => .buy
  | .short => .sell

def bracketTerminalReconcileGraceMs : Int := 3000

def maxCleanupStopRetries : UInt32 := 3

section Numbers

variable {Value : Type} [F64 Value]

def IsFlat (qty : Value) : Prop := F64.abs qty ≤ F64.epsilon

def IsOpen (qty : Value) : Prop := F64.epsilon < F64.abs qty

instance (qty : Value) : Decidable (IsFlat qty) := inferInstanceAs (Decidable (_ ≤ _))
instance (qty : Value) : Decidable (IsOpen qty) := inferInstanceAs (Decidable (_ < _))

def stopLimitPrice (stopSide : OrderSide) (triggerPrice tickSize : Value) : Value :=
  let offset := F64.maxOf tickSize (F64.decimal 1 7)
  match stopSide with
  | .buy => triggerPrice + offset
  | .sell => triggerPrice - offset

def expectedEntryQty (entry : PendingEntry Value) : Value :=
  match entry.side with
  | .long => entry.targetQty
  | .short => -entry.targetQty

def isMrBracketEntry (entry : PendingEntry Value) : Prop :=
  entry.owner = .meanReversion ∧ entry.entryStyle = .bracket

instance (entry : PendingEntry Value) : Decidable (isMrBracketEntry entry) := inferInstanceAs (Decidable (_ ∧ _))

def waitsForPartialEntryTarget (entry : PendingEntry Value) : Prop :=
  isMrBracketEntry entry ∧ F64.one < entry.targetQty

instance (entry : PendingEntry Value) : Decidable (waitsForPartialEntryTarget entry) :=
  inferInstanceAs (Decidable (_ ∧ _))

def partialEntryProgressIsValid (entry : PendingEntry Value) (prev cur : Value) : Prop :=
  let target := expectedEntryQty entry
  IsOpen cur ∧ F64.equal (F64.signum cur) (F64.signum target) = true ∧
    F64.abs cur ≤ F64.abs target + F64.epsilon ∧ F64.abs prev ≤ F64.abs cur + F64.epsilon

instance (entry : PendingEntry Value) (prev cur : Value) : Decidable (partialEntryProgressIsValid entry prev cur) :=
  inferInstanceAs (Decidable (_ ∧ _))

end Numbers

/-! ### Functions of the state -/

namespace HybridIntradayRuntimeStrategy

variable {Value : Type} [F64 Value] (strategy : HybridIntradayRuntimeStrategy Value)

def offsetSeconds : Int := strategy.config.timezoneOffsetHours * 3600

def hasFixedOffset : Prop := -86400 < strategy.offsetSeconds ∧ strategy.offsetSeconds < 86400

instance : Decidable strategy.hasFixedOffset := inferInstanceAs (Decidable (_ ∧ _))

def utcToLocalNaive (tsUtc : Int) : Option NaiveDateTime :=
  if strategy.hasFixedOffset then
    (DateTimeUtc.timestampOpt tsUtc).map fun time => { seconds := time.seconds + strategy.offsetSeconds }
  else none

def hasLiveOrders : Bool :=
  strategy.pendingEntry.isSome || strategy.pendingEntryRequestId.isSome || strategy.pendingExitRequestId.isSome ||
    strategy.pendingTpRequestId.isSome || strategy.pendingSlRequestId.isSome || !strategy.workingOrders.isEmpty ||
    !strategy.workingStopOrders.isEmpty

def usesHigh180Mr : Bool := strategy.config.mrVariant = .high180

def usesAuthor41BoundaryShortMr : Bool := strategy.config.mrVariant = .author41BoundaryShort

def usesMrOverride : Bool := strategy.usesHigh180Mr || strategy.usesAuthor41BoundaryShortMr

def boOnlyRiskgateDisabled : Bool :=
  strategy.config.mrGatePolicy = .disabled ∧ strategy.config.riskGateMode = .disabled ∧
    strategy.config.liveMrEntriesEnabled = false

def suppressWeekendSignalGeneration (dt : NaiveDateTime) : Bool :=
  strategy.config.weekendsOff && isWeekend dt.date

def suppressNonModelSessionBar (dt : NaiveDateTime) : Bool :=
  (∃ start ∈ strategy.config.modelSessionStartTime, dt.time.secondOfDay < start.secondOfDay) ∨
    ∃ last ∈ strategy.config.modelSessionEndTime, last.secondOfDay < dt.time.secondOfDay

def mrGateAllowsCurrentSession : Bool :=
  match strategy.config.mrGatePolicy, strategy.config.riskGateMode with
  | .shadowPnlLb120Positive, .enforced => strategy.riskGateMrEnabledCurrentSession.getD false
  | _, _ => true

def riskGateShadowEnabled : Bool :=
  strategy.usesHigh180Mr ∧ strategy.config.mrGatePolicy = .shadowPnlLb120Positive

def pendingTimeoutSec : Int :=
  asI64 (max strategy.config.pendingTimeoutSec 1)

def bracketTerminalReconcileActive (nowMs : Int) : Bool :=
  ∃ started ∈ strategy.bracketTerminalReconcileStartedMs,
    saturatingSub nowMs started < bracketTerminalReconcileGraceMs

def signalsWarmed : Bool := strategy.prevDayRange.isSome && strategy.prevDayClose.isSome

def tickOrOne : Value :=
  if F64.zero < strategy.config.tickSize then strategy.config.tickSize else F64.one

def positivePrice (price : Option Value) : Option Value :=
  price.filter fun price => decide (F64.zero < price)

def liveReferencePrice : Value :=
  (((positivePrice strategy.lastBarClose).or (positivePrice strategy.mrTakePrice)).or
    (positivePrice strategy.mrStopPrice)).getD strategy.tickOrOne

def liveMarketablePriceFromReference (side : OrderSide) (referencePrice : Value) : Value :=
  let reference := if F64.zero < referencePrice then referencePrice else strategy.tickOrOne
  if strategy.config.tickSize ≤ F64.zero then reference
  else
    let shift := F64.ofInt (max strategy.config.marketableLimitOffsetTicks 0 + 1) * strategy.config.tickSize
    match side with
    | .buy => reference + shift
    | .sell => reference - shift

def deferredEntryExpired (deferred : DeferredEntry Value) (dt : NaiveDateTime) : Bool :=
  ∃ deferredLocal ∈ strategy.utcToLocalNaive deferred.deferredTsUtc, deferredLocal.date.day < dt.date.day

def stopEndBufferOrDefault (createdTsUtc : Int) : Int :=
  saturatingAdd (max createdTsUtc 0) (asI64 strategy.config.stopEndBufferSec)

/-- The first close of a session, at or behind a day, that lies behind a time; a number of days is tried. -/
def stopEndFrom (createdTsUtc : Int) (day : NaiveDate) : Nat → Int
  | 0 => strategy.stopEndBufferOrDefault createdTsUtc
  | days + 1 =>
      let next : NaiveDate := { day := day.day + 1 }
      if strategy.config.weekendsOff ∧ isWeekend day then stopEndFrom createdTsUtc next days
      else
        let closeTime :=
          NaiveTime.fromHms (min strategy.config.sessionCloseHour 23) (min strategy.config.sessionCloseMinute 59) 0
        let stopEnd := saturatingAdd ((andTime day closeTime).seconds - strategy.offsetSeconds)
          (asI64 strategy.config.stopEndBufferSec)
        if createdTsUtc < stopEnd then stopEnd else stopEndFrom createdTsUtc next days

def resolveStopEndUnixTime (createdTsUtc : Int) : Int :=
  if createdTsUtc ≤ 0 then strategy.stopEndBufferOrDefault 0
  else
    match strategy.utcToLocalNaive createdTsUtc with
    | none => strategy.stopEndBufferOrDefault createdTsUtc
    | some dt => strategy.stopEndFrom createdTsUtc dt.date 8

/-- `next_cycle_id`, from the running number and on to the next one. -/
def nextCycleId (tsUtc : Int) : HybridIntradayRuntimeStrategy Value × CycleId :=
  ({ strategy with nextCycleSeq := strategy.nextCycleSeq + 1 },
    .ofParts ((max tsUtc 0).toNat % 2 ^ 32) strategy.nextCycleSeq.toUInt8)

def activeOrNextCycle (tsUtc : Int) : HybridIntradayRuntimeStrategy Value × CycleId :=
  match strategy.activeCycleId with
  | some cycle => (strategy, cycle)
  | none => strategy.nextCycleId tsUtc

def ensureActiveCycleFromComment (comment : Option String) : HybridIntradayRuntimeStrategy Value :=
  { strategy with
    activeCycleId := strategy.activeCycleId.or ((parseHybridTag comment).bind fun tag => CycleId.parse tag.cycle) }

def enterSafeMode (reason : String) : HybridIntradayRuntimeStrategy Value :=
  { strategy with safeModeCloseOnly := true, safeModeReason := some reason }

def resetRepairTracking : HybridIntradayRuntimeStrategy Value :=
  { strategy with
    pendingTpRequestId := none
    pendingTpCreatedTsUtc := none
    pendingSlRequestId := none
    pendingSlCreatedTsUtc := none
    tpOrderId := none
    slStopOrderId := none
    slExchangeOrderId := none
    slTriggeredTs := none
    mrTakePrice := none
    mrStopPrice := none
    repairDeadlineTs := none
    nextRepairAtTs := none
    repairBackoffLevel := 0
    repairAttempts := 0 }

/-- The backoff doubles with each level, sixteen times at most, and saturates on the way. -/
def scheduleNextRepair (nowTs : Int) : HybridIntradayRuntimeStrategy Value :=
  let power := min strategy.repairBackoffLevel.toNat 16
  let step := min (min (strategy.config.repairBackoffBaseSec.toNat * 2 ^ power) (2 ^ 64 - 1))
    strategy.config.repairBackoffMaxSec.toNat
  { strategy with
    nextRepairAtTs := some (saturatingAdd nowTs (asI64 (UInt64.ofNat step)))
    repairBackoffLevel :=
      if strategy.repairBackoffLevel = UInt32.ofNat (2 ^ 32 - 1) then strategy.repairBackoffLevel
      else strategy.repairBackoffLevel + 1 }

def clearPendingEntry : HybridIntradayRuntimeStrategy Value :=
  { strategy with pendingEntry := none, pendingEntryRequestId := none, pendingEntryCreatedTsUtc := none }

def clearPendingExit : HybridIntradayRuntimeStrategy Value :=
  { strategy with pendingExit := none, pendingExitRequestId := none, pendingExitCreatedTsUtc := none }

end HybridIntradayRuntimeStrategy

end TradingGateway.HybridIntraday
