import TradingGateway.BrokerCore.OperationalSnapshot
import TradingGateway.Foundation.MachineNumbers

/-! What the hybrid intraday strategy receives and returns: its context, the events of its callbacks,
the intents it answers with, and local times of whole seconds. -/

set_option autoImplicit false

namespace TradingGateway.HybridIntraday

open BrokerCore.Identifiers BrokerCore.Orders

inductive Owner where
  | meanReversion
  | intradayBreakout
deriving DecidableEq

inductive Side where
  | long
  | short
deriving DecidableEq

inductive EntryStyle where
  | bracket
  | market
deriving DecidableEq

inductive ReasonCode where
  | morningMeanReversionLong
  | morningMeanReversionShort
  | breakoutLong
  | breakoutShort
  | breakoutEodExit
  | breakoutStop2Long
  | breakoutStop1Long
  | breakoutStop2Short
  | breakoutStop1Short
  | meanRevTimeCutoff
  | waitfixOvernightExit
deriving DecidableEq

structure EntrySignal (Value : Type) where
  owner : Owner
  side : Side
  entryStyle : EntryStyle
  reason : ReasonCode
  stopPrice : Option Value
  takePrice : Option Value

structure ExitSignal where
  owner : Owner
  reason : ReasonCode

structure NaiveTime where
  secondOfDay : Nat
deriving DecidableEq

namespace NaiveTime

def fromHms (hour minute second : Nat) : NaiveTime :=
  { secondOfDay := hour * 3600 + minute * 60 + second }

def hour (time : NaiveTime) : Nat := time.secondOfDay / 3600

def minute (time : NaiveTime) : Nat := time.secondOfDay / 60 % 60

end NaiveTime

structure NaiveDateTime where
  seconds : Int
deriving DecidableEq

namespace NaiveDateTime

def date (dt : NaiveDateTime) : NaiveDate := { day := dt.seconds / 86400 }

def time (dt : NaiveDateTime) : NaiveTime := { secondOfDay := (dt.seconds % 86400).toNat }

def hour (dt : NaiveDateTime) : Nat := dt.time.hour

def minute (dt : NaiveDateTime) : Nat := dt.time.minute

end NaiveDateTime

/-- `date.and_time(time)`. -/
def andTime (date : NaiveDate) (time : NaiveTime) : NaiveDateTime :=
  { seconds := date.day * 86400 + time.secondOfDay }

/-- Saturday or Sunday; the first day of all is a Thursday. -/
def isWeekend (date : NaiveDate) : Bool :=
  5 ≤ (date.day + 3) % 7

inductive Action (Value : Type) where
  | submitEntry (entry : EntrySignal Value)
  | submitExit (owner : Owner) (reason : ReasonCode)
  | armOvernightExit (owner : Owner) (reason : ReasonCode) (armedDate : NaiveDate) (exitTime : NaiveTime)

inductive IntentClass where
  | entry
  | exit
  | cancelCleanup
  | protectiveRepair
deriving DecidableEq

inductive StopLimitCondition where
  | more
  | less
  | moreOrEqual
  | lessOrEqual
deriving DecidableEq

inductive AckStatus where
  | accepted
  | confirmed
  | rejected
  | duplicate
  | expired
  | error
deriving DecidableEq

structure BrokerStopOrderId where
  value : String
  nonEmpty : value ≠ ""

instance : DecidableEq BrokerStopOrderId := fun left right =>
  decidable_of_iff (left.value = right.value) (by
    cases left
    cases right
    simp)

structure CommandAck where
  requestId : StrategyRequestId
  status : AckStatus
  brokerOrderId : Option BrokerOrderId
  errorCode : Option String
  processedTsUtc : Int

inductive TradeMode where
  | live
  | paper
  | backtest
deriving DecidableEq

inductive PaperExecutionMode where
  | liveOnly
  | historySim
deriving DecidableEq

inductive GatewayPhase where
  | syncingHistory
  | reconnecting
  | syncingGap
  | liveReady
deriving DecidableEq

inductive MarketBuyAndCloseLiveOrderStyle where
  | market
  | marketableLimit
deriving DecidableEq

inductive Intent (Value : Type) where
  | classified (intent : Intent Value) (intentClass : IntentClass)
  | place (price qty : Value) (side : OrderSide) (comment : Option String)
  | market (qty : Value) (side : OrderSide) (fillPrice : Option Value) (comment : Option String)
  | cancel (orderId : BrokerOrderId)
  | createStopLimit (side : OrderSide) (qty triggerPrice price : Value) (condition : StopLimitCondition)
      (stopEndUnixTime : Int) (comment : Option String) (instrumentGroup : Option String)
      (checkDuplicates : Option Bool)
  | deleteStopLimit (orderId : BrokerStopOrderId) (side : Option OrderSide) (checkDuplicates : Option Bool)

namespace Intent

variable {Value : Type}

def withClass (intent : Intent Value) (intentClass : IntentClass) : Intent Value :=
  .classified intent intentClass

def explicitClass : Intent Value → Option IntentClass
  | .classified _ intentClass => some intentClass
  | _ => none

def baseIntent : Intent Value → Intent Value
  | .classified intent _ => intent.baseIntent
  | intent => intent

end Intent

structure StrategyCtx (Value : Type) where
  strategyId : String
  portfolio : String
  symbol : String
  tickSize : Value
  tradeMode : TradeMode
  paperExecutionMode : PaperExecutionMode
  allowLiveOrders : Bool
  gatewayPhase : GatewayPhase
  positionQty : Option Value
  eventTsUtc : Int
  nowTsUtc : Int

inductive DataOrigin where
  | history
  | historyGap
  | live
  | replay
deriving DecidableEq

structure BarEvent (Value : Type) where
  symbol : String
  closeTimeUtc : Int
  close : Value
  o : Value
  h : Value
  l : Value
  v : Value
  origin : DataOrigin

structure OrderEvent where
  orderId : BrokerOrderId
  symbol : String
  status : String
  comment : Option String

structure StopOrderEvent where
  stopOrderId : BrokerStopOrderId
  exchangeOrderId : Option BrokerOrderId
  symbol : String
  status : String
  comment : Option String
  tsUtc : Int

structure PositionEvent (Value : Type) where
  symbol : String
  qty : Value
  existing : Bool
  tsUtc : Int

/-- The maps of the snapshot, as their rows in the order they are walked. -/
structure BootstrapSnapshot (Value : Type) where
  positionsStrategy : List (String × PositionEvent Value)
  workingOrdersStrategy : List (BrokerOrderId × OrderEvent)
  workingStopOrdersStrategy : List (BrokerStopOrderId × StopOrderEvent)

structure RiskGateSessionFinalization (Value : Type) where
  sessionDate : NaiveDate
  shadowPnlPoints : Value
  shadowTradeCount : UInt32

/-- Ten hexadecimal digits: the second in which a cycle began, and a running number. -/
structure CycleId where
  digits : List Char
  length_digits : digits.length = 10
  hex_digits : digits.all Char.isHexDigit = true
deriving DecidableEq

end TradingGateway.HybridIntraday
