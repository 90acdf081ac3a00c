import TradingGateway.BrokerCore.Orders

/-! The broker-neutral snapshot of an account: orders, positions, trades and the
instruments they refer to, as one observation of the broker. -/

set_option autoImplicit false

namespace TradingGateway.BrokerCore.OperationalSnapshot

open FixedPoint Identifiers Orders

inductive BrokerOrderQuantityTruth where
  | remainingPositive
  | remainingZero
  | remainingUnknown
deriving DecidableEq

structure BrokerOrderSnapshot where
  accountId : BrokerAccountId
  brokerOrderId : Option BrokerOrderId
  clientOrderId : Option ClientOrderId
  instrument : InstrumentId
  side : OrderSide
  orderType : BrokerCore.Orders.OrderType
  timeInForce : Option TimeInForce
  status : OrderStatus
  lifecycle : BrokerOrderLifecycle
  qty : Quantity
  filledQty : Quantity
  remainingQty : Option Quantity
  limitPrice : Option Price
  brokerAssetId : Option String
  board : Option String
  expirationDate : Option NaiveDate
  sourceTs : Option DateTimeUtc
  receivedTs : DateTimeUtc
deriving DecidableEq

structure BrokerPositionSnapshot where
  accountId : BrokerAccountId
  instrument : InstrumentId
  qty : Quantity
  avgPrice : Option Price
  unrealizedPnl : Option Decimal
  sourceTs : Option DateTimeUtc
  receivedTs : DateTimeUtc
deriving DecidableEq

structure BrokerTradeSnapshot where
  accountId : BrokerAccountId
  brokerTradeId : BrokerTradeId
  brokerOrderId : Option BrokerOrderId
  clientOrderId : Option ClientOrderId
  instrument : InstrumentId
  side : OrderSide
  qty : Quantity
  price : Price
  grossAmount : Option Decimal
  commission : Option Decimal
  brokerAssetId : Option String
  board : Option String
  expirationDate : Option NaiveDate
  sourceTs : DateTimeUtc
  receivedTs : DateTimeUtc
deriving DecidableEq

structure CashPosition where
  currency : String
  amount : Decimal
deriving DecidableEq

structure BrokerCashSnapshot where
  accountId : BrokerAccountId
  cash : List CashPosition
  equity : Option Decimal
  freeCash : Option Decimal
  initialMargin : Option Decimal
  maintenanceMargin : Option Decimal
  sourceTs : Option DateTimeUtc
  receivedTs : DateTimeUtc
deriving DecidableEq

inductive BrokerKind where
  | alor
  | finam
  | sim
  | other (name : String)
deriving DecidableEq

structure InstrumentMapEntry where
  internalSymbol : String
  broker : BrokerKind
  brokerSymbol : String
  exchange : Exchange
  market : Market
  priceStep : Price
  qtyStep : Quantity
  lotSize : Quantity
  minQty : Quantity
  stepValue : Decimal
  currency : String
  scheduleId : String
  expirationDate : Option NaiveDate
  isTradable : Bool
deriving DecidableEq

structure BrokerInstrumentSpec where
  instrument : InstrumentMapEntry
  brokerAssetId : Option String
  board : Option String
  longInitialMargin : Option Decimal
  shortInitialMargin : Option Decimal
deriving DecidableEq

structure BrokerTruthSnapshot where
  accountId : BrokerAccountId
  orders : List BrokerOrderSnapshot
  positions : List BrokerPositionSnapshot
  cash : Option BrokerCashSnapshot
  trades : List BrokerTradeSnapshot
  instruments : List BrokerInstrumentSpec
  receivedTs : DateTimeUtc
deriving DecidableEq

/-- Venue symbols decide where both sides have one; the symbol, exchange and
market decide otherwise. -/
def instrumentIdentityMatches (left right : InstrumentId) : Bool :=
  if left.venueSymbol.isSome ∧ right.venueSymbol.isSome then left.venueSymbol = right.venueSymbol
  else left.symbol = right.symbol ∧ left.exchange = right.exchange ∧ left.market = right.market

namespace BrokerOrderSnapshot

def lifecycleFor : OrderStatus → BrokerOrderLifecycle
  | .new | .working | .partiallyFilled => .active
  | .filled | .canceled | .rejected | .expired => .terminal
  | .unknown _ => .unknown

def quantityTruth (order : BrokerOrderSnapshot) : BrokerOrderQuantityTruth :=
  match order.remainingQty with
  | some remaining => if remaining.Same Decimal.zero then .remainingZero else .remainingPositive
  | none => .remainingUnknown

def hasBlockingActiveQuantity (order : BrokerOrderSnapshot) : Bool :=
  order.quantityTruth = .remainingPositive ∨ order.quantityTruth = .remainingUnknown

def isActiveForLifecycle (order : BrokerOrderSnapshot) : Bool :=
  order.lifecycle = .active ∧ order.hasBlockingActiveQuantity

def isInconsistentActiveZeroRemaining (order : BrokerOrderSnapshot) : Bool :=
  order.lifecycle = .active ∧ order.quantityTruth = .remainingZero

def hasCorrelationId (order : BrokerOrderSnapshot) : Bool :=
  order.brokerOrderId.isSome ∨ order.clientOrderId.isSome

end BrokerOrderSnapshot

namespace BrokerPositionSnapshot

def isOpen (position : BrokerPositionSnapshot) : Bool :=
  ¬ position.qty.Same Decimal.zero

def matchesInstrument (position : BrokerPositionSnapshot) (instrument : InstrumentId) : Bool :=
  instrumentIdentityMatches position.instrument instrument

end BrokerPositionSnapshot

def laterOf (left right : DateTimeUtc) : DateTimeUtc :=
  if left.After right then left else right

def latest (times : List DateTimeUtc) : Option DateTimeUtc :=
  times.foldl (fun best time => some (best.elim time (laterOf · time))) none

def timestampMillis (time : DateTimeUtc) : Int :=
  time.seconds * 1000 + (time.nanos.toNat / 1000000 : Nat)

end TradingGateway.BrokerCore.OperationalSnapshot
