import TradingGateway.BrokerCore.FixedPoint
import TradingGateway.BrokerCore.Identifiers

/-! Instruments, order vocabulary, the two broker-neutral commands and their acknowledgement. -/

set_option autoImplicit false

namespace TradingGateway.BrokerCore.Orders

open FixedPoint Identifiers

structure DateTimeUtc where
  seconds : Int
  nanos : UInt32
deriving DecidableEq

def DateTimeUtc.After (left right : DateTimeUtc) : Prop :=
  right.seconds < left.seconds ∨ (right.seconds = left.seconds ∧ right.nanos < left.nanos)

instance (left right : DateTimeUtc) : Decidable (left.After right) :=
  inferInstanceAs (Decidable (_ ∨ _))

structure NaiveDate where
  day : Int
deriving DecidableEq

inductive Exchange where
  | moex
  | other (name : String)
deriving DecidableEq

inductive Market where
  | futures
  | options
  | stocks
  | currency
  | funds
  | other (name : String)
deriving DecidableEq

structure InstrumentId where
  symbol : String
  venueSymbol : Option String
  exchange : Exchange
  market : Market
deriving DecidableEq

inductive OrderSide where
  | buy
  | sell
deriving DecidableEq

inductive OrderType where
  | market
  | limit
  | stop
  | stopLimit
  | takeProfit
  | takeProfitLimit
deriving DecidableEq

inductive TimeInForce where
  | day
  | goodTillCancel
  | goodTillDate
  | fillOrKill
  | immediateOrCancel
deriving DecidableEq

inductive OrderStatus where
  | new
  | working
  | partiallyFilled
  | filled
  | canceled
  | rejected
  | expired
  | unknown (text : String)
deriving DecidableEq

inductive BrokerOrderLifecycle where
  | active
  | terminal
  | unknown
deriving DecidableEq

structure PlaceOrder where
  requestId : StrategyRequestId
  createdTs : DateTimeUtc
  ttlMs : Option UInt64
  accountId : BrokerAccountId
  clientOrderId : ClientOrderId
  instrument : InstrumentId
  side : OrderSide
  orderType : OrderType
  qty : Quantity
  limitPrice : Option Price
  timeInForce : TimeInForce
  comment : Option String

structure CancelOrder where
  requestId : StrategyRequestId
  createdTs : DateTimeUtc
  ttlMs : Option UInt64
  accountId : BrokerAccountId
  orderId : BrokerOrderId
  clientOrderId : Option ClientOrderId

inductive CommandAckStatus where
  | accepted
  | submitted
  | duplicate
  | expired
  | recovered
  | rejected
  | error
  | timeout
  | unknownPending
deriving DecidableEq

inductive CommandAckReasonCode where
  | featureDisabled
  | syntheticSubmitted
  | localValidationRejected
  | brokerRejected
  | transportTimeout
  | timeoutUnknownPending
  | cancelTimeoutUnknownPending
  | recoveredByBrokerTruth
  | reconciliationRequired
  | duplicateCommand
  | expiredCommand
  | manualInterventionRequired
  | dryRunOnly
  | rateLimited
  | brokerMaintenance
  | tradingWindowClosed
  | responseDecodeError
  | unauthorized
deriving DecidableEq

structure CommandAckReason where
  code : CommandAckReasonCode
deriving DecidableEq

structure CommandAck where
  requestId : StrategyRequestId
  clientOrderId : Option ClientOrderId
  brokerOrderId : Option BrokerOrderId
  status : CommandAckStatus
  reason : Option CommandAckReason
  receivedTs : DateTimeUtc
deriving DecidableEq

end TradingGateway.BrokerCore.Orders
