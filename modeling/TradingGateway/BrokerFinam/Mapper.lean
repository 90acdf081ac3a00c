import TradingGateway.BrokerCore.AccountSummary
import TradingGateway.BrokerCore.OrderPathStores

/-! The FINAM order state, and its mapping to the broker-neutral order and its snapshot. -/

set_option autoImplicit false

namespace TradingGateway.BrokerFinam.Mapper

open BrokerCore.FixedPoint BrokerCore.Identifiers BrokerCore.OperationalSnapshot BrokerCore.Orders
open BrokerCore.OrderPathStores Foundation.ExceptRun

structure DecimalValue where
  value : String

structure OrderRequestSnapshot where
  accountId : String
  clientOrderId : Option String
  comment : Option String
  limitPrice : Option DecimalValue
  quantity : Option DecimalValue
  side : String
  symbol : String
  timeInForce : Option String
  orderType : String

structure OrderState where
  executedQuantity : Option DecimalValue
  initialQuantity : Option DecimalValue
  order : OrderRequestSnapshot
  orderId : Option String
  remainingQuantity : Option DecimalValue
  status : String
  transactAt : Option String

structure RedactedValueFingerprint where
  len : Nat
  sha256 : String
deriving DecidableEq

inductive FinamMapperError where
  | missingField (field : String)
  | invalidDecimal (field : String) (redacted : RedactedValueFingerprint)
  | invalidTimestamp (field : String) (redacted : RedactedValueFingerprint)
  | unsupportedBrokerValue (field : String) (redacted : RedactedValueFingerprint)
deriving DecidableEq

structure Order where
  accountId : BrokerAccountId
  orderId : Option BrokerOrderId
  clientOrderId : Option ClientOrderId
  brokerClientOrderIdFingerprint : Option RedactedValueFingerprint
  instrument : InstrumentId
  side : OrderSide
  orderType : BrokerCore.Orders.OrderType
  status : OrderStatus
  qty : Quantity
  filledQty : Quantity
  limitPrice : Option Price
  stopPrice : Option Price
  commentFingerprint : Option RedactedValueFingerprint
  comment : Option String
  sourceTs : Option DateTimeUtc
  receivedTs : DateTimeUtc

/-- What the mapper takes from outside the repository: the readers of decimals and of instants,
and the hash of a text in hexadecimal digits. -/
structure MapperCodec where
  decimalFromStr : String → Option Decimal
  parseFromRfc3339 : String → Option DateTimeUtc
  sha256Hex : String → String

section Mapping

variable (codec : MapperCodec)

def redactCoreValue (value : String) : RedactedValueFingerprint :=
  { len := value.utf8ByteSize, sha256 := codec.sha256Hex value }

def unsupportedValue {Value : Type} (field value : String) : Except FinamMapperError Value :=
  .error (.unsupportedBrokerValue field (redactCoreValue codec value))

def mapSide (native : String) : Except FinamMapperError OrderSide :=
  if native ∈ ["SIDE_BUY", "BUY"] then .ok .buy
  else if native ∈ ["SIDE_SELL", "SELL"] then .ok .sell
  else unsupportedValue codec "side" native

def mapOrderType (native : String) : Except FinamMapperError BrokerCore.Orders.OrderType :=
  if native ∈ ["ORDER_TYPE_MARKET", "MARKET"] then .ok .market
  else if native ∈ ["ORDER_TYPE_LIMIT", "LIMIT"] then .ok .limit
  else if native ∈ ["ORDER_TYPE_STOP", "STOP"] then .ok .stop
  else if native ∈ ["ORDER_TYPE_STOP_LIMIT", "STOP_LIMIT"] then .ok .stopLimit
  else if native ∈ ["ORDER_TYPE_TAKE_PROFIT", "TAKE_PROFIT"] then .ok .takeProfit
  else if native ∈ ["ORDER_TYPE_TAKE_PROFIT_LIMIT", "TAKE_PROFIT_LIMIT"] then .ok .takeProfitLimit
  else unsupportedValue codec "order.type" native

def mapTimeInForce (native : String) : Except FinamMapperError TimeInForce :=
  if native ∈ ["TIME_IN_FORCE_DAY", "DAY"] then .ok .day
  else if native ∈ ["TIME_IN_FORCE_GOOD_TILL_CANCEL", "GOOD_TILL_CANCEL", "GTC"] then .ok .goodTillCancel
  else if native ∈ ["TIME_IN_FORCE_GOOD_TILL_DATE", "GOOD_TILL_DATE", "GTD"] then .ok .goodTillDate
  else if native ∈ ["TIME_IN_FORCE_FOK", "FOK"] then .ok .fillOrKill
  else if native ∈ ["TIME_IN_FORCE_IOC", "IOC"] then .ok .immediateOrCancel
  else unsupportedValue codec "order.time_in_force" native

/-- `strip_prefix("ORDER_STATUS_").unwrap_or(native).trim()`. -/
def normalizedOrderStatus (native : String) : String :=
  let marker := "ORDER_STATUS_".toList
  let stripped := if marker.isPrefixOf native.toList then native.toList.drop marker.length else native.toList
  String.ofList ((stripped.dropWhile (IsWhitespace ·)).reverse.dropWhile (IsWhitespace ·)).reverse

def mapOrderStatus (native : String) : OrderStatus :=
  let value := normalizedOrderStatus native
  if value ∈ ["NEW", "ACCEPTED"] then .new
  else if value ∈ ["ACTIVE", "WORKING", "MATCHING", "WAIT", "FORWARDING", "WATCHING", "PENDING_NEW"] then .working
  else if value = "PENDING_CANCEL" then .working
  else if value = "PARTIALLY_FILLED" then .partiallyFilled
  else if value ∈ ["FILLED", "EXECUTED", "SL_EXECUTED", "TP_EXECUTED"] then .filled
  else if value ∈ ["CANCELED", "CANCELLED"] then .canceled
  else if value ∈ ["REJECTED", "FAILED", "DENIED_BY_BROKER", "REJECTED_BY_EXCHANGE"] then .rejected
  else if value = "EXPIRED" then .expired
  else .unknown value

def decimalValue (field : String) (value : DecimalValue) : Except FinamMapperError Decimal :=
  match codec.decimalFromStr value.value with
  | some decimal => .ok decimal
  | none => .error (.invalidDecimal field (redactCoreValue codec value.value))

def requiredDecimal (field : String) (value : Option DecimalValue) : Except FinamMapperError Decimal := do
  decimalValue codec field (← orReject value (.missingField field))

def optionalDecimal (field : String) (value : Option DecimalValue) : Except FinamMapperError (Option Decimal) :=
  value.mapM (decimalValue codec field)

def parseTimestamp (field value : String) : Except FinamMapperError DateTimeUtc :=
  match codec.parseFromRfc3339 value with
  | some time => .ok time
  | none => .error (.invalidTimestamp field (redactCoreValue codec value))

/-- The symbol split at its first `@`: what stands before it, and what behind. -/
def splitOnceAt (symbol : String) : String × String :=
  if '@' ∈ symbol.toList then
    (String.ofList (symbol.toList.takeWhile (· ≠ '@')),
      String.ofList ((symbol.toList.dropWhile (· ≠ '@')).drop 1))
  else (symbol, "")

def instrumentIdFromSymbol (symbol : String) (assetType : Option String) : InstrumentId :=
  let (ticker, mic) := splitOnceAt symbol
  { symbol := ticker
    venueSymbol := some symbol
    exchange :=
      if mic ∈ ["RTSX", "MISX", "MOEX"] then .moex
      else if mic = "" then .other "unknown"
      else .other mic
    market :=
      match assetType with
      | none => .other "unknown"
      | some value =>
          if value = "FUTURES" then .futures
          else if value = "OPTIONS" then .options
          else if value = "EQUITIES" then .stocks
          else if value ∈ ["CURRENCIES", "FOREX"] then .currency
          else if value = "FUNDS" then .funds
          else .other value }

def mapClientOrderIdIfCoreSafe (value : String) : Option ClientOrderId :=
  (ClientOrderId.new value).toOption

def mapOptionalBrokerOrderId (field : String) (value : Option String) :
    Except FinamMapperError (Option BrokerOrderId) :=
  value.mapM fun value =>
    match BrokerOrderId.fromBrokerNativeExact value with
    | some id => .ok id
    | none => unsupportedValue codec field value

def mapOrderState (order : OrderState) (receivedTs : DateTimeUtc) : Except FinamMapperError Order := do
  let qty ← requiredDecimal codec "order.initial_quantity" (order.initialQuantity.or order.order.quantity)
  let executed ← optionalDecimal codec "order.executed_quantity" order.executedQuantity
  let filledQty := executed.getD Decimal.zero
  let limitPrice ← optionalDecimal codec "order.limit_price" order.order.limitPrice
  let sourceTs ← order.transactAt.mapM (parseTimestamp codec "order.transact_at")
  let orderId ← mapOptionalBrokerOrderId codec "order.order_id" order.orderId
  let side ← mapSide codec order.order.side
  let orderType ← mapOrderType codec order.order.orderType
  .ok {
    accountId := { value := order.order.accountId }
    orderId := orderId
    clientOrderId := order.order.clientOrderId.bind mapClientOrderIdIfCoreSafe
    brokerClientOrderIdFingerprint := order.order.clientOrderId.map (redactCoreValue codec)
    instrument := instrumentIdFromSymbol order.order.symbol none
    side := side
    orderType := orderType
    status := mapOrderStatus order.status
    qty := qty
    filledQty := filledQty
    limitPrice := limitPrice
    stopPrice := none
    commentFingerprint := order.order.comment.map (redactCoreValue codec)
    comment := none
    sourceTs := sourceTs
    receivedTs := receivedTs }

def mapOrderStateToBrokerOrderSnapshot (order : OrderState) (receivedTs : DateTimeUtc) :
    Except FinamMapperError BrokerOrderSnapshot := do
  let mapped ← mapOrderState codec order receivedTs
  let remainingQty ← optionalDecimal codec "order.remaining_quantity" order.remainingQuantity
  let timeInForce ← order.order.timeInForce.mapM (mapTimeInForce codec)
  .ok {
    accountId := mapped.accountId
    brokerOrderId := mapped.orderId
    clientOrderId := mapped.clientOrderId
    instrument := mapped.instrument
    side := mapped.side
    orderType := mapped.orderType
    timeInForce := timeInForce
    status := mapped.status
    lifecycle := BrokerOrderSnapshot.lifecycleFor mapped.status
    qty := mapped.qty
    filledQty := mapped.filledQty
    remainingQty := remainingQty
    limitPrice := mapped.limitPrice
    brokerAssetId := none
    board := none
    expirationDate := none
    sourceTs := mapped.sourceTs
    receivedTs := mapped.receivedTs }

end Mapping

/-- An order whose instrument is one registered spec takes over what the spec knows of it. -/
def enrichOrderIdentity (instruments : List BrokerInstrumentSpec) (order : BrokerOrderSnapshot) : BrokerOrderSnapshot :=
  match instruments.filter (·.matchesInstrumentId order.instrument) with
  | [spec] =>
      { order with
        brokerAssetId := spec.brokerAssetId
        board := spec.board
        expirationDate := spec.instrument.expirationDate }
  | _ => order

def enrichOrderIdentitiesFromInstrumentSpecs (orders : List BrokerOrderSnapshot)
    (instruments : List BrokerInstrumentSpec) : List BrokerOrderSnapshot :=
  orders.map (enrichOrderIdentity instruments)

end TradingGateway.BrokerFinam.Mapper
