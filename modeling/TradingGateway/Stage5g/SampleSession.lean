import TradingGateway.Stage5g.OrderPosition
import TradingGateway.Stage6.PlainCodec

/-! A plain codec for order-position packages, and one-lot sessions written in it. -/

set_option autoImplicit false

namespace TradingGateway.Stage5g.SampleSession

open BrokerCore.FixedPoint BrokerCore.Identifiers BrokerCore.OperationalSnapshot BrokerCore.Orders
open OrderPosition Stage6.PlainCodec

def wholeToF64 (value : Decimal) : Option Float :=
  if value.scale = 0 then some (if value.negative then -Float.ofNat value.magnitude else Float.ofNat value.magnitude)
  else none

def one : Decimal := Decimal.ofNat 1 Decimal.one_fits

/-- The two floating-point numbers of the sample sessions as decimals. -/
def wholeFromF64 (value : Float) : Option Decimal :=
  if value == 0 then some Decimal.zero else if value == 1 then some one else none

def plainOrder (order : BrokerOrderSnapshot) : List UInt8 :=
  plainText order.accountId.value ++ plainOption (fun id => plainText id.value) order.brokerOrderId ++
    plainOption (fun id => plainText id.value) order.clientOrderId ++ plainInstrument order.instrument ++
    plainTag order.side.ctorIdx ++ plainTag order.orderType.ctorIdx ++ plainTag order.status.ctorIdx ++
    plainDecimal order.qty ++ plainDecimal order.filledQty ++ plainOption plainDecimal order.limitPrice ++
    plainTime order.receivedTs

def plainPosition (position : BrokerPositionSnapshot) : List UInt8 :=
  plainText position.accountId.value ++ plainInstrument position.instrument ++ plainDecimal position.qty ++
    plainOption plainDecimal position.avgPrice ++ plainTime position.receivedTs

def plainTrade (trade : BrokerTradeSnapshot) : List UInt8 :=
  plainText trade.brokerTradeId.value ++ plainOption (fun id => plainText id.value) trade.brokerOrderId ++
    plainDecimal trade.qty ++ plainDecimal trade.price ++ plainTime trade.receivedTs

def sessionCodec : OrderPositionCodec where
  sha256 := plainHash
  orderToVec := plainOrder
  positionToVec := plainPosition
  instrumentToVec := fun spec => plainText spec.instrument.brokerSymbol
  cashToVec := fun cash => plainText cash.currency ++ plainDecimal cash.amount
  projectionToVec := fun projection =>
    projection.requestId.uuid.toList ++ projection.brokerTruth.orders.flatMap plainOrder ++
      projection.brokerTruth.trades.flatMap plainTrade ++ projection.brokerTruth.positions.flatMap plainPosition ++
      plainText projection.packageDiscriminator ++ plainOption plainText projection.attribution
  parseFromRfc3339 := fun _ => none
  decimalDiv := fun left right => if right.units = one.units then some left else none
  toF64 := wholeToF64
  fromF64Retain := wholeFromF64

def sampleAccount : BrokerAccountId := { value := "A-1" }

def sampleRequest : StrategyRequestId := { uuid := Vector.replicate 16 7 }

def sampleInstrument : InstrumentId :=
  { symbol := "IMOEXF", venueSymbol := some "IMOEXF@RTSX", exchange := .moex, market := .futures }

/-- A buy entry of one lot, freshly attached, with the given position before it. -/
def sampleSlot (action : Stage5gMockIntentAction) (prePositionQty : Float) : Stage5gOrderPositionSlot :=
  { ack := {
      requestId := sampleRequest
      expectedClientOrderId := ClientOrderId.fromStrategyRequest sampleRequest
      action := action
      side := some "Buy"
      latestReceivedTsUtc := none }
    source := {
      requestId := sampleRequest
      intentClass := .entry
      side := some .buy
      targetQty := some 1
      prePositionQty := prePositionQty
      expectedAttribution := none }
    brokerOrderId := some sampleOrderId
    orderEvents := []
    trades := []
    position := none
    positionDerivation := none
    positionMatchingRowCount := none
    marketTerminalTruth := none
    lastOrderSourceTs := none
    lastOrderReceivedTs := none
    lastTradeSourceTs := none
    lastTradeReceivedTs := none
    lastPositionSourceTs := none
    lastPositionReceivedTs := none
    terminal := false }

def sampleState (slot : Stage5gOrderPositionSlot) : Stage5gOrderPositionState :=
  { strategyId := "alpha"
    accountId := sampleAccount
    instrument := sampleInstrument
    slots := [slot]
    evidenceIdentities := []
    currentEvidenceIdentity := none
    lastTotalSequence := none
    lastBrokerTruthReceivedAt := none
    lastBrokerTruthReceivedMs := none
    duplicateEvidenceCount := 0
    lastContinuationCheckpointTsUtcMs := none }

def atSecond (second : Int) : DateTimeUtc := { seconds := second, nanos := 0 }

def sampleOrder (status : OrderStatus) (filledQty : Quantity) (second : Int) : BrokerOrderSnapshot :=
  { accountId := sampleAccount
    brokerOrderId := some sampleOrderId
    clientOrderId := some (ClientOrderId.fromStrategyRequest sampleRequest)
    instrument := sampleInstrument
    side := .buy
    orderType := .limit
    timeInForce := some .day
    status := status
    lifecycle := BrokerOrderSnapshot.lifecycleFor status
    qty := one
    filledQty := filledQty
    remainingQty := none
    limitPrice := some one
    brokerAssetId := none
    board := none
    expirationDate := none
    sourceTs := none
    receivedTs := atSecond second }

def sampleTrade (second : Int) : BrokerTradeSnapshot :=
  { accountId := sampleAccount
    brokerTradeId := sampleTradeId
    brokerOrderId := some sampleOrderId
    clientOrderId := none
    instrument := sampleInstrument
    side := .buy
    qty := one
    price := one
    grossAmount := none
    commission := none
    brokerAssetId := none
    board := none
    expirationDate := none
    sourceTs := atSecond second
    receivedTs := atSecond second }

def samplePosition (second : Int) : BrokerPositionSnapshot :=
  { accountId := sampleAccount
    instrument := sampleInstrument
    qty := one
    avgPrice := some one
    unrealizedPnl := none
    sourceTs := none
    receivedTs := atSecond second }

/-- A package about the sample request, received at the given second. -/
def sampleEvidence (totalSequence : UInt64) (second : Int) (order : BrokerOrderSnapshot)
    (trades : List BrokerTradeSnapshot) (positions : List BrokerPositionSnapshot) : Stage5gOrderPositionEvidence :=
  { totalSequence := totalSequence
    requestId := sampleRequest
    brokerTruth := {
      accountId := sampleAccount
      orders := [order]
      positions := positions
      cash := none
      trades := trades
      instruments := []
      receivedTs := atSecond second }
    orderAttribution := none }

def samplePackage (evidence : Stage5gOrderPositionEvidence)
    (settled : canonicalParts sessionCodec evidence = .ok {
      evidence := evidence
      identity := evidenceIdentity evidence
      fingerprint := canonicalEvidenceFingerprint sessionCodec evidence }) :
    Stage5gCanonicalOrderPositionEvidence sessionCodec :=
  { evidence := evidence
    identity := evidenceIdentity evidence
    fingerprint := canonicalEvidenceFingerprint sessionCodec evidence
    canonicalized := ⟨evidence, settled⟩ }

end TradingGateway.Stage5g.SampleSession
