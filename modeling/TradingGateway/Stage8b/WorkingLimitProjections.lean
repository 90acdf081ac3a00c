import TradingGateway.Stage8b.WorkingLimitInputs

/-! What a transition of the working book projects: derived identities, the order
row, the trade and position of a fill, and the record that finalizes its request. -/

set_option autoImplicit false

namespace TradingGateway.Stage8b.WorkingLimitProjections

open BrokerCore.FixedPoint BrokerCore.HybridAttribution BrokerCore.Identifiers BrokerCore.OperationalSnapshot
open BrokerCore.Orders Stage6.DurableIdentity Stage6.JournalRecord
open WorkingLimitBook WorkingLimitEvidence WorkingLimitInputs
open Foundation.Bytes Foundation.ExceptRun

def stage8bP1d1OrderIdDomain : String := "moex.stage8b.p1d.order-id.v1"

def stage8bP1d3OrderFingerprintDomain : String := "moex.stage8b.p1d3.order-fingerprint.v1"

def stage8bP1d3TradeIdDomain : String := "moex.stage8b.p1d.trade-id.v1"

def stage8bP1d2AvgPriceScale : Nat := 8

inductive Stage6dLiveCoreError where
  | durableOrderingViolation
  | durableIdentity (error : Stage6DurableIdentityError)
deriving DecidableEq

section Identities

variable (codec : WorkingLimitCodec)

def deriveOrderId (operationalIdentitySha256 : HexText) (requestId : StrategyRequestId)
    (canonicalCommandSha256 : HexText) : BrokerOrderId :=
  { value := "P1D-O-" ++ String.ofList (nulSeparatedSha256 codec [utf8Bytes stage8bP1d1OrderIdDomain,
      utf8Bytes (String.ofList operationalIdentitySha256), utf8Bytes (String.ofList requestId.toText),
      utf8Bytes (String.ofList canonicalCommandSha256)])
    nonEmpty := by simp }

def deriveTradeId (orderId : BrokerOrderId) (barSemanticSha256 : HexText) : BrokerTradeId :=
  { value := "P1D-T-" ++ String.ofList (nulSeparatedSha256 codec [utf8Bytes stage8bP1d3TradeIdDomain,
      utf8Bytes orderId.value, utf8Bytes (String.ofList barSemanticSha256), utf8Bytes "1"])
    nonEmpty := by simp }

def orderFingerprintSha256 (orderId : BrokerOrderId) (requestId : StrategyRequestId)
    (clientOrderId : ClientOrderId) (commandSha256 : HexText) : HexText :=
  nulSeparatedSha256 codec [utf8Bytes stage8bP1d3OrderFingerprintDomain, utf8Bytes orderId.value,
    utf8Bytes (String.ofList requestId.toText), utf8Bytes clientOrderId.value,
    utf8Bytes (String.ofList commandSha256)]

def attributionSha256 (value : HybridRuntimeAttribution) : HexText :=
  sha256Hex codec (codec.attributionToVec value)

def outcomeRecordId (operationalIdentitySha256 : HexText) (brokerOrderId : BrokerOrderId)
    (transitionOrdinal : UInt64) (kind : Stage8bP1d3OutcomeKind) : HexText :=
  (Stage6JournalRecordId.deriveStage8bP1d3Outcome codec.toDurableRecordCodec operationalIdentitySha256
    brokerOrderId transitionOrdinal kind.canonicalName).value

def stage7aRequestFinalizationRecord (identity : Stage6DurableRequestIdentityV1)
    (priorRecordId : Stage6JournalRecordId) (priorSequence : UInt64) (observedAt : DateTimeUtc)
    (disposition : Stage6RequestFinalDispositionV1) :
    Except Stage6dLiveCoreError (Stage6JournalRecordV1 codec.toDurableRecordCodec) := do
  let evidence := codec.finalizationToVec {
    domain := "moex.stage7a.paper-command-finalization.v1"
    observedAt := observedAt
    strategyRequestId := identity.strategyRequestId
    finalRecordId := priorRecordId.value
    disposition := disposition }
  let next ← orReject (checkedAdd priorSequence 1) .durableOrderingViolation
  let sequence ← (Stage6LifecycleSequence.new next).mapError .durableIdentity
  let digest ← (Stage6Sha256Digest.parse (sha256Hex codec evidence)).mapError .durableIdentity
  (Stage6JournalRecordV1.requestFinalized identity disposition sequence (some priorRecordId) digest).mapError
    .durableIdentity

def requestFinalizationBinding (identity : Stage6DurableRequestIdentityV1) (outcomeRecordId : HexText)
    (outcomeLifecycleSequence : UInt64) (observedAt : DateTimeUtc) :
    Except Stage8bP1d3Error (HexText × HexText) := do
  let recordId ← (Stage6JournalRecordId.parseExact outcomeRecordId).mapError fun _ => .identityMismatch
  let finalized ← (stage7aRequestFinalizationRecord codec identity recordId outcomeLifecycleSequence observedAt
    .completed).mapError fun _ => .identityMismatch
  .ok (finalized.journalRecordId.value, finalized.sourceEvidenceSha256.value)

end Identities

def exactOrderSnapshot (accountId : BrokerAccountId) (brokerOrderId : BrokerOrderId)
    (clientOrderId : ClientOrderId) (instrument : InstrumentId) (side : OrderSide) (qty limit : Decimal)
    (status : OrderStatus) (lifecycle : BrokerOrderLifecycle) (filled remaining : Decimal)
    (timestamp : DateTimeUtc) : BrokerOrderSnapshot :=
  { accountId := accountId
    brokerOrderId := some brokerOrderId
    clientOrderId := some clientOrderId
    instrument := instrument
    side := side
    orderType := .limit
    timeInForce := some .day
    status := status
    lifecycle := lifecycle
    qty := qty
    filledQty := filled
    remainingQty := some remaining
    limitPrice := some limit
    brokerAssetId := none
    board := none
    expirationDate := none
    sourceTs := some timestamp
    receivedTs := timestamp }

section Position

variable (codec : WorkingLimitCodec)

def weightedAverage (q0 average delta price q1 : Decimal) : Option Decimal := do
  let prior ← { q0 with negative := false }.checkedMul average
  let fill ← { delta with negative := false }.checkedMul price
  let sum ← prior.checkedAdd fill
  codec.decimalDiv sum { q1 with negative := false }

def candidateAverage (q0 : Decimal) (a0 : Option Decimal) (delta price q1 : Decimal) :
    Except Stage8bP1d3Error Decimal :=
  if q0.Same Decimal.zero then .ok price
  else if q0.negative = delta.negative then
    orReject (a0.bind fun average => weightedAverage codec q0 average delta price q1) .invalidDecimal
  else if q1.negative = q0.negative then orReject a0 .invalidDecimal
  else .ok price

/-- Round to the scale of average prices; what does not fit is rejected. -/
def canonicalAverage (candidate : Decimal) : Except Stage8bP1d3Error Decimal := do
  let canonical := codec.decimalRescale stage8bP1d2AvgPriceScale
    (codec.decimalRoundNearestEven stage8bP1d2AvgPriceScale candidate)
  rejectIf (canonical.scale ≠ stage8bP1d2AvgPriceScale ∨ canonical ≤ Decimal.zero) .invalidDecimal
  .ok canonical

/-- `resulting_position`, with the integrality check of its caller. -/
def resultingPosition (q0 : Decimal) (avg0 : Option Decimal) (signedFill fillPrice : Decimal) :
    Except Stage8bP1d3Error (Decimal × Option Decimal) := do
  rejectIf (isIntegral q0 = false ∨ isIntegral signedFill = false) .invalidDecimal
  rejectIf (signedFill.Same Decimal.zero ∨ fillPrice ≤ Decimal.zero) .invalidDecimal
  rejectIf ((q0.Same Decimal.zero ∧ avg0.isSome = true) ∨
    (¬ q0.Same Decimal.zero ∧ avg0.isNone = true)) .invalidDecimal
  let q1 ← orReject (q0.checkedAdd signedFill) .invalidDecimal
  if q1.Same Decimal.zero then .ok (q1, none)
  else do
    let candidate ← candidateAverage codec q0 avg0 signedFill fillPrice q1
    let canonical ← canonicalAverage codec candidate
    .ok (q1, some canonical)

structure FillTruth where
  accountId : BrokerAccountId
  brokerTradeId : BrokerTradeId
  brokerOrderId : Option BrokerOrderId
  clientOrderId : ClientOrderId
  instrument : InstrumentId
  side : OrderSide
  qty : Decimal
  price : Decimal
  prePositionQty : Decimal
  prePositionAvgPrice : Option Decimal
  timestamp : DateTimeUtc

def FillTruth.trade (fill : FillTruth) : BrokerTradeSnapshot :=
  { accountId := fill.accountId
    brokerTradeId := fill.brokerTradeId
    brokerOrderId := fill.brokerOrderId
    clientOrderId := some fill.clientOrderId
    instrument := fill.instrument
    side := fill.side
    qty := fill.qty
    price := fill.price
    grossAmount := none
    commission := some Decimal.zero
    brokerAssetId := none
    board := none
    expirationDate := none
    sourceTs := fill.timestamp
    receivedTs := fill.timestamp }

def FillTruth.signedFill (fill : FillTruth) : Except Stage8bP1d3Error Decimal :=
  match fill.side with
  | .buy => .ok fill.qty
  | .sell => orReject (Decimal.zero.checkedSub fill.qty) .invalidDecimal

def FillTruth.position (fill : FillTruth) : Except Stage8bP1d3Error BrokerPositionSnapshot := do
  let signedFill ← fill.signedFill
  let (qty, avgPrice) ← resultingPosition codec fill.prePositionQty fill.prePositionAvgPrice signedFill
    fill.price
  .ok {
    accountId := fill.accountId
    instrument := fill.instrument
    qty := qty
    avgPrice := avgPrice
    unrealizedPnl := none
    sourceTs := some fill.timestamp
    receivedTs := fill.timestamp }

def truthOf (order : BrokerOrderSnapshot) (accountId : BrokerAccountId) (timestamp : DateTimeUtc)
    (fill : Option FillTruth) : Except Stage8bP1d3Error BrokerTruthSnapshot := do
  let positions ← (fill.toList).mapM (FillTruth.position codec)
  .ok {
    accountId := accountId
    orders := [order]
    positions := positions
    cash := none
    trades := fill.toList.map FillTruth.trade
    instruments := []
    receivedTs := timestamp }

def exactTruth (input : Stage8bP1d3InitialLimitInput) (order : BrokerOrderSnapshot)
    (tradeId : Option BrokerTradeId) (fillPrice : Option Decimal) (timestamp : DateTimeUtc) :
    Except Stage8bP1d3Error BrokerTruthSnapshot :=
  truthOf codec order input.accountId timestamp ((zip tradeId fillPrice).map fun (tradeId, fillPrice) => {
    accountId := input.accountId
    brokerTradeId := tradeId
    brokerOrderId := order.brokerOrderId
    clientOrderId := input.durableClientOrderId
    instrument := input.instrument
    side := input.side
    qty := input.qty
    price := fillPrice
    prePositionQty := input.prePositionQty
    prePositionAvgPrice := input.prePositionAvgPrice
    timestamp := timestamp })

def exactTruthFromRecord (record : Stage8bP1d3OrderRecordV1) (order : BrokerOrderSnapshot)
    (tradeId : Option BrokerTradeId) (fillPrice : Option Decimal) (prePositionQty : Decimal)
    (prePositionAvgPrice : Option Decimal) (timestamp : DateTimeUtc) :
    Except Stage8bP1d3Error BrokerTruthSnapshot := do
  let fill ← (zip tradeId fillPrice).mapM fun (tradeId, fillPrice) => do
    let qty ← record.qty codec
    .ok {
      accountId := record.accountId
      brokerTradeId := tradeId
      brokerOrderId := some record.brokerOrderId
      clientOrderId := record.originalDurablePlaceClientId
      instrument := record.instrument
      side := record.side
      qty := qty
      price := fillPrice
      prePositionQty := prePositionQty
      prePositionAvgPrice := prePositionAvgPrice
      timestamp := timestamp }
  truthOf codec order record.accountId timestamp fill

end Position

end TradingGateway.Stage8b.WorkingLimitProjections
