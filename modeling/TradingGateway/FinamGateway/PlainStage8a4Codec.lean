import TradingGateway.BrokerFinam.Mapper
import TradingGateway.FinamGateway.Stage8a4Reducer
import TradingGateway.Stage6.PlainReconciliationCodec

/-! The plain codec for broker truth, and the truth of an account with one partly filled order. -/

set_option autoImplicit false

namespace TradingGateway.FinamGateway.PlainStage8a4Codec

open BrokerCore.FixedPoint BrokerCore.HybridAttribution BrokerCore.Identifiers BrokerCore.OperationalSnapshot
open BrokerCore.Orders BrokerFinam.Mapper
open Stage6.JournalRecord Stage6.PlainCodec Stage6.PlainReconciliationCodec
open Stage8a4Reconciliation Foundation.Bytes Foundation.ExceptRun

def plainDate (date : NaiveDate) : List UInt8 :=
  plainText (toString date.day)

def plainOrderId (id : Option BrokerOrderId) : List UInt8 :=
  plainOption (fun id => plainText id.value) id

def plainClientOrderId (id : Option ClientOrderId) : List UInt8 :=
  plainOption (fun id => plainText id.value) id

def plainOrderSnapshot (order : BrokerOrderSnapshot) : List UInt8 :=
  plainText order.accountId.value ++ plainOrderId order.brokerOrderId ++ plainClientOrderId order.clientOrderId ++
    plainInstrument order.instrument ++ plainTag order.side.ctorIdx ++ plainTag order.orderType.ctorIdx ++
    plainOption (fun time => plainTag time.ctorIdx) order.timeInForce ++ plainStatus order.status ++
    plainTag order.lifecycle.ctorIdx ++ plainDecimal order.qty ++ plainDecimal order.filledQty ++
    plainOption plainDecimal order.remainingQty ++ plainOption plainDecimal order.limitPrice ++
    plainOption plainText order.brokerAssetId ++ plainOption plainText order.board ++
    plainOption plainDate order.expirationDate ++ plainOption plainTime order.sourceTs ++ plainTime order.receivedTs

def plainPositionSnapshot (position : BrokerPositionSnapshot) : List UInt8 :=
  plainText position.accountId.value ++ plainInstrument position.instrument ++ plainDecimal position.qty ++
    plainOption plainDecimal position.avgPrice ++ plainOption plainDecimal position.unrealizedPnl ++
    plainOption plainTime position.sourceTs ++ plainTime position.receivedTs

def plainMaterialTrade (trade : Stage8a4MaterialTradeBinding) : List UInt8 :=
  plainText trade.accountId.value ++ plainText trade.brokerTradeId.value ++ plainOrderId trade.brokerOrderId ++
    plainClientOrderId trade.clientOrderId ++ plainInstrument trade.instrument ++ plainTag trade.side.ctorIdx ++
    plainDecimal trade.qty ++ plainDecimal trade.price ++ plainOption plainDecimal trade.grossAmount ++
    plainOption plainDecimal trade.commission ++ plainOption plainText trade.brokerAssetId ++
    plainOption plainText trade.board ++ plainOption plainDate trade.expirationDate ++ plainTime trade.sourceTs

def plainTradeSnapshot (trade : BrokerTradeSnapshot) : List UInt8 :=
  plainMaterialTrade (.ofTrade trade) ++ plainTime trade.receivedTs

def plainInstrumentSpec (spec : BrokerInstrumentSpec) : List UInt8 :=
  plainInstrument spec.instrumentId ++ plainOption plainText spec.brokerAssetId ++ plainOption plainText spec.board ++
    plainOption plainDate spec.instrument.expirationDate

def plainHashes (hashes : List HexText) : List UInt8 :=
  toBigEndian 4 hashes.length ++ hashes.flatMap plainDigits

def plainCash (cash : BrokerCashSnapshot) : List UInt8 :=
  plainText cash.accountId.value ++ toBigEndian 4 cash.cash.length ++
    (cash.cash.flatMap fun position => plainText position.currency ++ plainDecimal position.amount) ++
    plainOption plainDecimal cash.equity ++ plainTime cash.receivedTs

def plainCanonicalTruth (truth : CanonicalTruth) : List UInt8 :=
  plainText truth.accountId.value ++ plainHashes truth.orders ++ plainHashes truth.positions ++
    plainOption plainCash truth.cash ++ plainHashes truth.trades ++ plainHashes truth.instruments ++
    plainTime truth.receivedTs

def nanosecondsOf (time : DateTimeUtc) : Int :=
  time.seconds * 10 ^ 9 + time.nanos.toNat

def plainStage8a4Codec : Stage8a4Codec where
  toTransitionCodec := (plainReconciliationCodec []).toTransitionCodec
  orderSnapshotToVec := plainOrderSnapshot
  positionSnapshotToVec := plainPositionSnapshot
  tradeSnapshotToVec := plainTradeSnapshot
  instrumentSpecToVec := plainInstrumentSpec
  canonicalTruthToVec := plainCanonicalTruth
  materialTradesToVec := fun trades => toBigEndian 4 trades.length ++ trades.flatMap plainMaterialTrade
  toRfc3339 := fun time => toString time.seconds ++ "." ++ toString time.nanos.toNat
  displayDecimal := fun value => toString value.digits ++ "e-" ++ toString value.scale
  nanosecondsSince := fun later earlier => nanosecondsOf later - nanosecondsOf earlier
  addDuration := fun time nanoseconds =>
    { seconds := (nanosecondsOf time + nanoseconds) / 10 ^ 9
      nanos := UInt32.ofNat ((nanosecondsOf time + nanoseconds) % 10 ^ 9).toNat }

def plainMapperCodec : MapperCodec where
  decimalFromStr := fun text =>
    match text.toList with
    | [digit] =>
        if digit.isDigit then
          some (Decimal.ofNat ((digit.toNat - 48) % 10) (lt_trans (Nat.mod_lt _ (by decide)) (by decide)))
        else none
    | _ => none
  parseFromRfc3339 := fun _ => none
  sha256Hex := fun text => String.ofList (plainHash text.toUTF8.toList).hex

/-! ### An account with one partly filled order -/

def sampleTarget : InstrumentId :=
  instrumentIdFromSymbol "TESTFUT@RTSX" none

def atSecond (second : Nat) : DateTimeUtc :=
  { seconds := second, nanos := 0 }

def lots (count : Fin 100) : Decimal :=
  Decimal.ofNat count.val (lt_trans count.isLt (by decide))

/-- A market order of two lots, one of them filled, under the given client order id. -/
def sampleOrderState (clientOrderId : Option String) : OrderState :=
  { executedQuantity := some { value := "1" }
    initialQuantity := some { value := "2" }
    order := {
      accountId := "A-1"
      clientOrderId := clientOrderId
      comment := none
      limitPrice := none
      quantity := some { value := "2" }
      side := "SIDE_BUY"
      symbol := "TESTFUT@RTSX"
      timeInForce := some "TIME_IN_FORCE_DAY"
      orderType := "ORDER_TYPE_MARKET" }
    orderId := some "B-1"
    remainingQuantity := some { value := "1" }
    status := "ORDER_STATUS_PARTIALLY_FILLED"
    transactAt := none }

def sampleOrder : BrokerOrderSnapshot :=
  { accountId := { value := "A-1" }
    brokerOrderId := some sampleOrderId
    clientOrderId := none
    instrument := sampleTarget
    side := .buy
    orderType := .market
    timeInForce := some .day
    status := .partiallyFilled
    lifecycle := .active
    qty := lots 2
    filledQty := lots 1
    remainingQty := some (lots 1)
    limitPrice := none
    brokerAssetId := none
    board := none
    expirationDate := none
    sourceTs := none
    receivedTs := atSecond 5 }

def sampleTrade : BrokerTradeSnapshot :=
  { accountId := { value := "A-1" }
    brokerTradeId := sampleTradeId
    brokerOrderId := some sampleOrderId
    clientOrderId := none
    instrument := sampleTarget
    side := .buy
    qty := lots 1
    price := lots 50
    grossAmount := none
    commission := none
    brokerAssetId := none
    board := none
    expirationDate := none
    sourceTs := atSecond 4
    receivedTs := atSecond 5 }

def sampleSpec : BrokerInstrumentSpec :=
  { instrument := {
      internalSymbol := "TESTFUT"
      broker := .finam
      brokerSymbol := "TESTFUT@RTSX"
      exchange := .moex
      market := .futures
      priceStep := lots 1
      qtyStep := lots 1
      lotSize := lots 1
      minQty := lots 1
      stepValue := lots 1
      currency := "RUB"
      scheduleId := "moex"
      expirationDate := none
      isTradable := true }
    brokerAssetId := none
    board := none
    longInitialMargin := none
    shortInitialMargin := none }

def sampleTruth (order : BrokerOrderSnapshot) : BrokerTruthSnapshot :=
  { accountId := { value := "A-1" }
    orders := [order]
    positions := []
    cash := none
    trades := [sampleTrade]
    instruments := [sampleSpec]
    receivedTs := atSecond 5 }

/-- The durable request for two lots, whose order was never acknowledged. -/
def sampleContext (attribution : HybridRuntimeAttribution) : Stage8a4DurableRequestContext :=
  { requestId := sampleRequest 3
    clientOrderId := ClientOrderId.fromStrategyRequest (sampleRequest 3)
    accountId := { value := "A-1" }
    instrument := sampleTarget
    action := .place
    attribution := attribution
    side := .buy
    qty := lots 2
    orderType := .market
    timeInForce := .day
    limitPrice := none
    knownBrokerOrderId := none
    targetOrderClientOrderId := none
    acceptedCommandPayloadSha256 := (plainHash [1]).hex
    possibleEffectAt := atSecond 0
    eventStart := atSecond 0
    eventEnd := atSecond 100
    durableBindingSha256 := (plainHash []).hex
    validShape := by decide
    canonicalBinding := by decide }

def samplePolicy : Stage8a4ReconciliationPolicy :=
  issueStage8a4PolicyFromFrozenConfig plainStage8a4Codec (atSecond 10)

def sampleTiming : Stage8a4SourceTiming :=
  { requestStartedAt := atSecond 3, responseReceivedAt := atSecond 5 }

/-- Complete truth over the whole event window, without an exact lookup. -/
def sampleAcquisition (order : BrokerOrderSnapshot) : Stage8a4ReadonlySourceAcquisition :=
  { truth := sampleTruth order
    ordersTiming := sampleTiming
    positionsTiming := sampleTiming
    instrumentTiming := sampleTiming
    tradeIntervals := [{
      startInclusive := atSecond 0
      endExclusive := atSecond 100
      requestedLimit := 10
      returnedCount := 1
      requestStartedAt := atSecond 3
      responseReceivedAt := atSecond 5
      splitDepth := 0 }]
    exactLookup := .notAttempted }

def sampleEvidence (order : BrokerOrderSnapshot) : Stage8a4SourceEvidence :=
  (issueStage8a4SourceEvidenceFromReadonlyAcquisition plainStage8a4Codec (sampleAcquisition order) samplePolicy).2

structure SampleReduction where
  context : Stage8a4DurableRequestContext
  admission : Stage8a4FreshTruthAdmission
  outcome : Stage8a4AuthoritativeReconciliationOutcome

def sampleReduction (order : BrokerOrderSnapshot) : Option SampleReduction := do
  let context := sampleContext (← sampleAttribution "ENTRY")
  let admission ← (admitStage8a4BrokerTruth plainStage8a4Codec context samplePolicy (sampleTruth order)
    (sampleEvidence order)).toOption
  let outcome ← reduceStage8a4Authoritative plainStage8a4Codec context admission samplePolicy
  some { context := context, admission := admission, outcome := outcome }

/-- An order that carries no client id is found by its shape. -/
theorem sampleReduction_of_shape :
    ∃ sample ∈ sampleReduction sampleOrder, sample.outcome.outcomeKind = .exactOrderState ∧
      sample.outcome.selectedOrder = some sampleOrder := by
  decide +kernel

theorem sampleReduction_some {order : BrokerOrderSnapshot} {sample : SampleReduction}
    (reduces : sample ∈ sampleReduction order) :
    (∃ attribution, sample.context = sampleContext attribution) ∧
      admitStage8a4BrokerTruth plainStage8a4Codec sample.context samplePolicy (sampleTruth order)
        (sampleEvidence order) = .ok sample.admission ∧
      reduceStage8a4Authoritative plainStage8a4Codec sample.context sample.admission samplePolicy =
        some sample.outcome := by
  simp only [sampleReduction, Option.mem_def, Option.bind_eq_bind, Option.bind_eq_some_iff] at reduces
  obtain ⟨attribution, -, admission, admits, outcome, reduced, same⟩ := reduces
  cases same
  exact ⟨⟨attribution, rfl⟩, toOption_eq_some_iff.1 admits, reduced⟩

end TradingGateway.FinamGateway.PlainStage8a4Codec
