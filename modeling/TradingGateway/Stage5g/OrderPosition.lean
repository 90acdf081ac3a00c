import TradingGateway.BrokerCore.DecimalArithmetic
import TradingGateway.BrokerCore.OperationalSnapshot
import TradingGateway.Foundation.OrderedMap
import TradingGateway.Foundation.Triples
import TradingGateway.Stage6.JournalRecord

/-! Order, trade and position convergence: one canonical package of broker truth
at a time is applied to the slot of the request it names, or leaves no trace. -/

set_option autoImplicit false

namespace TradingGateway.Stage5g.OrderPosition

open BrokerCore.FixedPoint BrokerCore.HybridAttribution BrokerCore.Identifiers BrokerCore.OperationalSnapshot
open BrokerCore.Orders Foundation.ExceptRun
open Foundation.OrderedMap Foundation.Triples
open Stage6.JournalRecord (HexText Sha256Output)

inductive Stage5gMockPlaceKind where
  | market
  | limit
deriving DecidableEq

inductive Stage5gMockIntentAction where
  | place (placeKind : Stage5gMockPlaceKind)
  | cancel (targetOrderId : BrokerOrderId)
deriving DecidableEq

def Stage5gMockIntentAction.isPlace : Stage5gMockIntentAction → Bool
  | .place _ => true
  | .cancel _ => false

inductive BrokerNeutralHybridIntentClass where
  | entry
  | exit
  | cancelCleanup
  | protectiveRepair
deriving DecidableEq

inductive BrokerNeutralOrderSide where
  | buy
  | sell
deriving DecidableEq

structure Stage5gOrderPositionEvidence where
  totalSequence : UInt64
  requestId : StrategyRequestId
  brokerTruth : BrokerTruthSnapshot
  orderAttribution : Option HybridRuntimeAttribution
deriving DecidableEq

inductive Stage5gEvidenceCanonicalizationError where
  | tradeIdentityConflict
  | evidenceIdentityGrammarViolation
deriving DecidableEq

inductive Stage5gOrderPositionError where
  | nonMonotonicSequence
  | unknownRequestId
  | accountMismatch
  | instrumentMismatch
  | brokerTruthBeforeAck
  | brokerTruthBeforeContinuationCheckpoint
  | brokerTruthTimeRegression
  | componentTimeAfterSnapshot
  | componentSourceTimeAfterReceipt
  | orderTimeRegression
  | tradeTimeRegression
  | positionTimeRegression
  | conflictingDuplicateEvidence
  | evidenceIdentityGrammarViolation
  | brokerEvidenceAfterTerminalAck
  | accountWideActiveOrderSafetyGuard
  | accountWideUnknownOrderSafetyGuard
  | missingTargetOrder
  | ambiguousTargetOrder
  | brokerOrderIdMismatch
  | clientOrderIdMismatch
  | orderSideMismatch
  | orderTypeMismatch
  | sourceOrderMismatch
  | attributionMismatch
  | orderLifecycleMismatch
  | unknownOrderStatus
  | invalidOrderQuantity
  | filledQuantityRegression
  | orderTerminalRegression
  | targetTradeWithoutOrder
  | tradeIdentityConflict
  | tradeAccountMismatch
  | tradeInstrumentMismatch
  | tradeSideMismatch
  | tradeIdentityMismatch
  | nonPositiveTradeQuantity
  | tradeQuantityMismatch
  | positionAccountMismatch
  | positionSideMismatch
  | positionOverfill
  | positionIncomplete
  | positionQuantityRegression
  | orderPositionIncoherent
  | rejectedOrderHasFill
  | numericConversionFailed
deriving DecidableEq

/-- How a check stops: with its reason, or in the overflow panic of decimal arithmetic. -/
inductive Stage5gHalt where
  | blocked (reason : Stage5gOrderPositionError)
  | panicked
deriving DecidableEq

structure Stage5gMockAckSlotSummary where
  requestId : StrategyRequestId
  expectedClientOrderId : ClientOrderId
  action : Stage5gMockIntentAction
  side : Option String
  latestReceivedTsUtc : Option String

structure Stage5gSourceIntentProjection where
  requestId : StrategyRequestId
  intentClass : BrokerNeutralHybridIntentClass
  side : Option BrokerNeutralOrderSide
  targetQty : Option Float
  prePositionQty : Float
  expectedAttribution : Option HybridRuntimeAttribution

structure CanonicalOrderEvent where
  totalSequence : UInt64
  order : BrokerOrderSnapshot
  attribution : Option HybridRuntimeAttribution

inductive CanonicalPositionDerivation where
  | absentFlat
  | explicitSingle
  | aggregate
deriving DecidableEq

structure CanonicalTargetPosition where
  snapshot : BrokerPositionSnapshot
  derivation : CanonicalPositionDerivation
  matchingRowCount : Nat

structure Stage5gOrderPositionSlot where
  ack : Stage5gMockAckSlotSummary
  source : Stage5gSourceIntentProjection
  brokerOrderId : Option BrokerOrderId
  orderEvents : List CanonicalOrderEvent
  trades : List BrokerTradeSnapshot
  position : Option (UInt64 × BrokerPositionSnapshot)
  positionDerivation : Option CanonicalPositionDerivation
  positionMatchingRowCount : Option Nat
  marketTerminalTruth : Option BrokerTruthSnapshot
  lastOrderSourceTs : Option DateTimeUtc
  lastOrderReceivedTs : Option DateTimeUtc
  lastTradeSourceTs : Option DateTimeUtc
  lastTradeReceivedTs : Option DateTimeUtc
  lastPositionSourceTs : Option DateTimeUtc
  lastPositionReceivedTs : Option DateTimeUtc
  terminal : Bool

structure EvidenceIdentity where
  identity : String
  fingerprint : HexText
deriving DecidableEq

structure Stage5gOrderPositionState where
  strategyId : String
  accountId : BrokerAccountId
  instrument : InstrumentId
  slots : List Stage5gOrderPositionSlot
  evidenceIdentities : List EvidenceIdentity
  currentEvidenceIdentity : Option String
  lastTotalSequence : Option UInt64
  lastBrokerTruthReceivedAt : Option DateTimeUtc
  lastBrokerTruthReceivedMs : Option Int
  duplicateEvidenceCount : UInt64
  lastContinuationCheckpointTsUtcMs : Option Int

structure FingerprintProjection where
  schemaVersion : UInt16
  domain : String
  requestId : StrategyRequestId
  brokerTruth : BrokerTruthSnapshot
  receiptWatermarkMs : Int
  packageDiscriminator : String
  attribution : Option String

/-- What order-position convergence takes from outside the repository: the hash,
the JSON forms, the calendar, and of decimals the rounded division and the conversions
to and from floating point, absent where they abort or have no value. -/
structure OrderPositionCodec where
  sha256 : List UInt8 → Sha256Output
  orderToVec : BrokerOrderSnapshot → List UInt8
  positionToVec : BrokerPositionSnapshot → List UInt8
  instrumentToVec : BrokerInstrumentSpec → List UInt8
  cashToVec : CashPosition → List UInt8
  projectionToVec : FingerprintProjection → List UInt8
  parseFromRfc3339 : String → Option DateTimeUtc
  decimalDiv : Decimal → Decimal → Option Decimal
  toF64 : Decimal → Option Float
  fromF64Retain : Float → Option Decimal

structure Stage5gCanonicalImmutableTradePayloadV1 where
  accountId : BrokerAccountId
  brokerTradeId : BrokerTradeId
  brokerOrderId : Option BrokerOrderId
  clientOrderId : Option ClientOrderId
  instrument : InstrumentId
  side : OrderSide
  qty : Decimal
  price : Decimal
  grossAmount : Option Decimal
  commission : Option Decimal
  brokerAssetId : Option String
  board : Option String
  expirationDate : Option NaiveDate
  sourceTs : DateTimeUtc
deriving DecidableEq

/-- An order without its status, its fill progress and its observation times.
Decimals are compared with their sign and scale, not as numbers. -/
structure Stage5gCanonicalImmutableOrderPayloadV1 where
  accountId : BrokerAccountId
  brokerOrderId : Option BrokerOrderId
  clientOrderId : Option ClientOrderId
  instrument : InstrumentId
  side : OrderSide
  orderType : BrokerCore.Orders.OrderType
  timeInForce : Option TimeInForce
  qty : Decimal
  limitPrice : Option Decimal
  brokerAssetId : Option String
  board : Option String
  expirationDate : Option NaiveDate
deriving DecidableEq

def canonicalImmutableTradePayloadV1 (trade : BrokerTradeSnapshot) : Stage5gCanonicalImmutableTradePayloadV1 :=
  { accountId := trade.accountId
    brokerTradeId := trade.brokerTradeId
    brokerOrderId := trade.brokerOrderId
    clientOrderId := trade.clientOrderId
    instrument := trade.instrument
    side := trade.side
    qty := trade.qty
    price := trade.price
    grossAmount := trade.grossAmount
    commission := trade.commission
    brokerAssetId := trade.brokerAssetId
    board := trade.board
    expirationDate := trade.expirationDate
    sourceTs := trade.sourceTs }

def canonicalImmutableOrderPayloadV1 (order : BrokerOrderSnapshot) : Stage5gCanonicalImmutableOrderPayloadV1 :=
  { accountId := order.accountId
    brokerOrderId := order.brokerOrderId
    clientOrderId := order.clientOrderId
    instrument := order.instrument
    side := order.side
    orderType := order.orderType
    timeInForce := order.timeInForce
    qty := order.qty
    limitPrice := order.limitPrice
    brokerAssetId := order.brokerAssetId
    board := order.board
    expirationDate := order.expirationDate }

def stage5gImmutableOrderPayloadMatches (left right : BrokerOrderSnapshot) : Bool :=
  canonicalImmutableOrderPayloadV1 left = canonicalImmutableOrderPayloadV1 right

def immutableTradePayloadMatches (left right : BrokerTradeSnapshot) : Bool :=
  canonicalImmutableTradePayloadV1 left = canonicalImmutableTradePayloadV1 right

/-- Of two observations of one trade, the one received later; `none` is an identity conflict. -/
def mergeCanonicalTradeObservationV1 (existing incoming : BrokerTradeSnapshot) : Option BrokerTradeSnapshot :=
  if immutableTradePayloadMatches existing incoming = false then none
  else if incoming.receivedTs.After existing.receivedTs then some incoming
  else some existing

/-- Merge a trade into the trades seen so far, keyed by trade id. -/
def collectTrade (tradesById : Std.ExtTreeMap String BrokerTradeSnapshot) (trade : BrokerTradeSnapshot) :
    Option (Std.ExtTreeMap String BrokerTradeSnapshot) :=
  let key := trade.brokerTradeId.value
  match tradesById[key]? with
  | some existing => (mergeCanonicalTradeObservationV1 existing trade).map (tradesById.insert key)
  | none => some (tradesById.insert key trade)

section Canonicalization

variable (codec : OrderPositionCodec)

def canonicalJsonSort {Value : Type} (toVec : Value → List UInt8) (values : List Value) : List Value :=
  values.mergeSort fun left right => (compare (toVec left) (toVec right)).isLE

def canonicalizeBrokerTruthSnapshot (truth : BrokerTruthSnapshot) :
    Except Stage5gEvidenceCanonicalizationError BrokerTruthSnapshot := do
  let tradesById ← orReject (truth.trades.foldlM collectTrade ∅) .tradeIdentityConflict
  .ok { truth with
    trades := intoValues tradesById
    orders := canonicalJsonSort codec.orderToVec truth.orders
    positions := canonicalJsonSort codec.positionToVec truth.positions
    instruments := canonicalJsonSort codec.instrumentToVec truth.instruments
    cash := truth.cash.map fun cash => { cash with cash := canonicalJsonSort codec.cashToVec cash.cash } }

def zeroPadded (width value : Nat) : String :=
  let digits := toString value
  String.ofList (List.replicate (width - digits.length) '0') ++ digits

def brokerTruthPackageDiscriminator (truth : BrokerTruthSnapshot) : String :=
  "moex.broker-truth.package.v1:" ++ toString truth.receivedTs.seconds ++ ":" ++
    zeroPadded 9 truth.receivedTs.nanos.toNat

def evidenceIdentity (evidence : Stage5gOrderPositionEvidence) : String :=
  "moex.stage5g.order-position-evidence-identity.v3:" ++ String.ofList evidence.requestId.toText ++ ":" ++
    evidence.brokerTruth.accountId.value ++ ":" ++ brokerTruthPackageDiscriminator evidence.brokerTruth

def canonicalEvidenceFingerprint (evidence : Stage5gOrderPositionEvidence) : HexText :=
  let projection : FingerprintProjection := {
    schemaVersion := 3
    domain := "moex.stage5g.order-position-evidence.v3"
    requestId := evidence.requestId
    brokerTruth := evidence.brokerTruth
    receiptWatermarkMs := timestampMillis evidence.brokerTruth.receivedTs
    packageDiscriminator := brokerTruthPackageDiscriminator evidence.brokerTruth
    attribution := evidence.orderAttribution.map fun attribution => attribution.internalComment }
  (codec.sha256 ("moex.stage5g.order-position-evidence.v3\u0000".toUTF8.toList ++
    codec.projectionToVec projection)).hex

structure CanonicalParts where
  evidence : Stage5gOrderPositionEvidence
  identity : String
  fingerprint : HexText
deriving DecidableEq

def canonicalParts (evidence : Stage5gOrderPositionEvidence) :
    Except Stage5gEvidenceCanonicalizationError CanonicalParts := do
  let accountId := evidence.brokerTruth.accountId.value
  rejectIf (accountId = "" ∨ ':' ∈ accountId.toList) .evidenceIdentityGrammarViolation
  let truth ← canonicalizeBrokerTruthSnapshot codec evidence.brokerTruth
  let canonical := { evidence with brokerTruth := truth }
  .ok {
    evidence := canonical
    identity := evidenceIdentity canonical
    fingerprint := canonicalEvidenceFingerprint codec canonical }

/-- A package that went through canonicalization, the only way to make one. -/
structure Stage5gCanonicalOrderPositionEvidence extends CanonicalParts where
  canonicalized : ∃ raw, canonicalParts codec raw = .ok toCanonicalParts

def canonicalizeStage5gOrderPositionEvidence (evidence : Stage5gOrderPositionEvidence) :
    Except Stage5gEvidenceCanonicalizationError (Stage5gCanonicalOrderPositionEvidence codec) :=
  match parted : canonicalParts codec evidence with
  | .error error => .error error
  | .ok parts => .ok { toCanonicalParts := parts, canonicalized := ⟨evidence, parted⟩ }

end Canonicalization

section Correlation

inductive Stage5gTradeOrderLinkage where
  | exact
  | unrelated
  | conflict
deriving DecidableEq

inductive Stage5gAccountWideOrderSafety where
  | safe
  | nonOwnedActive
  | nonOwnedUnknown
  | ambiguousOwned
  | conflictingOwnedIdentity
deriving DecidableEq

inductive Stage5gOrderOwnershipCorrelation where
  | exactOwned
  | conflictingOwnedIdentity
  | unrelatedTerminal
  | nonOwnedActive
  | nonOwnedUnknown
deriving DecidableEq

def slotTargetBrokerOrderId (slot : Stage5gOrderPositionSlot) : Option BrokerOrderId :=
  match slot.ack.action with
  | .place _ => slot.brokerOrderId
  | .cancel targetOrderId => some targetOrderId

def slotAuthenticatedTargetOrder (slot : Stage5gOrderPositionSlot) : Option BrokerOrderSnapshot := do
  let targetBrokerOrderId ← slotTargetBrokerOrderId slot
  let event ← slot.orderEvents.reverse.find? fun event => event.order.brokerOrderId = some targetBrokerOrderId
  some event.order

def slotTargetOrderClientId (slot : Stage5gOrderPositionSlot) : Option ClientOrderId :=
  match slot.ack.action with
  | .place _ => some slot.ack.expectedClientOrderId
  | .cancel _ =>
      ((slotAuthenticatedTargetOrder slot).bind fun order => order.clientOrderId).filter fun clientOrderId =>
        clientOrderId ≠ slot.ack.expectedClientOrderId

def carriesTargetId (slot : Stage5gOrderPositionSlot) (brokerOrderId : Option BrokerOrderId)
    (clientOrderId : Option ClientOrderId) : Bool :=
  (slotTargetBrokerOrderId slot).any (fun expected => brokerOrderId = some expected) ||
    (slotTargetOrderClientId slot).any (fun expected => clientOrderId = some expected)

def hasTargetCorrelatedOrder (slot : Stage5gOrderPositionSlot) (truth : BrokerTruthSnapshot) : Bool :=
  truth.orders.any fun order => carriesTargetId slot order.brokerOrderId order.clientOrderId

def hasTargetCorrelatedTrade (slot : Stage5gOrderPositionSlot) (truth : BrokerTruthSnapshot) : Bool :=
  truth.trades.any fun trade => carriesTargetId slot trade.brokerOrderId trade.clientOrderId

def selectTargetOrder (slot : Stage5gOrderPositionSlot) (truth : BrokerTruthSnapshot) :
    Except Stage5gHalt BrokerOrderSnapshot := do
  let expected ← orReject (slotTargetBrokerOrderId slot) (.blocked .missingTargetOrder)
  match truth.orders.filter fun order => order.brokerOrderId = some expected with
  | [] => .error (.blocked .missingTargetOrder)
  | [order] => .ok order
  | _ => .error (.blocked .ambiguousTargetOrder)

def selectOptionalTargetOrder (slot : Stage5gOrderPositionSlot) (truth : BrokerTruthSnapshot) :
    Except Stage5gHalt (Option BrokerOrderSnapshot) :=
  match truth.orders.filter fun order => carriesTargetId slot order.brokerOrderId order.clientOrderId with
  | [] => .ok none
  | [order] => .ok (some order)
  | _ => .error (.blocked .ambiguousTargetOrder)

def idMatches {Id : Type} [DecidableEq Id] (expected actual : Option Id) : Bool :=
  expected.any fun id => actual = some id

def idConflicts {Id : Type} [DecidableEq Id] (expected actual : Option Id) : Bool :=
  expected.any fun id => actual.any fun other => other ≠ id

/-- A trade that gives an id the order lacks, or has another value for, conflicts
with the order if its other id matches. -/
def stage5gExactTradeOrderLinkage (order : BrokerOrderSnapshot) (trade : BrokerTradeSnapshot) :
    Stage5gTradeOrderLinkage :=
  let clientMatch := idMatches trade.clientOrderId order.clientOrderId
  let brokerMatch := idMatches trade.brokerOrderId order.brokerOrderId
  let clientConflict := trade.clientOrderId.any fun actual => order.clientOrderId ≠ some actual
  let brokerConflict := trade.brokerOrderId.any fun actual => order.brokerOrderId ≠ some actual
  if clientMatch = false ∧ brokerMatch = false then .unrelated
  else if clientConflict ∨ brokerConflict then .conflict
  else .exact

def stage5gOrderOwnershipCorrelation (order : BrokerOrderSnapshot)
    (targetClientOrderId : Option ClientOrderId) (targetBrokerOrderId : Option BrokerOrderId) :
    Stage5gOrderOwnershipCorrelation :=
  if idMatches targetClientOrderId order.clientOrderId ∨ idMatches targetBrokerOrderId order.brokerOrderId then
    if idConflicts targetClientOrderId order.clientOrderId ∨
        idConflicts targetBrokerOrderId order.brokerOrderId then .conflictingOwnedIdentity
    else .exactOwned
  else if order.lifecycle = .unknown then .nonOwnedUnknown
  else if order.isActiveForLifecycle then .nonOwnedActive
  else .unrelatedTerminal

def stage5gAccountWideOrderSafety (orders : List BrokerOrderSnapshot)
    (targetClientOrderId : Option ClientOrderId) (targetBrokerOrderId : Option BrokerOrderId) :
    Stage5gAccountWideOrderSafety :=
  let correlations := orders.map fun order =>
    stage5gOrderOwnershipCorrelation order targetClientOrderId targetBrokerOrderId
  if 1 < correlations.count .exactOwned then .ambiguousOwned
  else if .conflictingOwnedIdentity ∈ correlations then .conflictingOwnedIdentity
  else if .nonOwnedUnknown ∈ correlations then .nonOwnedUnknown
  else if .nonOwnedActive ∈ correlations then .nonOwnedActive
  else .safe

def stage5gOrderMatchesSourceAction (action : Stage5gMockIntentAction) (order : BrokerOrderSnapshot) : Bool :=
  match action with
  | .place .market => order.orderType = .market ∧ order.limitPrice = none
  | .place .limit => order.orderType = .limit ∧ order.limitPrice.any fun price => Decimal.zero < price
  | .cancel targetOrderId => order.brokerOrderId = some targetOrderId

def parseSide (side : String) : Option OrderSide :=
  match side.toLower with
  | "buy" => some .buy
  | "sell" => some .sell
  | _ => none

end Correlation

section Chronology

def validateComponentTime (sourceTs : Option DateTimeUtc) (receivedTs snapshotTs : DateTimeUtc) :
    Except Stage5gHalt Unit := do
  rejectIf (receivedTs.After snapshotTs) (.blocked .componentTimeAfterSnapshot)
  rejectIf (sourceTs.any (fun source => source.After receivedTs)) (.blocked .componentSourceTimeAfterReceipt)

def wentBack (last time : Option DateTimeUtc) : Bool :=
  last.any fun last => time.any fun time => last.After time

def validateRowTime (lastSourceTs lastReceivedTs sourceTs : Option DateTimeUtc)
    (receivedTs snapshotTs : DateTimeUtc) (regression : Stage5gOrderPositionError) : Except Stage5gHalt Unit := do
  validateComponentTime sourceTs receivedTs snapshotTs
  rejectIf (wentBack lastSourceTs sourceTs ∨ wentBack lastReceivedTs (some receivedTs)) (.blocked regression)

/-- A row of the account and instrument that carries one of the target's ids. A
slot that knows no broker id takes rows without one for its own here. -/
def isCorrelatedRow (instrument : InstrumentId) (targetOrderId : Option BrokerOrderId)
    (targetClientOrderId : Option ClientOrderId) (accountId rowAccountId : BrokerAccountId)
    (rowInstrument : InstrumentId) (rowOrderId : Option BrokerOrderId)
    (rowClientOrderId : Option ClientOrderId) : Bool :=
  rowAccountId = accountId ∧ instrumentIdentityMatches rowInstrument instrument ∧
    (rowOrderId = targetOrderId ∨ targetClientOrderId.any fun expected => rowClientOrderId = some expected)

/-- A known trade is checked against its own committed observation, an unseen one
against the watermarks. -/
def validateTradeTime (slot : Stage5gOrderPositionSlot) (snapshotTs : DateTimeUtc) (trade : BrokerTradeSnapshot) :
    Except Stage5gHalt Unit := do
  validateComponentTime (some trade.sourceTs) trade.receivedTs snapshotTs
  match slot.trades.find? fun known => known.brokerTradeId = trade.brokerTradeId with
  | some known => do
      rejectIf (immutableTradePayloadMatches known trade = false) (.blocked .tradeIdentityConflict)
      rejectIf (known.receivedTs.After trade.receivedTs) (.blocked .tradeTimeRegression)
  | none =>
      rejectIf (wentBack slot.lastTradeSourceTs (some trade.sourceTs) ∨
        wentBack slot.lastTradeReceivedTs (some trade.receivedTs)) (.blocked .tradeTimeRegression)

def validateSnapshotChronology (lastBrokerTruthReceivedAt : Option DateTimeUtc) (instrument : InstrumentId)
    (evidence : Stage5gOrderPositionEvidence) : Action Stage5gOrderPositionSlot Stage5gHalt Unit := do
  let truth := evidence.brokerTruth
  let snapshotTs := truth.receivedTs
  .ofExcept (rejectIf (wentBack lastBrokerTruthReceivedAt (some snapshotTs)) (.blocked .brokerTruthTimeRegression))
  let slot ← get
  let targetOrderId := slotTargetBrokerOrderId slot
  let targetClientOrderId := slotTargetOrderClientId slot
  let correlatedOrders := truth.orders.filter fun order =>
    isCorrelatedRow instrument targetOrderId targetClientOrderId truth.accountId order.accountId
      order.instrument order.brokerOrderId order.clientOrderId
  .ofExcept (correlatedOrders.forM fun order =>
    validateRowTime slot.lastOrderSourceTs slot.lastOrderReceivedTs order.sourceTs order.receivedTs snapshotTs
      .orderTimeRegression)
  modify fun slot => { slot with
    lastOrderSourceTs := latest (correlatedOrders.filterMap fun order => order.sourceTs) <|> slot.lastOrderSourceTs
    lastOrderReceivedTs := latest (correlatedOrders.map fun order => order.receivedTs) <|> slot.lastOrderReceivedTs }
  let targetPositions := truth.positions.filter fun position =>
    position.accountId = truth.accountId ∧ instrumentIdentityMatches position.instrument instrument
  .ofExcept (targetPositions.forM fun position =>
    validateRowTime slot.lastPositionSourceTs slot.lastPositionReceivedTs position.sourceTs position.receivedTs
      snapshotTs .positionTimeRegression)
  modify fun slot => { slot with
    lastPositionSourceTs :=
      latest (targetPositions.filterMap fun position => position.sourceTs) <|> slot.lastPositionSourceTs
    lastPositionReceivedTs :=
      latest (targetPositions.map fun position => position.receivedTs) <|> slot.lastPositionReceivedTs }
  let correlatedTrades := truth.trades.filter fun trade =>
    isCorrelatedRow instrument targetOrderId targetClientOrderId truth.accountId trade.accountId
      trade.instrument trade.brokerOrderId trade.clientOrderId
  .ofExcept (correlatedTrades.forM (validateTradeTime slot snapshotTs))

def refreshTradeWatermarksFromCommittedLedger (slot : Stage5gOrderPositionSlot) : Stage5gOrderPositionSlot :=
  { slot with
    lastTradeSourceTs :=
      latest (slot.lastTradeSourceTs.toList ++ (latest (slot.trades.map fun trade => trade.sourceTs)).toList)
    lastTradeReceivedTs :=
      latest (slot.lastTradeReceivedTs.toList ++ (latest (slot.trades.map fun trade => trade.receivedTs)).toList) }

/-- A watermark that was set stays set, and does not go back. -/
def monotonic (before after : Option DateTimeUtc) : Bool :=
  before.all fun before => after.any fun after => ¬ before.After after

def componentWatermarksAreMonotonic (before after : Stage5gOrderPositionSlot) : Bool :=
  monotonic before.lastOrderSourceTs after.lastOrderSourceTs &&
    monotonic before.lastOrderReceivedTs after.lastOrderReceivedTs &&
    monotonic before.lastTradeSourceTs after.lastTradeSourceTs &&
    monotonic before.lastTradeReceivedTs after.lastTradeReceivedTs &&
    monotonic before.lastPositionSourceTs after.lastPositionSourceTs &&
    monotonic before.lastPositionReceivedTs after.lastPositionReceivedTs

end Chronology

section Positions

def magnitudeOf (value : Decimal) : Decimal :=
  { value with negative := false }

def arithmetic (result : Option Decimal) : Except Stage5gHalt Decimal :=
  orReject result .panicked

def decimalSum (values : List Decimal) : Except Stage5gHalt Decimal :=
  arithmetic (Decimal.checkedSum values)

def addWeighted (totals : Decimal × Decimal) (position : BrokerPositionSnapshot) :
    Except Stage5gHalt (Decimal × Decimal) := do
  let avgPrice ← orReject position.avgPrice (.blocked .positionIncomplete)
  let value ← arithmetic (avgPrice.checkedMul (magnitudeOf position.qty))
  let weightedValue ← arithmetic (totals.1.checkedAdd value)
  let weight ← arithmetic (totals.2.checkedAdd (magnitudeOf position.qty))
  .ok (weightedValue, weight)

variable (codec : OrderPositionCodec)

def averagePrice (positions : List BrokerPositionSnapshot) : Except Stage5gHalt (Option Price) := do
  let (weightedValue, weight) ← positions.foldlM addWeighted (Decimal.zero, Decimal.zero)
  if Decimal.zero < weight then some <$> arithmetic (codec.decimalDiv weightedValue weight) else .ok none

/-- Two open rows point in different directions. -/
def sidesDisagree (positions : List BrokerPositionSnapshot) : Bool :=
  match positions.find? fun position => position.isOpen with
  | none => false
  | some first => positions.any fun position => position.isOpen && position.qty.negative != first.qty.negative

def aggregatePosition (accountId : BrokerAccountId) (instrument : InstrumentId)
    (matching : List BrokerPositionSnapshot) (receivedTs : DateTimeUtc) :
    Except Stage5gHalt CanonicalTargetPosition := do
  rejectIf (sidesDisagree matching) (.blocked .positionSideMismatch)
  let qty ← decimalSum (matching.map fun position => position.qty)
  let avgPrice ← averagePrice codec (matching.filter fun position => position.isOpen)
  .ok {
    snapshot := {
      accountId := accountId
      instrument := instrument
      qty := qty
      avgPrice := avgPrice
      unrealizedPnl := none
      sourceTs := latest (matching.filterMap fun position => position.sourceTs)
      receivedTs := (latest (matching.map fun position => position.receivedTs)).getD receivedTs }
    derivation := if matching.length = 1 then .explicitSingle else .aggregate
    matchingRowCount := matching.length }

def canonicalTargetPosition (accountId : BrokerAccountId) (instrument : InstrumentId)
    (truth : BrokerTruthSnapshot) : Except Stage5gHalt CanonicalTargetPosition := do
  rejectIf (∃ position ∈ truth.positions, position.matchesInstrument instrument = true ∧
    position.accountId ≠ accountId) (.blocked .positionAccountMismatch)
  match truth.positions.filter fun position =>
      position.accountId = accountId ∧ position.matchesInstrument instrument with
  | [] =>
      .ok {
        snapshot := {
          accountId := accountId
          instrument := instrument
          qty := Decimal.zero
          avgPrice := none
          unrealizedPnl := none
          sourceTs := none
          receivedTs := truth.receivedTs }
        derivation := .absentFlat
        matchingRowCount := 0 }
  | matching => aggregatePosition codec accountId instrument matching truth.receivedTs

/-- `f64::EPSILON`. -/
def epsilon : Float := 2.220446049250313e-16

def signum (value : Float) : Float :=
  if value.isNaN then value
  else if value < 0 ∨ (value == 0 ∧ 1 / value < 0) then -1
  else 1

def decimalF64Differs (value : Decimal) (expected : Float) : Bool :=
  match codec.toF64 value with
  | some actual => epsilon < (actual - expected).abs
  | none => true

def previousPositionQty (slot : Stage5gOrderPositionSlot) : Float :=
  (slot.position.bind fun stored => codec.toF64 stored.2.qty).getD slot.source.prePositionQty

def validateEntryPosition (slot : Stage5gOrderPositionSlot) (position : BrokerPositionSnapshot)
    (order : Option BrokerOrderSnapshot) (qty target : Float) : Except Stage5gHalt Bool := do
  let expectedSide ← orReject slot.source.side (.blocked .positionSideMismatch)
  let signed : Bool := match expectedSide with
    | .buy => epsilon < qty
    | .sell => qty < -epsilon
  rejectIf (signed = false) (.blocked .positionSideMismatch)
  rejectIf (target + epsilon < qty.abs ∨ order.any (fun order => order.qty < magnitudeOf position.qty))
    (.blocked .positionOverfill)
  let previous := previousPositionQty codec slot
  rejectIf (qty.abs + epsilon < previous.abs) (.blocked .positionQuantityRegression)
  .ok (decide ((qty.abs - target).abs ≤ epsilon))

def validateOpenExitPosition (pre previous qty : Float) : Except Stage5gHalt Bool := do
  rejectIf (pre.abs ≤ epsilon ∨ (signum qty != signum pre) = true ∨ pre.abs + epsilon < qty.abs)
    (.blocked .positionSideMismatch)
  rejectIf (previous.abs + epsilon < qty.abs) (.blocked .positionQuantityRegression)
  .ok false

def validateExitPosition (slot : Stage5gOrderPositionSlot) (qty : Float) : Except Stage5gHalt Bool := do
  let previous := previousPositionQty codec slot
  rejectIf (previous.abs ≤ epsilon ∧ epsilon < qty.abs) (.blocked .positionQuantityRegression)
  if qty.abs ≤ epsilon then .ok true
  else validateOpenExitPosition slot.source.prePositionQty previous qty

def validateSourcePosition (slot : Stage5gOrderPositionSlot) (position : BrokerPositionSnapshot)
    (order : Option BrokerOrderSnapshot) : Except Stage5gHalt Bool := do
  let qty ← orReject (codec.toF64 position.qty) (.blocked .numericConversionFailed)
  let target ← orReject slot.source.targetQty (.blocked .positionIncomplete)
  match slot.source.intentClass with
  | .entry => validateEntryPosition codec slot position order qty target.abs
  | .exit => validateExitPosition codec slot qty
  | .protectiveRepair =>
      if qty.abs ≤ epsilon then .ok true else .error (.blocked .positionIncomplete)
  | .cancelCleanup => .error (.blocked .positionSideMismatch)

def validatePartialTerminalPosition (slot : Stage5gOrderPositionSlot) (position : BrokerPositionSnapshot)
    (order : BrokerOrderSnapshot) : Except Stage5gHalt Unit := do
  let filled ← orReject (codec.toF64 order.filledQty) (.blocked .numericConversionFailed)
  let signedFill := match order.side with
    | .buy => filled
    | .sell => -filled
  rejectIf (decimalF64Differs codec position.qty (slot.source.prePositionQty + signedFill))
    (.blocked .positionIncomplete)

def signedFilledQty (order : BrokerOrderSnapshot) : Decimal :=
  match order.side with
  | .buy => order.filledQty
  | .sell => order.filledQty.negated

def validateOrderPositionCoherence (slot : Stage5gOrderPositionSlot) (position : BrokerPositionSnapshot)
    (order : BrokerOrderSnapshot) : Except Stage5gHalt Unit := do
  let prePosition ← orReject (codec.fromF64Retain slot.source.prePositionQty) (.blocked .numericConversionFailed)
  let expected ← arithmetic (prePosition.checkedAdd (signedFilledQty order))
  rejectIf (¬ position.qty.Same expected) (.blocked .orderPositionIncoherent)

def storeCanonicalPosition (slot : Stage5gOrderPositionSlot) (totalSequence : UInt64)
    (position : CanonicalTargetPosition) : Stage5gOrderPositionSlot :=
  { slot with
    position := some (totalSequence, position.snapshot)
    positionDerivation := some position.derivation
    positionMatchingRowCount := some position.matchingRowCount }

end Positions

section Orders

variable (codec : OrderPositionCodec)

def validatePlaceIntent (slot : Stage5gOrderPositionSlot) (order : BrokerOrderSnapshot) :
    Except Stage5gHalt Unit := do
  rejectIf (order.clientOrderId ≠ some slot.ack.expectedClientOrderId) (.blocked .clientOrderIdMismatch)
  let expectedSide ← orReject (slot.ack.side.bind parseSide) (.blocked .orderSideMismatch)
  rejectIf (order.side ≠ expectedSide) (.blocked .orderSideMismatch)
  rejectIf (stage5gOrderMatchesSourceAction slot.ack.action order = false) (.blocked .orderTypeMismatch)

def validateIntent (slot : Stage5gOrderPositionSlot) (order : BrokerOrderSnapshot) : Except Stage5gHalt Unit :=
  match slot.ack.action with
  | .place _ => validatePlaceIntent slot order
  | .cancel _ =>
      rejectIf ((slotTargetOrderClientId slot).any (fun expected => order.clientOrderId ≠ some expected))
        (.blocked .clientOrderIdMismatch)

def validatePriceShape (order : BrokerOrderSnapshot) : Except Stage5gHalt Unit :=
  match order.orderType with
  | .market => rejectIf order.limitPrice.isSome (.blocked .sourceOrderMismatch)
  | .limit => rejectIf (order.limitPrice.all (· ≤ Decimal.zero)) (.blocked .sourceOrderMismatch)
  | _ => .ok ()

/-- The remaining quantity, if there is one, is what the fill leaves of the order. -/
def validateRemaining (order : BrokerOrderSnapshot) : Except Stage5gHalt Unit :=
  match order.remainingQty with
  | none => .ok ()
  | some remaining => do
      rejectIf (remaining < Decimal.zero) (.blocked .invalidOrderQuantity)
      let unfilled ← arithmetic (order.qty.checkedSub order.filledQty)
      rejectIf (¬ remaining.Same unfilled) (.blocked .invalidOrderQuantity)

def validateQuantities (order : BrokerOrderSnapshot) : Except Stage5gHalt Unit := do
  rejectIf (order.qty ≤ Decimal.zero ∨ order.filledQty < Decimal.zero ∨ order.qty < order.filledQty)
    (.blocked .invalidOrderQuantity)
  validateRemaining order
  rejectIf (order.status = .filled ∧ ¬ order.filledQty.Same order.qty) (.blocked .invalidOrderQuantity)

def validateSourceQuantity (slot : Stage5gOrderPositionSlot) (order : BrokerOrderSnapshot) :
    Except Stage5gHalt Unit :=
  match slot.ack.action with
  | .cancel _ => .ok ()
  | .place _ => do
      let sourceQty ← orReject (slot.source.targetQty.bind codec.fromF64Retain) (.blocked .sourceOrderMismatch)
      rejectIf (¬ order.qty.Same sourceQty ∨ sourceQty < order.filledQty) (.blocked .sourceOrderMismatch)

def validateProgress (slot : Stage5gOrderPositionSlot) (order : BrokerOrderSnapshot) : Except Stage5gHalt Unit :=
  match slot.orderEvents.getLast? with
  | none => .ok ()
  | some event => do
      rejectIf (stage5gImmutableOrderPayloadMatches event.order order = false) (.blocked .sourceOrderMismatch)
      rejectIf (event.order.lifecycle = .terminal ∧ event.order.status ≠ order.status)
        (.blocked .orderTerminalRegression)
      rejectIf (order.filledQty < event.order.filledQty) (.blocked .filledQuantityRegression)

def isUnknownStatus : OrderStatus → Bool
  | .unknown _ => true
  | _ => false

def validateOrder (accountId : BrokerAccountId) (instrument : InstrumentId) (slot : Stage5gOrderPositionSlot)
    (order : BrokerOrderSnapshot) : Except Stage5gHalt Unit := do
  rejectIf (order.accountId ≠ accountId) (.blocked .accountMismatch)
  rejectIf (instrumentIdentityMatches order.instrument instrument = false) (.blocked .instrumentMismatch)
  rejectIf (order.brokerOrderId ≠ slotTargetBrokerOrderId slot) (.blocked .brokerOrderIdMismatch)
  validateIntent slot order
  validatePriceShape order
  rejectIf (order.lifecycle ≠ BrokerOrderSnapshot.lifecycleFor order.status) (.blocked .orderLifecycleMismatch)
  rejectIf (isUnknownStatus order.status) (.blocked .unknownOrderStatus)
  validateQuantities order
  validateSourceQuantity codec slot order
  validateProgress slot order

def validateSourceOrderAttribution (slot : Stage5gOrderPositionSlot) (actual : Option HybridRuntimeAttribution) :
    Except Stage5gHalt Unit :=
  rejectIf (actual ≠ slot.source.expectedAttribution) (.blocked .attributionMismatch)

def collectLinkedTrade (order : BrokerOrderSnapshot) (incomingById : Std.ExtTreeMap String BrokerTradeSnapshot)
    (trade : BrokerTradeSnapshot) : Except Stage5gHalt (Std.ExtTreeMap String BrokerTradeSnapshot) :=
  match stage5gExactTradeOrderLinkage order trade with
  | .unrelated => .ok incomingById
  | .conflict => .error (.blocked .tradeIdentityMismatch)
  | .exact => do
      rejectIf (trade.qty ≤ Decimal.zero) (.blocked .nonPositiveTradeQuantity)
      rejectIf (trade.accountId ≠ order.accountId) (.blocked .tradeAccountMismatch)
      rejectIf (instrumentIdentityMatches trade.instrument order.instrument = false) (.blocked .tradeInstrumentMismatch)
      rejectIf (trade.side ≠ order.side) (.blocked .tradeSideMismatch)
      orReject (collectTrade incomingById trade) (.blocked .tradeIdentityConflict)

def mergeIntoLedger (incoming : BrokerTradeSnapshot) :
    List BrokerTradeSnapshot → Except Stage5gHalt (List BrokerTradeSnapshot)
  | [] => .ok [incoming]
  | previous :: rest =>
      if previous.brokerTradeId = incoming.brokerTradeId then do
        let merged ← orReject (mergeCanonicalTradeObservationV1 previous incoming) (.blocked .tradeIdentityConflict)
        .ok (merged :: rest)
      else do
        let rest ← mergeIntoLedger incoming rest
        .ok (previous :: rest)

/-- The ledger grows trade by trade, so a conflict leaves the trades before it merged. -/
def validateTrades (order : BrokerOrderSnapshot) (trades : List BrokerTradeSnapshot) :
    Action Stage5gOrderPositionSlot Stage5gHalt Unit := do
  let incomingById ← Action.ofExcept (trades.foldlM (collectLinkedTrade order) ∅)
  (intoValues incomingById).forM fun incoming => do
    let slot ← get
    let ledger ← Action.ofExcept (mergeIntoLedger incoming slot.trades)
    modify fun slot => { slot with trades := ledger }
  modify fun slot => { slot with
    trades := slot.trades.mergeSort fun left right =>
      (compare left.brokerTradeId.value right.brokerTradeId.value).isLE }
  let slot ← get
  let tradeQty ← Action.ofExcept (decimalSum (slot.trades.map fun trade => trade.qty))
  .ofExcept (rejectIf (Decimal.zero < order.filledQty ∧ ¬ tradeQty.Same order.filledQty)
    (.blocked .tradeQuantityMismatch))

end Orders

section Slots

variable (codec : OrderPositionCodec)

inductive Stage5gCanonicalApplicationMode where
  | activeSession
  | restartFreshTruth
deriving DecidableEq

def observeOrder (accountId : BrokerAccountId) (instrument : InstrumentId) (evidence : Stage5gOrderPositionEvidence)
    (order : BrokerOrderSnapshot) : Action Stage5gOrderPositionSlot Stage5gHalt Unit := do
  let slot ← get
  .ofExcept (validateOrder codec accountId instrument slot order)
  .ofExcept (validateSourceOrderAttribution slot evidence.orderAttribution)
  validateTrades order evidence.brokerTruth.trades
  let event : CanonicalOrderEvent := {
    totalSequence := evidence.totalSequence
    order := order
    attribution := evidence.orderAttribution }
  modify fun slot => { slot with
    orderEvents := (slot.orderEvents ++ [event]).mergeSort fun left right =>
      left.totalSequence < right.totalSequence ∨ (left.totalSequence = right.totalSequence ∧
        ¬ left.order.receivedTs.After right.order.receivedTs) }

def storeCoherentPosition (accountId : BrokerAccountId) (instrument : InstrumentId)
    (evidence : Stage5gOrderPositionEvidence) (order : BrokerOrderSnapshot) :
    Action Stage5gOrderPositionSlot Stage5gHalt Unit := do
  let position ← Action.ofExcept (canonicalTargetPosition codec accountId instrument evidence.brokerTruth)
  let slot ← get
  .ofExcept (validateOrderPositionCoherence codec slot position.snapshot order)
  modify fun slot => storeCanonicalPosition slot evidence.totalSequence position

def settleFilledMarket (accountId : BrokerAccountId) (instrument : InstrumentId)
    (evidence : Stage5gOrderPositionEvidence) (order : BrokerOrderSnapshot) :
    Action Stage5gOrderPositionSlot Stage5gHalt Unit := do
  let position ← Action.ofExcept (canonicalTargetPosition codec accountId instrument evidence.brokerTruth)
  let slot ← get
  .ofExcept (validateOrderPositionCoherence codec slot position.snapshot order)
  let confirmed ← Action.ofExcept (validateSourcePosition codec slot position.snapshot (some order))
  .ofExcept (rejectIf (confirmed = false) (.blocked .positionIncomplete))
  modify fun slot => { storeCanonicalPosition slot evidence.totalSequence position with terminal := true }

def settleFilledLimit (accountId : BrokerAccountId) (instrument : InstrumentId)
    (evidence : Stage5gOrderPositionEvidence) (order : BrokerOrderSnapshot) :
    Action Stage5gOrderPositionSlot Stage5gHalt Unit := do
  let position ← Action.ofExcept (canonicalTargetPosition codec accountId instrument evidence.brokerTruth)
  let slot ← get
  let confirmed ← Action.ofExcept (validateSourcePosition codec slot position.snapshot (some order))
  .ofExcept (rejectIf (confirmed = false) (.blocked .positionIncomplete))
  modify fun slot => { storeCanonicalPosition slot evidence.totalSequence position with terminal := true }

def applyMarketOrder (accountId : BrokerAccountId) (instrument : InstrumentId)
    (evidence : Stage5gOrderPositionEvidence) (order : BrokerOrderSnapshot) :
    Action Stage5gOrderPositionSlot Stage5gHalt Unit := do
  observeOrder codec accountId instrument evidence order
  match order.status with
  | .new | .working => do
      .ofExcept (rejectIf (¬ order.filledQty.Same Decimal.zero) (.blocked .orderPositionIncoherent))
      storeCoherentPosition codec accountId instrument evidence order
      modify fun slot => { slot with terminal := false }
  | .partiallyFilled => do
      .ofExcept (rejectIf (order.filledQty ≤ Decimal.zero ∨ order.qty ≤ order.filledQty)
        (.blocked .invalidOrderQuantity))
      storeCoherentPosition codec accountId instrument evidence order
      modify fun slot => { slot with terminal := false }
  | .filled => settleFilledMarket codec accountId instrument evidence order
  | .unknown _ => throw (.blocked .unknownOrderStatus)
  | .rejected => do
      .ofExcept (rejectIf (¬ order.filledQty.Same Decimal.zero) (.blocked .rejectedOrderHasFill))
      storeCoherentPosition codec accountId instrument evidence order
      modify fun slot => { slot with marketTerminalTruth := some evidence.brokerTruth, terminal := true }
  | .canceled | .expired => do
      storeCoherentPosition codec accountId instrument evidence order
      modify fun slot => { slot with marketTerminalTruth := some evidence.brokerTruth, terminal := true }

/-- Market evidence without the order row: the position alone shows the progress. -/
def applyMarketPosition (accountId : BrokerAccountId) (instrument : InstrumentId)
    (evidence : Stage5gOrderPositionEvidence) : Action Stage5gOrderPositionSlot Stage5gHalt Unit := do
  let position ← Action.ofExcept (canonicalTargetPosition codec accountId instrument evidence.brokerTruth)
  let slot ← get
  let terminal ← Action.ofExcept (validateSourcePosition codec slot position.snapshot none)
  modify fun slot => { storeCanonicalPosition slot evidence.totalSequence position with terminal := terminal }

/-- An order that ended before it filled, after some fills: the position moved by them. -/
def settlePartialFill (accountId : BrokerAccountId) (instrument : InstrumentId)
    (evidence : Stage5gOrderPositionEvidence) (order : BrokerOrderSnapshot) :
    Action Stage5gOrderPositionSlot Stage5gHalt Unit := do
  let position ← Action.ofExcept (canonicalTargetPosition codec accountId instrument evidence.brokerTruth)
  let slot ← get
  .ofExcept (validatePartialTerminalPosition codec slot position.snapshot order)
  modify fun slot => storeCanonicalPosition slot evidence.totalSequence position

def applyLimitOrder (accountId : BrokerAccountId) (instrument : InstrumentId)
    (evidence : Stage5gOrderPositionEvidence) (order : BrokerOrderSnapshot) :
    Action Stage5gOrderPositionSlot Stage5gHalt Unit := do
  observeOrder codec accountId instrument evidence order
  match order.status with
  | .new | .working | .partiallyFilled => pure ()
  | .filled => settleFilledLimit codec accountId instrument evidence order
  | .rejected => do
      .ofExcept (rejectIf (Decimal.zero < order.filledQty) (.blocked .rejectedOrderHasFill))
      modify fun slot => { slot with terminal := true }
  | .canceled | .expired => do
      if Decimal.zero < order.filledQty then settlePartialFill codec accountId instrument evidence order
      modify fun slot => { slot with terminal := true }
  | .unknown _ => throw (.blocked .unknownOrderStatus)

def applyAction (accountId : BrokerAccountId) (instrument : InstrumentId)
    (evidence : Stage5gOrderPositionEvidence) : Action Stage5gOrderPositionSlot Stage5gHalt Unit := do
  let slot ← get
  match slot.ack.action with
  | .place .market => do
      let selected ← Action.ofExcept (selectOptionalTargetOrder slot evidence.brokerTruth)
      match selected with
      | some order => applyMarketOrder codec accountId instrument evidence order
      | none => applyMarketPosition codec accountId instrument evidence
  | .place .limit | .cancel _ => do
      let order ← Action.ofExcept (selectTargetOrder slot evidence.brokerTruth)
      applyLimitOrder codec accountId instrument evidence order

/-- A terminal slot takes nothing more of its target in an active session; on a
restart it is opened again for late evidence. -/
def applyToTerminal (accountId : BrokerAccountId) (instrument : InstrumentId)
    (evidence : Stage5gOrderPositionEvidence) (mode : Stage5gCanonicalApplicationMode) :
    Action Stage5gOrderPositionSlot Stage5gHalt Unit := do
  let slot ← get
  let targetPosition ← Action.ofExcept (canonicalTargetPosition codec accountId instrument evidence.brokerTruth)
  let contradicts := hasTargetCorrelatedOrder slot evidence.brokerTruth ||
    hasTargetCorrelatedTrade slot evidence.brokerTruth ||
    decimalF64Differs codec targetPosition.snapshot.qty slot.source.prePositionQty
  .ofExcept (rejectIf (mode ≠ .restartFreshTruth ∧ contradicts = true) (.blocked .brokerEvidenceAfterTerminalAck))
  if contradicts then do
    modify fun slot => { slot with terminal := false }
    applyAction codec accountId instrument evidence

def applyToSlotCandidate (accountId : BrokerAccountId) (instrument : InstrumentId)
    (evidence : Stage5gOrderPositionEvidence) (mode : Stage5gCanonicalApplicationMode) :
    Action Stage5gOrderPositionSlot Stage5gHalt Unit := do
  let slot ← get
  if slot.terminal then applyToTerminal codec accountId instrument evidence mode
  else applyAction codec accountId instrument evidence

/-- Work on a copy of the slot, and keep it only if all went well. -/
def applyToSlotWithMode (accountId : BrokerAccountId) (instrument : InstrumentId)
    (evidence : Stage5gOrderPositionEvidence) (mode : Stage5gCanonicalApplicationMode) :
    Action Stage5gOrderPositionSlot Stage5gHalt Unit := do
  let slot ← get
  match (applyToSlotCandidate codec accountId instrument evidence mode).outcome slot with
  | (.ok (), candidate) => modify fun _ => candidate
  | (.error halt, _) => throw halt

end Slots

section Application

variable (codec : OrderPositionCodec)

inductive Stage5gReplayAdmission where
  | exactReplay
  | newPackage
deriving DecidableEq

structure Stage5gCanonicalStateFailure where
  reason : Stage5gOrderPositionError
  state : Stage5gOrderPositionState

inductive Stage5gStateHalt where
  | failed (failure : Stage5gCanonicalStateFailure)
  | panicked

inductive Stage5gCanonicalStateTransition where
  | exactReplay (state : Stage5gOrderPositionState)
  | applied (state preCandidateState : Stage5gOrderPositionState)

def classifyEvidenceReplay (state : Stage5gOrderPositionState) (identity : String) (fingerprint : HexText) :
    Except Stage5gOrderPositionError Bool :=
  match state.evidenceIdentities.find? fun previous => previous.identity = identity with
  | none => .ok false
  | some previous => do
      rejectIf (previous.fingerprint ≠ fingerprint) .conflictingDuplicateEvidence
      .ok true

/-- The duplicate counter wraps around, as a machine word does. -/
def applyStage5gExactReplayMetadataToState (evidence : Stage5gOrderPositionEvidence) (identity : String)
    (fingerprint : HexText) : Action Stage5gOrderPositionState Stage5gOrderPositionError Stage5gReplayAdmission := do
  let state ← get
  .ofExcept (rejectIf (state.lastTotalSequence.any fun last => evidence.totalSequence ≤ last) .nonMonotonicSequence)
  .ofExcept (rejectIf (evidence.brokerTruth.accountId ≠ state.accountId) .accountMismatch)
  let replayed ← Action.ofExcept (classifyEvidenceReplay state identity fingerprint)
  if replayed then do
    modify fun state => { state with
      lastTotalSequence := some evidence.totalSequence
      duplicateEvidenceCount := state.duplicateEvidenceCount + 1 }
    pure .exactReplay
  else pure .newPackage

def stage5gOrderPositionNewPackagePreflightState (state : Stage5gOrderPositionState)
    (evidence : Stage5gOrderPositionEvidence) : Except Stage5gOrderPositionError Nat := do
  rejectIf (state.lastContinuationCheckpointTsUtcMs.any fun checkpoint =>
    timestampMillis evidence.brokerTruth.receivedTs < checkpoint) .brokerTruthBeforeContinuationCheckpoint
  orReject (state.slots.findIdx? fun slot => slot.ack.requestId = evidence.requestId) .unknownRequestId

/-- A restart takes over the broker id of the one order that carries the slot's client id. -/
def adoptDiscoveredOrderId (evidence : Stage5gOrderPositionEvidence) (mode : Stage5gCanonicalApplicationMode)
    (accountId : BrokerAccountId) (instrument : InstrumentId) (slot : Stage5gOrderPositionSlot) :
    Stage5gOrderPositionSlot :=
  if mode = .restartFreshTruth ∧ slot.ack.action.isPlace = true ∧ slot.brokerOrderId = none then
    match evidence.brokerTruth.orders.filter fun order =>
        order.clientOrderId = some slot.ack.expectedClientOrderId ∧ order.accountId = accountId ∧
          instrumentIdentityMatches order.instrument instrument with
    | [order] => { slot with brokerOrderId := order.brokerOrderId }
    | _ => slot
  else slot

def safetyError : Stage5gAccountWideOrderSafety → Option Stage5gOrderPositionError
  | .safe => none
  | .nonOwnedActive => some .accountWideActiveOrderSafetyGuard
  | .nonOwnedUnknown => some .accountWideUnknownOrderSafetyGuard
  | .ambiguousOwned => some .ambiguousTargetOrder
  | .conflictingOwnedIdentity => some .clientOrderIdMismatch

def admitToSlot (evidence : Stage5gOrderPositionEvidence) (mode : Stage5gCanonicalApplicationMode)
    (slot : Stage5gOrderPositionSlot) : Except Stage5gOrderPositionError Unit := do
  let truth := evidence.brokerTruth
  rejectIf ((slot.ack.latestReceivedTsUtc.bind codec.parseFromRfc3339).any fun ackTs =>
    ackTs.After truth.receivedTs) .brokerTruthBeforeAck
  match safetyError (stage5gAccountWideOrderSafety truth.orders (slotTargetOrderClientId slot)
      (slotTargetBrokerOrderId slot)) with
  | some reason => .error reason
  | none => do
      let hasTargetTrade := hasTargetCorrelatedTrade slot truth
      rejectIf (slot.terminal = true ∧ hasTargetTrade = true ∧ mode ≠ .restartFreshTruth)
        .brokerEvidenceAfterTerminalAck
      rejectIf (slot.ack.action = .place .market ∧ hasTargetCorrelatedOrder slot truth = false ∧
        hasTargetTrade = true) .targetTradeWithoutOrder

def candidateWork (state : Stage5gOrderPositionState) (evidence : Stage5gOrderPositionEvidence)
    (mode : Stage5gCanonicalApplicationMode) (slot : Stage5gOrderPositionSlot) :
    Action Stage5gOrderPositionSlot Stage5gHalt Unit := do
  validateSnapshotChronology state.lastBrokerTruthReceivedAt state.instrument evidence
  applyToSlotWithMode codec state.accountId state.instrument evidence mode
  modify refreshTradeWatermarksFromCommittedLedger
  let next ← get
  .ofExcept (rejectIf (componentWatermarksAreMonotonic slot next = false) (.blocked .tradeTimeRegression))

def candidateSlot (state : Stage5gOrderPositionState) (evidence : Stage5gOrderPositionEvidence)
    (mode : Stage5gCanonicalApplicationMode) (slot : Stage5gOrderPositionSlot) :
    Except Stage5gHalt Stage5gOrderPositionSlot :=
  match (candidateWork codec state evidence mode slot).outcome slot with
  | (.ok (), next) => .ok next
  | (.error halt, _) => .error halt

/-- `i64::MIN`. -/
def i64Min : Int := -(2 ^ 63)

def commitPackage (state : Stage5gOrderPositionState) (slotIndex : Nat) (next : Stage5gOrderPositionSlot)
    (canonical : Stage5gCanonicalOrderPositionEvidence codec) : Stage5gOrderPositionState :=
  let receivedTs := canonical.evidence.brokerTruth.receivedTs
  { state with
    slots := state.slots.set slotIndex next
    lastTotalSequence := some canonical.evidence.totalSequence
    lastBrokerTruthReceivedAt := some receivedTs
    lastBrokerTruthReceivedMs := some (timestampMillis receivedTs)
    lastContinuationCheckpointTsUtcMs :=
      some (max (state.lastContinuationCheckpointTsUtcMs.getD i64Min) (timestampMillis receivedTs))
    evidenceIdentities := state.evidenceIdentities ++
      [{ identity := canonical.identity, fingerprint := canonical.fingerprint }]
    currentEvidenceIdentity := some canonical.identity }

def failing (state : Stage5gOrderPositionState) : Stage5gHalt → Stage5gStateHalt
  | .blocked reason => .failed { reason := reason, state := state }
  | .panicked => .panicked

/-- A package whose identity is new: admit it, work on a copy of its slot, commit. -/
def applyNewPackage (state : Stage5gOrderPositionState) (canonical : Stage5gCanonicalOrderPositionEvidence codec)
    (mode : Stage5gCanonicalApplicationMode) : Except Stage5gStateHalt Stage5gCanonicalStateTransition := do
  let evidence := canonical.evidence
  let slotIndex ← (stage5gOrderPositionNewPackagePreflightState state evidence).mapError fun reason =>
    failing state (.blocked reason)
  let state := { state with
    slots := state.slots.modify slotIndex (adoptDiscoveredOrderId evidence mode state.accountId state.instrument) }
  let slot ← orReject state.slots[slotIndex]? .panicked
  (admitToSlot codec evidence mode slot).mapError fun reason => failing state (.blocked reason)
  let next ← (candidateSlot codec state evidence mode slot).mapError (failing state)
  .ok (.applied (commitPackage codec state slotIndex next canonical) state)

def applyStage5gCanonicalOrderPositionState (state : Stage5gOrderPositionState)
    (canonical : Stage5gCanonicalOrderPositionEvidence codec) (mode : Stage5gCanonicalApplicationMode) :
    Except Stage5gStateHalt Stage5gCanonicalStateTransition :=
  match (applyStage5gExactReplayMetadataToState canonical.evidence canonical.identity
      canonical.fingerprint).outcome state with
  | (.error reason, state) => .error (.failed { reason := reason, state := state })
  | (.ok .exactReplay, state) => .ok (.exactReplay state)
  | (.ok .newPackage, state) => applyNewPackage codec state canonical mode

/-- `apply_stage5g_order_position_evidence` up to the state it leaves. -/
def applyStage5gOrderPositionEvidence (state : Stage5gOrderPositionState) (evidence : Stage5gOrderPositionEvidence)
    (mode : Stage5gCanonicalApplicationMode) : Except Stage5gStateHalt Stage5gCanonicalStateTransition :=
  match canonicalizeStage5gOrderPositionEvidence codec evidence with
  | .error .tradeIdentityConflict => .error (failing state (.blocked .tradeIdentityConflict))
  | .error .evidenceIdentityGrammarViolation => .error (failing state (.blocked .evidenceIdentityGrammarViolation))
  | .ok canonical => applyStage5gCanonicalOrderPositionState codec state canonical mode

end Application

end TradingGateway.Stage5g.OrderPosition
