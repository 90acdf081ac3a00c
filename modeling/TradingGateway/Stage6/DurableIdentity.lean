import TradingGateway.BrokerCore.HybridAttribution
import TradingGateway.BrokerCore.Orders

/-! Durable request identities and the immutable command snapshots accepted under them. -/

set_option autoImplicit false

namespace TradingGateway.Stage6.DurableIdentity

open BrokerCore.FixedPoint BrokerCore.HybridAttribution BrokerCore.Identifiers BrokerCore.Orders
open Foundation.ExceptRun

inductive Stage6DurableIdentityError where
  | placeClientIdentityMismatch
  | requestIdentityMismatch
  | accountMismatch
  | instrumentMismatch
  | attributionMismatch
  | actionMismatch
  | cancelTargetMismatch
  | sequenceZero
  | invalidSha256
  | unsupportedSchema
  | recordIdentityMismatch
  | payloadDigestMismatch
  | eventPayloadMismatch
  | decodeFailed
  | invalidAccountIdentity
  | invalidInstrumentIdentity
  | invalidAttribution
  | actionRoleMismatch
  | unsupportedDurablePlaceOrderType
  | invalidDurablePlacePriceShape
  | invalidDurablePlaceQuantity
  | nonCanonicalEncoding
  | unsupportedEventPayload
  | invalidDispatchAttemptOrdinal
  | invalidCancelOutcomePayload
  | invalidActionEvent
  | invalidConflictPayload
deriving DecidableEq

inductive Stage6DurableActionKind where
  | place
  | cancel
deriving DecidableEq

def roleMatchesAction (action : Stage6DurableActionKind) (role : Option HybridRuntimeOrderRole) : Bool :=
  match action, role with
  | .place, some .entry | .place, some .exit | .place, some .takeProfit | .place, some .stopLoss => true
  | .cancel, some .cancel => true
  | _, _ => false

def validateDurableDomain (accountId : BrokerAccountId) (instrument : InstrumentId)
    (attribution : HybridRuntimeAttribution) (action : Stage6DurableActionKind) :
    Except Stage6DurableIdentityError Unit := do
  rejectIf (accountId.value = "") .invalidAccountIdentity
  rejectIf (instrument.symbol = "" ∨ instrument.venueSymbol = some "") .invalidInstrumentIdentity
  rejectIf (attribution.strategyId = "" ∨ attribution.cycleId = "" ∨ attribution.owner = none ∨
    attribution.role = none ∨ attribution.validateSourceEquivalence.isOk = false) .invalidAttribution
  rejectIf (roleMatchesAction action attribution.role = false) .actionRoleMismatch

structure Stage6DurableRequestIdentityWireV1 where
  strategyRequestId : StrategyRequestId
  durableClientOrderId : ClientOrderId
  accountId : BrokerAccountId
  instrument : InstrumentId
  attribution : HybridRuntimeAttribution
  action : Stage6DurableActionKind
  targetBrokerOrderId : Option BrokerOrderId
  targetOrderClientOrderId : Option ClientOrderId
deriving DecidableEq

def Stage6DurableRequestIdentityWireV1.validateSelf (identity : Stage6DurableRequestIdentityWireV1) :
    Except Stage6DurableIdentityError Unit := do
  rejectIf (identity.durableClientOrderId ≠ ClientOrderId.fromStrategyRequest identity.strategyRequestId)
    .placeClientIdentityMismatch
  validateDurableDomain identity.accountId identity.instrument identity.attribution identity.action
  match identity.action with
  | .place =>
      rejectIf (identity.targetBrokerOrderId ≠ none ∨ identity.targetOrderClientOrderId ≠ none) .actionMismatch
  | .cancel =>
      rejectIf (identity.targetBrokerOrderId = none ∨ identity.attribution.role ≠ some .cancel)
        .cancelTargetMismatch

/-- An identity that passes its own validation; neither the constructors nor the
decoder let any other one through. -/
structure Stage6DurableRequestIdentityV1 extends Stage6DurableRequestIdentityWireV1 where
  valid : toStage6DurableRequestIdentityWireV1.validateSelf = .ok ()
deriving DecidableEq

def Stage6DurableRequestIdentityV1.ofWire (wire : Stage6DurableRequestIdentityWireV1) :
    Except Stage6DurableIdentityError Stage6DurableRequestIdentityV1 :=
  match validated : wire.validateSelf with
  | .error error => .error error
  | .ok () => .ok { toStage6DurableRequestIdentityWireV1 := wire, valid := validated }

def Stage6DurableRequestIdentityV1.fromPlace (command : PlaceOrder)
    (attribution : HybridRuntimeAttribution) :
    Except Stage6DurableIdentityError Stage6DurableRequestIdentityV1 := do
  let durable := ClientOrderId.fromStrategyRequest command.requestId
  rejectIf (command.clientOrderId ≠ durable) .placeClientIdentityMismatch
  rejectIf (command.comment ≠ some attribution.internalComment) .attributionMismatch
  Stage6DurableRequestIdentityV1.ofWire {
    strategyRequestId := command.requestId
    durableClientOrderId := durable
    accountId := command.accountId
    instrument := command.instrument
    attribution := attribution
    action := .place
    targetBrokerOrderId := none
    targetOrderClientOrderId := none }

def Stage6DurableRequestIdentityV1.fromCancel (command : CancelOrder) (instrument : InstrumentId)
    (attribution : HybridRuntimeAttribution) :
    Except Stage6DurableIdentityError Stage6DurableRequestIdentityV1 :=
  Stage6DurableRequestIdentityV1.ofWire {
    strategyRequestId := command.requestId
    durableClientOrderId := ClientOrderId.fromStrategyRequest command.requestId
    accountId := command.accountId
    instrument := instrument
    attribution := attribution
    action := .cancel
    targetBrokerOrderId := some command.orderId
    targetOrderClientOrderId := command.clientOrderId }

structure Stage6DurablePlaceOrderShapeV1 where
  side : OrderSide
  orderType : BrokerCore.Orders.OrderType
  quantity : Quantity
  limitPrice : Option Price
  timeInForce : TimeInForce
deriving DecidableEq

def validateDurablePlaceShape (orderType : BrokerCore.Orders.OrderType) (quantity : Quantity) (limitPrice : Option Price) :
    Except Stage6DurableIdentityError Unit := do
  rejectIf (quantity ≤ Decimal.zero) .invalidDurablePlaceQuantity
  match orderType with
  | .market => rejectIf (limitPrice ≠ none) .invalidDurablePlacePriceShape
  | .limit =>
      match limitPrice with
      | some price => rejectIf (¬ Decimal.zero < price) .invalidDurablePlacePriceShape
      | none => .error .invalidDurablePlacePriceShape
  | .stop | .stopLimit | .takeProfit | .takeProfitLimit => .error .unsupportedDurablePlaceOrderType

def Stage6DurablePlaceOrderShapeV1.new (side : OrderSide) (orderType : BrokerCore.Orders.OrderType) (quantity : Quantity)
    (limitPrice : Option Price) (timeInForce : TimeInForce) :
    Except Stage6DurableIdentityError Stage6DurablePlaceOrderShapeV1 := do
  validateDurablePlaceShape orderType quantity limitPrice
  .ok {
    side := side
    orderType := orderType
    quantity := quantity
    limitPrice := limitPrice
    timeInForce := timeInForce }

/-- The fields of a `Place` command payload. -/
structure PlaceCommandPayload where
  requestId : StrategyRequestId
  durableClientOrderId : ClientOrderId
  accountId : BrokerAccountId
  instrument : InstrumentId
  side : OrderSide
  orderType : BrokerCore.Orders.OrderType
  quantity : Quantity
  limitPrice : Option Price
  timeInForce : TimeInForce
  ttlMs : Option UInt64
  createdTs : DateTimeUtc
  attribution : HybridRuntimeAttribution
deriving DecidableEq

/-- The fields of a `Cancel` command payload. -/
structure CancelCommandPayload where
  requestId : StrategyRequestId
  durableCancelClientOrderId : ClientOrderId
  accountId : BrokerAccountId
  instrument : InstrumentId
  targetBrokerOrderId : BrokerOrderId
  targetOrderClientOrderId : Option ClientOrderId
  ttlMs : Option UInt64
  createdTs : DateTimeUtc
  attribution : HybridRuntimeAttribution
deriving DecidableEq

inductive Stage6DurableCommandPayloadV1 where
  | place (command : PlaceCommandPayload)
  | cancel (command : CancelCommandPayload)
deriving DecidableEq

def Stage6DurableCommandPayloadV1.validateIntrinsic (payload : Stage6DurableCommandPayloadV1) :
    Except Stage6DurableIdentityError Unit := do
  match payload with
  | .place command =>
      validateDurableDomain command.accountId command.instrument command.attribution .place
      rejectIf (command.durableClientOrderId ≠ ClientOrderId.fromStrategyRequest command.requestId)
        .placeClientIdentityMismatch
      validateDurablePlaceShape command.orderType command.quantity command.limitPrice
  | .cancel command =>
      validateDurableDomain command.accountId command.instrument command.attribution .cancel
      rejectIf (command.durableCancelClientOrderId ≠ ClientOrderId.fromStrategyRequest command.requestId)
        .cancelTargetMismatch

structure Stage6DurableCommandSnapshotV1 where
  payload : Stage6DurableCommandPayloadV1
  valid : payload.validateIntrinsic = .ok ()
deriving DecidableEq

def Stage6DurableCommandSnapshotV1.ofPayload (payload : Stage6DurableCommandPayloadV1) :
    Except Stage6DurableIdentityError Stage6DurableCommandSnapshotV1 :=
  match validated : payload.validateIntrinsic with
  | .error error => .error error
  | .ok () => .ok { payload := payload, valid := validated }

def validateCommon (identity : Stage6DurableRequestIdentityV1) (request : StrategyRequestId)
    (account : BrokerAccountId) (instrument : InstrumentId) (action : Stage6DurableActionKind) :
    Except Stage6DurableIdentityError Unit := do
  rejectIf (identity.strategyRequestId ≠ request) .requestIdentityMismatch
  rejectIf (identity.accountId ≠ account) .accountMismatch
  rejectIf (identity.instrument ≠ instrument) .instrumentMismatch
  rejectIf (identity.action ≠ action) .actionMismatch

def Stage6DurableCommandSnapshotV1.fromPlace (identity : Stage6DurableRequestIdentityV1)
    (command : PlaceOrder) : Except Stage6DurableIdentityError Stage6DurableCommandSnapshotV1 := do
  identity.validateSelf
  validateCommon identity command.requestId command.accountId command.instrument .place
  rejectIf (command.clientOrderId ≠ identity.durableClientOrderId) .placeClientIdentityMismatch
  rejectIf (command.comment ≠ some identity.attribution.internalComment) .attributionMismatch
  Stage6DurableCommandSnapshotV1.ofPayload (.place {
    requestId := command.requestId
    durableClientOrderId := command.clientOrderId
    accountId := command.accountId
    instrument := command.instrument
    side := command.side
    orderType := command.orderType
    quantity := command.qty
    limitPrice := command.limitPrice
    timeInForce := command.timeInForce
    ttlMs := command.ttlMs
    createdTs := command.createdTs
    attribution := identity.attribution })

def Stage6DurableCommandSnapshotV1.fromCancel (identity : Stage6DurableRequestIdentityV1)
    (command : CancelOrder) : Except Stage6DurableIdentityError Stage6DurableCommandSnapshotV1 := do
  identity.validateSelf
  rejectIf (identity.strategyRequestId ≠ command.requestId) .requestIdentityMismatch
  rejectIf (identity.accountId ≠ command.accountId) .accountMismatch
  rejectIf (identity.action ≠ .cancel) .actionMismatch
  rejectIf (identity.targetBrokerOrderId ≠ some command.orderId ∨
    identity.targetOrderClientOrderId ≠ command.clientOrderId) .cancelTargetMismatch
  Stage6DurableCommandSnapshotV1.ofPayload (.cancel {
    requestId := command.requestId
    durableCancelClientOrderId := identity.durableClientOrderId
    accountId := command.accountId
    instrument := identity.instrument
    targetBrokerOrderId := command.orderId
    targetOrderClientOrderId := command.clientOrderId
    ttlMs := command.ttlMs
    createdTs := command.createdTs
    attribution := identity.attribution })

def validateSnapshotIdentity (identity : Stage6DurableRequestIdentityV1)
    (command : Stage6DurableCommandSnapshotV1) : Except Stage6DurableIdentityError Unit := do
  match command.payload with
  | .place place =>
      validateCommon identity place.requestId place.accountId place.instrument .place
      rejectIf (place.durableClientOrderId ≠ identity.durableClientOrderId) .placeClientIdentityMismatch
      rejectIf (place.attribution ≠ identity.attribution) .attributionMismatch
  | .cancel cancel =>
      validateCommon identity cancel.requestId cancel.accountId cancel.instrument .cancel
      rejectIf (cancel.durableCancelClientOrderId ≠ identity.durableClientOrderId ∨
        some cancel.targetBrokerOrderId ≠ identity.targetBrokerOrderId ∨
        cancel.targetOrderClientOrderId ≠ identity.targetOrderClientOrderId) .cancelTargetMismatch
      rejectIf (cancel.attribution ≠ identity.attribution) .attributionMismatch

end TradingGateway.Stage6.DurableIdentity
