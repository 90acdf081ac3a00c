import TradingGateway.BrokerCore.DecimalArithmetic
import TradingGateway.BrokerCore.Timestamps

/-! The checks of a place order before it may be sent: the operator's arm, the
allow lists, the quantity and price steps, and the limits on notional and on the
distance from a reference price. -/

set_option autoImplicit false

namespace TradingGateway.BrokerCore.OrderPreflight

open FixedPoint Identifiers Orders Foundation.ExceptRun

inductive OrderPreflightError where
  | endpointNotArmed
  | armExpired
  | oneShotAlreadyUsed
  | missingArmAudit
  | commandExpired
  | accountNotAllowed
  | venueSymbolMissing
  | instrumentNotAllowed
  | unsupportedOrderType
  | unsupportedTimeInForce
  | rawCommandCommentNotAllowed
  | invalidQuantity
  | quantityOutOfBounds
  | quantityStepMismatch
  | marketOrderHasLimitPrice
  | marketQuantityOutOfBounds
  | limitPriceMissing
  | invalidLimitPrice
  | priceStepMismatch
  | referenceDataNotLoaded
  | referencePriceMissing
  | referencePriceInvalid
  | referencePriceStale
  | orderNotionalOutOfBounds
  | runNotionalOutOfBounds
  | limitPriceBandExceeded
deriving DecidableEq

/-- How a check that computes with decimals stops: with its error, or in the panic
of an operation. -/
inductive OrderPreflightHalt where
  | rejected (error : OrderPreflightError)
  | panicked
deriving DecidableEq

structure OperatorArm where
  sessionId : String
  armedUntil : DateTimeUtc
  endpointCallsEnabled : Bool
  oneShot : Bool
  endpointAttempted : Bool
  preflightDigest : String

def OperatorArm.validate (arm : OperatorArm) (now : DateTimeUtc) : Except OrderPreflightError Unit := do
  rejectIf (arm.oneShot = true ∧ arm.endpointAttempted = true) .oneShotAlreadyUsed
  rejectIf (arm.endpointCallsEnabled = false) .endpointNotArmed
  rejectIf (¬ arm.armedUntil.After now) .armExpired
  rejectIf (arm.sessionId = "" ∨ arm.preflightDigest = "") .missingArmAudit

structure OrderPreflightPolicy where
  allowedAccounts : List BrokerAccountId
  allowedVenueSymbols : List String
  allowedOrderTypes : List BrokerCore.Orders.OrderType
  allowedTimeInForce : List TimeInForce
  minQty : Quantity
  qtyStep : Quantity
  maxQty : Quantity
  priceStep : Option Price
  maxMarketQty : Quantity
  maxNotionalPerOrder : Option Decimal
  maxNotionalPerRun : Option Decimal
  maxLimitDeviationBps : Option UInt32
  maxReferenceAgeMs : UInt64
  operatorArm : OperatorArm

structure OrderReferencePrice where
  price : Price
  receivedTs : DateTimeUtc

structure OrderPreflightContext where
  referencePrice : Option OrderReferencePrice
  currentRunNotional : Decimal

/-- `now.signed_duration_since(time).num_milliseconds()`. -/
def ageMs (now time : DateTimeUtc) : Int :=
  (now.nanosecondsSince time).tdiv 1000000

/-- The lifetime is cast to a signed number, so a huge one is negative. -/
def validateCommandTtl (createdTs : DateTimeUtc) (ttlMs : Option UInt64) (now : DateTimeUtc) :
    Except OrderPreflightError Unit :=
  match ttlMs with
  | none => .ok ()
  | some ttlMs => rejectIf (ttlMs.toInt64.toInt < ageMs now createdTs) .commandExpired

def computed (result : Option Decimal) : Except OrderPreflightHalt Decimal :=
  orReject result .panicked

def isDecimalMultiple (value step : Decimal) : Except OrderPreflightHalt Bool :=
  if Decimal.zero < step then do
    let rest ← computed (value.checkedRem step)
    .ok (rest.Same Decimal.zero)
  else .ok false

/-- `Decimal::from` of a number of 32 bits. -/
def decimalOfBps (bps : UInt32) : Decimal :=
  .ofNat bps.toNat (bps.toNat_lt.trans (by decide))

def tenThousand : Decimal :=
  .ofNat 10000 (by decide)

def priceDistance (limitPrice referencePrice : Price) : Option Decimal :=
  if referencePrice ≤ limitPrice then limitPrice.checkedSub referencePrice
  else referencePrice.checkedSub limitPrice

namespace OrderPreflightPolicy

variable (policy : OrderPreflightPolicy)

def requireFreshReference (context : OrderPreflightContext) (now : DateTimeUtc) :
    Except OrderPreflightError OrderReferencePrice := do
  let reference ← orReject context.referencePrice .referencePriceMissing
  rejectIf (reference.price ≤ Decimal.zero) .referencePriceInvalid
  let age := ageMs now reference.receivedTs
  rejectIf (age < 0 ∨ (policy.maxReferenceAgeMs.toNat : Int) < age) .referencePriceStale
  .ok reference

def checkNotional (orderNotional currentRunNotional : Decimal) : Except OrderPreflightHalt Unit := do
  match policy.maxNotionalPerOrder with
  | none => .ok ()
  | some max => rejectIf (max < orderNotional) (.rejected .orderNotionalOutOfBounds)
  match policy.maxNotionalPerRun with
  | none => .ok ()
  | some max =>
      let runNotional ← computed (currentRunNotional.checkedAdd orderNotional)
      rejectIf (max < runNotional) (.rejected .runNotionalOutOfBounds)

def checkLimitDeviation (limitPrice referencePrice : Price) : Except OrderPreflightHalt Unit := do
  match policy.maxLimitDeviationBps with
  | none => .ok ()
  | some maxBps =>
      let diff ← computed (priceDistance limitPrice referencePrice)
      let scaled ← computed (diff.checkedMul tenThousand)
      let allowed ← computed (referencePrice.checkedMul (decimalOfBps maxBps))
      rejectIf (allowed < scaled) (.rejected .limitPriceBandExceeded)

def checkAllowed (order : PlaceOrder) (now : DateTimeUtc) : Except OrderPreflightError Unit := do
  policy.operatorArm.validate now
  validateCommandTtl order.createdTs order.ttlMs now
  rejectIf (order.accountId ∉ policy.allowedAccounts) .accountNotAllowed
  let venueSymbol ← orReject order.instrument.venueSymbol .venueSymbolMissing
  rejectIf (venueSymbol ∉ policy.allowedVenueSymbols) .instrumentNotAllowed
  rejectIf (order.orderType ≠ .market ∧ order.orderType ≠ .limit) .unsupportedOrderType
  rejectIf (order.orderType ∉ policy.allowedOrderTypes) .unsupportedOrderType
  rejectIf (order.timeInForce ∉ policy.allowedTimeInForce) .unsupportedTimeInForce
  rejectIf (order.comment.isSome = true) .rawCommandCommentNotAllowed
  rejectIf (order.qty ≤ Decimal.zero) .invalidQuantity
  rejectIf (order.qty < policy.minQty ∨ policy.maxQty < order.qty) .quantityOutOfBounds

def checkMarket (order : PlaceOrder) (now : DateTimeUtc) (context : OrderPreflightContext) :
    Except OrderPreflightHalt Unit := do
  rejectIf (order.limitPrice.isSome = true) (.rejected .marketOrderHasLimitPrice)
  rejectIf (policy.maxMarketQty < order.qty) (.rejected .marketQuantityOutOfBounds)
  let reference ← (policy.requireFreshReference context now).mapError .rejected
  let orderNotional ← computed (order.qty.checkedMul reference.price)
  policy.checkNotional orderNotional context.currentRunNotional

def checkBand (price : Price) (now : DateTimeUtc) (context : OrderPreflightContext) :
    Except OrderPreflightHalt Unit :=
  if policy.maxLimitDeviationBps.isSome = true then do
    let reference ← (policy.requireFreshReference context now).mapError .rejected
    policy.checkLimitDeviation price reference.price
  else .ok ()

def checkLimit (order : PlaceOrder) (now : DateTimeUtc) (context : OrderPreflightContext) :
    Except OrderPreflightHalt Unit := do
  let price ← orReject order.limitPrice (.rejected .limitPriceMissing)
  rejectIf (price ≤ Decimal.zero) (.rejected .invalidLimitPrice)
  let step ← orReject policy.priceStep (.rejected .referenceDataNotLoaded)
  let onStep ← isDecimalMultiple price step
  rejectIf (onStep = false) (.rejected .priceStepMismatch)
  policy.checkBand price now context
  let orderNotional ← computed (order.qty.checkedMul price)
  policy.checkNotional orderNotional context.currentRunNotional

def validatePlaceOrderWithContext (order : PlaceOrder) (now : DateTimeUtc) (context : OrderPreflightContext) :
    Except OrderPreflightHalt Unit := do
  (policy.checkAllowed order now).mapError .rejected
  let onStep ← isDecimalMultiple order.qty policy.qtyStep
  rejectIf (onStep = false) (.rejected .quantityStepMismatch)
  match order.orderType with
  | .market => policy.checkMarket order now context
  | .limit => policy.checkLimit order now context
  | _ => .error (.rejected .unsupportedOrderType)

end OrderPreflightPolicy

end TradingGateway.BrokerCore.OrderPreflight
