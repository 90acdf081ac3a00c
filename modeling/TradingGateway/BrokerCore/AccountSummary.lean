import TradingGateway.BrokerCore.OperationalSnapshot

/-! What an account snapshot comes to for one instrument: open positions, orders by
lifecycle, and orders that the registry or the trades do not explain. -/

set_option autoImplicit false

namespace TradingGateway.BrokerCore.OperationalSnapshot

open FixedPoint Orders

inductive BrokerOrderOrphanReason where
  | accountMismatch
  | missingCorrelationId
  | missingInstrumentRegistry
  | unknownInstrumentIdentity
  | ambiguousInstrumentIdentity
  | filledQuantityWithoutMatchingTrade
  | matchingTradeAccountMismatch
  | matchingTradeInstrumentMismatch
  | matchingTradeSideMismatch
  | matchingTradeQuantityLessThanFilledQuantity
deriving DecidableEq

structure BrokerTruthInstrumentSummary where
  targetOpenPositionsCount : Nat
  accountOpenPositionsCount : Nat
  targetActiveOrdersCount : Nat
  targetUnknownOrdersCount : Nat
  targetTerminalOrdersCount : Nat
  targetInconsistentOrdersCount : Nat
  accountActiveOrdersCount : Nat
  accountUnknownOrdersCount : Nat
  accountOrphanOrdersCount : Nat
  otherSymbolActiveOrdersCount : Nat
deriving DecidableEq

namespace BrokerInstrumentSpec

def instrumentId (spec : BrokerInstrumentSpec) : InstrumentId :=
  { symbol := spec.instrument.internalSymbol
    venueSymbol := some spec.instrument.brokerSymbol
    exchange := spec.instrument.exchange
    market := spec.instrument.market }

def matchesInstrumentId (spec : BrokerInstrumentSpec) (instrument : InstrumentId) : Bool :=
  instrumentIdentityMatches spec.instrumentId instrument

/-- An order that states its asset, board or expiration states the registered one. -/
def matchesOrderIdentity (spec : BrokerInstrumentSpec) (order : BrokerOrderSnapshot) : Bool :=
  spec.matchesInstrumentId order.instrument ∧
    (order.brokerAssetId = none ∨ order.brokerAssetId = spec.brokerAssetId) ∧
    (order.board = none ∨ order.board = spec.board) ∧
    (order.expirationDate = none ∨ order.expirationDate = spec.instrument.expirationDate)

end BrokerInstrumentSpec

def orderTradeInstrumentIdentityMatches (order : BrokerOrderSnapshot) (trade : BrokerTradeSnapshot) : Bool :=
  instrumentIdentityMatches trade.instrument order.instrument ∧ trade.brokerAssetId = order.brokerAssetId ∧
    trade.board = order.board ∧ trade.expirationDate = order.expirationDate

/-- Both sides name something, and name the same. -/
def SharesId {Id : Type} (left right : Option Id) : Prop :=
  left.isSome = true ∧ left = right

instance {Id : Type} [DecidableEq Id] (left right : Option Id) : Decidable (SharesId left right) :=
  inferInstanceAs (Decidable (_ ∧ _))

/-- Both sides name something, and not the same. -/
def ContradictsId {Id : Type} (left right : Option Id) : Prop :=
  left.isSome = true ∧ right.isSome = true ∧ left ≠ right

instance {Id : Type} [DecidableEq Id] (left right : Option Id) : Decidable (ContradictsId left right) :=
  inferInstanceAs (Decidable (_ ∧ _))

namespace BrokerTruthSnapshot

def openPositionsForInstrument (truth : BrokerTruthSnapshot) (instrument : InstrumentId) :
    List BrokerPositionSnapshot :=
  truth.positions.filter fun position => position.isOpen && position.matchesInstrument instrument

def targetActiveOrders (truth : BrokerTruthSnapshot) (instrument : InstrumentId) : List BrokerOrderSnapshot :=
  truth.orders.filter fun order =>
    order.isActiveForLifecycle && instrumentIdentityMatches order.instrument instrument

def accountWideActiveOrderCount (truth : BrokerTruthSnapshot) : Nat :=
  (truth.orders.filter (·.isActiveForLifecycle)).length

def tradesMatchingOrderIdentity (truth : BrokerTruthSnapshot) (order : BrokerOrderSnapshot) :
    List BrokerTradeSnapshot :=
  truth.trades.filter fun trade => SharesId order.brokerOrderId trade.brokerOrderId ∨
    SharesId order.clientOrderId trade.clientOrderId

def orderInstrumentIdentityReasons (truth : BrokerTruthSnapshot) (order : BrokerOrderSnapshot) :
    List BrokerOrderOrphanReason :=
  if order.instrument.venueSymbol = none then [.unknownInstrumentIdentity]
  else if truth.instruments = [] then [.missingInstrumentRegistry]
  else
    match (truth.instruments.filter (·.matchesOrderIdentity order)).length with
    | 0 => [.unknownInstrumentIdentity]
    | 1 => []
    | _ => [.ambiguousInstrumentIdentity]

/-- The trades of an order whose account, instrument and side are those of the order. -/
def consistentTrades (truth : BrokerTruthSnapshot) (order : BrokerOrderSnapshot) : List BrokerTradeSnapshot :=
  (truth.tradesMatchingOrderIdentity order).filter fun trade => trade.accountId = order.accountId ∧
    orderTradeInstrumentIdentityMatches order trade ∧ trade.side = order.side

/-- A filled order is explained by trades of its account, instrument and side that
add up to the fill. The trades are added in the order of their rows; `none` is the
overflow abort, here and below. -/
def matchingTradeReasons (truth : BrokerTruthSnapshot) (order : BrokerOrderSnapshot) :
    Option (List BrokerOrderOrphanReason) :=
  let matching := truth.tradesMatchingOrderIdentity order
  if matching = [] then some [.filledQuantityWithoutMatchingTrade]
  else do
    let consistent := matching.filter fun trade => trade.accountId = order.accountId ∧
      orderTradeInstrumentIdentityMatches order trade ∧ trade.side = order.side
    let consistentTradeQty ← (consistent.map (·.qty)).foldlM Decimal.checkedAdd Decimal.zero
    some ((if ∃ trade ∈ matching, trade.accountId ≠ order.accountId then [.matchingTradeAccountMismatch] else []) ++
      (if ∃ trade ∈ matching, orderTradeInstrumentIdentityMatches order trade = false then
        [.matchingTradeInstrumentMismatch] else []) ++
      (if ∃ trade ∈ matching, trade.side ≠ order.side then [.matchingTradeSideMismatch] else []) ++
      (if consistentTradeQty < order.filledQty then [.matchingTradeQuantityLessThanFilledQuantity] else []))

def orphanReasonsForOrder (truth : BrokerTruthSnapshot) (order : BrokerOrderSnapshot) :
    Option (List BrokerOrderOrphanReason) := do
  let unexplained ← if Decimal.zero < order.filledQty then truth.matchingTradeReasons order else some []
  some ((if order.accountId ≠ truth.accountId then [.accountMismatch] else []) ++
    (if order.hasCorrelationId then [] else [.missingCorrelationId]) ++
    truth.orderInstrumentIdentityReasons order ++ unexplained)

def accountOrphanOrderCount (truth : BrokerTruthSnapshot) : Option Nat := do
  let reasons ← truth.orders.mapM truth.orphanReasonsForOrder
  some (reasons.filter (· ≠ [])).length

def summarizeForInstrument (truth : BrokerTruthSnapshot) (instrument : InstrumentId) :
    Option BrokerTruthInstrumentSummary := do
  let matchesTarget (order : BrokerOrderSnapshot) := instrumentIdentityMatches order.instrument instrument
  let countOrders (selects : BrokerOrderSnapshot → Bool) := (truth.orders.filter selects).length
  let orphans ← truth.accountOrphanOrderCount
  some {
    targetOpenPositionsCount := (truth.openPositionsForInstrument instrument).length
    accountOpenPositionsCount := (truth.positions.filter (·.isOpen)).length
    targetActiveOrdersCount := (truth.targetActiveOrders instrument).length
    targetUnknownOrdersCount := countOrders fun order => order.lifecycle = .unknown ∧ matchesTarget order
    targetTerminalOrdersCount := countOrders fun order => order.lifecycle = .terminal ∧ matchesTarget order
    targetInconsistentOrdersCount := countOrders fun order =>
      order.isInconsistentActiveZeroRemaining ∧ matchesTarget order
    accountActiveOrdersCount := truth.accountWideActiveOrderCount
    accountUnknownOrdersCount := countOrders fun order => order.lifecycle = .unknown
    accountOrphanOrdersCount := orphans
    otherSymbolActiveOrdersCount := countOrders fun order => order.isActiveForLifecycle ∧ ¬ matchesTarget order }

end BrokerTruthSnapshot

end TradingGateway.BrokerCore.OperationalSnapshot
