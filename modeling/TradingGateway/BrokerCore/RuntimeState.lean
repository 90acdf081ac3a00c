import Mathlib.Data.Finset.Insert
import Mathlib.Logic.Function.Basic
import TradingGateway.BrokerCore.OrderPathStores

/-! The caches of a running strategy: the orders it sees, the ones it owns, and the trades of each
order, kept apart until the first event of their order. -/

set_option autoImplicit false

namespace TradingGateway.BrokerCore.RuntimeState

open Identifiers Orders OrderPathStores

structure RuntimeOrderEvent where
  orderId : BrokerOrderId
  clientOrderId : Option ClientOrderId
  symbol : Option String
  exchange : Option String
  status : Option String
  side : Option String
  orderType : Option String
  sourceTs : Option DateTimeUtc
deriving DecidableEq

structure RuntimeTradeEvent where
  tradeId : BrokerTradeId
  orderId : BrokerOrderId
  clientOrderId : Option ClientOrderId
  symbol : Option String
  exchange : Option String
  side : Option String
  sourceTs : Option DateTimeUtc
deriving DecidableEq

inductive RuntimeOrderEventLifecycle where
  | active
  | terminal
  | unknown
deriving DecidableEq

/-- `status.trim().to_ascii_lowercase()`. -/
def normalizedStatus (status : String) : String :=
  let trimmed := ((status.toList.dropWhile (IsWhitespace ·)).reverse.dropWhile (IsWhitespace ·)).reverse
  String.ofList (trimmed.map Char.toLower)

def classifyRuntimeOrderStatus : Option String → RuntimeOrderEventLifecycle
  | none => .unknown
  | some status =>
      if normalizedStatus status ∈ ["new", "accepted", "submitted", "working", "active", "partially_filled",
        "partially-filled", "partial"] then .active
      else if normalizedStatus status ∈ ["filled", "done", "cancelled", "canceled", "rejected", "expired",
        "terminal"] then .terminal
      else .unknown

inductive RuntimeOrderAttribution where
  | runtimeOwned
  | adoptedFromBootstrap
  | observedAccountWide
  | unknownOrOrphan
deriving DecidableEq

def RuntimeOrderAttribution.isOwned : RuntimeOrderAttribution → Bool
  | .runtimeOwned | .adoptedFromBootstrap => true
  | .observedAccountWide | .unknownOrOrphan => false

inductive RuntimeCacheApplyDisposition where
  | inserted
  | updated
  | duplicateIdempotent
deriving DecidableEq

inductive RuntimeCacheLifecycleBlocker where
  | unknownOrderLifecycle
  | unknownOrOrphanOwnership
deriving DecidableEq

inductive RuntimeTradeCacheTarget where
  | ownedOrder
  | knownOrder
  | pendingOrderEvent
deriving DecidableEq

structure RuntimeCacheOrderApplyOutcome where
  brokerOrderIdLen : Nat
  attribution : RuntimeOrderAttribution
  disposition : RuntimeCacheApplyDisposition
  lifecycle : RuntimeOrderEventLifecycle
  lifecycleBlocker : Option RuntimeCacheLifecycleBlocker
  trackedOrderCount : Nat
  observedOrderCount : Nat
  reconciledPendingTradeCount : Nat
deriving DecidableEq

structure RuntimeCacheTradeApplyOutcome where
  brokerOrderIdLen : Nat
  target : RuntimeTradeCacheTarget
  disposition : RuntimeCacheApplyDisposition
deriving DecidableEq

structure RuntimeCaches where
  orders : BrokerOrderId → Option RuntimeOrderEvent
  ownedOrderIds : Finset BrokerOrderId
  observedOrderIds : Finset BrokerOrderId
  tradesByOrderId : BrokerOrderId → Option (List RuntimeTradeEvent)
  pendingTradesByOrderId : BrokerOrderId → Option (List RuntimeTradeEvent)

def RuntimeCaches.new : RuntimeCaches where
  orders := fun _ => none
  ownedOrderIds := ∅
  observedOrderIds := ∅
  tradesByOrderId := fun _ => none
  pendingTradesByOrderId := fun _ => none

/-- Trades are told apart by their own id and that of their order. -/
def SameTrade (left right : RuntimeTradeEvent) : Prop :=
  left.tradeId = right.tradeId ∧ left.orderId = right.orderId

instance (left right : RuntimeTradeEvent) : Decidable (SameTrade left right) :=
  inferInstanceAs (Decidable (_ ∧ _))

def pushTradeDedup (trades : List RuntimeTradeEvent) (trade : RuntimeTradeEvent) : List RuntimeTradeEvent × Bool :=
  if trades.any (SameTrade · trade) then (trades, false) else (trades ++ [trade], true)

def reconciled (known pending : Option (List RuntimeTradeEvent)) : Option (List RuntimeTradeEvent) :=
  (pending.getD []).foldl (fun trades trade => some (pushTradeDedup (trades.getD []) trade).1) known

namespace RuntimeCaches

def applyOrderEventWithAttribution (caches : RuntimeCaches) (event : RuntimeOrderEvent)
    (attribution : RuntimeOrderAttribution) : RuntimeCaches × RuntimeCacheOrderApplyOutcome :=
  let orderId := event.orderId
  let lifecycle := classifyRuntimeOrderStatus event.status
  let lifecycleBlocker :=
    if lifecycle = .unknown then some .unknownOrderLifecycle
    else if attribution = .unknownOrOrphan then some .unknownOrOrphanOwnership
    else none
  let disposition :=
    match caches.orders orderId with
    | some existing => if existing = event then .duplicateIdempotent else .updated
    | none => .inserted
  let pendingTrades := caches.pendingTradesByOrderId orderId
  let applied : RuntimeCaches :=
    { orders :=
        if disposition = .duplicateIdempotent then caches.orders
        else Function.update caches.orders orderId (some event)
      observedOrderIds := insert orderId caches.observedOrderIds
      ownedOrderIds := if attribution.isOwned then insert orderId caches.ownedOrderIds else caches.ownedOrderIds
      tradesByOrderId := Function.update caches.tradesByOrderId orderId
        (reconciled (caches.tradesByOrderId orderId) pendingTrades)
      pendingTradesByOrderId := Function.update caches.pendingTradesByOrderId orderId none }
  (applied, {
    brokerOrderIdLen := orderId.value.utf8ByteSize
    attribution := attribution
    disposition := disposition
    lifecycle := lifecycle
    lifecycleBlocker := lifecycleBlocker
    trackedOrderCount := applied.ownedOrderIds.card
    observedOrderCount := applied.observedOrderIds.card
    reconciledPendingTradeCount := (pendingTrades.getD []).length })

def tradeTarget (caches : RuntimeCaches) (orderId : BrokerOrderId) : RuntimeTradeCacheTarget :=
  if orderId ∈ caches.ownedOrderIds then .ownedOrder
  else if (caches.orders orderId).isSome ∨ orderId ∈ caches.observedOrderIds then .knownOrder
  else .pendingOrderEvent

def applyTradeEvent (caches : RuntimeCaches) (event : RuntimeTradeEvent) :
    RuntimeCaches × RuntimeCacheTradeApplyOutcome :=
  let orderId := event.orderId
  let target := caches.tradeTarget orderId
  let trades :=
    if target = .pendingOrderEvent then caches.pendingTradesByOrderId orderId else caches.tradesByOrderId orderId
  let pushed := pushTradeDedup (trades.getD []) event
  let applied : RuntimeCaches :=
    if target = .pendingOrderEvent then
      { caches with
        pendingTradesByOrderId := Function.update caches.pendingTradesByOrderId orderId (some pushed.1) }
    else { caches with tradesByOrderId := Function.update caches.tradesByOrderId orderId (some pushed.1) }
  (applied, {
    brokerOrderIdLen := orderId.value.utf8ByteSize
    target := target
    disposition := if pushed.2 then .inserted else .duplicateIdempotent })

end RuntimeCaches

inductive CacheCall where
  | order (event : RuntimeOrderEvent) (attribution : RuntimeOrderAttribution)
  | trade (event : RuntimeTradeEvent)
deriving DecidableEq

def applyCall (caches : RuntimeCaches) : CacheCall → RuntimeCaches
  | .order event attribution => (caches.applyOrderEventWithAttribution event attribution).1
  | .trade event => (caches.applyTradeEvent event).1

def cachesAfter (calls : List CacheCall) : RuntimeCaches :=
  calls.foldl applyCall .new

end TradingGateway.BrokerCore.RuntimeState
