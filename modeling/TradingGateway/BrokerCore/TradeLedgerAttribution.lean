import Mathlib.Data.Multiset.Dedup
import Mathlib.Data.Multiset.MapFold
import TradingGateway.BrokerCore.TradeLedger

/-! Where each fill of a sequence of calls ends: attributed, observed or waiting for its order. -/

set_option autoImplicit false

namespace TradingGateway.BrokerCore

open Identifiers

def LedgerCall.order? : LedgerCall → Option OrderRecord
  | .recordOrder record => some record
  | .recordFill _ => none

def LedgerCall.fill? : LedgerCall → Option TradeRecord
  | .recordOrder _ => none
  | .recordFill trade => some trade

def ordersOf (calls : List LedgerCall) : List OrderRecord :=
  calls.filterMap LedgerCall.order?

def fillsOf (calls : List LedgerCall) : List TradeRecord :=
  calls.filterMap LedgerCall.fill?

def OrdersOnce (calls : List LedgerCall) : Prop :=
  ((ordersOf calls).map (·.orderId)).Nodup

/-- Two fills that carry one trade id for one order are one fill. -/
def FillsAgree (calls : List LedgerCall) : Prop :=
  ∀ left ∈ fillsOf calls, ∀ right ∈ fillsOf calls, left.tradeId ≠ none → left.tradeId = right.tradeId →
    left.orderId = right.orderId → left = right

/-- The order of this id is recorded in these calls, as the strategy's own or as another's. -/
def Attributed (calls : List LedgerCall) (owned : Bool) (orderId : BrokerOrderId) : Prop :=
  ∃ order ∈ ordersOf calls, order.orderId = orderId ∧ order.owned = owned

instance (calls : List LedgerCall) (owned : Bool) (orderId : BrokerOrderId) :
    Decidable (Attributed calls owned orderId) :=
  inferInstanceAs (Decidable (∃ order ∈ ordersOf calls, _))

def Unrecorded (calls : List LedgerCall) (orderId : BrokerOrderId) : Prop :=
  ∀ order ∈ ordersOf calls, order.orderId ≠ orderId

instance (calls : List LedgerCall) (orderId : BrokerOrderId) : Decidable (Unrecorded calls orderId) :=
  inferInstanceAs (Decidable (∀ order ∈ ordersOf calls, _))

/-- The fills of the calls: each identified one once, the others as often as they came. -/
def distinctFills (calls : List LedgerCall) : Multiset TradeRecord :=
  let fills : Multiset TradeRecord := fillsOf calls
  (fills.filter fun trade => trade.tradeId = none) + (fills.filter fun trade => trade.tradeId ≠ none).dedup

def TradeRecord.withOwner (owned : Bool) (trade : TradeRecord) : TradeRecord :=
  { trade with owned := owned }

def TradeRecord.Same (left right : TradeRecord) : Prop :=
  left.tradeId = right.tradeId ∧ left.orderId = right.orderId

instance (left right : TradeRecord) : Decidable (left.Same right) :=
  inferInstanceAs (Decidable (_ ∧ _))

def TradeLedger.pendingOf (ledger : TradeLedger) (orderId : BrokerOrderId) : List TradeRecord :=
  (ledger.pendingTrades orderId).getD []

structure Settled (calls : List LedgerCall) (ledger : TradeLedger) : Prop where
  trades : (ledger.trades : Multiset TradeRecord) =
    ((distinctFills calls).filter fun trade => Attributed calls true trade.orderId).map (·.withOwner true)
  observed : (ledger.observedTrades : Multiset TradeRecord) =
    ((distinctFills calls).filter fun trade => Attributed calls false trade.orderId).map (·.withOwner false)
  pending : ∀ orderId, (ledger.pendingOf orderId : Multiset TradeRecord) =
    (distinctFills calls).filter fun trade => trade.orderId = orderId ∧ Unrecorded calls orderId
  awaiting : ∀ orderId, ⟨.pendingExactBrokerOrderMatch, orderId⟩ ∈ ledger.activeBlockers ↔
    ledger.pendingOf orderId ≠ []
  foreign : ∀ orderId, ⟨.observedOrderNotStrategyOwned, orderId⟩ ∈ ledger.activeBlockers ↔
    ∃ trade ∈ ledger.observedTrades, trade.orderId = orderId
  once : ledger.activeBlockers.Nodup

structure Tracked (calls : List LedgerCall) (ledger : TradeLedger) : Prop extends Settled calls ledger where
  orders : ∀ orderId order, ledger.orders orderId = some order ↔
    order ∈ ordersOf calls ∧ order.orderId = orderId
  seen : ∀ key, key ∈ ledger.seenTradeKeys ↔
    ∃ trade, .recordFill trade ∈ calls ∧ trade.tradeId = some key.tradeId ∧ trade.orderId = key.orderId

/-! ### Calls, one at a time -/

section Calls

variable {calls : List LedgerCall} {record : OrderRecord} {trade : TradeRecord} {owned : Bool}
  {orderId : BrokerOrderId}

theorem mem_fills : trade ∈ fillsOf calls ↔ .recordFill trade ∈ calls := by
  rw [fillsOf, List.mem_filterMap]
  constructor
  · rintro ⟨call, member, filled⟩
    cases call with
    | recordOrder record => cases filled
    | recordFill other =>
        cases filled
        exact member
  · intro member
    exact ⟨_, member, rfl⟩

@[simp] theorem orders_fill : ordersOf (calls ++ [.recordFill trade]) =
    ordersOf calls := by
  simp [ordersOf, LedgerCall.order?]

@[simp] theorem orders_order : ordersOf (calls ++ [.recordOrder record]) =
    ordersOf calls ++ [record] := by
  simp [ordersOf, LedgerCall.order?]

@[simp] theorem attributed_fill : Attributed (calls ++ [.recordFill trade]) owned orderId ↔
    Attributed calls owned orderId := by
  simp only [Attributed, orders_fill]

@[simp] theorem unrecorded_fill : Unrecorded (calls ++ [.recordFill trade]) orderId ↔
    Unrecorded calls orderId := by
  simp only [Unrecorded, orders_fill]

theorem attributed_order : Attributed (calls ++ [.recordOrder record]) owned orderId ↔
    Attributed calls owned orderId ∨ record.orderId = orderId ∧ record.owned = owned := by
  simp only [Attributed, orders_order, List.mem_append, List.mem_singleton]
  constructor
  · rintro ⟨order, member | rfl, same⟩
    · exact .inl ⟨order, member, same⟩
    · exact .inr same
  · rintro (⟨order, member, same⟩ | same)
    · exact ⟨order, .inl member, same⟩
    · exact ⟨record, .inr rfl, same⟩

theorem unrecorded_order : Unrecorded (calls ++ [.recordOrder record]) orderId ↔
    Unrecorded calls orderId ∧ record.orderId ≠ orderId := by
  simp only [Unrecorded, orders_order, List.mem_append, List.mem_singleton]
  constructor
  · intro all
    exact ⟨fun order member => all order (.inl member), all record (.inr rfl)⟩
  · rintro ⟨all, other⟩ order (member | rfl)
    · exact all order member
    · exact other

theorem not_attributed_of_unrecorded (fresh : Unrecorded calls orderId) : ¬ Attributed calls owned orderId := by
  rintro ⟨order, member, same, -⟩
  exact fresh order member same

/-- An order is recorded as somebody's or not at all. -/
theorem attributed_or_unrecorded (calls : List LedgerCall) (orderId : BrokerOrderId) :
    Attributed calls true orderId ∨ Attributed calls false orderId ∨ Unrecorded calls orderId := by
  by_cases fresh : Unrecorded calls orderId
  · exact .inr (.inr fresh)
  · simp only [Unrecorded, not_forall, not_not] at fresh
    obtain ⟨order, member, same⟩ := fresh
    cases owned : order.owned with
    | true => exact .inl ⟨order, member, same, owned⟩
    | false => exact .inr (.inl ⟨order, member, same, owned⟩)

theorem OrdersOnce.front {call : LedgerCall} (once : OrdersOnce (calls ++ [call])) : OrdersOnce calls := by
  unfold OrdersOnce at once ⊢
  rw [ordersOf, List.filterMap_append, List.map_append] at once
  exact once.of_append_left

theorem OrdersOnce.unrecorded (once : OrdersOnce (calls ++ [.recordOrder record])) :
    Unrecorded calls record.orderId := by
  intro order member same
  unfold OrdersOnce at once
  rw [orders_order, List.map_append, List.nodup_append] at once
  exact once.2.2 order.orderId (List.mem_map_of_mem member) record.orderId (by simp) same

/-- One order id is recorded with one owner. -/
theorem OrdersOnce.owner (once : OrdersOnce calls) (mine : Attributed calls true orderId) :
    ¬ Attributed calls false orderId := by
  rintro ⟨other, otherMember, otherSame, otherOwned⟩
  obtain ⟨order, member, same, owned⟩ := mine
  have equal : order = other := List.inj_on_of_nodup_map once member otherMember (same.trans otherSame.symm)
  rw [equal, otherOwned] at owned
  cases owned

theorem FillsAgree.front {call : LedgerCall} (agree : FillsAgree (calls ++ [call])) : FillsAgree calls := by
  intro left leftMember right rightMember
  refine agree left ?_ right ?_
  · exact mem_fills.2 (List.mem_append_left _ (mem_fills.1 leftMember))
  · exact mem_fills.2 (List.mem_append_left _ (mem_fills.1 rightMember))

/-- An identified fill that was there before adds nothing. -/
theorem distinctFills_again (identified : trade.tradeId ≠ none) (before : .recordFill trade ∈ calls) :
    distinctFills (calls ++ [.recordFill trade]) = distinctFills calls := by
  have member : trade ∈ (fillsOf calls : Multiset TradeRecord).filter
      fun trade => trade.tradeId ≠ none := by
    rw [Multiset.mem_filter, Multiset.mem_coe]
    exact ⟨mem_fills.2 before, identified⟩
  have fills : (fillsOf (calls ++ [.recordFill trade]) : Multiset TradeRecord) =
      trade ::ₘ (fillsOf calls : Multiset TradeRecord) := by
    rw [fillsOf, List.filterMap_append, ← Multiset.coe_add, add_comm]
    rfl
  unfold distinctFills
  simp only [fills]
  rw [Multiset.filter_cons, Multiset.filter_cons, if_neg identified, if_pos identified, zero_add,
    Multiset.singleton_add, Multiset.dedup_cons_of_mem member]

/-- Any other fill counts once more. -/
theorem distinctFills_new (new : trade.tradeId = none ∨ .recordFill trade ∉ calls) :
    distinctFills (calls ++ [.recordFill trade]) = trade ::ₘ distinctFills calls := by
  have fills : (fillsOf (calls ++ [.recordFill trade]) : Multiset TradeRecord) =
      trade ::ₘ (fillsOf calls : Multiset TradeRecord) := by
    rw [fillsOf, List.filterMap_append, ← Multiset.coe_add, add_comm]
    rfl
  unfold distinctFills
  simp only [fills]
  by_cases identified : trade.tradeId = none
  · rw [Multiset.filter_cons, Multiset.filter_cons, if_pos identified, if_neg (not_not.2 identified), zero_add,
      Multiset.singleton_add, Multiset.cons_add]
  · have absent : trade ∉ (fillsOf calls : Multiset TradeRecord).filter
        fun trade => trade.tradeId ≠ none := by
      rw [Multiset.mem_filter, Multiset.mem_coe, mem_fills]
      rintro ⟨before, -⟩
      exact new.elim identified fun fresh => fresh before
    rw [Multiset.filter_cons, Multiset.filter_cons, if_neg identified, if_pos identified, zero_add,
      Multiset.singleton_add, Multiset.dedup_cons_of_notMem absent, Multiset.add_cons]

@[simp] theorem distinctFills_order : distinctFills (calls ++ [.recordOrder record]) = distinctFills calls := by
  have fills : fillsOf (calls ++ [.recordOrder record]) = fillsOf calls := by
    simp [fillsOf, LedgerCall.fill?]
  unfold distinctFills
  rw [fills]

end Calls

/-! ### What a call does to the collections -/

namespace TradeLedger

variable {ledger : TradeLedger} {kind : TradeLedgerBlockerKind} {orderId : BrokerOrderId}
  {blocker : TradeLedgerBlocker}

/-- Activating a blocker touches the blockers only. -/
theorem activateBlocker_keeps (ledger : TradeLedger) (kind : TradeLedgerBlockerKind) (orderId : BrokerOrderId) :
    (ledger.activateBlocker kind orderId).orders = ledger.orders ∧
      (ledger.activateBlocker kind orderId).trades = ledger.trades ∧
      (ledger.activateBlocker kind orderId).observedTrades = ledger.observedTrades ∧
      (ledger.activateBlocker kind orderId).pendingTradesByOrderId = ledger.pendingTradesByOrderId ∧
      (ledger.activateBlocker kind orderId).seenTradeKeys = ledger.seenTradeKeys := by
  unfold activateBlocker
  split <;> exact ⟨rfl, rfl, rfl, rfl, rfl⟩

theorem mem_activateBlocker : blocker ∈ (ledger.activateBlocker kind orderId).activeBlockers ↔
    blocker ∈ ledger.activeBlockers ∨ blocker = ⟨kind, orderId⟩ := by
  unfold activateBlocker
  split
  case isTrue present =>
    constructor
    · exact .inl
    · rintro (member | rfl)
      · exact member
      · obtain ⟨⟨otherKind, otherId⟩, member, same⟩ := List.any_eq_true.1 present
        obtain ⟨rfl, rfl⟩ := of_decide_eq_true same
        exact member
  case isFalse absent =>
    simp only [List.mem_append, List.mem_singleton]

theorem nodup_activateBlocker (once : ledger.activeBlockers.Nodup) :
    (ledger.activateBlocker kind orderId).activeBlockers.Nodup := by
  unfold activateBlocker
  split
  case isTrue => exact once
  case isFalse absent =>
    refine List.nodup_append.2 ⟨once, List.nodup_singleton _, ?_⟩
    intro left leftMember right rightMember same
    rw [List.mem_singleton] at rightMember
    subst rightMember
    subst same
    exact absent (List.any_eq_true.2 ⟨_, leftMember, decide_eq_true ⟨rfl, rfl⟩⟩)

theorem mem_resolveActiveBlocker : blocker ∈ (ledger.resolveActiveBlocker kind orderId).activeBlockers ↔
    blocker ∈ ledger.activeBlockers ∧ blocker ≠ ⟨kind, orderId⟩ := by
  obtain ⟨otherKind, otherId⟩ := blocker
  simp [resolveActiveBlocker, imp_iff_not_or]

/-- An order of the strategy's own takes its waiting trades over in their order of arrival. -/
theorem settlePending_owned (pending : List TradeRecord) (ledger : TradeLedger) :
    let settled := pending.foldl (settlePending orderId true) ledger
    settled.trades = ledger.trades ++ pending.map (·.withOwner true) ∧ settled.orders = ledger.orders ∧
      settled.observedTrades = ledger.observedTrades ∧
      settled.pendingTradesByOrderId = ledger.pendingTradesByOrderId ∧
      settled.activeBlockers = ledger.activeBlockers ∧ settled.seenTradeKeys = ledger.seenTradeKeys := by
  induction pending generalizing ledger with
  | nil => simp
  | cons trade pending ih =>
      obtain ⟨trades, orders, observed, waiting, blockers, seen⟩ := ih (ledger.settlePending orderId true trade)
      refine ⟨?_, orders, observed, waiting, blockers, seen⟩
      rw [List.foldl_cons, trades]
      simp [settlePending, applyOwnedFill, TradeRecord.withOwner]

/-- Another's order leaves its waiting trades observed, and a blocker says so. -/
theorem settlePending_foreign (pending : List TradeRecord) (ledger : TradeLedger) :
    let settled := pending.foldl (settlePending orderId false) ledger
    settled.observedTrades = ledger.observedTrades ++ pending.map (·.withOwner false) ∧
      settled.orders = ledger.orders ∧ settled.trades = ledger.trades ∧
      settled.pendingTradesByOrderId = ledger.pendingTradesByOrderId ∧
      settled.seenTradeKeys = ledger.seenTradeKeys ∧
      (∀ blocker, blocker ∈ settled.activeBlockers ↔ blocker ∈ ledger.activeBlockers ∨
        pending ≠ [] ∧ blocker = ⟨.observedOrderNotStrategyOwned, orderId⟩) ∧
      (ledger.activeBlockers.Nodup → settled.activeBlockers.Nodup) := by
  induction pending generalizing ledger with
  | nil => simp
  | cons trade pending ih =>
      obtain ⟨observed, orders, trades, waiting, seen, blockers, once⟩ :=
        ih (ledger.settlePending orderId false trade)
      obtain ⟨sameOrders, sameTrades, sameObserved, sameWaiting, sameSeen⟩ := activateBlocker_keeps
        { ledger with observedTrades := ledger.observedTrades ++ [trade.withOwner false] }
        .observedOrderNotStrategyOwned orderId
      refine ⟨?_, orders.trans sameOrders, trades.trans sameTrades, waiting.trans sameWaiting,
        seen.trans sameSeen, ?_, fun nodup => once (nodup_activateBlocker nodup)⟩
      · refine observed.trans ?_
        rw [show (ledger.settlePending orderId false trade).observedTrades = _ from sameObserved,
          List.append_assoc]
        rfl
      · intro blocker
        refine (blockers blocker).trans ?_
        rw [show blocker ∈ (ledger.settlePending orderId false trade).activeBlockers ↔ _ from mem_activateBlocker]
        constructor
        · rintro ((member | same) | ⟨-, same⟩)
          · exact .inl member
          · exact .inr ⟨List.cons_ne_nil _ _, same⟩
          · exact .inr ⟨List.cons_ne_nil _ _, same⟩
        · rintro (member | ⟨-, same⟩)
          · exact .inl (.inl member)
          · exact .inl (.inr same)

structure Marked (ledger : TradeLedger) (trade : TradeRecord) (marked : TradeLedger) : Prop where
  orders : marked.orders = ledger.orders
  trades : marked.trades = ledger.trades
  observedTrades : marked.observedTrades = ledger.observedTrades
  pendingTradesByOrderId : marked.pendingTradesByOrderId = ledger.pendingTradesByOrderId
  activeBlockers : marked.activeBlockers = ledger.activeBlockers
  seen : ∀ key, key ∈ marked.seenTradeKeys ↔
    key ∈ ledger.seenTradeKeys ∨ trade.tradeId = some key.tradeId ∧ trade.orderId = key.orderId
  new : ∀ tradeId, trade.tradeId = some tradeId → ⟨tradeId, trade.orderId⟩ ∉ ledger.seenTradeKeys

/-- What `record_fill` can do. -/
inductive FillPlaced (ledger : TradeLedger) (trade : TradeRecord) : TradeLedger → Prop where
  | duplicate {tradeId : BrokerTradeId} (identified : trade.tradeId = some tradeId)
      (seen : ⟨tradeId, trade.orderId⟩ ∈ ledger.seenTradeKeys) : FillPlaced ledger trade ledger
  | attributed {marked : TradeLedger} {order : OrderRecord} (marks : Marked ledger trade marked)
      (found : marked.orders trade.orderId = some order) (owned : order.owned = true) :
      FillPlaced ledger trade (marked.applyOwnedFill (trade.withOwner true))
  | observed {marked : TradeLedger} {order : OrderRecord} (marks : Marked ledger trade marked)
      (found : marked.orders trade.orderId = some order) (foreign : order.owned = false) :
      FillPlaced ledger trade (marked.observe trade.orderId (trade.withOwner false))
  | waiting {marked : TradeLedger} (marks : Marked ledger trade marked)
      (absent : marked.orders trade.orderId = none) :
      FillPlaced ledger trade
        ({ marked with
          pendingTradesByOrderId := Function.update marked.pendingTradesByOrderId trade.orderId
            (some (marked.pendingOf trade.orderId ++ [trade])) }.activateBlocker
          .pendingExactBrokerOrderMatch trade.orderId)

private theorem placed_of_marked {marked : TradeLedger} {trade : TradeRecord}
    (mark : ledger.markDuplicateIfSeen trade = (false, marked)) (marks : Marked ledger trade marked) :
    FillPlaced ledger trade (ledger.recordFill trade).1 := by
  unfold recordFill
  simp only [mark, Bool.false_eq_true, if_false]
  cases found : marked.orders trade.orderId with
  | none => exact .waiting marks found
  | some order =>
      cases owned : order.owned with
      | true =>
          simp only [owned, if_true]
          exact .attributed marks found owned
      | false =>
          simp only [owned, Bool.false_eq_true, if_false]
          exact .observed marks found owned

theorem recordFill_spec (ledger : TradeLedger) (trade : TradeRecord) :
    FillPlaced ledger trade (ledger.recordFill trade).1 := by
  cases identified : trade.tradeId with
  | none =>
      have mark : ledger.markDuplicateIfSeen trade = (false, ledger) := by
        simp only [markDuplicateIfSeen, identified]
      refine placed_of_marked mark ⟨rfl, rfl, rfl, rfl, rfl, ?_, ?_⟩
      · intro key
        simp [identified]
      · intro tradeId same
        rw [identified] at same
        cases same
  | some tradeId =>
      by_cases seen : (⟨tradeId, trade.orderId⟩ : TradeLedgerTradeKey) ∈ ledger.seenTradeKeys
      · have mark : ledger.markDuplicateIfSeen trade = (true, ledger) := by
          simp only [markDuplicateIfSeen, identified, if_pos seen]
        have same : (ledger.recordFill trade).1 = ledger := by
          unfold recordFill
          simp only [mark, if_true]
        rw [same]
        exact .duplicate identified seen
      · have mark : ledger.markDuplicateIfSeen trade =
            (false, { ledger with seenTradeKeys := ⟨tradeId, trade.orderId⟩ :: ledger.seenTradeKeys }) := by
          simp only [markDuplicateIfSeen, identified, if_neg seen]
        refine placed_of_marked mark ⟨rfl, rfl, rfl, rfl, rfl, ?_, ?_⟩
        · rintro ⟨otherTrade, otherOrder⟩
          rw [identified, List.mem_cons, TradeLedgerTradeKey.mk.injEq, Option.some.injEq, or_comm]
          exact or_congr_right (and_congr eq_comm eq_comm)
        · intro other same
          rw [identified] at same
          cases same
          exact seen

/-- The ledger that has an order recorded and its waiting trades taken out, their blocker resolved. -/
structure Taken (ledger : TradeLedger) (record : OrderRecord) (taken : TradeLedger) : Prop where
  orders : taken.orders = Function.update ledger.orders record.orderId (some record)
  trades : taken.trades = ledger.trades
  observedTrades : taken.observedTrades = ledger.observedTrades
  pendingTradesByOrderId :
    taken.pendingTradesByOrderId = Function.update ledger.pendingTradesByOrderId record.orderId none
  seenTradeKeys : taken.seenTradeKeys = ledger.seenTradeKeys
  blockers : ∀ blocker, blocker ∈ taken.activeBlockers ↔ blocker ∈ ledger.activeBlockers ∧
    (ledger.pendingOf record.orderId ≠ [] → blocker ≠ ⟨.pendingExactBrokerOrderMatch, record.orderId⟩)
  once : ledger.activeBlockers.Nodup → taken.activeBlockers.Nodup

theorem recordOrder_spec (ledger : TradeLedger) (record : OrderRecord) :
    ∃ taken, Taken ledger record taken ∧ (ledger.recordOrder record).1 =
      (ledger.pendingOf record.orderId).foldl (settlePending record.orderId record.owned) taken := by
  let removed := { ledger with
    orders := Function.update ledger.orders record.orderId (some record)
    pendingTradesByOrderId := Function.update ledger.pendingTradesByOrderId record.orderId none }
  by_cases empty : ledger.pendingOf record.orderId = []
  · refine ⟨removed, ⟨rfl, rfl, rfl, rfl, rfl, fun blocker => ?_, id⟩, congrArg (List.foldl _ · _) (if_pos empty)⟩
    exact (and_iff_left fun waiting => absurd empty waiting).symm
  · refine ⟨removed.resolveActiveBlocker .pendingExactBrokerOrderMatch record.orderId,
      ⟨rfl, rfl, rfl, rfl, rfl, fun blocker => ?_, fun once => once.filter _⟩,
      congrArg (List.foldl _ · _) (if_neg empty)⟩
    exact mem_resolveActiveBlocker.trans (and_congr_right' ⟨fun other _ => other, fun other => other empty⟩)

end TradeLedger

/-! ### One call keeps the collections what they are -/

section Steps

variable {calls : List LedgerCall} {ledger : TradeLedger} {record : OrderRecord} {trade : TradeRecord}

/-- A recorded order claims the fills of its id, which nobody had. -/
theorem filter_attributed_order (fresh : Unrecorded calls record.orderId) (owned : Bool) (fills : Multiset TradeRecord) :
    (fills.filter fun trade => Attributed (calls ++ [.recordOrder record]) owned trade.orderId) =
      (fills.filter fun trade => Attributed calls owned trade.orderId) +
        if record.owned = owned then fills.filter fun trade => trade.orderId = record.orderId else 0 := by
  split
  case isTrue same =>
    have apart : (fills.filter fun trade => Attributed calls owned trade.orderId ∧ trade.orderId = record.orderId) = 0 := by
      refine Multiset.filter_eq_nil.2 ?_
      rintro trade - ⟨claimed, mine⟩
      exact not_attributed_of_unrecorded fresh (mine ▸ claimed)
    rw [Multiset.filter_add_filter, apart, add_zero]
    refine Multiset.filter_congr ?_
    intro trade _
    rw [attributed_order]
    constructor
    · rintro (before | ⟨mine, -⟩)
      · exact .inl before
      · exact .inr mine.symm
    · rintro (before | mine)
      · exact .inl before
      · exact .inr ⟨mine.symm, same⟩
  case isFalse other =>
    rw [add_zero]
    refine Multiset.filter_congr ?_
    intro trade _
    rw [attributed_order]
    constructor
    · rintro (before | ⟨-, same⟩)
      · exact before
      · exact absurd same other
    · exact .inl

theorem coe_concat (front : List TradeRecord) (last : TradeRecord) :
    ((front ++ [last] : List TradeRecord) : Multiset TradeRecord) = last ::ₘ (front : Multiset TradeRecord) :=
  Multiset.coe_eq_coe.2 (List.perm_append_singleton last front)

/-- A fill that was seen changes nothing. -/
theorem Tracked.again (tracked : Tracked calls ledger) (identified : trade.tradeId ≠ none)
    (before : .recordFill trade ∈ calls) : Tracked (calls ++ [.recordFill trade]) ledger where
  trades := by simpa only [distinctFills_again identified before, attributed_fill] using tracked.trades
  observed := by simpa only [distinctFills_again identified before, attributed_fill] using tracked.observed
  pending := by simpa only [distinctFills_again identified before, unrecorded_fill] using tracked.pending
  awaiting := tracked.awaiting
  foreign := tracked.foreign
  once := tracked.once
  orders := by simpa only [orders_fill] using tracked.orders
  seen := by
    intro key
    rw [tracked.seen key]
    constructor
    · rintro ⟨other, member, same⟩
      exact ⟨other, List.mem_append_left _ member, same⟩
    · rintro ⟨other, member, same⟩
      rcases List.mem_append.1 member with member | member
      · exact ⟨other, member, same⟩
      · cases List.mem_singleton.1 member
        exact ⟨trade, before, same⟩

variable {marked : TradeLedger}

theorem Settled.of_marked (settled : Settled calls ledger) (marks : ledger.Marked trade marked) :
    Settled calls marked := by
  have pendingOf : marked.pendingOf = ledger.pendingOf := by
    funext orderId
    simp only [TradeLedger.pendingOf, TradeLedger.pendingTrades, marks.pendingTradesByOrderId]
  constructor
  · rw [marks.trades, settled.trades]
  · rw [marks.observedTrades, settled.observed]
  · rw [pendingOf]
    exact settled.pending
  · rw [pendingOf, marks.activeBlockers]
    exact settled.awaiting
  · rw [marks.activeBlockers, marks.observedTrades]
    exact settled.foreign
  · rw [marks.activeBlockers]
    exact settled.once

section NewFill

variable (new : distinctFills (calls ++ [.recordFill trade]) = trade ::ₘ distinctFills calls)
include new

theorem filter_attributed_fill (owned : Bool) :
    ((distinctFills (calls ++ [.recordFill trade])).filter fun other =>
        Attributed (calls ++ [.recordFill trade]) owned other.orderId) =
      (if Attributed calls owned trade.orderId then {trade} else 0) +
        (distinctFills calls).filter fun other => Attributed calls owned other.orderId := by
  simp only [new, attributed_fill]
  exact Multiset.filter_cons _

theorem filter_unrecorded_fill (orderId : BrokerOrderId) :
    ((distinctFills (calls ++ [.recordFill trade])).filter fun other =>
        other.orderId = orderId ∧ Unrecorded (calls ++ [.recordFill trade]) orderId) =
      (if trade.orderId = orderId ∧ Unrecorded calls orderId then {trade} else 0) +
        (distinctFills calls).filter fun other => other.orderId = orderId ∧ Unrecorded calls orderId := by
  simp only [new, unrecorded_fill]
  exact Multiset.filter_cons _

/-- A fill of an order of the strategy's own joins the trades. -/
theorem Settled.attributed (settled : Settled calls marked) (mine : Attributed calls true trade.orderId)
    (notForeign : ¬ Attributed calls false trade.orderId) :
    Settled (calls ++ [.recordFill trade]) (marked.applyOwnedFill (trade.withOwner true)) where
  trades := by
    rw [filter_attributed_fill new, if_pos mine, Multiset.map_add, Multiset.map_singleton,
      Multiset.singleton_add, ← settled.trades]
    exact coe_concat marked.trades _
  observed := by
    rw [filter_attributed_fill new, if_neg notForeign, zero_add]
    exact settled.observed
  pending := by
    intro orderId
    have recorded : ¬ (trade.orderId = orderId ∧ Unrecorded calls orderId) := by
      rintro ⟨rfl, fresh⟩
      exact not_attributed_of_unrecorded fresh mine
    rw [filter_unrecorded_fill new, if_neg recorded, zero_add]
    exact settled.pending orderId
  awaiting := settled.awaiting
  foreign := settled.foreign
  once := settled.once

/-- A fill of another's order is observed, and the order blocked. -/
theorem Settled.observe (settled : Settled calls marked) (foreign : Attributed calls false trade.orderId)
    (notMine : ¬ Attributed calls true trade.orderId) :
    Settled (calls ++ [.recordFill trade]) (marked.observe trade.orderId (trade.withOwner false)) := by
  obtain ⟨-, sameTrades, sameObserved, sameWaiting, -⟩ := TradeLedger.activateBlocker_keeps
    { marked with observedTrades := marked.observedTrades ++ [trade.withOwner false] }
    .observedOrderNotStrategyOwned trade.orderId
  have pendingOf : (marked.observe trade.orderId (trade.withOwner false)).pendingOf = marked.pendingOf := by
    funext orderId
    exact congrArg (fun pending => (pending orderId).getD []) sameWaiting
  constructor
  · rw [filter_attributed_fill new, if_neg notMine, zero_add, ← settled.trades]
    exact congrArg _ sameTrades
  · rw [filter_attributed_fill new, if_pos foreign, Multiset.map_add, Multiset.map_singleton,
      Multiset.singleton_add, ← settled.observed]
    exact (congrArg _ sameObserved).trans (coe_concat marked.observedTrades _)
  · intro orderId
    have recorded : ¬ (trade.orderId = orderId ∧ Unrecorded calls orderId) := by
      rintro ⟨rfl, fresh⟩
      exact not_attributed_of_unrecorded fresh foreign
    rw [pendingOf, filter_unrecorded_fill new, if_neg recorded, zero_add]
    exact settled.pending orderId
  · intro orderId
    rw [pendingOf, ← settled.awaiting orderId]
    refine TradeLedger.mem_activateBlocker.trans ?_
    simp
  · intro orderId
    refine TradeLedger.mem_activateBlocker.trans ?_
    rw [show (marked.observe trade.orderId (trade.withOwner false)).observedTrades = _ from sameObserved,
      settled.foreign orderId]
    constructor
    · rintro (⟨other, member, same⟩ | same)
      · exact ⟨other, List.mem_append_left _ member, same⟩
      · cases same
        exact ⟨_, List.mem_append_right _ (List.mem_singleton_self _), rfl⟩
    · rintro ⟨other, member, rfl⟩
      rcases List.mem_append.1 member with member | member
      · exact .inl ⟨other, member, rfl⟩
      · cases List.mem_singleton.1 member
        exact .inr rfl
  · exact TradeLedger.nodup_activateBlocker settled.once

/-- A fill whose order is not recorded waits for it. -/
theorem Settled.wait (settled : Settled calls marked) (fresh : Unrecorded calls trade.orderId) :
    Settled (calls ++ [.recordFill trade])
      ({ marked with
        pendingTradesByOrderId := Function.update marked.pendingTradesByOrderId trade.orderId
          (some (marked.pendingOf trade.orderId ++ [trade])) }.activateBlocker
        .pendingExactBrokerOrderMatch trade.orderId) := by
  obtain ⟨-, sameTrades, sameObserved, sameWaiting, -⟩ := TradeLedger.activateBlocker_keeps
    { marked with
      pendingTradesByOrderId := Function.update marked.pendingTradesByOrderId trade.orderId
        (some (marked.pendingOf trade.orderId ++ [trade])) }
    .pendingExactBrokerOrderMatch trade.orderId
  have nobody : ∀ owned, ¬ Attributed calls owned trade.orderId :=
    fun _ => not_attributed_of_unrecorded fresh
  generalize outcome : TradeLedger.activateBlocker _ _ _ = after at sameTrades sameObserved sameWaiting ⊢
  have pendingOf (orderId : BrokerOrderId) : after.pendingOf orderId =
      if orderId = trade.orderId then marked.pendingOf trade.orderId ++ [trade] else marked.pendingOf orderId := by
    simp only [TradeLedger.pendingOf, TradeLedger.pendingTrades, sameWaiting, Function.update_apply]
    split <;> rfl
  have blockers (blocker : TradeLedgerBlocker) : blocker ∈ after.activeBlockers ↔
      blocker ∈ marked.activeBlockers ∨ blocker = ⟨.pendingExactBrokerOrderMatch, trade.orderId⟩ := by
    rw [← outcome]
    exact TradeLedger.mem_activateBlocker
  constructor
  · rw [filter_attributed_fill new, if_neg (nobody true), zero_add, ← settled.trades, sameTrades]
  · rw [filter_attributed_fill new, if_neg (nobody false), zero_add, ← settled.observed, sameObserved]
  · intro orderId
    rw [pendingOf, filter_unrecorded_fill new]
    by_cases here : orderId = trade.orderId
    · subst here
      rw [if_pos rfl, if_pos ⟨rfl, fresh⟩, Multiset.singleton_add, ← settled.pending]
      exact coe_concat _ _
    · rw [if_neg here, if_neg fun both => here both.1.symm, zero_add]
      exact settled.pending orderId
  · intro orderId
    rw [blockers, pendingOf, settled.awaiting orderId]
    by_cases here : orderId = trade.orderId
    · subst here
      simp
    · simp [here]
  · intro orderId
    rw [blockers, sameObserved, settled.foreign orderId]
    simp
  · rw [← outcome]
    exact TradeLedger.nodup_activateBlocker settled.once

end NewFill

/-- A fill call keeps the collections what they are. -/
theorem Tracked.fill (tracked : Tracked calls ledger) (once : OrdersOnce calls)
    (agree : FillsAgree (calls ++ [.recordFill trade])) :
    Tracked (calls ++ [.recordFill trade]) (ledger.recordFill trade).1 := by
  have spec := ledger.recordFill_spec trade
  generalize (ledger.recordFill trade).1 = after at spec ⊢
  have here : LedgerCall.recordFill trade ∈ calls ++ [.recordFill trade] :=
    List.mem_append_right _ (List.mem_singleton_self _)
  -- a key seen before is the key of this very fill
  have before (tradeId : BrokerTradeId) (identified : trade.tradeId = some tradeId)
      (seen : ⟨tradeId, trade.orderId⟩ ∈ ledger.seenTradeKeys) : LedgerCall.recordFill trade ∈ calls := by
    obtain ⟨other, member, otherId, otherOrder⟩ := (tracked.seen _).1 seen
    have same : other = trade := agree other (mem_fills.2 (List.mem_append_left _ member)) trade (mem_fills.2 here)
      (by rw [otherId]; exact Option.some_ne_none _) (otherId.trans identified.symm) otherOrder
    exact same ▸ member
  have fresh {marked : TradeLedger} (marks : ledger.Marked trade marked) :
      distinctFills (calls ++ [.recordFill trade]) = trade ::ₘ distinctFills calls := by
    refine distinctFills_new ?_
    cases identified : trade.tradeId with
    | none => exact .inl rfl
    | some tradeId =>
        refine .inr fun member => marks.new tradeId identified ?_
        exact (tracked.seen _).2 ⟨trade, member, identified, rfl⟩
  have orders {marked : TradeLedger} (marks : ledger.Marked trade marked) (orderId : BrokerOrderId)
      (order : OrderRecord) : marked.orders orderId = some order ↔
        order ∈ ordersOf (calls ++ [.recordFill trade]) ∧ order.orderId = orderId := by
    rw [marks.orders, orders_fill]
    exact tracked.orders orderId order
  have seen {marked : TradeLedger} (marks : ledger.Marked trade marked) (key : TradeLedgerTradeKey) :
      key ∈ marked.seenTradeKeys ↔ ∃ other, .recordFill other ∈ calls ++ [.recordFill trade] ∧
        other.tradeId = some key.tradeId ∧ other.orderId = key.orderId := by
    rw [marks.seen, tracked.seen]
    constructor
    · rintro (⟨other, member, same⟩ | same)
      · exact ⟨other, List.mem_append_left _ member, same⟩
      · exact ⟨trade, here, same⟩
    · rintro ⟨other, member, same⟩
      rcases List.mem_append.1 member with member | member
      · exact .inl ⟨other, member, same⟩
      · cases List.mem_singleton.1 member
        exact .inr same
  cases spec with
  | duplicate identified seen =>
      exact tracked.again (by rw [identified]; exact Option.some_ne_none _) (before _ identified seen)
  | attributed marks found owned =>
      obtain ⟨member, same⟩ := (tracked.orders _ _).1 (marks.orders ▸ found)
      have mine : Attributed calls true trade.orderId := ⟨_, member, same, owned⟩
      exact
        { toSettled := (tracked.toSettled.of_marked marks).attributed (fresh marks) mine (once.owner mine)
          orders := fun orderId order => orders marks orderId order
          seen := fun key => seen marks key }
  | observed marks found foreign =>
      obtain ⟨member, same⟩ := (tracked.orders _ _).1 (marks.orders ▸ found)
      have theirs : Attributed calls false trade.orderId := ⟨_, member, same, foreign⟩
      obtain ⟨sameOrders, -, -, -, sameSeen⟩ := TradeLedger.activateBlocker_keeps _ _ _
      exact
        { toSettled := (tracked.toSettled.of_marked marks).observe (fresh marks) theirs
            fun mine => once.owner mine theirs
          orders := fun orderId order => (by rw [TradeLedger.observe, sameOrders]; exact orders marks orderId order)
          seen := fun key => (by rw [TradeLedger.observe, sameSeen]; exact seen marks key) }
  | waiting marks absent =>
      have unrecorded : Unrecorded calls trade.orderId := by
        intro order member same
        have found := (tracked.orders _ _).2 ⟨member, same⟩
        rw [← marks.orders, absent] at found
        cases found
      obtain ⟨sameOrders, -, -, -, sameSeen⟩ := TradeLedger.activateBlocker_keeps _ _ _
      exact
        { toSettled := (tracked.toSettled.of_marked marks).wait (fresh marks) unrecorded
          orders := fun orderId order => (by rw [sameOrders]; exact orders marks orderId order)
          seen := fun key => (by rw [sameSeen]; exact seen marks key) }

/-- An order call keeps the collections what they are. -/
theorem Tracked.order (tracked : Tracked calls ledger) (once : OrdersOnce (calls ++ [.recordOrder record])) :
    Tracked (calls ++ [.recordOrder record]) (ledger.recordOrder record).1 := by
  have fresh : Unrecorded calls record.orderId := once.unrecorded
  have waiting : (ledger.pendingOf record.orderId : Multiset TradeRecord) =
      (distinctFills calls).filter fun trade => trade.orderId = record.orderId := by
    rw [tracked.pending]
    exact Multiset.filter_congr fun trade _ => and_iff_left fresh
  have orders (orderId : BrokerOrderId) (order : OrderRecord) :
      Function.update ledger.orders record.orderId (some record) orderId = some order ↔
        order ∈ ordersOf (calls ++ [.recordOrder record]) ∧ order.orderId = orderId := by
    rw [orders_order, List.mem_append, List.mem_singleton, Function.update_apply]
    split
    case isTrue here =>
      subst here
      constructor
      · intro same
        cases same
        exact ⟨.inr rfl, rfl⟩
      · rintro ⟨member | rfl, same⟩
        · exact absurd same (fresh order member)
        · rfl
    case isFalse elsewhere =>
      rw [tracked.orders]
      constructor
      · rintro ⟨member, same⟩
        exact ⟨.inl member, same⟩
      · rintro ⟨member | rfl, same⟩
        · exact ⟨member, same⟩
        · exact absurd same.symm elsewhere
  have seen (key : TradeLedgerTradeKey) : key ∈ ledger.seenTradeKeys ↔
      ∃ trade, .recordFill trade ∈ calls ++ [.recordOrder record] ∧
        trade.tradeId = some key.tradeId ∧ trade.orderId = key.orderId := by
    rw [tracked.seen]
    simp
  obtain ⟨taken, taking, outcome⟩ := ledger.recordOrder_spec record
  rw [outcome]
  have pending {after : TradeLedger} (same : after.pendingTradesByOrderId = taken.pendingTradesByOrderId)
      (orderId : BrokerOrderId) :
      after.pendingOf orderId = if orderId = record.orderId then [] else ledger.pendingOf orderId := by
    simp only [TradeLedger.pendingOf, TradeLedger.pendingTrades, same, taking.pendingTradesByOrderId,
      Function.update_apply]
    split <;> rfl
  have rest {after : TradeLedger} (same : after.pendingTradesByOrderId = taken.pendingTradesByOrderId)
      (orderId : BrokerOrderId) : (after.pendingOf orderId : Multiset TradeRecord) =
        (distinctFills (calls ++ [.recordOrder record])).filter fun trade =>
          trade.orderId = orderId ∧ Unrecorded (calls ++ [.recordOrder record]) orderId := by
    simp only [pending same, distinctFills_order, unrecorded_order]
    split
    case isTrue here =>
      refine (Multiset.filter_eq_nil.2 ?_).symm
      rintro trade - ⟨-, -, other⟩
      exact other here.symm
    case isFalse elsewhere =>
      rw [tracked.pending]
      exact Multiset.filter_congr fun trade _ => and_congr_right' (and_iff_left (Ne.symm elsewhere)).symm
  have awaiting {after : TradeLedger} (same : after.pendingTradesByOrderId = taken.pendingTradesByOrderId)
      (orderId : BrokerOrderId) : ⟨.pendingExactBrokerOrderMatch, orderId⟩ ∈ taken.activeBlockers ↔
        after.pendingOf orderId ≠ [] := by
    rw [taking.blockers, tracked.awaiting, pending same]
    split
    case isTrue here =>
      subst here
      simp
    case isFalse elsewhere => simp [elsewhere]
  have theirs (orderId : BrokerOrderId) : ⟨.observedOrderNotStrategyOwned, orderId⟩ ∈ taken.activeBlockers ↔
      ∃ trade ∈ ledger.observedTrades, trade.orderId = orderId := by
    rw [taking.blockers, ← tracked.foreign]
    simp
  cases owned : record.owned with
  | true =>
      obtain ⟨trades, sameOrders, observed, samePending, sameBlockers, sameSeen⟩ :=
        TradeLedger.settlePending_owned (ledger.pendingOf record.orderId) taken
      constructor
      · constructor
        · rw [filter_attributed_order fresh, if_pos owned, distinctFills_order, ← waiting, Multiset.map_add,
            ← tracked.trades, trades, taking.trades]
          rfl
        · rw [filter_attributed_order fresh, if_neg (by simp [owned]), distinctFills_order, add_zero,
            ← tracked.observed, observed, taking.observedTrades]
        · exact rest samePending
        · rw [sameBlockers]
          exact awaiting samePending
        · rw [sameBlockers, observed, taking.observedTrades]
          exact theirs
        · rw [sameBlockers]
          exact taking.once tracked.once
      · rw [sameOrders, taking.orders]
        exact orders
      · rw [sameSeen, taking.seenTradeKeys]
        exact seen
  | false =>
      obtain ⟨observed, sameOrders, trades, samePending, sameSeen, blockers, once⟩ :=
        TradeLedger.settlePending_foreign (ledger.pendingOf record.orderId) taken
      constructor
      · constructor
        · rw [filter_attributed_order fresh, if_neg (by simp [owned]), distinctFills_order, add_zero,
            ← tracked.trades, trades, taking.trades]
        · rw [filter_attributed_order fresh, if_pos owned, distinctFills_order, ← waiting, Multiset.map_add,
            ← tracked.observed, observed, taking.observedTrades]
          rfl
        · exact rest samePending
        · intro orderId
          rw [blockers, ← awaiting samePending]
          simp
        · intro orderId
          rw [blockers, theirs, observed, taking.observedTrades]
          constructor
          · rintro (⟨trade, member, same⟩ | ⟨some, same⟩)
            · exact ⟨trade, List.mem_append_left _ member, same⟩
            · cases same
              obtain ⟨trade, member⟩ := List.exists_mem_of_ne_nil _ some
              have mine : trade ∈ (distinctFills calls).filter fun trade => trade.orderId = record.orderId := by
                rw [← waiting]
                exact member
              exact ⟨_, List.mem_append_right _ (List.mem_map_of_mem member), (Multiset.mem_filter.1 mine).2⟩
          · rintro ⟨trade, member, rfl⟩
            rcases List.mem_append.1 member with member | member
            · exact .inl ⟨trade, member, rfl⟩
            · obtain ⟨other, otherMember, rfl⟩ := List.mem_map.1 member
              have mine : other ∈ (distinctFills calls).filter fun trade => trade.orderId = record.orderId := by
                rw [← waiting]
                exact otherMember
              refine .inr ⟨List.ne_nil_of_mem otherMember, ?_⟩
              exact congrArg _ (Multiset.mem_filter.1 mine).2
        · exact once (taking.once tracked.once)
      · rw [sameOrders, taking.orders]
        exact orders
      · rw [sameSeen, taking.seenTradeKeys]
        exact seen

/-- The collections of every ledger are what its calls make of them. -/
theorem tracked_ledgerOf (once : OrdersOnce calls) (agree : FillsAgree calls) :
    Tracked calls (ledgerOf calls) := by
  induction calls using List.reverseRecOn with
  | nil =>
      constructor
      · constructor
        · rfl
        · rfl
        · exact fun _ => rfl
        · simp [ledgerOf, TradeLedger.pendingOf, TradeLedger.pendingTrades]
        · simp [ledgerOf]
        · exact List.nodup_nil
      · simp [ledgerOf, ordersOf]
      · simp [ledgerOf]
  | append_singleton calls call ih =>
      have tracked := ih once.front agree.front
      rw [ledgerOf, List.foldl_append]
      cases call with
      | recordOrder record => exact tracked.order once
      | recordFill trade => exact tracked.fill once.front agree

end Steps

/-- An identified fill is in one place, once: where the owner of its order puts it. -/
def EndsOnce (calls : List LedgerCall) (ledger : TradeLedger) (trade : TradeRecord) : Prop :=
  let times (trades : List TradeRecord) := trades.countP fun other => other.Same trade
  Attributed calls true trade.orderId ∧ times ledger.trades = 1 ∧ times ledger.observedTrades = 0 ∧
      (∀ orderId, times (ledger.pendingOf orderId) = 0) ∨
    Attributed calls false trade.orderId ∧ times ledger.trades = 0 ∧ times ledger.observedTrades = 1 ∧
      (∀ orderId, times (ledger.pendingOf orderId) = 0) ∨
    Unrecorded calls trade.orderId ∧ times ledger.trades = 0 ∧ times ledger.observedTrades = 0 ∧
      ∀ orderId, times (ledger.pendingOf orderId) = if orderId = trade.orderId then 1 else 0

structure SameContents (left right : TradeLedger) : Prop where
  trades : left.trades.Perm right.trades
  observedTrades : left.observedTrades.Perm right.observedTrades
  pending : ∀ orderId, (left.pendingOf orderId).Perm (right.pendingOf orderId)
  activeBlockers : left.activeBlockers.Perm right.activeBlockers

section Results

variable {calls others : List LedgerCall} {ledger : TradeLedger} {trade : TradeRecord}

/-- Of the distinct fills one has the identity of a given fill. -/
theorem countP_same_distinctFills (agree : FillsAgree calls) (member : .recordFill trade ∈ calls)
    (identified : trade.tradeId ≠ none) (p : TradeRecord → Prop) [DecidablePred p]
    (holds : ∀ other, other.Same trade → (p other ↔ p trade)) :
    ((distinctFills calls).filter p).countP (fun other => other.Same trade) = if p trade then 1 else 0 := by
  have only : (distinctFills calls).filter (fun other => other.Same trade) = {trade} := by
    have unidentified : ((fillsOf calls : Multiset TradeRecord).filter fun other => other.tradeId = none).filter
        (fun other => other.Same trade) = 0 := by
      refine Multiset.filter_eq_nil.2 ?_
      rintro other otherMember ⟨same, -⟩
      exact identified (same.symm.trans (Multiset.mem_filter.1 otherMember).2)
    unfold distinctFills
    rw [Multiset.filter_add, unidentified, zero_add]
    refine Multiset.Nodup.ext (Multiset.Nodup.filter _ (Multiset.nodup_dedup _)) (Multiset.nodup_singleton _) |>.2 ?_
    intro other
    rw [Multiset.mem_filter, Multiset.mem_dedup, Multiset.mem_filter, Multiset.mem_singleton, Multiset.mem_coe]
    constructor
    · rintro ⟨⟨otherMember, otherIdentified⟩, sameTrade, sameOrder⟩
      exact agree other otherMember trade (mem_fills.2 member) otherIdentified sameTrade sameOrder
    · rintro rfl
      exact ⟨⟨mem_fills.2 member, identified⟩, rfl, rfl⟩
  rw [Multiset.countP_eq_card_filter, Multiset.filter_filter]
  have swap : (distinctFills calls).filter (fun other => other.Same trade ∧ p other) =
      ((distinctFills calls).filter (fun other => other.Same trade)).filter fun _ => p trade := by
    rw [Multiset.filter_filter]
    exact Multiset.filter_congr fun other _ =>
      ⟨fun both => ⟨(holds other both.1).1 both.2, both.1⟩, fun both => ⟨both.2, (holds other both.2).2 both.1⟩⟩
  rw [swap, only]
  by_cases good : p trade
  · simp [good]
  · simp [good]

theorem countP_withOwner (trades : Multiset TradeRecord) (owned : Bool) :
    (trades.map (·.withOwner owned)).countP (fun other => other.Same trade) =
      trades.countP fun other => other.Same trade := by
  rw [Multiset.countP_map, Multiset.countP_eq_card_filter]
  rfl

/-- The identified fills of a settled ledger are each in one place. -/
theorem Settled.endsOnce (settled : Settled calls ledger) (once : OrdersOnce calls) (agree : FillsAgree calls)
    (member : .recordFill trade ∈ calls) (identified : trade.tradeId ≠ none) : EndsOnce calls ledger trade := by
  have trades : ledger.trades.countP (fun other => other.Same trade) =
      if Attributed calls true trade.orderId then 1 else 0 := by
    rw [← Multiset.coe_countP, settled.trades, countP_withOwner]
    exact countP_same_distinctFills agree member identified _ fun other same => by rw [same.2]
  have observed : ledger.observedTrades.countP (fun other => other.Same trade) =
      if Attributed calls false trade.orderId then 1 else 0 := by
    rw [← Multiset.coe_countP, settled.observed, countP_withOwner]
    exact countP_same_distinctFills agree member identified _ fun other same => by rw [same.2]
  have pending (orderId : BrokerOrderId) : (ledger.pendingOf orderId).countP (fun other => other.Same trade) =
      if trade.orderId = orderId ∧ Unrecorded calls orderId then 1 else 0 := by
    rw [← Multiset.coe_countP, settled.pending]
    exact countP_same_distinctFills agree member identified _ fun other same => by rw [same.2]
  unfold EndsOnce
  simp only [trades, observed, pending]
  rcases attributed_or_unrecorded calls trade.orderId with mine | theirs | fresh
  · refine .inl ⟨mine, if_pos mine, if_neg (once.owner mine), fun orderId => if_neg ?_⟩
    rintro ⟨rfl, fresh⟩
    exact not_attributed_of_unrecorded fresh mine
  · refine .inr (.inl ⟨theirs, if_neg fun mine => once.owner mine theirs, if_pos theirs, fun orderId => if_neg ?_⟩)
    rintro ⟨rfl, fresh⟩
    exact not_attributed_of_unrecorded fresh theirs
  · refine .inr (.inr ⟨fresh, if_neg (not_attributed_of_unrecorded fresh),
      if_neg (not_attributed_of_unrecorded fresh), fun orderId => ?_⟩)
    by_cases here : orderId = trade.orderId
    · rw [if_pos ⟨here.symm, here ▸ fresh⟩, if_pos here]
    · rw [if_neg fun both => here both.1.symm, if_neg here]

theorem attributed_perm (same : calls.Perm others) (owned : Bool) (orderId : BrokerOrderId) :
    Attributed calls owned orderId ↔ Attributed others owned orderId := by
  have orders : (ordersOf calls).Perm (ordersOf others) := same.filterMap _
  constructor
  · rintro ⟨order, member, found⟩
    exact ⟨order, orders.mem_iff.1 member, found⟩
  · rintro ⟨order, member, found⟩
    exact ⟨order, orders.mem_iff.2 member, found⟩

theorem unrecorded_perm (same : calls.Perm others) (orderId : BrokerOrderId) :
    Unrecorded calls orderId ↔ Unrecorded others orderId := by
  have orders : (ordersOf calls).Perm (ordersOf others) := same.filterMap _
  constructor
  · exact fun fresh order member => fresh order (orders.mem_iff.2 member)
  · exact fun fresh order member => fresh order (orders.mem_iff.1 member)

theorem distinctFills_perm (same : calls.Perm others) : distinctFills calls = distinctFills others := by
  have fills : (fillsOf calls : Multiset TradeRecord) = fillsOf others :=
    Multiset.coe_eq_coe.2 (same.filterMap _)
  unfold distinctFills
  rw [fills]

theorem OrdersOnce.perm (once : OrdersOnce calls) (same : calls.Perm others) : OrdersOnce others :=
  ((same.filterMap _).map _).nodup_iff.1 once

theorem FillsAgree.perm (agree : FillsAgree calls) (same : calls.Perm others) : FillsAgree others := by
  have fills : (fillsOf calls).Perm (fillsOf others) := same.filterMap _
  intro left leftMember right rightMember
  exact agree left (fills.mem_iff.2 leftMember) right (fills.mem_iff.2 rightMember)

/-- Ledgers settled for permuted calls hold the same. -/
theorem Settled.sameContents {other : TradeLedger} (settled : Settled calls ledger) (same : calls.Perm others)
    (settledOther : Settled others other) : SameContents ledger other := by
  have trades : ledger.trades.Perm other.trades := by
    rw [← Multiset.coe_eq_coe, settled.trades, settledOther.trades, distinctFills_perm same]
    exact congrArg _ (Multiset.filter_congr fun trade _ => attributed_perm same true trade.orderId)
  have observed : ledger.observedTrades.Perm other.observedTrades := by
    rw [← Multiset.coe_eq_coe, settled.observed, settledOther.observed, distinctFills_perm same]
    exact congrArg _ (Multiset.filter_congr fun trade _ => attributed_perm same false trade.orderId)
  have pending (orderId : BrokerOrderId) : (ledger.pendingOf orderId).Perm (other.pendingOf orderId) := by
    rw [← Multiset.coe_eq_coe, settled.pending, settledOther.pending, distinctFills_perm same]
    exact Multiset.filter_congr fun trade _ => and_congr_right' (unrecorded_perm same orderId)
  refine ⟨trades, observed, pending, (List.perm_ext_iff_of_nodup settled.once settledOther.once).2 ?_⟩
  rintro ⟨kind, orderId⟩
  cases kind with
  | pendingExactBrokerOrderMatch =>
      rw [settled.awaiting, settledOther.awaiting, not_iff_not]
      constructor
      · intro empty
        exact (empty ▸ pending orderId).symm.eq_nil
      · intro empty
        exact (empty ▸ pending orderId).eq_nil
  | observedOrderNotStrategyOwned =>
      rw [settled.foreign, settledOther.foreign]
      constructor
      · rintro ⟨trade, member, found⟩
        exact ⟨trade, observed.mem_iff.1 member, found⟩
      · rintro ⟨trade, member, found⟩
        exact ⟨trade, observed.mem_iff.2 member, found⟩

/-- No fill is lost, doubled or given to another's order, in whatever order the calls arrive: each
identified fill is in the one place that the owner of its order decides, the active blockers say
which orders wait or are another's, and permuted calls leave the same collections. -/
theorem fills_settle_once (once : OrdersOnce calls) (agree : FillsAgree calls) :
    Settled calls (ledgerOf calls) ∧
      (∀ trade, .recordFill trade ∈ calls → trade.tradeId ≠ none → EndsOnce calls (ledgerOf calls) trade) ∧
      ∀ others, calls.Perm others → SameContents (ledgerOf calls) (ledgerOf others) := by
  have settled : Settled calls (ledgerOf calls) := (tracked_ledgerOf once agree).toSettled
  refine ⟨settled, fun trade member identified => settled.endsOnce once agree member identified, ?_⟩
  intro others same
  exact settled.sameContents same (tracked_ledgerOf (once.perm same) (agree.perm same)).toSettled

end Results

/-! ### A fill before its order, one after, one of another's order and one that waits -/

def sampleOrder (orderId : String) (present : orderId ≠ "") (owned : Bool) : LedgerCall :=
  .recordOrder
    { orderId := ⟨orderId, present⟩, symbol := "SBER", side := "buy", qty := 1, filled := 1, price := 100
      status := "filled", tsUtc := 0, owned := owned }

def sampleFill (tradeId : Option BrokerTradeId) (orderId : String) (present : orderId ≠ "") : LedgerCall :=
  .recordFill
    { tsUtc := 1, tradeId := tradeId, orderId := ⟨orderId, present⟩, symbol := "SBER", side := "buy", qty := 1
      price := 100, commission := 0, owned := false }

def sampleCalls : List LedgerCall :=
  [sampleFill (some ⟨"t1", by decide⟩) "own" (by decide), sampleOrder "own" (by decide) true,
    sampleFill (some ⟨"t1", by decide⟩) "own" (by decide), sampleOrder "other" (by decide) false,
    sampleFill (some ⟨"t2", by decide⟩) "other" (by decide), sampleFill none "late" (by decide)]

theorem sample_fills_settle_once : OrdersOnce sampleCalls ∧ FillsAgree sampleCalls ∧
    (Settled sampleCalls (ledgerOf sampleCalls) ∧
      (∀ trade, .recordFill trade ∈ sampleCalls → trade.tradeId ≠ none →
        EndsOnce sampleCalls (ledgerOf sampleCalls) trade) ∧
      ∀ others, sampleCalls.Perm others → SameContents (ledgerOf sampleCalls) (ledgerOf others)) := by
  have once : OrdersOnce sampleCalls := by
    unfold OrdersOnce
    decide
  have agree : FillsAgree sampleCalls := by
    unfold FillsAgree
    decide
  exact ⟨once, agree, fills_settle_once once agree⟩

end TradingGateway.BrokerCore
