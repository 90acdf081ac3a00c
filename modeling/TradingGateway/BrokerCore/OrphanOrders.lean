import TradingGateway.BrokerCore.AccountSummary
import TradingGateway.BrokerCore.DecimalArithmetic
import TradingGateway.Foundation.RepeatedRows

/-! Orders of a snapshot that nothing else in it accounts for, and how far that depends on the listing of its rows. -/

set_option autoImplicit false

namespace TradingGateway.BrokerCore.OrphanOrders

open FixedPoint Identifiers Orders OperationalSnapshot Foundation.RepeatedRows

/-- What the trades say of a filled order, given the quantity they add up to. -/
def filledQuantityReasons (snapshot : BrokerTruthSnapshot) (order : BrokerOrderSnapshot)
    (consistentTradeQty : Int) : List BrokerOrderOrphanReason :=
  let matchingTrades := snapshot.tradesMatchingOrderIdentity order
  if matchingTrades = [] then [.filledQuantityWithoutMatchingTrade]
  else
    (if ∃ trade ∈ matchingTrades, trade.accountId ≠ order.accountId then [.matchingTradeAccountMismatch] else []) ++
    (if ∃ trade ∈ matchingTrades, orderTradeInstrumentIdentityMatches order trade = false then
      [.matchingTradeInstrumentMismatch] else []) ++
    (if ∃ trade ∈ matchingTrades, trade.side ≠ order.side then [.matchingTradeSideMismatch] else []) ++
    (if consistentTradeQty < order.filledQty.units then [.matchingTradeQuantityLessThanFilledQuantity] else [])

/-- `orphan_reasons_for_order`, with the quantity of its consistent trades still to be added up. -/
def orphanReasonsGiven (snapshot : BrokerTruthSnapshot) (order : BrokerOrderSnapshot) (consistentTradeQty : Int) :
    List BrokerOrderOrphanReason :=
  (if order.accountId ≠ snapshot.accountId then [.accountMismatch] else []) ++
  (if order.hasCorrelationId then [] else [.missingCorrelationId]) ++
  snapshot.orderInstrumentIdentityReasons order ++
  (if Decimal.zero < order.filledQty then filledQuantityReasons snapshot order consistentTradeQty else [])

def tradeUnits (trade : BrokerTradeSnapshot) : Int :=
  trade.qty.units

def orphanReasonsForOrder (snapshot : BrokerTruthSnapshot) (order : BrokerOrderSnapshot) :
    List BrokerOrderOrphanReason :=
  orphanReasonsGiven snapshot order (total tradeUnits (snapshot.consistentTrades order))

/-- Where the quantities that explain a fill add up exactly, the reasons of exact arithmetic are those of the code. -/
theorem orphanReasonsForOrder_eq_some {snapshot : BrokerTruthSnapshot} {order : BrokerOrderSnapshot}
    (signs : ∀ trade ∈ snapshot.consistentTrades order, Decimal.zero ≤ trade.qty)
    (summable : ExactlySummable ((snapshot.consistentTrades order).map fun trade => trade.qty)) :
    snapshot.orphanReasonsForOrder order = some (orphanReasonsForOrder snapshot order) := by
  have quantitySigns : ∀ qty ∈ (snapshot.consistentTrades order).map fun trade => trade.qty, Decimal.zero ≤ qty := by
    intro qty member
    obtain ⟨trade, among, rfl⟩ := List.mem_map.1 member
    exact signs trade among
  obtain ⟨sum, summed, exact⟩ := Decimal.checkedSum_exact quantitySigns summable
  rw [List.map_map] at exact
  have explained : snapshot.matchingTradeReasons order =
      some (filledQuantityReasons snapshot order (total tradeUnits (snapshot.consistentTrades order))) := by
    unfold BrokerTruthSnapshot.matchingTradeReasons filledQuantityReasons
    dsimp only
    split
    · rfl
    · change (Decimal.checkedSum ((snapshot.consistentTrades order).map fun trade => trade.qty)).bind _ = _
      rw [summed, Option.bind_some]
      simp only [Decimal.lt_iff, exact]
      rfl
  unfold BrokerTruthSnapshot.orphanReasonsForOrder orphanReasonsForOrder orphanReasonsGiven
  rw [explained]
  by_cases filled : Decimal.zero < order.filledQty
  · rw [if_pos filled, if_pos filled]
    rfl
  · rw [if_neg filled, if_neg filled]
    rfl

/-- The same rows in another order, with further copies of trades. -/
structure RelistedSnapshot (snapshot relisted : BrokerTruthSnapshot) : Prop where
  accountId : relisted.accountId = snapshot.accountId
  orders : relisted.orders.Perm snapshot.orders
  trades : Relisted snapshot.trades relisted.trades
  instruments : relisted.instruments.Perm snapshot.instruments

/-- How often its trades are listed tells nothing of the order: nothing is filled and no less is traded, or
its trades are settled. -/
def TradesSettled (snapshot : BrokerTruthSnapshot) (order : BrokerOrderSnapshot) : Prop :=
  (order.filledQty.units ≤ 0 ∧
    order.filledQty.units ≤ total tradeUnits (snapshot.consistentTrades order).dedup) ∨
  (0 < order.filledQty.units ∧
    Foundation.RepeatedRows.Settled tradeUnits order.filledQty.units (snapshot.consistentTrades order))

/-- More is filled than the trades account for, and a reason says so. -/
def ReportsShortfall (snapshot : BrokerTruthSnapshot) (order : BrokerOrderSnapshot) : Prop :=
  .filledQuantityWithoutMatchingTrade ∈ orphanReasonsForOrder snapshot order ∨
    .matchingTradeQuantityLessThanFilledQuantity ∈ orphanReasonsForOrder snapshot order

section Relisting

variable {snapshot relisted : BrokerTruthSnapshot}

theorem relisted_matching (trades : Relisted snapshot.trades relisted.trades) (order : BrokerOrderSnapshot) :
    Relisted (snapshot.tradesMatchingOrderIdentity order) (relisted.tradesMatchingOrderIdentity order) :=
  trades.filter _

theorem relisted_consistent (trades : Relisted snapshot.trades relisted.trades) (order : BrokerOrderSnapshot) :
    Relisted (snapshot.consistentTrades order) (relisted.consistentTrades order) :=
  (relisted_matching trades order).filter _

theorem orderInstrumentIdentityReasons_perm (same : relisted.instruments.Perm snapshot.instruments)
    (order : BrokerOrderSnapshot) :
    relisted.orderInstrumentIdentityReasons order = snapshot.orderInstrumentIdentityReasons order := by
  unfold BrokerTruthSnapshot.orderInstrumentIdentityReasons
  have empty : relisted.instruments = [] ↔ snapshot.instruments = [] := by
    rw [← List.length_eq_zero_iff, same.length_eq, List.length_eq_zero_iff]
  rw [(same.filter _).length_eq]
  simp only [empty]

/-- Repetition reaches the reasons through the total alone. -/
theorem filledQuantityReasons_relisted (trades : Relisted snapshot.trades relisted.trades)
    {order : BrokerOrderSnapshot} {quantity other : Int}
    (same : other < order.filledQty.units ↔ quantity < order.filledQty.units) :
    filledQuantityReasons relisted order other = filledQuantityReasons snapshot order quantity := by
  unfold filledQuantityReasons
  have matching := relisted_matching trades order
  simp only [matching.eq_nil_iff, matching.mem_iff, same]

theorem orphanReasonsForOrder_relisted
    (rows : RelistedSnapshot snapshot relisted) {order : BrokerOrderSnapshot} (settled : TradesSettled snapshot order) :
    orphanReasonsForOrder relisted order = orphanReasonsForOrder snapshot order := by
  unfold orphanReasonsForOrder orphanReasonsGiven
  rw [rows.accountId, orderInstrumentIdentityReasons_perm rows.instruments]
  by_cases filled : Decimal.zero < order.filledQty
  · have positive : 0 < order.filledQty.units := by simpa using filled
    obtain ⟨none, -⟩ | ⟨-, consistent⟩ := settled
    · exact absurd positive (not_lt.2 none)
    have same := consistent.short_iff positive (relisted_consistent rows.trades order)
    rw [if_pos filled, if_pos filled, filledQuantityReasons_relisted rows.trades same]
  · rw [if_neg filled, if_neg filled]

end Relisting

theorem orderInstrumentIdentityReasons_mem {snapshot : BrokerTruthSnapshot} {order : BrokerOrderSnapshot}
    {reason : BrokerOrderOrphanReason} (member : reason ∈ snapshot.orderInstrumentIdentityReasons order) :
    reason ∈ [.unknownInstrumentIdentity, .missingInstrumentRegistry, .ambiguousInstrumentIdentity] := by
  unfold BrokerTruthSnapshot.orderInstrumentIdentityReasons at member
  split_ifs at member
  · simp_all
  · simp_all
  · split at member <;> simp_all

theorem filled_reason_mem_iff {snapshot : BrokerTruthSnapshot} {order : BrokerOrderSnapshot} {quantity : Int}
    {reason : BrokerOrderOrphanReason}
    (filledReason : reason ∉ [.accountMismatch, .missingCorrelationId, .missingInstrumentRegistry,
      .unknownInstrumentIdentity, .ambiguousInstrumentIdentity]) :
    reason ∈ orphanReasonsGiven snapshot order quantity ↔
      0 < order.filledQty.units ∧ reason ∈ filledQuantityReasons snapshot order quantity := by
  have notIdentity : reason ∉ snapshot.orderInstrumentIdentityReasons order := by
    intro member
    have listed := orderInstrumentIdentityReasons_mem member
    simp_all
  have notAccount : reason ∉ if order.accountId ≠ snapshot.accountId then
      [BrokerOrderOrphanReason.accountMismatch] else [] := by
    split_ifs <;> simp_all
  have notCorrelation : reason ∉ if order.hasCorrelationId then
      [] else [BrokerOrderOrphanReason.missingCorrelationId] := by
    split_ifs <;> simp_all
  unfold orphanReasonsGiven
  rw [List.mem_append, List.mem_append, List.mem_append]
  constructor
  · rintro (((account | correlation) | identity) | filledPart)
    · exact absurd account notAccount
    · exact absurd correlation notCorrelation
    · exact absurd identity notIdentity
    · split_ifs at filledPart with filled
      · exact ⟨by simpa using filled, filledPart⟩
      · cases filledPart
  · rintro ⟨positive, filledPart⟩
    have filled : Decimal.zero < order.filledQty := by simpa using positive
    exact Or.inr (by rwa [if_pos filled])

theorem reportsShortfall_iff (snapshot : BrokerTruthSnapshot) (order : BrokerOrderSnapshot) :
    ReportsShortfall snapshot order ↔ 0 < order.filledQty.units ∧
      total tradeUnits (snapshot.consistentTrades order) < order.filledQty.units := by
  unfold ReportsShortfall orphanReasonsForOrder
  rw [filled_reason_mem_iff (by decide), filled_reason_mem_iff (by decide), ← and_or_left]
  refine and_congr_right fun positive => ?_
  unfold filledQuantityReasons
  by_cases unmatched : snapshot.tradesMatchingOrderIdentity order = []
  · have none : snapshot.consistentTrades order = [] := by
      unfold BrokerTruthSnapshot.consistentTrades
      rw [unmatched, List.filter_nil]
    simp only [unmatched, if_true, none]
    simp [total, positive]
  · simp only [unmatched, if_false]
    split_ifs <;> simp_all

/-- Copies of a trade of an order are copies among its consistent trades. -/
theorem consistentTrades_append_replicate {snapshot : BrokerTruthSnapshot} {order : BrokerOrderSnapshot}
    {trade : BrokerTradeSnapshot} (member : trade ∈ snapshot.consistentTrades order) (count : Nat) :
    { snapshot with trades := snapshot.trades ++ List.replicate count trade }.consistentTrades order =
      snapshot.consistentTrades order ++ List.replicate count trade := by
  unfold BrokerTruthSnapshot.consistentTrades BrokerTruthSnapshot.tradesMatchingOrderIdentity at member ⊢
  rw [List.filter_filter] at member
  rw [List.filter_filter, List.filter_filter, List.filter_append]
  congr 1
  refine List.filter_eq_self.2 fun other copied => ?_
  rw [List.eq_of_mem_replicate copied]
  exact (List.mem_filter.1 member).2

theorem repeated (snapshot : BrokerTruthSnapshot) {trade : BrokerTradeSnapshot} (member : trade ∈ snapshot.trades)
    (count : Nat) :
    RelistedSnapshot snapshot { snapshot with trades := snapshot.trades ++ List.replicate count trade } where
  accountId := rfl
  orders := List.Perm.refl _
  trades := .append_replicate member count
  instruments := List.Perm.refl _

/-- The reasons of all orders survive every relisting, and every shortfall of distinct trades is reported,
exactly when the trades of each order are settled. -/
theorem orphanReasons_stable_iff (snapshot : BrokerTruthSnapshot) :
    ((∀ relisted, RelistedSnapshot snapshot relisted → ∀ order ∈ snapshot.orders, ∀ reason,
        reason ∈ orphanReasonsForOrder relisted order ↔ reason ∈ orphanReasonsForOrder snapshot order) ∧
      ∀ order ∈ snapshot.orders,
        total tradeUnits (snapshot.consistentTrades order).dedup < order.filledQty.units →
        ReportsShortfall snapshot order) ↔
    ∀ order ∈ snapshot.orders, TradesSettled snapshot order := by
  constructor
  · rintro ⟨stable, reported⟩ order member
    by_cases positive : 0 < order.filledQty.units
    · refine Or.inr ⟨positive, settled_of_copies ?_ ?_⟩
      · intro trade isConsistent count
        have inTrades : trade ∈ snapshot.trades := by
          unfold BrokerTruthSnapshot.consistentTrades BrokerTruthSnapshot.tradesMatchingOrderIdentity at isConsistent
          exact (List.mem_filter.1 (List.mem_filter.1 isConsistent).1).1
        have same := stable _ (repeated snapshot inTrades count) order member
        have sameReport := or_congr (same .filledQuantityWithoutMatchingTrade)
          (same .matchingTradeQuantityLessThanFilledQuantity)
        have listed := (reportsShortfall_iff _ order).symm.trans (sameReport.trans (reportsShortfall_iff snapshot order))
        rw [consistentTrades_append_replicate isConsistent, and_iff_right positive, and_iff_right positive] at listed
        exact listed
      · intro short
        exact ((reportsShortfall_iff snapshot order).1 (reported order member short)).2
    · refine Or.inl ⟨not_lt.1 positive, ?_⟩
      by_contra short
      exact positive ((reportsShortfall_iff snapshot order).1 (reported order member (not_le.1 short))).1
  · intro settled
    refine ⟨?_, ?_⟩
    · intro relisted rows order member reason
      rw [orphanReasonsForOrder_relisted rows (settled order member)]
    · intro order member short
      rw [reportsShortfall_iff]
      obtain ⟨-, enough⟩ | ⟨positive, nonpos | ⟨-, enough⟩⟩ := settled order member
      · exact absurd short (not_lt.2 enough)
      · exact ⟨positive, lt_of_le_of_lt (total_nonpos nonpos) positive⟩
      · exact absurd short (not_lt.2 enough)

def sampleSymbol : InstrumentId where
  symbol := "IMOEXF"
  venueSymbol := some "IMOEXF@RTSX"
  exchange := .moex
  market := .futures

def sampleInstant : DateTimeUtc where
  seconds := 0
  nanos := 0

def sampleOrder : BrokerOrderSnapshot where
  accountId := ⟨"A-1"⟩
  brokerOrderId := some sampleOrderId
  clientOrderId := none
  instrument := sampleSymbol
  side := .buy
  orderType := .market
  timeInForce := none
  status := .filled
  lifecycle := .terminal
  qty := Decimal.ofNat 2 Decimal.two_fits
  filledQty := Decimal.ofNat 2 Decimal.two_fits
  remainingQty := some Decimal.zero
  limitPrice := none
  brokerAssetId := none
  board := none
  expirationDate := none
  sourceTs := none
  receivedTs := sampleInstant

def sampleTrade : BrokerTradeSnapshot where
  accountId := ⟨"A-1"⟩
  brokerTradeId := sampleTradeId
  brokerOrderId := some sampleOrderId
  clientOrderId := none
  instrument := sampleSymbol
  side := .buy
  qty := Decimal.ofNat 1 Decimal.one_fits
  price := Decimal.ofNat 2800 (by decide)
  grossAmount := none
  commission := none
  brokerAssetId := none
  board := none
  expirationDate := none
  sourceTs := sampleInstant
  receivedTs := sampleInstant

def sampleSnapshot : BrokerTruthSnapshot where
  accountId := ⟨"A-1"⟩
  orders := [sampleOrder]
  positions := []
  cash := none
  trades := [sampleTrade]
  instruments := [{
    instrument := {
      internalSymbol := "IMOEXF"
      broker := .finam
      brokerSymbol := "IMOEXF@RTSX"
      exchange := .moex
      market := .futures
      priceStep := Decimal.ofNat 1 Decimal.one_fits
      qtyStep := Decimal.ofNat 1 Decimal.one_fits
      lotSize := Decimal.ofNat 1 Decimal.one_fits
      minQty := Decimal.ofNat 1 Decimal.one_fits
      stepValue := Decimal.ofNat 1 Decimal.one_fits
      currency := "RUB"
      scheduleId := "IMOEXF@RTSX"
      expirationDate := none
      isTradable := true }
    brokerAssetId := none
    board := none
    longInitialMargin := none
    shortInitialMargin := none }]
  receivedTs := sampleInstant

/-- Listing the one trade twice hides that half of the order is not accounted for. -/
theorem repeated_trade_hides_shortfall :
    ¬ ∀ snapshot relisted, RelistedSnapshot snapshot relisted → ∀ order ∈ snapshot.orders, ∀ reason,
      reason ∈ orphanReasonsForOrder relisted order ↔ reason ∈ orphanReasonsForOrder snapshot order := by
  intro claim
  have reported : .matchingTradeQuantityLessThanFilledQuantity ∈ orphanReasonsForOrder sampleSnapshot sampleOrder := by
    decide
  have hidden : orphanReasonsForOrder
      { sampleSnapshot with trades := sampleSnapshot.trades ++ List.replicate 1 sampleTrade } sampleOrder = [] := by
    decide
  have same := claim sampleSnapshot _ (repeated sampleSnapshot List.mem_cons_self 1) sampleOrder List.mem_cons_self
    .matchingTradeQuantityLessThanFilledQuantity
  rw [hidden] at same
  cases same.2 reported

end TradingGateway.BrokerCore.OrphanOrders
