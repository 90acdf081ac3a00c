import TradingGateway.BrokerCore.RuntimeState

/-! Every trade is in the caches once, whatever the order in which it and its order arrive. -/

set_option autoImplicit false

namespace TradingGateway.BrokerCore.RuntimeState

open Identifiers

/-- Trades told apart by their ids differ only there. -/
def Identical (calls : List CacheCall) : Prop :=
  ∀ left right, .trade left ∈ calls → .trade right ∈ calls → SameTrade left right → left = right

def Ordered (calls : List CacheCall) (orderId : BrokerOrderId) : Prop :=
  ∃ event attribution, .order event attribution ∈ calls ∧ event.orderId = orderId

def Traded (calls : List CacheCall) (orderId : BrokerOrderId) (trade : RuntimeTradeEvent) : Prop :=
  .trade trade ∈ calls ∧ trade.orderId = orderId

def orderEvents (orderId : BrokerOrderId) (calls : List CacheCall) : List RuntimeOrderEvent :=
  calls.filterMap fun
    | .order event _ => if event.orderId = orderId then some event else none
    | .trade _ => none

theorem Identical.mono {calls more : List CacheCall} (identical : Identical more) (part : calls ⊆ more) :
    Identical calls :=
  fun left right leftMember rightMember => identical left right (part leftMember) (part rightMember)

section Push

variable {trades : List RuntimeTradeEvent} {trade : RuntimeTradeEvent}

theorem mem_pushTradeDedup (identical : ∀ other ∈ trades, SameTrade other trade → other = trade)
    (candidate : RuntimeTradeEvent) : candidate ∈ (pushTradeDedup trades trade).1 ↔ candidate ∈ trades ∨ candidate = trade := by
  unfold pushTradeDedup
  split_ifs with known
  · obtain ⟨other, member, same⟩ := List.any_eq_true.1 known
    have isTrade := identical other member (of_decide_eq_true same)
    subst isTrade
    constructor
    · exact Or.inl
    · rintro (old | rfl)
      · exact old
      · exact member
  · exact List.mem_append.trans (or_congr_right List.mem_singleton)

theorem nodup_pushTradeDedup (distinct : trades.Nodup) : (pushTradeDedup trades trade).1.Nodup := by
  unfold pushTradeDedup
  split_ifs with known
  · exact distinct
  · have fresh : trade ∉ trades := by
      intro member
      exact known (List.any_eq_true.2 ⟨trade, member, decide_eq_true ⟨rfl, rfl⟩⟩)
    exact List.nodup_append.2 ⟨distinct, List.nodup_singleton trade, by
      rintro left member right isTrade rfl
      exact fresh (List.mem_singleton.1 isTrade ▸ member)⟩

end Push

/-- Trades that waited for an order without trades come to it as they are. -/
theorem reconciled_none (pending : Option (List RuntimeTradeEvent))
    (identical : ∀ left ∈ pending.getD [], ∀ right ∈ pending.getD [], SameTrade left right → left = right) :
    ((reconciled none pending).getD []).Nodup ∧
      ∀ trade, trade ∈ (reconciled none pending).getD [] ↔ trade ∈ pending.getD [] := by
  unfold reconciled
  generalize pending.getD [] = pending at *
  induction pending using List.reverseRecOn with
  | nil => exact ⟨List.nodup_nil, fun _ => Iff.rfl⟩
  | append_singleton front last ih =>
      have part : ∀ trade ∈ front, trade ∈ front ++ [last] := fun _ member => List.mem_append_left _ member
      have isLast : last ∈ front ++ [last] := List.mem_append_right _ (List.mem_singleton.2 rfl)
      obtain ⟨nodup, members⟩ := ih fun left leftMember right rightMember =>
        identical left (part left leftMember) right (part right rightMember)
      rw [List.foldl_append]
      refine ⟨nodup_pushTradeDedup nodup, fun trade => ?_⟩
      refine (mem_pushTradeDedup ?_ trade).trans ?_
      · intro other member same
        exact identical other (part other ((members other).1 member)) last isLast same
      · rw [members trade, List.mem_append, List.mem_singleton]

structure Reflects (calls : List CacheCall) (caches : RuntimeCaches) : Prop where
  orders : ∀ orderId, caches.orders orderId = (orderEvents orderId calls).getLast?
  observed : ∀ orderId, orderId ∈ caches.observedOrderIds ↔ Ordered calls orderId
  owned : ∀ orderId, orderId ∈ caches.ownedOrderIds ↔
    ∃ event attribution, .order event attribution ∈ calls ∧ event.orderId = orderId ∧ attribution.isOwned = true
  known : ∀ orderId, Ordered calls orderId → ((caches.tradesByOrderId orderId).getD []).Nodup ∧
    (∀ trade, trade ∈ (caches.tradesByOrderId orderId).getD [] ↔ Traded calls orderId trade) ∧
    caches.pendingTradesByOrderId orderId = none
  pending : ∀ orderId, ¬ Ordered calls orderId → ((caches.pendingTradesByOrderId orderId).getD []).Nodup ∧
    (∀ trade, trade ∈ (caches.pendingTradesByOrderId orderId).getD [] ↔ Traded calls orderId trade) ∧
    caches.tradesByOrderId orderId = none

theorem ordered_concat {calls : List CacheCall} {event : RuntimeOrderEvent} {attribution : RuntimeOrderAttribution}
    {orderId : BrokerOrderId} :
    Ordered (calls ++ [.order event attribution]) orderId ↔ Ordered calls orderId ∨ event.orderId = orderId := by
  constructor
  · rintro ⟨other, owner, member, isOrder⟩
    obtain earlier | isLast := List.mem_append.1 member
    · exact Or.inl ⟨other, owner, earlier, isOrder⟩
    · cases List.mem_singleton.1 isLast
      exact Or.inr isOrder
  · rintro (⟨other, owner, member, isOrder⟩ | isOrder)
    · exact ⟨other, owner, List.mem_append_left _ member, isOrder⟩
    · exact ⟨event, attribution, List.mem_append_right _ (List.mem_singleton.2 rfl), isOrder⟩

theorem ordered_concat_trade {calls : List CacheCall} {event : RuntimeTradeEvent} {orderId : BrokerOrderId} :
    Ordered (calls ++ [.trade event]) orderId ↔ Ordered calls orderId := by
  unfold Ordered
  simp

theorem traded_concat_order {calls : List CacheCall} {event : RuntimeOrderEvent} {attribution : RuntimeOrderAttribution}
    {orderId : BrokerOrderId} {trade : RuntimeTradeEvent} :
    Traded (calls ++ [.order event attribution]) orderId trade ↔ Traded calls orderId trade := by
  unfold Traded
  simp

theorem traded_concat {calls : List CacheCall} {event trade : RuntimeTradeEvent} {orderId : BrokerOrderId} :
    Traded (calls ++ [.trade event]) orderId trade ↔
      Traded calls orderId trade ∨ (trade = event ∧ event.orderId = orderId) := by
  unfold Traded
  rw [List.mem_append, List.mem_singleton, CacheCall.trade.injEq, or_and_right]
  refine or_congr_right (and_congr_right ?_)
  rintro rfl
  exact Iff.rfl

theorem orderEvents_concat (orderId : BrokerOrderId) (calls : List CacheCall) (event : RuntimeOrderEvent)
    (attribution : RuntimeOrderAttribution) :
    orderEvents orderId (calls ++ [.order event attribution]) =
      orderEvents orderId calls ++ if event.orderId = orderId then [event] else [] := by
  unfold orderEvents
  rw [List.filterMap_append]
  congr 1
  by_cases isOrder : event.orderId = orderId
  · simp [isOrder]
  · simp [isOrder]

theorem orderEvents_concat_trade (orderId : BrokerOrderId) (calls : List CacheCall) (event : RuntimeTradeEvent) :
    orderEvents orderId (calls ++ [.trade event]) = orderEvents orderId calls := by
  unfold orderEvents
  rw [List.filterMap_append]
  exact List.append_nil _

theorem isSome_orderEvents_iff (orderId : BrokerOrderId) (calls : List CacheCall) :
    (orderEvents orderId calls).getLast?.isSome = true ↔ Ordered calls orderId := by
  induction calls using List.reverseRecOn with
  | nil =>
      refine iff_of_false Bool.false_ne_true ?_
      rintro ⟨_, _, absent, _⟩
      cases absent
  | append_singleton calls call ih =>
      cases call with
      | order event attribution =>
          rw [orderEvents_concat, ordered_concat, ← ih]
          by_cases isOrder : event.orderId = orderId
          · simp [isOrder]
          · simp [isOrder]
      | trade event => rw [orderEvents_concat_trade, ordered_concat_trade, ih]

theorem reflects_new : Reflects [] .new where
  orders := fun _ => rfl
  observed := by
    intro orderId
    refine iff_of_false (Finset.notMem_empty orderId) ?_
    rintro ⟨_, _, absent, _⟩
    cases absent
  owned := by
    intro orderId
    refine iff_of_false (Finset.notMem_empty orderId) ?_
    rintro ⟨_, _, absent, _⟩
    cases absent
  known := by
    rintro orderId ⟨_, _, absent, _⟩
    cases absent
  pending := by
    intro orderId _
    refine ⟨List.nodup_nil, fun trade => iff_of_false List.not_mem_nil ?_, rfl⟩
    rintro ⟨absent, _⟩
    cases absent

section Steps

variable {calls : List CacheCall} {caches : RuntimeCaches}

theorem applyOrder_trades (event : RuntimeOrderEvent) (attribution : RuntimeOrderAttribution) :
    (caches.applyOrderEventWithAttribution event attribution).1.tradesByOrderId =
      Function.update caches.tradesByOrderId event.orderId
        (reconciled (caches.tradesByOrderId event.orderId) (caches.pendingTradesByOrderId event.orderId)) := rfl

theorem applyOrder_pending (event : RuntimeOrderEvent) (attribution : RuntimeOrderAttribution) :
    (caches.applyOrderEventWithAttribution event attribution).1.pendingTradesByOrderId =
      Function.update caches.pendingTradesByOrderId event.orderId none := rfl

/-- An order event takes over the trades that waited for it. -/
theorem Reflects.applyOrderEvent (reflects : Reflects calls caches) (identical : Identical calls)
    (event : RuntimeOrderEvent) (attribution : RuntimeOrderAttribution) :
    Reflects (calls ++ [.order event attribution])
      (caches.applyOrderEventWithAttribution event attribution).1 where
  orders := by
    intro orderId
    rw [orderEvents_concat]
    have stored := reflects.orders event.orderId
    by_cases isOrder : event.orderId = orderId
    · subst isOrder
      rw [if_pos rfl, List.getLast?_concat]
      unfold RuntimeCaches.applyOrderEventWithAttribution
      dsimp only
      cases found : caches.orders event.orderId with
      | none => simp
      | some existing =>
          by_cases same : existing = event
          · simp [same, found]
          · simp [same]
    · rw [if_neg isOrder, List.append_nil, ← reflects.orders]
      unfold RuntimeCaches.applyOrderEventWithAttribution
      dsimp only
      split_ifs
      · rfl
      · exact Function.update_of_ne (Ne.symm isOrder) _ _
  observed := by
    intro orderId
    rw [ordered_concat, ← reflects.observed]
    exact Finset.mem_insert.trans (or_comm.trans (or_congr_right eq_comm))
  owned := by
    intro orderId
    have earlier := reflects.owned orderId
    constructor
    · intro member
      unfold RuntimeCaches.applyOrderEventWithAttribution at member
      dsimp only at member
      split_ifs at member with isOwned
      · obtain isOrder | old := Finset.mem_insert.1 member
        · exact ⟨event, attribution, List.mem_append_right _ (List.mem_singleton.2 rfl), isOrder.symm, isOwned⟩
        · obtain ⟨other, owner, isCall, found⟩ := earlier.1 old
          exact ⟨other, owner, List.mem_append_left _ isCall, found⟩
      · obtain ⟨other, owner, isCall, found⟩ := earlier.1 member
        exact ⟨other, owner, List.mem_append_left _ isCall, found⟩
    · rintro ⟨other, owner, isCall, isOrder, isOwned⟩
      unfold RuntimeCaches.applyOrderEventWithAttribution
      dsimp only
      obtain old | isLast := List.mem_append.1 isCall
      · have member := earlier.2 ⟨other, owner, old, isOrder, isOwned⟩
        split_ifs
        · exact Finset.mem_insert_of_mem member
        · exact member
      · cases List.mem_singleton.1 isLast
        rw [if_pos isOwned, ← isOrder]
        exact Finset.mem_insert_self _ _
  known := by
    intro orderId ordered
    rw [applyOrder_trades, applyOrder_pending]
    simp only [traded_concat_order]
    by_cases isOrder : event.orderId = orderId
    · subst isOrder
      rw [Function.update_self, Function.update_self]
      by_cases before : Ordered calls event.orderId
      · obtain ⟨nodup, members, none⟩ := reflects.known event.orderId before
        rw [none]
        exact ⟨nodup, members, rfl⟩
      · obtain ⟨nodup, members, none⟩ := reflects.pending event.orderId before
        rw [none]
        obtain ⟨moved, same⟩ := reconciled_none (caches.pendingTradesByOrderId event.orderId)
          fun left leftMember right rightMember =>
            identical left right ((members left).1 leftMember).1 ((members right).1 rightMember).1
        exact ⟨moved, fun trade => (same trade).trans (members trade), rfl⟩
    · have before := (ordered_concat.1 ordered).resolve_right isOrder
      rw [Function.update_of_ne (Ne.symm isOrder), Function.update_of_ne (Ne.symm isOrder)]
      exact reflects.known orderId before
  pending := by
    intro orderId unordered
    rw [ordered_concat, not_or] at unordered
    rw [applyOrder_trades, applyOrder_pending, Function.update_of_ne (Ne.symm unordered.2),
      Function.update_of_ne (Ne.symm unordered.2)]
    simp only [traded_concat_order]
    exact reflects.pending orderId unordered.1

/-- A trade waits exactly where its order has not been seen. -/
theorem Reflects.tradeTarget_eq (reflects : Reflects calls caches) (orderId : BrokerOrderId) :
    caches.tradeTarget orderId = .pendingOrderEvent ↔ ¬ Ordered calls orderId := by
  unfold RuntimeCaches.tradeTarget
  split_ifs with isOwned isKnown
  · obtain ⟨event, attribution, isCall, isOrder, _⟩ := (reflects.owned orderId).1 isOwned
    exact iff_of_false (fun same => nomatch same) (not_not.2 ⟨event, attribution, isCall, isOrder⟩)
  · refine iff_of_false (fun same => nomatch same) (not_not.2 ?_)
    obtain stored | observed := isKnown
    · rw [reflects.orders, isSome_orderEvents_iff] at stored
      exact stored
    · exact (reflects.observed orderId).1 observed
  · refine iff_of_true rfl fun ordered => isKnown (Or.inr ((reflects.observed orderId).2 ordered))

theorem Reflects.applyTrade (reflects : Reflects calls caches) (event : RuntimeTradeEvent)
    (identical : Identical (calls ++ [.trade event])) :
    Reflects (calls ++ [.trade event]) (caches.applyTradeEvent event).1 := by
  have isLast : CacheCall.trade event ∈ calls ++ [.trade event] := List.mem_append_right _ (List.mem_singleton.2 rfl)
  -- Pushing the trade to the trades of its order keeps them distinct, and adds it.
  have pushed : ∀ trades : List RuntimeTradeEvent, trades.Nodup →
      (∀ trade, trade ∈ trades ↔ Traded calls event.orderId trade) →
      (pushTradeDedup trades event).1.Nodup ∧
        ∀ trade, trade ∈ (pushTradeDedup trades event).1 ↔ Traded (calls ++ [.trade event]) event.orderId trade := by
    intro trades nodup members
    refine ⟨nodup_pushTradeDedup nodup, fun trade => ?_⟩
    rw [mem_pushTradeDedup, members, traded_concat, and_iff_left rfl]
    intro other member same
    exact identical other event (List.mem_append_left _ ((members other).1 member).1) isLast same
  have others : ∀ orderId, event.orderId ≠ orderId → ∀ trade,
      Traded (calls ++ [.trade event]) orderId trade ↔ Traded calls orderId trade := by
    intro orderId differs trade
    rw [traded_concat, or_iff_left]
    exact fun same => differs same.2
  unfold RuntimeCaches.applyTradeEvent
  dsimp only
  by_cases waits : caches.tradeTarget event.orderId = .pendingOrderEvent
  · have unordered := (reflects.tradeTarget_eq event.orderId).1 waits
    simp only [if_pos waits]
    refine ⟨?_, ?_, ?_, ?_, ?_⟩
    · simpa only [orderEvents_concat_trade] using reflects.orders
    · simpa only [ordered_concat_trade] using reflects.observed
    · simpa using reflects.owned
    · intro orderId ordered
      rw [ordered_concat_trade] at ordered
      have differs : event.orderId ≠ orderId := fun isOrder => unordered (isOrder ▸ ordered)
      dsimp only
      rw [Function.update_of_ne differs.symm]
      simp only [others orderId differs]
      exact reflects.known orderId ordered
    · intro orderId unseen
      rw [ordered_concat_trade] at unseen
      by_cases isOrder : event.orderId = orderId
      · subst isOrder
        obtain ⟨nodup, members, none⟩ := reflects.pending event.orderId unseen
        dsimp only
        rw [Function.update_self]
        exact ⟨(pushed _ nodup members).1, (pushed _ nodup members).2, none⟩
      · dsimp only
        rw [Function.update_of_ne (Ne.symm isOrder)]
        simp only [others orderId isOrder]
        exact reflects.pending orderId unseen
  · have ordered := not_not.1 ((reflects.tradeTarget_eq event.orderId).not.1 waits)
    simp only [if_neg waits]
    refine ⟨?_, ?_, ?_, ?_, ?_⟩
    · simpa only [orderEvents_concat_trade] using reflects.orders
    · simpa only [ordered_concat_trade] using reflects.observed
    · simpa using reflects.owned
    · intro orderId seen
      rw [ordered_concat_trade] at seen
      by_cases isOrder : event.orderId = orderId
      · subst isOrder
        obtain ⟨nodup, members, none⟩ := reflects.known event.orderId seen
        dsimp only
        rw [Function.update_self]
        exact ⟨(pushed _ nodup members).1, (pushed _ nodup members).2, none⟩
      · dsimp only
        rw [Function.update_of_ne (Ne.symm isOrder)]
        simp only [others orderId isOrder]
        exact reflects.known orderId seen
    · intro orderId unseen
      rw [ordered_concat_trade] at unseen
      have differs : event.orderId ≠ orderId := fun isOrder => unseen (isOrder ▸ ordered)
      dsimp only
      rw [Function.update_of_ne differs.symm]
      simp only [others orderId differs]
      exact reflects.pending orderId unseen

end Steps

theorem reflects_cachesAfter (calls : List CacheCall) (identical : Identical calls) :
    Reflects calls (cachesAfter calls) := by
  induction calls using List.reverseRecOn with
  | nil => exact reflects_new
  | append_singleton calls call ih =>
      have reflects := ih (identical.mono (List.subset_append_left _ _))
      have after : cachesAfter (calls ++ [call]) = applyCall (cachesAfter calls) call := by
        unfold cachesAfter
        rw [List.foldl_append]
        rfl
      rw [after]
      cases call with
      | order event attribution =>
          exact reflects.applyOrderEvent (identical.mono (List.subset_append_left _ _)) event attribution
      | trade event => exact reflects.applyTrade event identical

structure Reordering (calls reordered : List CacheCall) : Prop where
  perm : reordered.Perm calls
  orders : ∀ orderId, orderEvents orderId reordered = orderEvents orderId calls

namespace Reordering

variable {calls reordered : List CacheCall}

theorem ordered_iff (reordering : Reordering calls reordered) (orderId : BrokerOrderId) :
    Ordered reordered orderId ↔ Ordered calls orderId := by
  unfold Ordered
  simp only [reordering.perm.mem_iff]

theorem traded_iff (reordering : Reordering calls reordered) (orderId : BrokerOrderId) (trade : RuntimeTradeEvent) :
    Traded reordered orderId trade ↔ Traded calls orderId trade := by
  unfold Traded
  rw [reordering.perm.mem_iff]

end Reordering

namespace Reflects

variable {calls : List CacheCall} {caches : RuntimeCaches}

theorem mem_trades_iff (reflects : Reflects calls caches) (orderId : BrokerOrderId) (trade : RuntimeTradeEvent) :
    trade ∈ (caches.tradesByOrderId orderId).getD [] ↔ Traded calls orderId trade ∧ Ordered calls orderId := by
  by_cases ordered : Ordered calls orderId
  · rw [(reflects.known orderId ordered).2.1, and_iff_left ordered]
  · rw [(reflects.pending orderId ordered).2.2]
    exact iff_of_false List.not_mem_nil fun both => ordered both.2

theorem mem_pending_iff (reflects : Reflects calls caches) (orderId : BrokerOrderId) (trade : RuntimeTradeEvent) :
    trade ∈ (caches.pendingTradesByOrderId orderId).getD [] ↔ Traded calls orderId trade ∧ ¬ Ordered calls orderId := by
  by_cases ordered : Ordered calls orderId
  · rw [(reflects.known orderId ordered).2.2]
    exact iff_of_false List.not_mem_nil fun both => both.2 ordered
  · rw [(reflects.pending orderId ordered).2.1, and_iff_left ordered]

theorem nodup (reflects : Reflects calls caches) (orderId : BrokerOrderId) :
    ((caches.tradesByOrderId orderId).getD []).Nodup ∧ ((caches.pendingTradesByOrderId orderId).getD []).Nodup := by
  by_cases ordered : Ordered calls orderId
  · obtain ⟨distinct, -, none⟩ := reflects.known orderId ordered
    rw [none]
    exact ⟨distinct, List.nodup_nil⟩
  · obtain ⟨distinct, -, none⟩ := reflects.pending orderId ordered
    rw [none]
    exact ⟨List.nodup_nil, distinct⟩

theorem owned_subset (reflects : Reflects calls caches) : caches.ownedOrderIds ⊆ caches.observedOrderIds := by
  intro orderId isOwned
  obtain ⟨event, attribution, isCall, isOrder, -⟩ := (reflects.owned orderId).1 isOwned
  exact (reflects.observed orderId).2 ⟨event, attribution, isCall, isOrder⟩

end Reflects

/-- Each trade stands once, with its order where that has been seen and waiting where it has not, and the order
in which trades and the events of different orders arrive leaves no trace. -/
theorem caches_keep_trades_once (calls : List CacheCall) (identical : Identical calls) :
    (∀ orderId, (((cachesAfter calls).tradesByOrderId orderId).getD []).Nodup ∧
      (((cachesAfter calls).pendingTradesByOrderId orderId).getD []).Nodup ∧
      ∀ trade, (trade ∈ ((cachesAfter calls).tradesByOrderId orderId).getD [] ↔
          Traded calls orderId trade ∧ Ordered calls orderId) ∧
        (trade ∈ ((cachesAfter calls).pendingTradesByOrderId orderId).getD [] ↔
          Traded calls orderId trade ∧ ¬ Ordered calls orderId)) ∧
    (cachesAfter calls).ownedOrderIds ⊆ (cachesAfter calls).observedOrderIds ∧
    (∀ orderId, orderId ∈ (cachesAfter calls).observedOrderIds ↔ ((cachesAfter calls).orders orderId).isSome = true) ∧
    ∀ reordered, Reordering calls reordered →
      (cachesAfter reordered).orders = (cachesAfter calls).orders ∧
      (cachesAfter reordered).ownedOrderIds = (cachesAfter calls).ownedOrderIds ∧
      (cachesAfter reordered).observedOrderIds = (cachesAfter calls).observedOrderIds ∧
      ∀ orderId trade,
        (trade ∈ ((cachesAfter reordered).tradesByOrderId orderId).getD [] ↔
          trade ∈ ((cachesAfter calls).tradesByOrderId orderId).getD []) ∧
        (trade ∈ ((cachesAfter reordered).pendingTradesByOrderId orderId).getD [] ↔
          trade ∈ ((cachesAfter calls).pendingTradesByOrderId orderId).getD []) := by
  have reflects := reflects_cachesAfter calls identical
  refine ⟨?_, reflects.owned_subset, ?_, ?_⟩
  · intro orderId
    exact ⟨(reflects.nodup orderId).1, (reflects.nodup orderId).2, fun trade =>
      ⟨reflects.mem_trades_iff orderId trade, reflects.mem_pending_iff orderId trade⟩⟩
  · intro orderId
    rw [reflects.observed, reflects.orders, isSome_orderEvents_iff]
  · intro reordered reordering
    have again := reflects_cachesAfter reordered (identical.mono reordering.perm.subset)
    refine ⟨?_, ?_, ?_, ?_⟩
    · funext orderId
      rw [again.orders, reflects.orders, reordering.orders]
    · ext orderId
      rw [again.owned, reflects.owned]
      simp only [reordering.perm.mem_iff]
    · ext orderId
      rw [again.observed, reflects.observed, reordering.ordered_iff]
    · intro orderId trade
      rw [again.mem_trades_iff, reflects.mem_trades_iff, again.mem_pending_iff, reflects.mem_pending_iff,
        reordering.ordered_iff, reordering.traded_iff]
      exact ⟨Iff.rfl, Iff.rfl⟩

def sampleOrder : RuntimeOrderEvent where
  orderId := sampleOrderId
  clientOrderId := none
  symbol := some "IMOEXF"
  exchange := none
  status := some "working"
  side := none
  orderType := none
  sourceTs := none

def sampleTrade : RuntimeTradeEvent where
  tradeId := sampleTradeId
  orderId := sampleOrderId
  clientOrderId := none
  symbol := some "IMOEXF"
  exchange := none
  side := none
  sourceTs := none

/-- The trade comes before its order, and once more after it. -/
def sampleCalls : List CacheCall :=
  [.trade sampleTrade, .order sampleOrder .runtimeOwned, .trade sampleTrade]

theorem sampleCalls_identical : Identical sampleCalls := by
  have only : ∀ trade, .trade trade ∈ sampleCalls → trade = sampleTrade := by
    intro trade member
    simp only [sampleCalls, List.mem_cons, CacheCall.trade.injEq, List.not_mem_nil, or_false] at member
    simpa using member
  intro left right leftMember rightMember _
  rw [only left leftMember, only right rightMember]

theorem caches_keep_sample_trade_once :
    sampleTrade ∈ ((cachesAfter sampleCalls).tradesByOrderId sampleTrade.orderId).getD [] := by
  have kept := ((caches_keep_trades_once sampleCalls sampleCalls_identical).1 sampleTrade.orderId).2.2 sampleTrade
  exact kept.1.2 ⟨⟨List.mem_cons_self, rfl⟩, sampleOrder, .runtimeOwned,
    List.mem_cons_of_mem _ List.mem_cons_self, rfl⟩

end TradingGateway.BrokerCore.RuntimeState
