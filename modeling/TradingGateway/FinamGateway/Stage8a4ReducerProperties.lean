import TradingGateway.FinamGateway.PlainStage8a4Codec

/-! What an exact reduction says of the order it selects. -/

set_option autoImplicit false

namespace TradingGateway.FinamGateway.Stage8a4Reconciliation

open BrokerCore.FixedPoint BrokerCore.Identifiers BrokerCore.OperationalSnapshot BrokerCore.Orders
open Stage6.DurableIdentity
open Foundation.ExceptRun
open PlainStage8a4Codec

inductive CandidateOf (truth : BrokerTruthSnapshot) (exactLookup : Stage8a4PrivateExactLookup) : Candidate → Prop where
  | listed {row : Nat} {order : BrokerOrderSnapshot} (found : truth.orders[row]? = some order) :
      CandidateOf truth exactLookup { source := .listed row, order := order }
  | observed {observation : Stage8a4ExactOrderObservation}
      (succeeded : exactLookup.succeededObservation = some observation) :
      CandidateOf truth exactLookup { source := .exactLookup, order := observation.order }

section Candidates

variable {context : Stage8a4DurableRequestContext} {truth : BrokerTruthSnapshot}
  {exactLookup : Stage8a4PrivateExactLookup} {candidate other : Candidate} {expected : BrokerOrderId}

theorem CandidateOf.eq_of_source (left : CandidateOf truth exactLookup candidate)
    (right : CandidateOf truth exactLookup other) (same : candidate.source = other.source) : candidate = other := by
  cases left with
  | listed found =>
      cases right with
      | listed otherFound =>
          cases same
          rw [found] at otherFound
          cases otherFound
          rfl
      | observed _ => cases same
  | observed succeeded =>
      cases right with
      | listed _ => cases same
      | observed otherSucceeded =>
          rw [succeeded] at otherSucceeded
          cases otherSucceeded
          rfl

theorem mem_listedCandidates {selects : BrokerOrderSnapshot → Bool} :
    candidate ∈ listedCandidates truth selects ↔
      ∃ row order, truth.orders[row]? = some order ∧ selects order = true ∧
        candidate = { source := .listed row, order := order } := by
  unfold listedCandidates
  rw [List.mem_map]
  constructor
  · rintro ⟨⟨order, row⟩, member, rfl⟩
    obtain ⟨indexed, selected⟩ := List.mem_filter.1 member
    exact ⟨row, order, List.mem_zipIdx_iff_getElem?.1 indexed, selected, rfl⟩
  · rintro ⟨row, order, found, selected, rfl⟩
    exact ⟨(order, row), List.mem_filter.2 ⟨List.mem_zipIdx_iff_getElem?.2 found, selected⟩, rfl⟩

theorem candidateOf_listed {selects : BrokerOrderSnapshot → Bool} (member : candidate ∈ listedCandidates truth selects) :
    CandidateOf truth exactLookup candidate := by
  obtain ⟨row, order, found, -, rfl⟩ := mem_listedCandidates.1 member
  exact .listed found

theorem candidateOf_tier2 (member : candidate ∈ tier2Candidates truth exactLookup expected) :
    CandidateOf truth exactLookup candidate ∧ candidate.order.brokerOrderId = some expected := by
  have listed (inside : candidate ∈ listedCandidates truth fun order => order.brokerOrderId = some expected) :
      CandidateOf truth exactLookup candidate ∧ candidate.order.brokerOrderId = some expected := by
    refine ⟨candidateOf_listed inside, ?_⟩
    obtain ⟨row, order, -, named, rfl⟩ := mem_listedCandidates.1 inside
    exact of_decide_eq_true named
  unfold tier2Candidates at member
  dsimp only at member
  split at member
  case h_1 observation succeeded =>
    split at member
    case isTrue standsIn =>
      cases List.mem_singleton.1 member
      exact ⟨.observed succeeded, standsIn.1⟩
    case isFalse => exact listed member
  case h_2 => exact listed member

/-- A listed order of the known broker id is a second-tier candidate. -/
theorem mem_tier2_of_listed {row : Nat} {order : BrokerOrderSnapshot} (found : truth.orders[row]? = some order)
    (named : order.brokerOrderId = some expected) :
    { source := .listed row, order := order } ∈ tier2Candidates truth exactLookup expected := by
  have listed : { source := .listed row, order := order } ∈
      listedCandidates truth fun order => order.brokerOrderId = some expected :=
    mem_listedCandidates.2 ⟨row, order, found, decide_eq_true named, rfl⟩
  unfold tier2Candidates
  dsimp only
  split
  case h_1 =>
    rw [if_neg]
    · exact listed
    · rintro ⟨-, empty⟩
      rw [List.isEmpty_iff] at empty
      exact List.ne_nil_of_mem listed empty
  case h_2 => exact listed

/-- The observation of the known order is a second-tier candidate, or the same order is listed. -/
theorem tier2_ne_nil_of_observed {observation : Stage8a4ExactOrderObservation}
    (succeeded : exactLookup.succeededObservation = some observation)
    (named : observation.order.brokerOrderId = some expected) :
    tier2Candidates truth exactLookup expected ≠ [] := by
  unfold tier2Candidates
  rw [succeeded]
  dsimp only
  split
  case isTrue => exact List.cons_ne_nil _ _
  case isFalse listed =>
    intro empty
    exact listed ⟨named, List.isEmpty_iff.2 empty⟩

theorem tier3Candidates_ok {rows candidates : List Candidate} {missing : Bool}
    (success : tier3Candidates context rows = .ok (candidates, missing)) :
    ∀ candidate ∈ candidates, candidate ∈ rows ∧ tier3Matches candidate.order context = .isMatch := by
  induction rows generalizing candidates missing with
  | nil =>
      cases success
      simp
  | cons row rows ih =>
      unfold tier3Candidates at success
      cases matched : tier3Matches row.order context with
      | isMatch =>
          simp only [matched, bind_ok_iff, Except.ok.injEq, Prod.mk.injEq] at success
          obtain ⟨⟨others, missed⟩, ran, rfl, rfl⟩ := success
          intro candidate member
          rcases List.mem_cons.1 member with rfl | member
          · exact ⟨List.mem_cons_self, matched⟩
          · exact ⟨List.mem_cons_of_mem _ (ih ran candidate member).1, (ih ran candidate member).2⟩
      | missingRequiredShape =>
          simp only [matched, bind_ok_iff, Except.ok.injEq, Prod.mk.injEq] at success
          obtain ⟨⟨others, missed⟩, ran, rfl, rfl⟩ := success
          intro candidate member
          exact ⟨List.mem_cons_of_mem _ (ih ran candidate member).1, (ih ran candidate member).2⟩
      | identityConflict =>
          simp only [matched] at success
          cases success
      | noMatch =>
          simp only [matched] at success
          intro candidate member
          exact ⟨List.mem_cons_of_mem _ (ih success candidate member).1, (ih success candidate member).2⟩

structure Selects (context : Stage8a4DurableRequestContext) (truth : BrokerTruthSnapshot)
    (exactLookup : Stage8a4PrivateExactLookup) (candidate : Candidate) : Prop where
  source : CandidateOf truth exactLookup candidate
  client : ∀ other ∈ tier1Candidates context truth, other = candidate
  broker : ∀ expected, context.knownBrokerOrderId = some expected →
    ∀ other ∈ tier2Candidates truth exactLookup expected, other = candidate

/-- A list that is not longer than one holds its head alone. -/
private theorem eq_head_of_mem {rows : List Candidate} (short : ¬ 1 < rows.length) (head : rows.head? = some candidate)
    (member : other ∈ rows) : other = candidate := by
  cases rows with
  | nil => cases member
  | cons first rest =>
      have none : rest = [] := by
        cases rest with
        | nil => rfl
        | cons second rest => exact absurd (by simp) short
      subst none
      cases head
      exact List.mem_singleton.1 member

theorem selectTier3_ok {reason : Stage8a4ReconciliationReason}
    (success : selectTier3 context truth = .ok (candidate, reason)) :
    (∃ row, truth.orders[row]? = some candidate.order ∧ candidate.source = .listed row) ∧
      tier3Matches candidate.order context = .isMatch := by
  unfold selectTier3 at success
  rw [bind_ok_iff] at success
  obtain ⟨⟨candidates, missing⟩, ran, success⟩ := success
  simp only [bind_ok_iff, orReject_ok_iff, Except.ok.injEq, Prod.mk.injEq] at success
  obtain ⟨-, -, first, head, rfl, -⟩ := success
  obtain ⟨member, matched⟩ := tier3Candidates_ok ran first (List.mem_of_head? head)
  obtain ⟨row, order, found, -, rfl⟩ := mem_listedCandidates.1 member
  exact ⟨⟨row, found, rfl⟩, matched⟩

theorem selectCandidate_ok {reason : Stage8a4ReconciliationReason}
    (success : selectCandidate context truth exactLookup = .ok (candidate, reason)) :
    Selects context truth exactLookup candidate := by
  simp only [selectCandidate, check_bind_ok_iff, rejectIf_ok_iff] at success
  obtain ⟨short, agreeing, success⟩ := success
  obtain ⟨shortClient, shortBroker⟩ := not_or.1 short
  have noClient (none : (tier1Candidates context truth).head? = none) :
      ∀ other ∈ tier1Candidates context truth, other = candidate := by
    rw [List.head?_eq_none_iff.1 none]
    simp
  have brokerShort (expected : BrokerOrderId) (known : context.knownBrokerOrderId = some expected) :
      ¬ 1 < (tier2Candidates truth exactLookup expected).length := by
    intro long
    exact shortBroker ⟨_, by rw [known]; rfl, long⟩
  cases head : (tier1Candidates context truth).head? with
  | some first =>
      rw [head] at success agreeing
      cases success
      have source : CandidateOf truth exactLookup candidate := candidateOf_listed (List.mem_of_head? head)
      refine ⟨source, fun other member => eq_head_of_mem shortClient head member, ?_⟩
      intro expected known other member
      cases brokerHead : (tier2Candidates truth exactLookup expected).head? with
      | none =>
          rw [List.head?_eq_none_iff.1 brokerHead] at member
          cases member
      | some broker =>
          have same : other = broker := eq_head_of_mem (brokerShort expected known) brokerHead member
          subst same
          -- the two tiers found the same row
          have agree : candidate.source = other.source := by
            by_contra differ
            exact agreeing ⟨candidate, rfl, other, by rw [known]; exact brokerHead, differ⟩
          exact ((candidateOf_tier2 member).1).eq_of_source source agree.symm
  | none =>
      rw [head] at success
      cases known : context.knownBrokerOrderId with
      | none =>
          rw [known] at success
          obtain ⟨⟨row, found, listed⟩, -⟩ := selectTier3_ok success
          obtain ⟨place, order⟩ := candidate
          cases listed
          exact ⟨.listed found, noClient head, fun expected named => by rw [known] at named; cases named⟩
      | some expected =>
          rw [known] at success
          cases brokerHead : (tier2Candidates truth exactLookup expected).head? with
          | some broker =>
              simp only [Option.map_some, Option.bind_some, brokerHead] at success
              cases success
              refine ⟨(candidateOf_tier2 (List.mem_of_head? brokerHead)).1, noClient head, ?_⟩
              intro other named
              rw [known] at named
              cases named
              exact fun _ member => eq_head_of_mem (brokerShort expected known) brokerHead member
          | none =>
              simp only [Option.map_some, Option.bind_some, brokerHead] at success
              obtain ⟨⟨row, found, listed⟩, -⟩ := selectTier3_ok success
              obtain ⟨place, order⟩ := candidate
              cases listed
              refine ⟨.listed found, noClient head, ?_⟩
              intro other named
              rw [known] at named
              cases named
              rw [List.head?_eq_none_iff.1 brokerHead]
              simp

end Candidates

/-! ### The distinct trades -/

structure DistinctTrades (rows distinct : List BrokerTradeSnapshot) : Prop where
  among : ∀ trade ∈ distinct, trade ∈ rows
  covers : ∀ trade ∈ rows, ∃ kept ∈ distinct, SameMaterialTrade kept trade
  once : (distinct.map (·.brokerTradeId)).Nodup

section Trades

variable {rows distinct : List BrokerTradeSnapshot} {trade : BrokerTradeSnapshot}

theorem SameMaterialTrade.refl (trade : BrokerTradeSnapshot) : SameMaterialTrade trade trade :=
  ⟨rfl, rfl, rfl, rfl, rfl, rfl, rfl, rfl, rfl, rfl, rfl, rfl, rfl, rfl⟩

def keepDistinct (unique : List BrokerTradeSnapshot) (trade : BrokerTradeSnapshot) :
    Option (List BrokerTradeSnapshot) :=
  match unique.find? (fun existing => existing.brokerTradeId = trade.brokerTradeId) with
  | some existing => if SameMaterialTrade existing trade then some unique else none
  | none => some (unique ++ [trade])

theorem deduplicateRows_eq (rows : List BrokerTradeSnapshot) :
    deduplicateRows rows = rows.foldlM keepDistinct [] :=
  rfl

private theorem DistinctTrades.keep {history unique updated : List BrokerTradeSnapshot}
    (distinct : DistinctTrades history unique) (kept : keepDistinct unique trade = some updated) :
    DistinctTrades (history ++ [trade]) updated := by
  unfold keepDistinct at kept
  split at kept
  case h_1 existing found =>
    split at kept
    case isTrue same =>
      cases kept
      refine ⟨fun other member => List.mem_append_left _ (distinct.among other member), ?_, distinct.once⟩
      intro other member
      rcases List.mem_append.1 member with member | member
      · exact distinct.covers other member
      · cases List.mem_singleton.1 member
        exact ⟨existing, List.mem_of_find?_eq_some found, same⟩
    case isFalse => cases kept
  case h_2 absent =>
    cases kept
    refine ⟨?_, ?_, ?_⟩
    · intro other member
      rcases List.mem_append.1 member with member | member
      · exact List.mem_append_left _ (distinct.among other member)
      · exact List.mem_append_right _ member
    · intro other member
      rcases List.mem_append.1 member with member | member
      · obtain ⟨existing, inside, same⟩ := distinct.covers other member
        exact ⟨existing, List.mem_append_left _ inside, same⟩
      · cases List.mem_singleton.1 member
        exact ⟨trade, List.mem_append_right _ (List.mem_singleton_self _), SameMaterialTrade.refl trade⟩
    · rw [List.map_append, List.nodup_append]
      refine ⟨distinct.once, List.nodup_singleton _, ?_⟩
      intro left leftMember right rightMember same
      obtain ⟨existing, inside, rfl⟩ := List.mem_map.1 leftMember
      cases List.mem_singleton.1 rightMember
      exact absurd (decide_eq_true same) (List.find?_eq_none.1 absent existing inside)

theorem deduplicateTrades_some (deduped : deduplicateTrades rows = some distinct) : DistinctTrades rows distinct := by
  unfold deduplicateTrades at deduped
  obtain ⟨unique, ran, rfl⟩ := Option.map_eq_some_iff.1 deduped
  have kept : DistinctTrades rows unique := by
    clear deduped
    rw [deduplicateRows_eq] at ran
    induction rows using List.reverseRecOn generalizing unique with
    | nil =>
        cases ran
        exact ⟨by simp, by simp, List.nodup_nil⟩
    | append_singleton history trade ih =>
        rw [List.foldlM_append] at ran
        obtain ⟨middle, front, last⟩ := Option.bind_eq_some_iff.1 ran
        refine (ih middle front).keep ?_
        simpa using last
  have sorted := List.perm_insertionSort (fun left right : BrokerTradeSnapshot =>
    left.brokerTradeId.value ≤ right.brokerTradeId.value) unique
  refine ⟨fun trade member => kept.among trade (sorted.mem_iff.1 member), ?_, ?_⟩
  · intro trade member
    obtain ⟨existing, inside, same⟩ := kept.covers trade member
    exact ⟨existing, sorted.mem_iff.2 inside, same⟩
  · exact (sorted.map _).nodup_iff.2 kept.once

variable {context : Stage8a4DurableRequestContext} {order : BrokerOrderSnapshot}

theorem supportingTrades_ok {taken matching : List BrokerTradeSnapshot}
    (success : supportingTrades context order taken rows = .ok matching) :
    matching = taken ++ rows.filter (fun trade => classifyTradeSupport trade order context = .compatibleSupport) ∧
      ∀ trade ∈ rows, classifyTradeSupport trade order context ≠ .identityConflict := by
  induction rows generalizing taken with
  | nil =>
      cases success
      simp
  | cons trade rows ih =>
      unfold supportingTrades at success
      cases support : classifyTradeSupport trade order context with
      | compatibleSupport =>
          simp only [support] at success
          obtain ⟨rfl, clean⟩ := ih success
          refine ⟨by simp [support], ?_⟩
          intro other member
          rcases List.mem_cons.1 member with rfl | member
          · rw [support]
            decide
          · exact clean other member
      | unrelated =>
          simp only [support] at success
          obtain ⟨rfl, clean⟩ := ih success
          refine ⟨by simp [support], ?_⟩
          intro other member
          rcases List.mem_cons.1 member with rfl | member
          · rw [support]
            decide
          · exact clean other member
      | identityConflict =>
          simp only [support] at success
          cases success

end Trades

/-! ### The exact reduction -/

section Exact

variable {codec : Stage8a4Codec} {context : Stage8a4DurableRequestContext}
  {admission : Stage8a4FreshTruthAdmission} {policy : Stage8a4ReconciliationPolicy} {exact : ExactReduction}

structure ReducesExactly (context : Stage8a4DurableRequestContext) (admission : Stage8a4FreshTruthAdmission)
    (exact : ExactReduction) : Prop where
  selects : Selects context admission.truth admission.exactLookup exact.selected
  identity : SelectedOrderIdentity exact.selected.order context
  shape : exactOrderShape exact.selected.order context = .compatible
  trades : ∃ distinct, deduplicateTrades admission.truth.trades = some distinct ∧
    supportingTrades context exact.selected.order [] distinct = .ok exact.matchingTrades
  quantity : ∃ total, Decimal.checkedSum (exact.matchingTrades.map (·.qty)) = some total ∧
    total.Same exact.selected.order.filledQty
  state : exactState exact.selected.order exact.matchingTrades.length = .ok (exact.lifecycle, exact.fill)

theorem checkShape_ok {order : BrokerOrderSnapshot} : checkShape context order = .ok () ↔
    exactOrderShape order context = .compatible := by
  unfold checkShape
  cases exactOrderShape order context <;> simp

theorem reduceExact_ok (success : reduceExact codec context admission policy = .ok exact) :
    ReducesExactly context admission exact := by
  unfold reduceExact at success
  rw [check_bind_ok_iff] at success
  obtain ⟨-, success⟩ := success
  rw [bind_ok_iff] at success
  obtain ⟨⟨selected, reason⟩, ran, success⟩ := success
  simp only [rejectIf_ok_iff, not_not, bind_ok_iff, orReject_ok_iff, Except.ok.injEq] at success
  obtain ⟨-, identity, ⟨⟩, shape, distinct, deduped, matching, supported, total, summed, -, same,
    ⟨lifecycle, fill⟩, state, rfl⟩ := success
  exact
    { selects := selectCandidate_ok ran
      identity := identity
      shape := checkShape_ok.1 shape
      trades := ⟨distinct, deduped, supported⟩
      quantity := ⟨total, summed, same⟩
      state := state }

end Exact

/-! ### What the checks mean -/

def LinkedTo (order : BrokerOrderSnapshot) (trade : BrokerTradeSnapshot) : Prop :=
  SharesId trade.brokerOrderId order.brokerOrderId ∨ SharesId trade.clientOrderId order.clientOrderId

instance (order : BrokerOrderSnapshot) (trade : BrokerTradeSnapshot) : Decidable (LinkedTo order trade) :=
  inferInstanceAs (Decidable (_ ∨ _))

/-- A trade agrees with the order, and contradicts neither its ids nor those of the request. -/
structure Supports (context : Stage8a4DurableRequestContext) (order : BrokerOrderSnapshot)
    (trade : BrokerTradeSnapshot) : Prop where
  account : trade.accountId = order.accountId
  instrument : exactInstrumentMatches trade.instrument order.instrument = true
  side : trade.side = order.side
  brokerId : ¬ ContradictsId trade.brokerOrderId order.brokerOrderId
  clientId : ¬ ContradictsId trade.clientOrderId order.clientOrderId
  knownBrokerId : ¬ ContradictsId trade.brokerOrderId context.knownBrokerOrderId
  ownClientId : ¬ ContradictsId trade.clientOrderId (some context.clientOrderId)

structure OfShape (context : Stage8a4DurableRequestContext) (order : BrokerOrderSnapshot) : Prop where
  account : order.accountId = context.accountId
  instrument : exactInstrumentMatches order.instrument context.instrument = true
  side : order.side = context.side
  qty : order.qty.Same context.qty
  orderType : order.orderType = context.orderType
  timeInForce : order.timeInForce = some context.timeInForce
  limitPrice : SameOption order.limitPrice context.limitPrice

section Meaning

variable {codec : Stage8a4Codec} {context : Stage8a4DurableRequestContext}
  {order : BrokerOrderSnapshot} {trade : BrokerTradeSnapshot}

theorem ofShape_of_compatible (shape : exactOrderShape order context = .compatible) : OfShape context order := by
  unfold exactOrderShape at shape
  split at shape
  · cases shape
  case isFalse agrees =>
    simp only [not_or, not_not] at agrees
    obtain ⟨account, side, qty, orderType⟩ := agrees
    split at shape
    · cases shape
    · split at shape
      · cases shape
      case isFalse present =>
        simp only [not_or, not_not, Bool.not_eq_false] at present
        obtain ⟨instrument, timeInForce⟩ := present
        refine ⟨account, instrument, side, qty, orderType, timeInForce, ?_⟩
        have valid := context.validShape
        cases kind : context.orderType with
        | limit =>
            simp only [kind] at shape
            split at shape
            · cases shape
            · split at shape
              case isTrue same => exact same
              case isFalse => cases shape
        | market =>
            simp only [kind] at shape
            split at shape
            case isTrue absent =>
              unfold validateDurablePlaceShape at valid
              simp only [kind, check_bind_ok_iff, rejectIf_ok_iff, not_not] at valid
              rw [absent, valid.2]
              exact rfl
            case isFalse => cases shape
        | stop => simp [kind] at shape
        | stopLimit => simp [kind] at shape
        | takeProfit => simp [kind] at shape
        | takeProfitLimit => simp [kind] at shape

theorem classify_compatible_iff (clean : classifyTradeSupport trade order context ≠ .identityConflict) :
    classifyTradeSupport trade order context = .compatibleSupport ↔ LinkedTo order trade := by
  unfold classifyTradeSupport at clean ⊢
  split
  case isTrue apart => exact iff_of_false (by decide) apart
  case isFalse linked =>
    rw [not_not] at linked
    rw [if_neg (not_not.2 linked)] at clean
    split
    case isTrue conflict => exact absurd (if_pos conflict) clean
    case isFalse => exact iff_of_true rfl linked

theorem supports_of_linked (clean : classifyTradeSupport trade order context ≠ .identityConflict)
    (linked : LinkedTo order trade) : Supports context order trade := by
  unfold classifyTradeSupport at clean
  unfold LinkedTo at linked
  rw [if_neg (not_not.2 linked)] at clean
  split at clean
  case isTrue => exact absurd rfl clean
  case isFalse agrees =>
    simp only [not_or, not_not, Bool.not_eq_false] at agrees
    obtain ⟨brokerId, clientId, knownBrokerId, ownClientId, account, instrument, side⟩ := agrees
    exact ⟨account, instrument, side, brokerId, clientId, knownBrokerId, ownClientId⟩

/-- Material sameness carries the support of one row to every row of its id. -/
theorem SameMaterialTrade.linked {kept : BrokerTradeSnapshot} (same : SameMaterialTrade kept trade) :
    LinkedTo order trade ↔ LinkedTo order kept := by
  obtain ⟨-, -, brokerOrderId, clientOrderId, -⟩ := same
  rw [LinkedTo, LinkedTo, brokerOrderId, clientOrderId]

theorem SameMaterialTrade.supports {kept : BrokerTradeSnapshot} (same : SameMaterialTrade kept trade)
    (supports : Supports context order kept) : Supports context order trade := by
  obtain ⟨account, -, brokerOrderId, clientOrderId, instrument, side, -⟩ := same
  refine ⟨account ▸ supports.account, instrument ▸ supports.instrument, side ▸ supports.side, ?_, ?_, ?_, ?_⟩
  · exact brokerOrderId ▸ supports.brokerId
  · exact clientOrderId ▸ supports.clientId
  · exact brokerOrderId ▸ supports.knownBrokerId
  · exact clientOrderId ▸ supports.ownClientId

end Meaning

/-! ### The outcome -/

inductive StateImplied (qty filledQty : Quantity) : OrderStatus → Stage8a4FillEffect → Stage8a4ExactLifecycle → Prop where
  | workingUnfilled {status : OrderStatus} (active : status = .new ∨ status = .working)
      (unfilled : filledQty.Same Decimal.zero) : StateImplied qty filledQty status .zero .working
  | workingPartly (some : ¬ filledQty.Same Decimal.zero) (notAll : ¬ filledQty.Same qty) :
      StateImplied qty filledQty .partiallyFilled (.partialFill filledQty) .working
  | filled (some : ¬ filledQty.Same Decimal.zero) (all : filledQty.Same qty) :
      StateImplied qty filledQty .filled (.full filledQty) .terminalFilled
  | rejected (unfilled : filledQty.Same Decimal.zero) : StateImplied qty filledQty .rejected .zero .terminalRejected
  | canceledUnfilled (unfilled : filledQty.Same Decimal.zero) :
      StateImplied qty filledQty .canceled .zero .terminalCancelled
  | canceledPartly (some : ¬ filledQty.Same Decimal.zero) (notAll : ¬ filledQty.Same qty) :
      StateImplied qty filledQty .canceled (.partialFill filledQty) .terminalCancelled
  | expiredUnfilled (unfilled : filledQty.Same Decimal.zero) :
      StateImplied qty filledQty .expired .zero .terminalExpired
  | expiredPartly (some : ¬ filledQty.Same Decimal.zero) (notAll : ¬ filledQty.Same qty) :
      StateImplied qty filledQty .expired (.partialFill filledQty) .terminalExpired

def DigestsDistinguish (codec : Stage8a4Codec) (admission : Stage8a4FreshTruthAdmission) : Prop :=
  ∀ left ∈ observedOrders admission, ∀ right ∈ observedOrders admission,
    selectedOrderDigest codec left = selectedOrderDigest codec right → left = right

section Outcome

variable {codec : Stage8a4Codec} {context : Stage8a4DurableRequestContext}
  {admission : Stage8a4FreshTruthAdmission} {policy : Stage8a4ReconciliationPolicy} {exact : ExactReduction}
  {order : BrokerOrderSnapshot} {lifecycle : Stage8a4ExactLifecycle} {fill : Stage8a4FillEffect} {count : Nat}

theorem exactState_ok (success : exactState order count = .ok (lifecycle, fill)) :
    ¬ order.filledQty < Decimal.zero ∧ ¬ order.qty < order.filledQty ∧
      StateImplied order.qty order.filledQty order.status fill lifecycle := by
  simp only [exactState, bind_ok_iff, rejectIf_ok_iff, mapError_ok_iff, Except.ok.injEq, Prod.mk.injEq, not_or]
    at success
  obtain ⟨-, ⟨-, notNegative, notOver⟩, contradicts, -, -, -, named, implied, rfl, rfl⟩ := success
  refine ⟨notNegative, notOver, ?_⟩
  unfold fillEffectOf at implied ⊢
  split at implied
  case isTrue unfilled =>
    rw [if_pos unfilled]
    cases status : order.status with
    | new =>
        simp only [status, exactLifecycleOf] at implied
        cases implied
        exact .workingUnfilled (.inl rfl) unfilled
    | working =>
        simp only [status, exactLifecycleOf] at implied
        cases implied
        exact .workingUnfilled (.inr rfl) unfilled
    | rejected =>
        simp only [status, exactLifecycleOf] at implied
        cases implied
        exact .rejected unfilled
    | canceled =>
        simp only [status, exactLifecycleOf] at implied
        cases implied
        exact .canceledUnfilled unfilled
    | expired =>
        simp only [status, exactLifecycleOf] at implied
        cases implied
        exact .expiredUnfilled unfilled
    | partiallyFilled =>
        simp only [status, exactLifecycleOf] at implied
        cases implied
    | filled =>
        simp only [status, exactLifecycleOf] at implied
        cases implied
    | unknown text =>
        simp only [status, exactLifecycleOf] at implied
        cases implied
  case isFalse some =>
    rw [if_neg some]
    split at implied
    case isTrue all =>
      rw [if_pos all]
      cases status : order.status <;> simp only [status, exactLifecycleOf] at implied <;> cases implied
      exact .filled some all
    case isFalse notAll =>
      rw [if_neg notAll]
      cases status : order.status with
      | partiallyFilled =>
          simp only [status, exactLifecycleOf] at implied
          cases implied
          exact .workingPartly some notAll
      | canceled =>
          simp only [status, exactLifecycleOf] at implied
          cases implied
          exact .canceledPartly some notAll
      | expired =>
          simp only [status, exactLifecycleOf] at implied
          cases implied
          exact .expiredPartly some notAll
      | new =>
          simp only [status, exactLifecycleOf] at implied
          cases implied
      | working =>
          simp only [status, exactLifecycleOf] at implied
          cases implied
      | filled =>
          simp only [status, exactLifecycleOf] at implied
          cases implied
      | rejected =>
          simp only [status, exactLifecycleOf] at implied
          cases implied
      | unknown text =>
          simp only [status, exactLifecycleOf] at implied
          cases implied

theorem CandidateOf.mem_observed {candidate : Candidate}
    (source : CandidateOf admission.truth admission.exactLookup candidate) :
    candidate.order ∈ observedOrders admission := by
  unfold observedOrders
  cases source with
  | listed found => exact List.mem_append_left _ (List.mem_of_getElem? found)
  | observed succeeded =>
      rw [succeeded]
      exact List.mem_append_right _ (List.mem_singleton_self _)

/-- The order found again by its digest is the selected one. -/
theorem selectedByDigest_eq (distinguish : DigestsDistinguish codec admission)
    (member : order ∈ observedOrders admission) :
    selectedByDigest codec admission (some (selectedOrderDigest codec order)) = some order := by
  unfold selectedByDigest
  rw [Option.bind_some]
  cases found : (observedOrders admission).find? fun other =>
      selectedOrderDigest codec other = selectedOrderDigest codec order with
  | none => exact absurd (decide_eq_true rfl) (List.find?_eq_none.1 found order member)
  | some other =>
      have same : selectedOrderDigest codec other = selectedOrderDigest codec order := by
        simpa using List.find?_some found
      rw [distinguish other (List.mem_of_find?_eq_some found) order member same]

/-- An outcome that reports an exact state reports what was reduced. -/
theorem reduceStage8a4Authoritative_ran {outcome : Stage8a4AuthoritativeReconciliationOutcome}
    (reduced : reduceStage8a4Authoritative codec context admission policy = some outcome)
    (isExact : outcome.outcomeKind = .exactOrderState) :
    ∃ exact, reduceExact codec context admission policy = .ok exact ∧
      outcome.lifecycle = some exact.lifecycle ∧ outcome.fill = some exact.fill ∧
      outcome.matchingTradeCount = exact.matchingTrades.length ∧
      outcome.selectedOrder =
        selectedByDigest codec admission (some (selectedOrderDigest codec exact.selected.order)) ∧
      outcome.materialTrades = (outcome.selectedOrder.map (materialTradesOf context admission)).getD [] := by
  unfold reduceStage8a4Authoritative at reduced
  obtain ⟨diagnostic, diagnosed, reduced⟩ := Option.bind_eq_some_iff.1 reduced
  obtain ⟨safety, -, reduced⟩ := Option.bind_eq_some_iff.1 reduced
  cases reduced
  unfold reduceStage8a4Diagnostic at diagnosed
  split at diagnosed
  case h_1 exact ran =>
    cases diagnosed
    exact ⟨exact, ran, rfl, rfl, rfl, rfl, rfl⟩
  case h_2 =>
    cases diagnosed
    cases isExact
  case h_3 =>
    cases diagnosed
    cases isExact
  case h_4 => cases diagnosed

theorem reduceStage8a4Authoritative_exact {outcome : Stage8a4AuthoritativeReconciliationOutcome}
    (reduced : reduceStage8a4Authoritative codec context admission policy = some outcome)
    (isExact : outcome.outcomeKind = .exactOrderState) :
    ∃ exact, ReducesExactly context admission exact ∧
      outcome.lifecycle = some exact.lifecycle ∧ outcome.fill = some exact.fill ∧
      outcome.matchingTradeCount = exact.matchingTrades.length ∧
      outcome.selectedOrder =
        selectedByDigest codec admission (some (selectedOrderDigest codec exact.selected.order)) := by
  obtain ⟨exact, ran, lifecycle, fill, count, selected, -⟩ := reduceStage8a4Authoritative_ran reduced isExact
  exact ⟨exact, reduceExact_ok ran, lifecycle, fill, count, selected⟩

end Outcome

/-! ### Soundness -/

def NamesRequest (context : Stage8a4DurableRequestContext) (order : BrokerOrderSnapshot) : Prop :=
  order.clientOrderId = some context.clientOrderId ∨
    ∃ known, context.knownBrokerOrderId = some known ∧ order.brokerOrderId = some known

structure SoundlyExact (context : Stage8a4DurableRequestContext) (truth : BrokerTruthSnapshot)
    (exactLookup : Stage8a4PrivateExactLookup) (outcome : Stage8a4AuthoritativeReconciliationOutcome)
    (order : BrokerOrderSnapshot) : Prop where
  selected : outcome.selectedOrder = some order
  shape : OfShape context order
  clientId : ∀ id, order.clientOrderId = some id → id = context.clientOrderId
  brokerId : ∀ known id, context.knownBrokerOrderId = some known → order.brokerOrderId = some id → id = known
  alone : ∀ (row : Nat) other, truth.orders[row]? = some other → NamesRequest context other → other = order
  once : ∀ (row rowAgain : Nat) other again, truth.orders[row]? = some other → NamesRequest context other →
    truth.orders[rowAgain]? = some again → NamesRequest context again → row = rowAgain
  lookup : ∀ observation, exactLookup.succeededObservation = some observation →
    SameMaterialOrder order observation.order
  filled : ∃ distinct total, DistinctTrades truth.trades distinct ∧
    Decimal.checkedSum ((distinct.filter (LinkedTo order ·)).map (·.qty)) = some total ∧
    total.Same order.filledQty
  supports : ∀ trade ∈ truth.trades, LinkedTo order trade → Supports context order trade
  notNegative : ¬ order.filledQty < Decimal.zero
  notOver : ¬ order.qty < order.filledQty
  state : ∃ lifecycle fill, outcome.lifecycle = some lifecycle ∧ outcome.fill = some fill ∧
    StateImplied order.qty order.filledQty order.status fill lifecycle
  noRetry : outcome.intoDiagnostic.retryAuthorized = false
  noSend : outcome.intoDiagnostic.sendAuthorized = false

section Soundness

variable {codec : Stage8a4Codec} {context : Stage8a4DurableRequestContext}
  {policy : Stage8a4ReconciliationPolicy} {truth : BrokerTruthSnapshot} {evidence : Stage8a4SourceEvidence}
  {exactLookup : Stage8a4PrivateExactLookup} {candidate : Candidate}

theorem SameMaterialOrder.refl (order : BrokerOrderSnapshot) : SameMaterialOrder order order :=
  ⟨rfl, rfl, rfl, rfl, rfl, rfl, rfl, rfl, rfl, rfl, rfl, rfl, rfl, rfl, rfl, rfl, rfl⟩

theorem Selects.eq_listed (selects : Selects context truth exactLookup candidate) {row : Nat}
    {order : BrokerOrderSnapshot} (found : truth.orders[row]? = some order) (names : NamesRequest context order) :
    { source := .listed row, order := order } = candidate := by
  rcases names with client | ⟨known, isKnown, broker⟩
  · exact selects.client _ (mem_listedCandidates.2 ⟨row, order, found, decide_eq_true client, rfl⟩)
  · exact selects.broker known isKnown _ (mem_tier2_of_listed found broker)

theorem SelectedOrderIdentity.client {order : BrokerOrderSnapshot} (identity : SelectedOrderIdentity order context)
    {id : ClientOrderId} (carries : order.clientOrderId = some id) : id = context.clientOrderId := by
  by_contra other
  refine identity.1 ⟨by rw [carries]; rfl, rfl, ?_⟩
  rw [carries]
  exact fun same => other (Option.some.inj same)

theorem SelectedOrderIdentity.broker {order : BrokerOrderSnapshot} (identity : SelectedOrderIdentity order context)
    {known id : BrokerOrderId} (isKnown : context.knownBrokerOrderId = some known)
    (carries : order.brokerOrderId = some id) : id = known := by
  by_contra other
  refine identity.2 ⟨by rw [isKnown]; rfl, by rw [carries]; rfl, ?_⟩
  rw [isKnown, carries]
  exact fun same => other (Option.some.inj same).symm

theorem admitStage8a4BrokerTruth_ok {admission : Stage8a4FreshTruthAdmission}
    (admits : admitStage8a4BrokerTruth codec context policy truth evidence = .ok admission) :
    admission = admitted codec context policy truth evidence ∧
      checkAdmission codec context policy truth evidence = .ok () := by
  unfold admitStage8a4BrokerTruth at admits
  dsimp only at admits
  rw [bind_ok_iff] at admits
  obtain ⟨⟨⟩, checked, same⟩ := admits
  rw [mapError_ok_iff] at checked
  cases same
  exact ⟨rfl, checked⟩

/-- An admitted observation is of the known order, and agrees with it where it is listed. -/
theorem checkAdmission_lookup {observation : Stage8a4ExactOrderObservation}
    (checked : checkAdmission codec context policy truth evidence = .ok ())
    (succeeded : evidence.exactLookup.succeededObservation = some observation) :
    ∃ known, context.knownBrokerOrderId = some known ∧ observation.order.brokerOrderId = some known ∧
      ∀ listed, truth.orders.find? (fun order => order.brokerOrderId = some known) = some listed →
        SameMaterialOrder listed observation.order := by
  simp only [checkAdmission, bind_ok_iff] at checked
  obtain ⟨-, -, -, -, -, -, -, -, -, -, -, -, -, -, -, -, -, -, -, -, lookup⟩ := checked
  have exactOrder : validateExactOrder context truth observation = .ok () := by
    unfold validateExactLookup at lookup
    simp only [succeeded] at lookup
    split at lookup
    · rw [ok_bind, check_bind_ok_iff] at lookup
      exact lookup.2
    · rw [check_bind_ok_iff, check_bind_ok_iff] at lookup
      exact lookup.2.2
  simp only [validateExactOrder, bind_ok_iff, orReject_ok_iff, rejectIf_ok_iff, not_or, not_not] at exactOrder
  obtain ⟨known, isKnown, -, ⟨named, -⟩, agrees⟩ := exactOrder
  refine ⟨known, isKnown, named, ?_⟩
  intro listed found
  rw [found] at agrees
  simpa using agrees

/-- The order that an exact reduction selects agrees with an admitted observation. -/
theorem Selects.agrees_observation (selects : Selects context truth evidence.exactLookup candidate)
    {observation : Stage8a4ExactOrderObservation}
    (checked : checkAdmission codec context policy truth evidence = .ok ())
    (succeeded : evidence.exactLookup.succeededObservation = some observation) :
    SameMaterialOrder candidate.order observation.order := by
  obtain ⟨known, isKnown, named, agrees⟩ := checkAdmission_lookup checked succeeded
  obtain ⟨first, rest, found⟩ := List.exists_cons_of_ne_nil (tier2_ne_nil_of_observed succeeded named)
  have member : first ∈ tier2Candidates truth evidence.exactLookup known := by
    rw [found]
    exact List.mem_cons_self
  cases selects.broker known isKnown first member
  obtain ⟨source, carries⟩ := candidateOf_tier2 member
  cases source with
  | observed also =>
      rw [succeeded] at also
      cases also
      exact SameMaterialOrder.refl _
  | listed isListed =>
      rename_i row order
      cases hit : truth.orders.find? (fun order => order.brokerOrderId = some known) with
      | none =>
          exact absurd (decide_eq_true carries) (List.find?_eq_none.1 hit order (List.mem_of_getElem? isListed))
      | some listed =>
          -- the first listed order of the known id is the one that is selected
          have listedNamed : listed.brokerOrderId = some known := by simpa using List.find?_some hit
          obtain ⟨otherRow, otherFound⟩ := List.mem_iff_getElem?.1 (List.mem_of_find?_eq_some hit)
          have same := selects.eq_listed otherFound (.inr ⟨known, isKnown, listedNamed⟩)
          cases same
          exact agrees _ hit

/-- One order and no observation leave nothing to confuse. -/
theorem sample_digestsDistinguish {sample : SampleReduction} {order : BrokerOrderSnapshot}
    (admits : admitStage8a4BrokerTruth plainStage8a4Codec sample.context samplePolicy (sampleTruth order)
      (sampleEvidence order) = .ok sample.admission) : DigestsDistinguish plainStage8a4Codec sample.admission := by
  obtain ⟨same, -⟩ := admitStage8a4BrokerTruth_ok admits
  rw [same]
  intro left leftMember right rightMember _
  cases List.mem_singleton.1 (leftMember : left ∈ [order])
  cases List.mem_singleton.1 (rightMember : right ∈ [order])
  rfl

/-- An exact state is sound: the order it reports is the request's, by every identity, by its shape
and by its trades, and its state is what its status and its fill mean. -/
theorem exact_reconciliation_is_sound {admission : Stage8a4FreshTruthAdmission}
    {outcome : Stage8a4AuthoritativeReconciliationOutcome}
    (admits : admitStage8a4BrokerTruth codec context policy truth evidence = .ok admission)
    (distinguish : DigestsDistinguish codec admission)
    (reduced : reduceStage8a4Authoritative codec context admission policy = some outcome)
    (isExact : outcome.outcomeKind = .exactOrderState) :
    ∃ order, SoundlyExact context truth evidence.exactLookup outcome order := by
  obtain ⟨rfl, checked⟩ := admitStage8a4BrokerTruth_ok admits
  obtain ⟨exact, reduction, lifecycle, fill, -, selected⟩ := reduceStage8a4Authoritative_exact reduced isExact
  have selects : Selects context truth evidence.exactLookup exact.selected := reduction.selects
  obtain ⟨notNegative, notOver, implied⟩ := exactState_ok reduction.state
  obtain ⟨distinct, deduped, supported⟩ := reduction.trades
  obtain ⟨total, summed, same⟩ := reduction.quantity
  obtain ⟨matching, clean⟩ := supportingTrades_ok supported
  have distinctTrades : DistinctTrades truth.trades distinct := deduplicateTrades_some deduped
  have linked : exact.matchingTrades = distinct.filter (LinkedTo exact.selected.order ·) := by
    rw [matching, List.nil_append]
    refine List.filter_congr fun trade member => ?_
    rw [decide_eq_decide]
    exact classify_compatible_iff (clean trade member)
  refine ⟨exact.selected.order, ?_⟩
  constructor
  · rw [selected]
    exact selectedByDigest_eq distinguish reduction.selects.source.mem_observed
  · exact ofShape_of_compatible reduction.shape
  · exact fun id carries => reduction.identity.client carries
  · exact fun known id isKnown carries => reduction.identity.broker isKnown carries
  · intro row other found names
    rw [← selects.eq_listed found names]
  · intro row rowAgain other again found names foundAgain namesAgain
    have sameCandidate := (selects.eq_listed found names).trans (selects.eq_listed foundAgain namesAgain).symm
    cases sameCandidate
    rfl
  · exact fun observation succeeded => selects.agrees_observation checked succeeded
  · exact ⟨distinct, total, distinctTrades, linked ▸ summed, same⟩
  · intro trade member links
    obtain ⟨kept, inside, sameTrade⟩ := distinctTrades.covers trade member
    exact sameTrade.supports (supports_of_linked (clean kept inside) (sameTrade.linked.1 links))
  · exact notNegative
  · exact notOver
  · exact ⟨exact.lifecycle, exact.fill, lifecycle, fill, implied⟩
  · rfl
  · rfl

/-- A partly filled order without a client id is found by its shape, with the trade that fills it. -/
theorem sample_exact_reconciliation_is_sound :
    ∃ (sample : SampleReduction) (order : BrokerOrderSnapshot),
      SoundlyExact sample.context (sampleTruth sampleOrder) (sampleEvidence sampleOrder).exactLookup
        sample.outcome order := by
  obtain ⟨sample, reduces, isExact, -⟩ := sampleReduction_of_shape
  obtain ⟨-, admits, reduced⟩ := sampleReduction_some reduces
  obtain ⟨order, sound⟩ := exact_reconciliation_is_sound admits (sample_digestsDistinguish admits) reduced isExact
  exact ⟨sample, order, sound⟩

end Soundness

end TradingGateway.FinamGateway.Stage8a4Reconciliation
