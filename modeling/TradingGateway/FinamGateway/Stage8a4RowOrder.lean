import Mathlib.Data.String.Basic
import TradingGateway.FinamGateway.Stage8a4ReducerProperties

/-! Reconciliation of the same broker rows listed in different orders. -/

set_option autoImplicit false

namespace TradingGateway.FinamGateway.Stage8a4Reconciliation

open BrokerCore.FixedPoint BrokerCore.Identifiers BrokerCore.OperationalSnapshot BrokerCore.Orders
open Stage6.DurableIdentity Stage6.JournalRecord Stage6.PlainCodec
open Foundation.Bytes Foundation.ExceptRun
open PlainStage8a4Codec

/-- The same observation, its rows listed in another order. -/
structure Rearranged (truth other : BrokerTruthSnapshot) : Prop where
  accountId : other.accountId = truth.accountId
  orders : other.orders.Perm truth.orders
  positions : other.positions.Perm truth.positions
  cash : other.cash = truth.cash
  trades : other.trades.Perm truth.trades
  instruments : other.instruments.Perm truth.instruments
  receivedTs : other.receivedTs = truth.receivedTs

section Digests

theorem sortedHashes_perm {left right : List HexText} (same : left.Perm right) :
    sortedHashes left = sortedHashes right := by
  let before (one another : HexText) : Prop := (compare one another).isLE = true
  have total : Std.Total before := ⟨fun one another => by
    unfold before
    rw [@Std.OrientedCmp.eq_swap HexText compare _ another one]
    cases compare one another <;> simp⟩
  have trans : IsTrans HexText before := ⟨fun _ _ _ first second => Std.TransCmp.isLE_trans first second⟩
  refine List.Perm.eq_of_pairwise (fun one another _ _ first second => ?_) (List.pairwise_insertionSort before left)
    (List.pairwise_insertionSort before right) ?_
  · exact Std.LawfulEqCmp.eq_of_compare (Std.OrientedCmp.isLE_antisymm first second)
  · exact (List.perm_insertionSort before left).trans (same.trans (List.perm_insertionSort before right).symm)

variable {codec : Stage8a4Codec} {truth other : BrokerTruthSnapshot}

theorem Rearranged.symm (rearranged : Rearranged truth other) : Rearranged other truth where
  accountId := rearranged.accountId.symm
  orders := rearranged.orders.symm
  positions := rearranged.positions.symm
  cash := rearranged.cash.symm
  trades := rearranged.trades.symm
  instruments := rearranged.instruments.symm
  receivedTs := rearranged.receivedTs.symm

/-- The digest of a truth is that of its rows as multisets. -/
theorem Rearranged.canonicalTruthBinding_eq (rearranged : Rearranged truth other) :
    canonicalTruthBinding codec other = canonicalTruthBinding codec truth := by
  unfold canonicalTruthBinding
  rw [rearranged.accountId, rearranged.cash, rearranged.receivedTs, sortedHashes_perm (rearranged.orders.map _),
    sortedHashes_perm (rearranged.positions.map _), sortedHashes_perm (rearranged.trades.map _),
    sortedHashes_perm (rearranged.instruments.map _)]

end Digests

/-! ### Admission -/

/-- More than one order is listed under the known broker id. -/
def Crowded (context : Stage8a4DurableRequestContext) (truth : BrokerTruthSnapshot) : Prop :=
  ∃ known, context.knownBrokerOrderId = some known ∧
    1 < (truth.orders.filter fun order => order.brokerOrderId = some known).length

/-- Two runs of one check: the same result, or a crowded truth that passes it or is refused as disagreeing. -/
inductive ChecksAlike (context : Stage8a4DurableRequestContext) (truth : BrokerTruthSnapshot) :
    Except AdmissionFailure Unit → Except AdmissionFailure Unit → Prop where
  | same (result : Except AdmissionFailure Unit) : ChecksAlike context truth result result
  | crowded {left right : Except AdmissionFailure Unit} (crowd : Crowded context truth)
      (leftResult : left = .ok () ∨ left = .error disagreeing)
      (rightResult : right = .ok () ∨ right = .error disagreeing) : ChecksAlike context truth left right

section Admission

variable {codec : Stage8a4Codec} {context : Stage8a4DurableRequestContext} {policy : Stage8a4ReconciliationPolicy}
  {truth other : BrokerTruthSnapshot} {evidence : Stage8a4SourceEvidence}

theorem ChecksAlike.behind (first : Except AdmissionFailure Unit) {left right : Unit → Except AdmissionFailure Unit}
    (alike : ChecksAlike context truth (left ()) (right ())) :
    ChecksAlike context truth (first >>= left) (first >>= right) := by
  cases first with
  | error failure => exact .same _
  | ok => exact alike

theorem Rearranged.validateAccounts_eq (rearranged : Rearranged truth other) :
    validateAccounts context other = validateAccounts context truth := by
  unfold validateAccounts
  simp only [rearranged.accountId, rearranged.orders.mem_iff, rearranged.trades.mem_iff, rearranged.positions.mem_iff]

theorem Rearranged.validateInstrument_eq (rearranged : Rearranged truth other) :
    validateInstrument context other = validateInstrument context truth := by
  unfold validateInstrument
  dsimp only
  rw [(rearranged.instruments.filter _).length_eq]

/-- Short lists of the same rows are the same list. -/
theorem eq_of_perm_of_short {Row : Type} {left right : List Row} (same : left.Perm right) (short : ¬ 1 < right.length) :
    left = right := by
  cases right with
  | nil => exact List.perm_nil.1 same
  | cons first rest =>
      cases rest with
      | nil => exact List.perm_singleton.1 same
      | cons second rest => exact absurd (by simp) short

theorem Rearranged.validateExactOrder_alike (rearranged : Rearranged truth other)
    (observation : Stage8a4ExactOrderObservation) :
    ChecksAlike context truth (validateExactOrder context truth observation)
      (validateExactOrder context other observation) := by
  unfold validateExactOrder
  cases known : context.knownBrokerOrderId with
  | none => exact .same _
  | some expected =>
      refine ChecksAlike.behind (rejectIf _ _) ?_
      by_cases crowd : 1 < (truth.orders.filter fun order => order.brokerOrderId = some expected).length
      · refine .crowded ⟨expected, known, crowd⟩ ?_ ?_
        all_goals
          split
          next => exact .inl rfl
          next listed _ =>
            by_cases agrees : SameMaterialOrder listed observation.order
            · exact .inl (rejectIf_of_not _ (not_not.2 agrees))
            · exact .inr (if_pos agrees)
      · have found : other.orders.find? (fun order => order.brokerOrderId = some expected) =
            truth.orders.find? fun order => order.brokerOrderId = some expected := by
          rw [← List.head?_filter, ← List.head?_filter, eq_of_perm_of_short (rearranged.orders.filter _) crowd]
        rw [found]
        exact .same _

theorem Rearranged.checkAdmission_alike (rearranged : Rearranged truth other) :
    ChecksAlike context truth (checkAdmission codec context policy truth evidence)
      (checkAdmission codec context policy other evidence) := by
  unfold checkAdmission
  rw [rearranged.canonicalTruthBinding_eq, rearranged.validateAccounts_eq, rearranged.trades.length_eq,
    rearranged.validateInstrument_eq]
  -- every check but the last one reads what the two truths share
  iterate 10 refine ChecksAlike.behind _ ?_
  unfold validateExactLookup
  cases evidence.exactLookup.timing
  all_goals
    refine ChecksAlike.behind _ (ChecksAlike.behind _ ?_)
    cases evidence.exactLookup.succeededObservation with
    | none => exact .same _
    | some observation => exact rearranged.validateExactOrder_alike observation

end Admission

/-! ### Bindings -/

theorem validSha256_hex (output : Sha256Output) : validSha256 output.hex = true := by
  have canonical := output.isCanonicalSha256_hex
  unfold isCanonicalSha256 at canonical
  unfold validSha256
  simp only [Bool.and_eq_true, beq_iff_eq, List.all_eq_true] at canonical
  simp only [Bool.decide_and, Bool.and_eq_true, decide_eq_true_eq, List.all_eq_true]
  refine ⟨canonical.1.1, fun digit member => ?_⟩
  have lower := canonical.2 digit member
  unfold isLowerHex at lower
  simp only [Bool.or_eq_true, Bool.and_eq_true, decide_eq_true_eq] at lower
  exact lower.imp id .inl

section Bindings

variable {codec : Stage8a4Codec} {context : Stage8a4DurableRequestContext} {policy : Stage8a4ReconciliationPolicy}
  {truth : BrokerTruthSnapshot} {evidence : Stage8a4SourceEvidence}

/-- The bindings of an admission pass the reducer's check of them. -/
theorem checkBindings_admitted (checked : checkAdmission codec context policy truth evidence = .ok ()) :
    checkBindings codec context (admitted codec context policy truth evidence) policy = .ok () := by
  unfold checkAdmission at checked
  obtain ⟨valid, -⟩ := check_bind_ok_iff.1 checked
  simp only [rejectIf_ok_iff, not_or, Bool.not_eq_false] at valid
  obtain ⟨durable, policyBinding, -⟩ := valid
  unfold checkBindings
  refine rejectIf_of_not _ ?_
  simp only [admitted, truthBinding, digestParts, sourceEvidenceBinding, validSha256_hex, durable, policyBinding]
  simp

end Bindings

/-! ### Selection -/

/-- The outcome that a stop is diagnosed as; an abort has none. -/
def ReductionStop.outcome : ReductionStop → Option Stage8a4OutcomeKind
  | .conflict _ _ => some .conflict
  | .stillUnknown _ _ => some .stillUnknown
  | .overflow => none

def SameOutcome (left right : ReductionStop) : Prop :=
  left.outcome = right.outcome

theorem SameOutcome.refl (stop : ReductionStop) : SameOutcome stop stop :=
  rfl

theorem tier3Candidates_eq (context : Stage8a4DurableRequestContext) (rows : List Candidate) :
    tier3Candidates context rows =
      if ∃ row ∈ rows, tier3Matches row.order context = .identityConflict then
        .error (conflicting .exactIdentityDisagreement)
      else .ok (rows.filter (fun row => tier3Matches row.order context = .isMatch),
        rows.any fun row => tier3Matches row.order context = .missingRequiredShape) := by
  induction rows with
  | nil => simp [tier3Candidates]
  | cons row rows ih =>
      unfold tier3Candidates
      cases matched : tier3Matches row.order context with
      | isMatch =>
          simp only [ih, List.exists_mem_cons_iff, matched, List.filter_cons, List.any_cons]
          split <;> simp_all
      | missingRequiredShape =>
          simp only [ih, List.exists_mem_cons_iff, matched, List.filter_cons, List.any_cons]
          split <;> simp_all
      | identityConflict => simp [matched]
      | noMatch =>
          simp only [ih, List.exists_mem_cons_iff, matched, List.filter_cons, List.any_cons]
          split <;> simp_all

/-- Candidates for the same orders, in any order. -/
def SameOrders (left right : List Candidate) : Prop :=
  (left.map (·.order)).Perm (right.map (·.order))

/-- The same order, chosen for the same reason. -/
def SameChoice (left right : Candidate × Stage8a4ReconciliationReason) : Prop :=
  left.1.order = right.1.order ∧ left.2 = right.2

section Selection

variable {context : Stage8a4DurableRequestContext} {truth other : BrokerTruthSnapshot}
  {exactLookup : Stage8a4PrivateExactLookup} {expected : BrokerOrderId} {left right : List Candidate}

theorem SameOrders.length_eq (same : SameOrders left right) : left.length = right.length := by
  have lengths := List.Perm.length_eq same
  simpa using lengths

/-- Two short lists of candidates for the same orders: none each, or one each for the same order. -/
theorem SameOrders.short (same : SameOrders left right) (isShort : ¬ 1 < right.length) :
    (left = [] ∧ right = []) ∨ ∃ candidate again, left = [candidate] ∧ right = [again] ∧ candidate.order = again.order := by
  have orders := eq_of_perm_of_short same (by simpa using isShort)
  cases right with
  | nil =>
      rw [List.map_nil, List.map_eq_nil_iff] at orders
      exact .inl ⟨orders, rfl⟩
  | cons again rest =>
      cases rest with
      | cons second rest => exact absurd (by simp) isShort
      | nil =>
          rw [List.map_singleton, List.map_eq_singleton_iff] at orders
          obtain ⟨candidate, alone, sameOrder⟩ := orders
          exact .inr ⟨candidate, again, alone, rfl, sameOrder⟩

theorem SameOrders.filter (same : SameOrders left right) (selects : BrokerOrderSnapshot → Bool) :
    SameOrders (left.filter fun candidate => selects candidate.order)
      (right.filter fun candidate => selects candidate.order) := by
  have filtered (candidates : List Candidate) : (candidates.filter fun candidate => selects candidate.order).map
      (·.order) = (candidates.map (·.order)).filter selects := by
    rw [List.filter_map]
    rfl
  unfold SameOrders
  rw [filtered, filtered]
  exact List.Perm.filter selects same

theorem SameOrders.exists_iff (same : SameOrders left right) (holds : BrokerOrderSnapshot → Prop) :
    (∃ candidate ∈ left, holds candidate.order) ↔ ∃ candidate ∈ right, holds candidate.order := by
  have named (candidates : List Candidate) : (∃ candidate ∈ candidates, holds candidate.order) ↔
      ∃ order ∈ candidates.map (·.order), holds order := by
    simp
  rw [named, named]
  exact exists_congr fun order => and_congr_left fun _ => List.Perm.mem_iff same

theorem listedCandidates_orders (selects : BrokerOrderSnapshot → Bool) :
    (listedCandidates truth selects).map (·.order) = truth.orders.filter selects := by
  unfold listedCandidates
  rw [List.map_map]
  change (truth.orders.zipIdx.filter fun row => selects row.1).map Prod.fst = _
  have filtered : (truth.orders.zipIdx.filter (selects ∘ Prod.fst)).map Prod.fst =
      (truth.orders.zipIdx.map Prod.fst).filter selects := by
    rw [List.filter_map]
  rw [List.zipIdx_map_fst] at filtered
  exact filtered

theorem Rearranged.listed (rearranged : Rearranged truth other) (selects : BrokerOrderSnapshot → Bool) :
    SameOrders (listedCandidates other selects) (listedCandidates truth selects) := by
  unfold SameOrders
  rw [listedCandidates_orders, listedCandidates_orders]
  exact rearranged.orders.filter selects

theorem Rearranged.tier2 (rearranged : Rearranged truth other) :
    SameOrders (tier2Candidates other exactLookup expected) (tier2Candidates truth exactLookup expected) := by
  have listed := rearranged.listed fun order => order.brokerOrderId = some expected
  unfold tier2Candidates
  dsimp only
  cases exactLookup.succeededObservation with
  | none => exact listed
  | some observation =>
      have empty : (listedCandidates other fun order => order.brokerOrderId = some expected).isEmpty =
          (listedCandidates truth fun order => order.brokerOrderId = some expected).isEmpty := by
        rw [Bool.eq_iff_iff, List.isEmpty_iff_length_eq_zero, List.isEmpty_iff_length_eq_zero, listed.length_eq]
      simp only [empty]
      split
      · exact .refl _
      · exact listed

/-- The two first tiers found the same row exactly where the order of the first names the known id. -/
theorem sameSource_iff {client broker : Candidate} (first : client ∈ tier1Candidates context truth)
    (second : tier2Candidates truth exactLookup expected = [broker]) :
    client.source = broker.source ↔ client.order.brokerOrderId = some expected := by
  have found : broker ∈ tier2Candidates truth exactLookup expected := by rw [second]; exact List.mem_singleton_self _
  constructor
  · intro same
    have isListed : CandidateOf truth exactLookup client := candidateOf_listed first
    rw [isListed.eq_of_source (candidateOf_tier2 found).1 same]
    exact (candidateOf_tier2 found).2
  · intro named
    obtain ⟨row, order, listed, -, rfl⟩ := mem_listedCandidates.1 first
    have among : { source := .listed row, order := order } ∈ tier2Candidates truth exactLookup expected :=
      mem_tier2_of_listed listed named
    rw [second] at among
    rw [List.mem_singleton.1 among]

theorem Rearranged.selectTier3_alike (rearranged : Rearranged truth other) :
    Agree SameOutcome SameChoice (selectTier3 context other) (selectTier3 context truth) := by
  have listed := rearranged.listed fun _ => true
  have conflicts := listed.exists_iff fun order => tier3Matches order context = .identityConflict
  have missing : (listedCandidates other fun _ => true).any (fun row =>
      tier3Matches row.order context = .missingRequiredShape) =
      (listedCandidates truth fun _ => true).any fun row =>
        tier3Matches row.order context = .missingRequiredShape := by
    rw [Bool.eq_iff_iff, List.any_eq_true, List.any_eq_true]
    simp only [decide_eq_true_eq]
    exact listed.exists_iff fun order => tier3Matches order context = .missingRequiredShape
  have found := listed.filter fun order => tier3Matches order context = .isMatch
  unfold selectTier3
  rw [tier3Candidates_eq, tier3Candidates_eq, missing]
  simp only [conflicts]
  split
  · exact .error rfl
  · rw [ok_bind, ok_bind]
    dsimp only
    by_cases many : 1 < ((listedCandidates truth fun _ => true).filter fun row =>
        tier3Matches row.order context = .isMatch).length
    · rw [rejectIf, rejectIf, if_pos many, if_pos (by rw [found.length_eq]; exact many)]
      exact .error rfl
    · rw [rejectIf_of_not _ many, rejectIf_of_not _ (by rw [found.length_eq]; exact many), ok_bind, ok_bind]
      rcases found.short many with ⟨none, noneAgain⟩ | ⟨candidate, again, alone, aloneAgain, sameOrder⟩
      · rw [none, noneAgain]
        exact .error rfl
      · rw [alone, aloneAgain]
        exact .ok ⟨sameOrder, rfl⟩

theorem Rearranged.selectCandidate_alike (rearranged : Rearranged truth other) :
    Agree SameOutcome SameChoice (selectCandidate context other exactLookup) (selectCandidate context truth exactLookup) := by
  have client : SameOrders (tier1Candidates context other) (tier1Candidates context truth) :=
    rearranged.listed fun order => order.clientOrderId = some context.clientOrderId
  unfold selectCandidate
  dsimp only
  cases known : context.knownBrokerOrderId with
  | none =>
      simp only [Option.map_none, Option.bind_none, Option.not_mem_none, false_and, exists_false, or_false, and_false,
        client.length_eq]
      by_cases many : 1 < (tier1Candidates context truth).length
      · simp only [rejectIf, many, ↓reduceIte]
        exact .error rfl
      · rw [rejectIf_of_not _ many, ok_bind, ok_bind]
        rcases client.short many with ⟨none, noneAgain⟩ | ⟨candidate, again, alone, aloneAgain, sameOrder⟩
        · rw [none, noneAgain]
          exact rearranged.selectTier3_alike
        · rw [alone, aloneAgain]
          exact .ok ⟨sameOrder, rfl⟩
  | some expected =>
      have broker : SameOrders (tier2Candidates other exactLookup expected) (tier2Candidates truth exactLookup expected) :=
        rearranged.tier2
      simp only [Option.map_some, Option.bind_some, Option.mem_def, Option.some.injEq, exists_eq_left', client.length_eq,
        broker.length_eq]
      by_cases many : 1 < (tier1Candidates context truth).length ∨ 1 < (tier2Candidates truth exactLookup expected).length
      · simp only [rejectIf, many, ↓reduceIte]
        exact .error rfl
      · rw [rejectIf_of_not _ many, ok_bind, ok_bind]
        obtain ⟨oneClient, oneBroker⟩ := not_or.1 many
        rcases client.short oneClient with ⟨none, noneAgain⟩ | ⟨candidate, again, alone, aloneAgain, sameOrder⟩
        · rw [none, noneAgain]
          rcases broker.short oneBroker with ⟨unknown, unknownAgain⟩ | ⟨_, _, found, foundAgain, sameOrder⟩
          · rw [unknown, unknownAgain]
            exact rearranged.selectTier3_alike
          · rw [found, foundAgain]
            exact .ok ⟨sameOrder, rfl⟩
        · have disagree (left right : Candidate) (isFirst : tier2Candidates other exactLookup expected = [left])
              (isSecond : tier2Candidates truth exactLookup expected = [right]) :
              candidate.source ≠ left.source ↔ again.source ≠ right.source := by
            rw [not_iff_not, sameSource_iff (by rw [alone]; exact List.mem_singleton_self _) isFirst,
              sameSource_iff (by rw [aloneAgain]; exact List.mem_singleton_self _) isSecond, sameOrder]
          rw [alone, aloneAgain]
          rcases broker.short oneBroker with ⟨unknown, unknownAgain⟩ | ⟨left, right, found, foundAgain, _⟩
          · rw [unknown, unknownAgain]
            exact .ok ⟨sameOrder, rfl⟩
          · have differ := disagree left right found foundAgain
            rw [found, foundAgain]
            simp only [List.head?_cons, Option.some.injEq, exists_eq_left', differ]
            by_cases apart : again.source ≠ right.source
            · rw [rejectIf, if_pos apart]
              exact .error rfl
            · rw [rejectIf_of_not _ apart, ok_bind]
              exact .ok ⟨sameOrder, rfl⟩

end Selection

/-! ### Trades -/

/-- Rows of one trade id tell of one trade. -/
def OneTradePerId (rows : List BrokerTradeSnapshot) : Prop :=
  ∀ left ∈ rows, ∀ right ∈ rows, left.brokerTradeId = right.brokerTradeId → SameMaterialTrade left right

section Trades

variable {rows others : List BrokerTradeSnapshot} {left right third : BrokerTradeSnapshot}

theorem SameMaterialTrade.symm (same : SameMaterialTrade left right) : SameMaterialTrade right left := by
  obtain ⟨account, trade, broker, client, instrument, side, qty, price, gross, commission, asset, board, expiration,
    source⟩ := same
  exact ⟨account.symm, trade.symm, broker.symm, client.symm, instrument.symm, side.symm, qty.symm, price.symm,
    gross.symm, commission.symm, asset.symm, board.symm, expiration.symm, source.symm⟩

theorem SameMaterialTrade.trans (first : SameMaterialTrade left right) (second : SameMaterialTrade right third) :
    SameMaterialTrade left third := by
  obtain ⟨account, trade, broker, client, instrument, side, qty, price, gross, commission, asset, board, expiration,
    source⟩ := first
  obtain ⟨account', trade', broker', client', instrument', side', qty', price', gross', commission', asset', board',
    expiration', source'⟩ := second
  exact ⟨account.trans account', trade.trans trade', broker.trans broker', client.trans client',
    instrument.trans instrument', side.trans side', qty.trans qty', price.trans price', gross.trans gross',
    commission.trans commission', asset.trans asset', board.trans board', expiration.trans expiration',
    source.trans source'⟩

theorem oneTradePerId_of_deduplicated {distinct : List BrokerTradeSnapshot}
    (deduped : deduplicateTrades rows = some distinct) : OneTradePerId rows := by
  have kept := deduplicateTrades_some deduped
  intro left leftMember right rightMember sameId
  obtain ⟨first, firstKept, firstSame⟩ := kept.covers left leftMember
  obtain ⟨second, secondKept, secondSame⟩ := kept.covers right rightMember
  have one : first = second := List.inj_on_of_nodup_map kept.once firstKept secondKept
    (firstSame.2.1.trans (sameId.trans secondSame.2.1.symm))
  subst one
  exact firstSame.symm.trans secondSame

theorem deduplicated_of_oneTradePerId (one : OneTradePerId rows) :
    ∃ distinct, deduplicateTrades rows = some distinct := by
  have kept : ∃ unique, deduplicateRows rows = some unique ∧ ∀ trade ∈ unique, trade ∈ rows := by
    rw [deduplicateRows_eq]
    induction rows using List.reverseRecOn with
    | nil => exact ⟨[], rfl, by simp⟩
    | append_singleton front trade ih =>
        obtain ⟨unique, ran, among⟩ := ih fun left leftMember right rightMember =>
          one left (List.mem_append_left _ leftMember) right (List.mem_append_left _ rightMember)
        rw [List.foldlM_append, ran]
        simp only [List.foldlM_cons, List.foldlM_nil, Option.bind_eq_bind, Option.bind_some, keepDistinct]
        cases found : unique.find? (fun existing => existing.brokerTradeId = trade.brokerTradeId) with
        | none =>
            refine ⟨unique ++ [trade], rfl, ?_⟩
            intro other member
            rcases List.mem_append.1 member with member | member
            · exact List.mem_append_left _ (among other member)
            · exact List.mem_append_right _ member
        | some existing =>
            have same := one existing (List.mem_append_left _ (among existing (List.mem_of_find?_eq_some found))) trade
              (List.mem_append_right _ (List.mem_singleton_self _)) (by simpa using List.find?_some found)
            refine ⟨unique, by simp [same], ?_⟩
            exact fun other member => List.mem_append_left _ (among other member)
  obtain ⟨unique, ran, -⟩ := kept
  exact ⟨_, by unfold deduplicateTrades; rw [ran]; rfl⟩

/-- The trades that stay, in the order of their ids. -/
theorem deduplicated_sorted {distinct : List BrokerTradeSnapshot} (deduped : deduplicateTrades rows = some distinct) :
    (distinct.map fun trade => trade.brokerTradeId.value).Pairwise (· ≤ ·) := by
  unfold deduplicateTrades at deduped
  obtain ⟨unique, -, rfl⟩ := Option.map_eq_some_iff.1 deduped
  rw [List.pairwise_map]
  have total : Std.Total fun left right : BrokerTradeSnapshot => left.brokerTradeId.value ≤ right.brokerTradeId.value :=
    ⟨fun left right => le_total _ _⟩
  have trans : IsTrans BrokerTradeSnapshot fun left right => left.brokerTradeId.value ≤ right.brokerTradeId.value :=
    ⟨fun _ _ _ first second => le_trans first second⟩
  exact List.pairwise_insertionSort _ unique

theorem DistinctTrades.mem_names {distinct : List BrokerTradeSnapshot} (kept : DistinctTrades rows distinct)
    {name : String} : name ∈ distinct.map (fun trade => trade.brokerTradeId.value) ↔
      name ∈ rows.map fun trade => trade.brokerTradeId.value := by
  rw [List.mem_map, List.mem_map]
  constructor
  · rintro ⟨trade, member, named⟩
    exact ⟨trade, kept.among trade member, named⟩
  · rintro ⟨trade, member, named⟩
    obtain ⟨existing, inside, same⟩ := kept.covers trade member
    exact ⟨existing, inside, by rw [same.2.1, named]⟩

theorem DistinctTrades.nodup_names {distinct : List BrokerTradeSnapshot} (kept : DistinctTrades rows distinct) :
    (distinct.map fun trade => trade.brokerTradeId.value).Nodup := by
  have injective : Function.Injective BrokerTradeId.value := fun left right equal => by
    cases left
    cases right
    cases equal
    rfl
  have values := kept.once.map injective
  rwa [List.map_map] at values

/-- The same rows in another order leave the same trades, up to which copy of a trade stays. -/
theorem deduplicateTrades_perm (same : others.Perm rows) {distinct : List BrokerTradeSnapshot}
    (deduped : deduplicateTrades rows = some distinct) :
    ∃ again, deduplicateTrades others = some again ∧ List.Forall₂ SameMaterialTrade again distinct := by
  have one := oneTradePerId_of_deduplicated deduped
  obtain ⟨again, dedupedAgain⟩ := deduplicated_of_oneTradePerId fun left leftMember right rightMember =>
    one left (same.mem_iff.1 leftMember) right (same.mem_iff.1 rightMember)
  have kept := deduplicateTrades_some deduped
  have keptAgain := deduplicateTrades_some dedupedAgain
  have names : again.map (fun trade => trade.brokerTradeId.value) =
      distinct.map fun trade => trade.brokerTradeId.value := by
    refine List.Perm.eq_of_pairwise (fun _ _ _ _ => le_antisymm) (deduplicated_sorted dedupedAgain)
      (deduplicated_sorted deduped) ((List.perm_ext_iff_of_nodup keptAgain.nodup_names kept.nodup_names).2 ?_)
    intro name
    rw [keptAgain.mem_names, kept.mem_names]
    exact (same.map _).mem_iff
  rw [← List.forall₂_eq_eq_eq, List.forall₂_map_left_iff, List.forall₂_map_right_iff] at names
  refine ⟨again, dedupedAgain, List.forall₂_iff_zip.2 ⟨names.length_eq, fun {copy trade} paired => ?_⟩⟩
  obtain ⟨copyMember, tradeMember⟩ := List.of_mem_zip paired
  have sameName := List.forall₂_zip names paired
  refine one copy (same.mem_iff.1 (keptAgain.among copy copyMember)) trade (kept.among trade tradeMember) ?_
  cases isCopy : copy.brokerTradeId
  cases isTrade : trade.brokerTradeId
  rw [isCopy, isTrade] at sameName
  cases sameName
  rfl

theorem SameMaterialTrade.classify_eq (same : SameMaterialTrade left right) (order : BrokerOrderSnapshot)
    (context : Stage8a4DurableRequestContext) :
    classifyTradeSupport left order context = classifyTradeSupport right order context := by
  obtain ⟨account, -, broker, client, instrument, side, -⟩ := same
  unfold classifyTradeSupport
  rw [account, broker, client, instrument, side]

/-- The same trades support the same order alike. -/
theorem supportingTrades_alike {context : Stage8a4DurableRequestContext} {order : BrokerOrderSnapshot}
    {taken takenAgain : List BrokerTradeSnapshot} (same : List.Forall₂ SameMaterialTrade others rows)
    (start : List.Forall₂ SameMaterialTrade takenAgain taken) :
    Agree SameOutcome (List.Forall₂ SameMaterialTrade) (supportingTrades context order takenAgain others)
      (supportingTrades context order taken rows) := by
  induction same generalizing taken takenAgain with
  | nil => exact .ok start
  | @cons copy trade others rows first _ ih =>
      unfold supportingTrades
      rw [first.classify_eq order context]
      cases classifyTradeSupport trade order context with
      | compatibleSupport => exact ih (List.rel_append start (.cons first .nil))
      | unrelated => exact ih start
      | identityConflict => exact .error rfl

end Trades

/-! ### The reduction -/

structure SameReduction (left right : ExactReduction) : Prop where
  order : left.selected.order = right.selected.order
  reason : left.reason = right.reason
  lifecycle : left.lifecycle = right.lifecycle
  fill : left.fill = right.fill
  matchingTrades : List.Forall₂ SameMaterialTrade left.matchingTrades right.matchingTrades

section Reduction

theorem checkedSum_alike {left right : List BrokerTradeSnapshot} (same : List.Forall₂ SameMaterialTrade left right) :
    Agree SameOutcome Decimal.Same (orReject (Decimal.checkedSum (left.map (·.qty))) ReductionStop.overflow)
      (orReject (Decimal.checkedSum (right.map (·.qty))) ReductionStop.overflow) := by
  have quantities : List.Forall₂ Decimal.Same (left.map (·.qty)) (right.map (·.qty)) := by
    rw [List.forall₂_map_left_iff, List.forall₂_map_right_iff]
    exact same.imp fun _ _ trades => trades.2.2.2.2.2.2.1
  have sums := Decimal.checkedSum_same quantities
  cases summed : Decimal.checkedSum (left.map (·.qty)) with
  | none =>
      rw [summed, Option.map_none, eq_comm, Option.map_eq_none_iff] at sums
      rw [sums]
      exact .error rfl
  | some total =>
      rw [summed, Option.map_some, eq_comm, Option.map_eq_some_iff] at sums
      obtain ⟨otherTotal, otherSummed, units⟩ := sums
      rw [otherSummed]
      exact .ok units.symm

variable {codec : Stage8a4Codec} {context : Stage8a4DurableRequestContext} {policy : Stage8a4ReconciliationPolicy}
  {admission again : Stage8a4FreshTruthAdmission}

/-- What is admitted of rearranged rows reduces alike. -/
theorem reduceExact_alike (rearranged : Rearranged admission.truth again.truth)
    (sameLookup : again.exactLookup = admission.exactLookup)
    (bound : checkBindings codec context admission policy = .ok ())
    (boundAgain : checkBindings codec context again policy = .ok ()) :
    Agree SameOutcome SameReduction (reduceExact codec context again policy) (reduceExact codec context admission policy) := by
  unfold reduceExact
  rw [bound, boundAgain, ok_bind, ok_bind, sameLookup]
  refine rearranged.selectCandidate_alike.bind ?_
  rintro ⟨copy, reason⟩ ⟨selected, _⟩ ⟨sameOrder, rfl⟩
  dsimp only at sameOrder ⊢
  rw [sameOrder]
  refine (Agree.of_eq SameOutcome.refl _).bind fun _ _ _ => (Agree.of_eq SameOutcome.refl _).bind fun _ _ _ => ?_
  have deduped : Agree SameOutcome (List.Forall₂ SameMaterialTrade)
      (orReject (deduplicateTrades again.truth.trades) (conflicting .tradeIdentityConflict))
      (orReject (deduplicateTrades admission.truth.trades) (conflicting .tradeIdentityConflict)) := by
    cases distinct : deduplicateTrades admission.truth.trades with
    | some kept =>
        obtain ⟨keptAgain, distinctAgain, same⟩ := deduplicateTrades_perm rearranged.trades distinct
        rw [distinctAgain]
        exact .ok same
    | none =>
        cases distinctAgain : deduplicateTrades again.truth.trades with
        | none => exact .error rfl
        | some keptAgain =>
            obtain ⟨kept, found, -⟩ := deduplicateTrades_perm rearranged.trades.symm distinctAgain
            rw [distinct] at found
            cases found
  refine deduped.bind fun _ _ kept => (supportingTrades_alike kept .nil).bind fun trades others matching => ?_
  have count : trades.length = others.length := matching.length_eq
  refine (checkedSum_alike matching).bind fun total otherTotal sums => ?_
  have differs : ¬ total.Same selected.order.filledQty ↔ ¬ otherTotal.Same selected.order.filledQty := by
    unfold Decimal.Same at sums ⊢
    rw [sums]
  rw [count]
  refine (Agree.rejectIf differs (SameOutcome.refl _)).bind fun _ _ _ => ?_
  refine (Agree.of_eq SameOutcome.refl _).bind ?_
  rintro ⟨lifecycle, fill⟩ _ rfl
  exact .ok ⟨sameOrder, rfl, rfl, rfl, matching⟩

end Reduction

/-! ### The decision -/

/-- The outcome kind of the admission error, or else that of the reduction; `none` is the overflow abort. -/
def reconciliationDecision (codec : Stage8a4Codec) (context : Stage8a4DurableRequestContext)
    (policy : Stage8a4ReconciliationPolicy) (truth : BrokerTruthSnapshot) (evidence : Stage8a4SourceEvidence) :
    Option Stage8a4OutcomeKind :=
  match admitStage8a4BrokerTruth codec context policy truth evidence with
  | .error diagnostic => some diagnostic.outcome
  | .ok admission => (reduceStage8a4Authoritative codec context admission policy).map (·.outcomeKind)

def reducedOutcome : Except ReductionStop ExactReduction → Option Stage8a4OutcomeKind
  | .ok _ => some .exactOrderState
  | .error stop => stop.outcome

section Decision

variable {codec : Stage8a4Codec} {context : Stage8a4DurableRequestContext} {policy : Stage8a4ReconciliationPolicy}
  {truth other : BrokerTruthSnapshot} {evidence : Stage8a4SourceEvidence}
  {admission again : Stage8a4FreshTruthAdmission}

theorem reducedOutcome_eq {left right : Except ReductionStop ExactReduction}
    (alike : Agree SameOutcome SameReduction left right) : reducedOutcome left = reducedOutcome right := by
  cases alike with
  | ok _ => rfl
  | error same => exact same

theorem reduceStage8a4Authoritative_outcome :
    (reduceStage8a4Authoritative codec context admission policy).map (·.outcomeKind) =
      (reducedOutcome (reduceExact codec context admission policy)).bind fun kind =>
        (accountSafetySummary admission.truth context.instrument).map fun _ => kind := by
  unfold reduceStage8a4Authoritative reduceStage8a4Diagnostic
  cases reduceExact codec context admission policy with
  | ok exact => cases accountSafetySummary admission.truth context.instrument <;> rfl
  | error stop =>
      cases stop with
      | overflow => rfl
      | conflict reason count => cases accountSafetySummary admission.truth context.instrument <;> rfl
      | stillUnknown reason count => cases accountSafetySummary admission.truth context.instrument <;> rfl

theorem reconciliationDecision_refused {failure : AdmissionFailure}
    (refused : checkAdmission codec context policy truth evidence = .error failure) :
    reconciliationDecision codec context policy truth evidence = some failure.outcome := by
  unfold reconciliationDecision admitStage8a4BrokerTruth
  rw [refused]
  rfl

theorem reconciliationDecision_admitted (checked : checkAdmission codec context policy truth evidence = .ok ()) :
    reconciliationDecision codec context policy truth evidence =
      (reducedOutcome (reduceExact codec context (admitted codec context policy truth evidence) policy)).bind fun kind =>
        (accountSafetySummary truth context.instrument).map fun _ => kind := by
  unfold reconciliationDecision admitStage8a4BrokerTruth
  rw [checked]
  exact reduceStage8a4Authoritative_outcome

/-- Two orders of the known broker id are a conflict, whichever of them the lookup is compared with. -/
theorem reducedOutcome_crowded (crowd : Crowded context truth)
    (checked : checkAdmission codec context policy truth evidence = .ok ()) :
    reducedOutcome (reduceExact codec context (admitted codec context policy truth evidence) policy) = some .conflict := by
  obtain ⟨expected, known, many⟩ := crowd
  rw [← listedCandidates_orders, List.length_map] at many
  have tier2 : tier2Candidates truth evidence.exactLookup expected =
      listedCandidates truth fun order => order.brokerOrderId = some expected := by
    unfold tier2Candidates
    dsimp only
    split
    · refine if_neg fun standsIn => ?_
      rw [List.isEmpty_iff_length_eq_zero.1 standsIn.2] at many
      exact absurd many (by decide)
    · rfl
  have selected : selectCandidate context truth evidence.exactLookup = .error (conflicting .multipleCandidates) := by
    unfold selectCandidate
    dsimp only
    rw [known, Option.map_some, tier2, rejectIf, if_pos (.inr ⟨_, rfl, many⟩)]
    rfl
  unfold reduceExact
  rw [checkBindings_admitted checked, ok_bind]
  change reducedOutcome (selectCandidate context truth evidence.exactLookup >>= _) = _
  rw [selected]
  rfl

theorem decision_crowded (crowd : Crowded context truth)
    (result : checkAdmission codec context policy truth evidence = .ok () ∨
      checkAdmission codec context policy truth evidence = .error disagreeing) :
    reconciliationDecision codec context policy truth evidence = some .conflict ∨
      (reconciliationDecision codec context policy truth evidence = none ∧
        accountSafetySummary truth context.instrument = none) := by
  rcases result with checked | refused
  · rw [reconciliationDecision_admitted checked, reducedOutcome_crowded crowd checked, Option.bind_some]
    cases accountSafetySummary truth context.instrument with
    | none => exact .inr ⟨rfl, rfl⟩
    | some safety => exact .inl rfl
  · exact .inl (reconciliationDecision_refused refused)

theorem Rearranged.crowded (rearranged : Rearranged truth other) (crowd : Crowded context truth) :
    Crowded context other := by
  obtain ⟨known, isKnown, many⟩ := crowd
  exact ⟨known, isKnown, by rw [(rearranged.orders.filter _).length_eq]; exact many⟩

theorem Rearranged.reduces_alike (rearranged : Rearranged truth other)
    (checked : checkAdmission codec context policy truth evidence = .ok ())
    (checkedAgain : checkAdmission codec context policy other evidence = .ok ()) :
    Agree SameOutcome SameReduction (reduceExact codec context (admitted codec context policy other evidence) policy)
      (reduceExact codec context (admitted codec context policy truth evidence) policy) :=
  reduceExact_alike rearranged rfl (checkBindings_admitted checked) (checkBindings_admitted checkedAgain)

/-- What is decided of the rows in one order is decided of them in any other, unless their account
summary overflows there. -/
theorem Rearranged.decision (rearranged : Rearranged truth other) {kind : Stage8a4OutcomeKind}
    (decided : reconciliationDecision codec context policy truth evidence = some kind) :
    reconciliationDecision codec context policy other evidence = some kind ∨
      (reconciliationDecision codec context policy other evidence = none ∧
        accountSafetySummary other context.instrument = none) := by
  have alike : ChecksAlike context truth (checkAdmission codec context policy truth evidence)
      (checkAdmission codec context policy other evidence) := rearranged.checkAdmission_alike
  generalize ran : checkAdmission codec context policy truth evidence = result at alike
  generalize ranAgain : checkAdmission codec context policy other evidence = resultAgain at alike
  cases alike with
  | same =>
      cases result with
      | error failure =>
          rw [reconciliationDecision_refused ran] at decided
          exact .inl ((reconciliationDecision_refused ranAgain).trans decided)
      | ok =>
          rw [reconciliationDecision_admitted ran] at decided
          rw [reconciliationDecision_admitted ranAgain, reducedOutcome_eq (rearranged.reduces_alike ran ranAgain)]
          obtain ⟨found, reduced, summarized⟩ := Option.bind_eq_some_iff.1 decided
          obtain ⟨_, _, rfl⟩ := Option.map_eq_some_iff.1 summarized
          rw [reduced, Option.bind_some]
          cases accountSafetySummary other context.instrument with
          | none => exact .inr ⟨rfl, rfl⟩
          | some safety => exact .inl rfl
  | crowded crowd leftResult rightResult =>
      subst ran ranAgain
      have isConflict : kind = .conflict := by
        rcases decision_crowded crowd leftResult with conflict | ⟨none, _⟩
        · rw [conflict] at decided
          exact (Option.some.inj decided).symm
        · rw [none] at decided
          cases decided
      rw [isConflict]
      exact decision_crowded (rearranged.crowded crowd) rightResult

end Decision

/-! ### An account with two orders -/

section Sample

theorem largest_fits : 2 ^ 96 - 1 < 2 ^ 96 := by decide

def largest : Decimal :=
  Decimal.ofNat (2 ^ 96 - 1) largest_fits

end Sample

section RowOrder

variable {codec : Stage8a4Codec} {context : Stage8a4DurableRequestContext} {policy : Stage8a4ReconciliationPolicy}
  {truth other : BrokerTruthSnapshot} {evidence : Stage8a4SourceEvidence}

end RowOrder

end TradingGateway.FinamGateway.Stage8a4Reconciliation
