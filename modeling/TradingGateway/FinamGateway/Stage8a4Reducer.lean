import TradingGateway.BrokerCore.DecimalArithmetic
import TradingGateway.FinamGateway.Stage8a4Admission

/-! Reduction of admitted broker truth: one selected order through three tiers of identity, the
trades that support it, and its exact state. -/

set_option autoImplicit false

namespace TradingGateway.FinamGateway.Stage8a4Reconciliation

open BrokerCore.FixedPoint BrokerCore.Identifiers BrokerCore.OperationalSnapshot BrokerCore.Orders
open Stage6.DurableIdentity Stage6.JournalRecord
open Foundation.Bytes Foundation.ExceptRun

/-- Where a candidate stands: candidates are compared by it, as the source compares references. -/
inductive CandidateSource where
  | listed (row : Nat)
  | exactLookup
deriving DecidableEq

structure Candidate where
  source : CandidateSource
  order : BrokerOrderSnapshot

inductive Tier3Match where
  | isMatch
  | missingRequiredShape
  | identityConflict
  | noMatch
deriving DecidableEq

inductive Stage8a4ExactShape where
  | compatible
  | missingRequired
  | contradiction
deriving DecidableEq

inductive Stage8a4TradeSupport where
  | compatibleSupport
  | unrelated
  | identityConflict
deriving DecidableEq

def exactInstrumentMatches (left right : InstrumentId) : Bool :=
  left.venueSymbol.getD "" ≠ "" ∧ left.venueSymbol = right.venueSymbol ∧ left.symbol = right.symbol ∧
    left.exchange = right.exchange ∧ left.market = right.market

def LacksVenueSymbol (instrument expected : InstrumentId) : Prop :=
  instrument.venueSymbol = none ∧ instrument.symbol = expected.symbol ∧
    instrument.exchange = expected.exchange ∧ instrument.market = expected.market

instance (instrument expected : InstrumentId) : Decidable (LacksVenueSymbol instrument expected) :=
  inferInstanceAs (Decidable (_ ∧ _))

/-- The limit price of a tier 3 order against the durable one; `none` where it agrees. -/
def tier3PriceMismatch (order : BrokerOrderSnapshot) (context : Stage8a4DurableRequestContext) : Option Tier3Match :=
  match context.orderType with
  | .limit =>
      if order.limitPrice = none then some .missingRequiredShape
      else if ¬ SameOption order.limitPrice context.limitPrice then some .noMatch
      else none
  | .market => if order.limitPrice ≠ none then some .noMatch else none
  | _ => some .noMatch

def tier3Matches (order : BrokerOrderSnapshot) (context : Stage8a4DurableRequestContext) : Tier3Match :=
  if order.accountId ≠ context.accountId ∨ order.side ≠ context.side ∨ ¬ order.qty.Same context.qty then .noMatch
  else if LacksVenueSymbol order.instrument context.instrument then .missingRequiredShape
  else if exactInstrumentMatches order.instrument context.instrument = false then .noMatch
  else if order.timeInForce = none then .missingRequiredShape
  else if order.orderType ≠ context.orderType ∨ order.timeInForce ≠ some context.timeInForce then .noMatch
  else
    match tier3PriceMismatch order context with
    | some mismatch => mismatch
    | none =>
        let eventTs := order.sourceTs.getD order.receivedTs
        if context.eventStart.After eventTs ∨ ¬ context.eventEnd.After eventTs then .noMatch
        else if SelectedOrderIdentity order context then .isMatch
        else .identityConflict

def exactOrderShape (order : BrokerOrderSnapshot) (context : Stage8a4DurableRequestContext) : Stage8a4ExactShape :=
  if order.accountId ≠ context.accountId ∨ order.side ≠ context.side ∨ ¬ order.qty.Same context.qty ∨
      order.orderType ≠ context.orderType then .contradiction
  else if order.instrument.venueSymbol = none ∨ order.timeInForce = none then .missingRequired
  else if exactInstrumentMatches order.instrument context.instrument = false ∨
      order.timeInForce ≠ some context.timeInForce then .contradiction
  else
    match context.orderType with
    | .limit =>
        if order.limitPrice = none then .missingRequired
        else if SameOption order.limitPrice context.limitPrice then .compatible
        else .contradiction
    | .market => if order.limitPrice = none then .compatible else .contradiction
    | _ => .contradiction

/-- The first row of each trade id; absent where two rows of one id differ materially. -/
def deduplicateRows : List BrokerTradeSnapshot → Option (List BrokerTradeSnapshot) :=
  fun trades => trades.foldlM (fun unique trade =>
    match unique.find? (fun existing => existing.brokerTradeId = trade.brokerTradeId) with
    | some existing => if SameMaterialTrade existing trade then some unique else none
    | none => some (unique ++ [trade])) []

def deduplicateTrades (trades : List BrokerTradeSnapshot) : Option (List BrokerTradeSnapshot) :=
  (deduplicateRows trades).map fun unique =>
    unique.insertionSort fun left right => left.brokerTradeId.value ≤ right.brokerTradeId.value

def classifyTradeSupport (trade : BrokerTradeSnapshot) (order : BrokerOrderSnapshot)
    (context : Stage8a4DurableRequestContext) : Stage8a4TradeSupport :=
  if ¬ (SharesId trade.brokerOrderId order.brokerOrderId ∨ SharesId trade.clientOrderId order.clientOrderId) then
    .unrelated
  else if ContradictsId trade.brokerOrderId order.brokerOrderId ∨
      ContradictsId trade.clientOrderId order.clientOrderId ∨
      ContradictsId trade.brokerOrderId context.knownBrokerOrderId ∨
      ContradictsId trade.clientOrderId (some context.clientOrderId) ∨
      trade.accountId ≠ order.accountId ∨ exactInstrumentMatches trade.instrument order.instrument = false ∨
      trade.side ≠ order.side then .identityConflict
  else .compatibleSupport

def Stage8a4MaterialTradeBinding.ofTrade (trade : BrokerTradeSnapshot) : Stage8a4MaterialTradeBinding :=
  { accountId := trade.accountId
    brokerTradeId := trade.brokerTradeId
    brokerOrderId := trade.brokerOrderId
    clientOrderId := trade.clientOrderId
    instrument := trade.instrument
    side := trade.side
    qty := trade.qty
    price := trade.price
    grossAmount := trade.grossAmount
    commission := trade.commission
    brokerAssetId := trade.brokerAssetId
    board := trade.board
    expirationDate := trade.expirationDate
    sourceTs := trade.sourceTs }

/-- Why a reduction ends without an exact state: a diagnosed outcome, or the abort of a decimal
operation that overflows. -/
inductive ReductionStop where
  | conflict (reason : Stage8a4ReconciliationReason) (matchingTradeCount : Nat)
  | stillUnknown (reason : Stage8a4ReconciliationReason) (matchingTradeCount : Nat)
  | overflow

def conflicting (reason : Stage8a4ReconciliationReason) : ReductionStop :=
  .conflict reason 0

def unknownBecause (reason : Stage8a4ReconciliationReason) : ReductionStop :=
  .stillUnknown reason 0

section Selection

variable (context : Stage8a4DurableRequestContext) (truth : BrokerTruthSnapshot)

def listedCandidates (selects : BrokerOrderSnapshot → Bool) : List Candidate :=
  (truth.orders.zipIdx.filter fun row => selects row.1).map fun row =>
    { source := .listed row.2, order := row.1 }

def tier1Candidates : List Candidate :=
  listedCandidates truth fun order => order.clientOrderId = some context.clientOrderId

/-- The orders of the known broker id; the exact observation stands in where none is listed. -/
def tier2Candidates (exactLookup : Stage8a4PrivateExactLookup) (expected : BrokerOrderId) : List Candidate :=
  let values := listedCandidates truth fun order => order.brokerOrderId = some expected
  match exactLookup.succeededObservation with
  | some observation =>
      if observation.order.brokerOrderId = some expected ∧ values.isEmpty = true then
        [{ source := .exactLookup, order := observation.order }]
      else values
  | none => values

/-- The orders of the durable shape, and whether some order lacks a field to decide it. An
order of that shape that names another identity ends the search. -/
def tier3Candidates : List Candidate → Except ReductionStop (List Candidate × Bool)
  | [] => .ok ([], false)
  | candidate :: rest =>
      match tier3Matches candidate.order context with
      | .isMatch => do
          let (candidates, missing) ← tier3Candidates rest
          .ok (candidate :: candidates, missing)
      | .missingRequiredShape => do
          let (candidates, _) ← tier3Candidates rest
          .ok (candidates, true)
      | .identityConflict => .error (conflicting .exactIdentityDisagreement)
      | .noMatch => tier3Candidates rest

def selectTier3 : Except ReductionStop (Candidate × Stage8a4ReconciliationReason) := do
  let (candidates, missing) ← tier3Candidates context (listedCandidates truth fun _ => true)
  rejectIf (1 < candidates.length) (conflicting .multipleCandidates)
  let candidate ← orReject candidates.head?
    (unknownBecause (if missing then .missingRequiredShape else .noCandidate))
  .ok (candidate, .exactTier3BoundShape)

def selectCandidate (exactLookup : Stage8a4PrivateExactLookup) :
    Except ReductionStop (Candidate × Stage8a4ReconciliationReason) := do
  let tier1 := tier1Candidates context truth
  let tier2 := context.knownBrokerOrderId.map (tier2Candidates truth exactLookup)
  rejectIf (1 < tier1.length ∨ ∃ values ∈ tier2, 1 < values.length) (conflicting .multipleCandidates)
  rejectIf (∃ client ∈ tier1.head?, ∃ broker ∈ tier2.bind List.head?, client.source ≠ broker.source)
    (conflicting .exactIdentityDisagreement)
  match tier1.head?, tier2.bind List.head? with
  | some candidate, _ => .ok (candidate, .exactTier1ClientIdentity)
  | none, some candidate => .ok (candidate, .exactTier2BrokerIdentity)
  | none, none => selectTier3 context truth

/-- The trades that support the order, in the order given; a linked trade that contradicts it is a
conflict, reported with the number of trades taken before it. -/
def supportingTrades (order : BrokerOrderSnapshot) (taken : List BrokerTradeSnapshot) :
    List BrokerTradeSnapshot → Except ReductionStop (List BrokerTradeSnapshot)
  | [] => .ok taken
  | trade :: rest =>
      match classifyTradeSupport trade order context with
      | .compatibleSupport => supportingTrades order (taken ++ [trade]) rest
      | .unrelated => supportingTrades order taken rest
      | .identityConflict => .error (.conflict .tradeIdentityConflict taken.length)

end Selection

structure ExactReduction where
  selected : Candidate
  reason : Stage8a4ReconciliationReason
  lifecycle : Stage8a4ExactLifecycle
  fill : Stage8a4FillEffect
  matchingTrades : List BrokerTradeSnapshot

section Reduction

variable (codec : Stage8a4Codec) (context : Stage8a4DurableRequestContext)
variable (admission : Stage8a4FreshTruthAdmission) (policy : Stage8a4ReconciliationPolicy)

def remainingContradicts (order : BrokerOrderSnapshot) : Except ReductionStop Bool :=
  match order.remainingQty with
  | none => .ok false
  | some remaining => do
      let left ← orReject (order.qty.checkedSub order.filledQty) ReductionStop.overflow
      .ok (decide (¬ remaining.Same left))

def fillEffectOf (order : BrokerOrderSnapshot) : Stage8a4FillEffect :=
  if order.filledQty.Same Decimal.zero then .zero
  else if order.filledQty.Same order.qty then .full order.filledQty
  else .partialFill order.filledQty

def exactLifecycleOf : OrderStatus → Stage8a4FillEffect → Except Stage8a4ReconciliationReason Stage8a4ExactLifecycle
  | .new, .zero | .working, .zero | .partiallyFilled, .partialFill _ => .ok .working
  | .filled, .full _ => .ok .terminalFilled
  | .rejected, .zero => .ok .terminalRejected
  | .canceled, .zero | .canceled, .partialFill _ => .ok .terminalCancelled
  | .expired, .zero | .expired, .partialFill _ => .ok .terminalExpired
  | .unknown _, _ => .error .unknownOrderStatus
  | _, _ => .error .orderQuantityContradiction

def stateStop (tradeCount : Nat) (reason : Stage8a4ReconciliationReason) : ReductionStop :=
  if reason = .unknownOrderStatus then .stillUnknown reason tradeCount else .conflict reason tradeCount

def exactState (order : BrokerOrderSnapshot) (tradeCount : Nat) :
    Except ReductionStop (Stage8a4ExactLifecycle × Stage8a4FillEffect) := do
  rejectIf (order.qty ≤ Decimal.zero ∨ order.filledQty < Decimal.zero ∨ order.qty < order.filledQty)
    (stateStop tradeCount .orderQuantityContradiction)
  let contradicts ← remainingContradicts order
  rejectIf (contradicts = true ∨ order.lifecycle ≠ BrokerOrderSnapshot.lifecycleFor order.status)
    (stateStop tradeCount .orderQuantityContradiction)
  let fill := fillEffectOf order
  let lifecycle ← (exactLifecycleOf order.status fill).mapError (stateStop tradeCount)
  .ok (lifecycle, fill)

/-- The admission is the one of this request, under this policy, over this truth. -/
def checkBindings : Except ReductionStop Unit :=
  let expected := truthBinding codec (canonicalTruthBinding codec admission.truth)
    admission.admittedDurableBindingSha256 admission.admittedPolicyBindingSha256 admission.sourceEvidenceBindingSha256
  rejectIf (validSha256 admission.truthBindingSha256 = false ∨
    validSha256 admission.sourceEvidenceBindingSha256 = false ∨ validSha256 policy.policyBindingSha256 = false ∨
    validSha256 context.durableBindingSha256 = false ∨
    admission.admittedDurableBindingSha256 ≠ context.durableBindingSha256 ∨
    admission.admittedPolicyBindingSha256 ≠ policy.policyBindingSha256 ∨
    admission.truthBindingSha256 ≠ expected) (unknownBecause .sourceIncomplete)

def checkShape (order : BrokerOrderSnapshot) : Except ReductionStop Unit :=
  match exactOrderShape order context with
  | .compatible => .ok ()
  | .missingRequired => .error (unknownBecause .missingRequiredShape)
  | .contradiction => .error (conflicting .orderShapeContradiction)

/-- The body of `reduce_stage8a4_diagnostic`, up to the diagnostic it returns. -/
def reduceExact : Except ReductionStop ExactReduction := do
  checkBindings codec context admission policy
  let (selected, reason) ← selectCandidate context admission.truth admission.exactLookup
  rejectIf (¬ SelectedOrderIdentity selected.order context) (conflicting .exactIdentityDisagreement)
  checkShape context selected.order
  let deduped ← orReject (deduplicateTrades admission.truth.trades) (conflicting .tradeIdentityConflict)
  let matchingTrades ← supportingTrades context selected.order [] deduped
  let tradeQty ← orReject (Decimal.checkedSum (matchingTrades.map (·.qty))) ReductionStop.overflow
  rejectIf (¬ tradeQty.Same selected.order.filledQty)
    (.conflict .tradeQuantityContradiction matchingTrades.length)
  let (lifecycle, fill) ← exactState selected.order matchingTrades.length
  .ok { selected := selected, reason := reason, lifecycle := lifecycle, fill := fill,
        matchingTrades := matchingTrades }

def selectedOrderDigest (order : BrokerOrderSnapshot) : HexText :=
  orderDigest codec "stage8a4-selected-order-v1" order

def Stage8a4ExactLifecycle.debugName : Stage8a4ExactLifecycle → String
  | .working => "Working"
  | .terminalFilled => "TerminalFilled"
  | .terminalRejected => "TerminalRejected"
  | .terminalCancelled => "TerminalCancelled"
  | .terminalExpired => "TerminalExpired"

def fillDebugName : Stage8a4FillEffect → String
  | .zero => "Zero"
  | .partialFill filledQty => "Partial \x7b filled_qty: " ++ codec.displayDecimal filledQty ++ " \x7d"
  | .full filledQty => "Full \x7b filled_qty: " ++ codec.displayDecimal filledQty ++ " \x7d"

def exactDiagnostic (exact : ExactReduction) : Stage8a4ReconciliationDiagnostic :=
  let selectedDigest := selectedOrderDigest codec exact.selected.order
  let summaryDigest := digestParts codec "stage8a4-deduplicated-material-trades-v2"
    [codec.materialTradesToVec (exact.matchingTrades.map .ofTrade)]
  { outcome := .exactOrderState
    reason := exact.reason
    lifecycle := some exact.lifecycle
    fill := some exact.fill
    selectedOrderBindingSha256 := some selectedDigest
    tradeSummaryBindingSha256 := some summaryDigest
    accountActiveOrdersCount := admission.accountActiveOrdersCount
    targetActiveOrdersCount := admission.targetActiveOrdersCount
    matchingTradeCount := exact.matchingTrades.length
    semanticBindingSha256 := digestParts codec "stage8a4-exact-semantic-binding-v1"
      [charBytes context.durableBindingSha256, charBytes context.requestId.toText,
        charBytes policy.policyBindingSha256, charBytes selectedDigest, charBytes summaryDigest,
        utf8Bytes (exact.lifecycle.debugName ++ ":" ++ fillDebugName codec exact.fill)]
    retryAuthorized := false
    sendAuthorized := false }

def reducerNonExact (outcome : Stage8a4OutcomeKind) (reason : Stage8a4ReconciliationReason)
    (matchingTradeCount : Nat) : Stage8a4ReconciliationDiagnostic :=
  { nonExact codec outcome reason with
    accountActiveOrdersCount := admission.accountActiveOrdersCount
    targetActiveOrdersCount := admission.targetActiveOrdersCount
    matchingTradeCount := matchingTradeCount
    semanticBindingSha256 := digestParts codec "stage8a4-bound-non-exact-semantic-v2"
      [charBytes context.durableBindingSha256, charBytes context.requestId.toText,
        charBytes policy.policyBindingSha256, charBytes admission.truthBindingSha256,
        charBytes admission.sourceEvidenceBindingSha256, outcomeText outcome reason] }

/-- `none` is the overflow abort. -/
def reduceStage8a4Diagnostic : Option Stage8a4ReconciliationDiagnostic :=
  match reduceExact codec context admission policy with
  | .ok exact => some (exactDiagnostic codec context admission policy exact)
  | .error (.conflict reason count) =>
      some (reducerNonExact codec context admission policy .conflict reason count)
  | .error (.stillUnknown reason count) =>
      some (reducerNonExact codec context admission policy .stillUnknown reason count)
  | .error .overflow => none

structure Stage8a4PrivateAccountSafety where
  accountActiveOrdersCount : Nat
  accountUnknownOrdersCount : Nat
  accountOrphanOrdersCount : Nat
  accountOpenPositionsCount : Nat
  targetActiveOrdersCount : Nat
  targetUnknownOrdersCount : Nat
  targetTerminalOrdersCount : Nat
  targetInconsistentOrdersCount : Nat
  targetOpenPositionsCount : Nat
  otherSymbolActiveOrdersCount : Nat

def accountSafetySummary (truth : BrokerTruthSnapshot) (target : InstrumentId) :
    Option Stage8a4PrivateAccountSafety :=
  (truth.summarizeForInstrument target).map fun summary =>
    { accountActiveOrdersCount := summary.accountActiveOrdersCount
      accountUnknownOrdersCount := summary.accountUnknownOrdersCount
      accountOrphanOrdersCount := summary.accountOrphanOrdersCount
      accountOpenPositionsCount := summary.accountOpenPositionsCount
      targetActiveOrdersCount := summary.targetActiveOrdersCount
      targetUnknownOrdersCount := summary.targetUnknownOrdersCount
      targetTerminalOrdersCount := summary.targetTerminalOrdersCount
      targetInconsistentOrdersCount := summary.targetInconsistentOrdersCount
      targetOpenPositionsCount := summary.targetOpenPositionsCount
      otherSymbolActiveOrdersCount := summary.otherSymbolActiveOrdersCount }

def accountSafetyBinding (value : Stage8a4PrivateAccountSafety) : HexText :=
  digestParts codec "stage8a4-account-safety-v1" <|
    [value.accountActiveOrdersCount, value.accountUnknownOrdersCount, value.accountOrphanOrdersCount,
      value.accountOpenPositionsCount, value.targetActiveOrdersCount, value.targetUnknownOrdersCount,
      value.targetTerminalOrdersCount, value.targetInconsistentOrdersCount, value.targetOpenPositionsCount,
      value.otherSymbolActiveOrdersCount].map (toBigEndian 8)

structure Stage8a4AuthoritativeReconciliationOutcome where
  context : Stage8a4DurableRequestContext
  outcomeKind : Stage8a4OutcomeKind
  reason : Stage8a4ReconciliationReason
  lifecycle : Option Stage8a4ExactLifecycle
  fill : Option Stage8a4FillEffect
  selectedOrderBindingSha256 : Option HexText
  tradeSummaryBindingSha256 : Option HexText
  matchingTradeCount : Nat
  semanticBindingSha256 : HexText
  selectedOrder : Option BrokerOrderSnapshot
  materialTrades : List BrokerTradeSnapshot
  exactLookup : Stage8a4PrivateExactLookup
  accountSafety : Stage8a4PrivateAccountSafety
  sourceEvidenceBindingSha256 : HexText
  privateOutcomeBindingSha256 : HexText

def Stage8a4AuthoritativeReconciliationOutcome.intoDiagnostic (outcome : Stage8a4AuthoritativeReconciliationOutcome) :
    Stage8a4ReconciliationDiagnostic :=
  { outcome := outcome.outcomeKind
    reason := outcome.reason
    lifecycle := outcome.lifecycle
    fill := outcome.fill
    selectedOrderBindingSha256 := outcome.selectedOrderBindingSha256
    tradeSummaryBindingSha256 := outcome.tradeSummaryBindingSha256
    accountActiveOrdersCount := outcome.accountSafety.accountActiveOrdersCount
    targetActiveOrdersCount := outcome.accountSafety.targetActiveOrdersCount
    matchingTradeCount := outcome.matchingTradeCount
    semanticBindingSha256 := outcome.semanticBindingSha256
    retryAuthorized := false
    sendAuthorized := false }

def actionDebugName : Stage6DurableActionKind → String
  | .place => "Place"
  | .cancel => "Cancel"

def privateAuthoritativeOutcomeBinding (semanticBindingSha256 sourceEvidenceBindingSha256 : HexText)
    (exactLookup : Stage8a4PrivateExactLookup) (accountSafety : Stage8a4PrivateAccountSafety) : HexText :=
  digestParts codec "stage8a4-private-authoritative-outcome-v1"
    [charBytes context.durableBindingSha256, utf8Bytes (actionDebugName context.action),
      utf8Bytes context.attribution.internalComment, charBytes context.acceptedCommandPayloadSha256,
      charBytes semanticBindingSha256, charBytes sourceEvidenceBindingSha256,
      charBytes (privateExactLookupBinding codec exactLookup), charBytes (accountSafetyBinding codec accountSafety)]

/-- The orders among which the selected one is found again by its digest. -/
def observedOrders : List BrokerOrderSnapshot :=
  admission.truth.orders ++ (admission.exactLookup.succeededObservation.map (·.order)).toList

def selectedByDigest (binding : Option HexText) : Option BrokerOrderSnapshot :=
  binding.bind fun binding =>
    (observedOrders admission).find? fun order => selectedOrderDigest codec order = binding

def materialTradesOf (order : BrokerOrderSnapshot) : List BrokerTradeSnapshot :=
  ((deduplicateTrades admission.truth.trades).getD []).filter fun trade =>
    classifyTradeSupport trade order context = .compatibleSupport

/-- `none` is the overflow abort. -/
def reduceStage8a4Authoritative : Option Stage8a4AuthoritativeReconciliationOutcome := do
  let diagnostic ← reduceStage8a4Diagnostic codec context admission policy
  let selectedOrder := selectedByDigest codec admission diagnostic.selectedOrderBindingSha256
  let accountSafety ← accountSafetySummary admission.truth context.instrument
  some {
    context := context
    outcomeKind := diagnostic.outcome
    reason := diagnostic.reason
    lifecycle := diagnostic.lifecycle
    fill := diagnostic.fill
    selectedOrderBindingSha256 := diagnostic.selectedOrderBindingSha256
    tradeSummaryBindingSha256 := diagnostic.tradeSummaryBindingSha256
    matchingTradeCount := diagnostic.matchingTradeCount
    semanticBindingSha256 := diagnostic.semanticBindingSha256
    selectedOrder := selectedOrder
    materialTrades := (selectedOrder.map (materialTradesOf context admission)).getD []
    exactLookup := admission.exactLookup
    accountSafety := accountSafety
    sourceEvidenceBindingSha256 := admission.sourceEvidenceBindingSha256
    privateOutcomeBindingSha256 := privateAuthoritativeOutcomeBinding codec context
      diagnostic.semanticBindingSha256 admission.sourceEvidenceBindingSha256 admission.exactLookup accountSafety }

end Reduction

end TradingGateway.FinamGateway.Stage8a4Reconciliation
