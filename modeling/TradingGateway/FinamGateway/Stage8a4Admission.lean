import TradingGateway.FinamGateway.Stage8a4Reconciliation

/-! Admission of broker truth: complete and fresh sources, one account, one instrument,
and an exact lookup that agrees with the listed orders. -/

set_option autoImplicit false

namespace TradingGateway.FinamGateway.Stage8a4Reconciliation

open BrokerCore.FixedPoint BrokerCore.OperationalSnapshot BrokerCore.Orders
open Stage6.JournalRecord
open Foundation.Bytes Foundation.ExceptRun

def SameOption (left right : Option Decimal) : Prop :=
  left.map Decimal.units = right.map Decimal.units

instance (left right : Option Decimal) : Decidable (SameOption left right) :=
  inferInstanceAs (Decidable (_ = _))

def SameMaterialTrade (left right : BrokerTradeSnapshot) : Prop :=
  left.accountId = right.accountId ∧ left.brokerTradeId = right.brokerTradeId ∧
    left.brokerOrderId = right.brokerOrderId ∧ left.clientOrderId = right.clientOrderId ∧
    left.instrument = right.instrument ∧ left.side = right.side ∧ left.qty.Same right.qty ∧
    left.price.Same right.price ∧ SameOption left.grossAmount right.grossAmount ∧
    SameOption left.commission right.commission ∧ left.brokerAssetId = right.brokerAssetId ∧
    left.board = right.board ∧ left.expirationDate = right.expirationDate ∧ left.sourceTs = right.sourceTs

instance (left right : BrokerTradeSnapshot) : Decidable (SameMaterialTrade left right) :=
  inferInstanceAs (Decidable (_ ∧ _))

def SameMaterialOrder (left right : BrokerOrderSnapshot) : Prop :=
  left.accountId = right.accountId ∧ left.brokerOrderId = right.brokerOrderId ∧
    left.clientOrderId = right.clientOrderId ∧ left.instrument = right.instrument ∧ left.side = right.side ∧
    left.orderType = right.orderType ∧ left.timeInForce = right.timeInForce ∧ left.status = right.status ∧
    left.lifecycle = right.lifecycle ∧ left.qty.Same right.qty ∧ left.filledQty.Same right.filledQty ∧
    SameOption left.remainingQty right.remainingQty ∧ SameOption left.limitPrice right.limitPrice ∧
    left.brokerAssetId = right.brokerAssetId ∧ left.board = right.board ∧
    left.expirationDate = right.expirationDate ∧ left.sourceTs = right.sourceTs

instance (left right : BrokerOrderSnapshot) : Decidable (SameMaterialOrder left right) :=
  inferInstanceAs (Decidable (_ ∧ _))

/-- `selected_order_identity` accepts: the order names no other client id than the
context's, and no other broker id than the known one. -/
def SelectedOrderIdentity (order : BrokerOrderSnapshot) (context : Stage8a4DurableRequestContext) : Prop :=
  ¬ ContradictsId order.clientOrderId (some context.clientOrderId) ∧
    ¬ ContradictsId context.knownBrokerOrderId order.brokerOrderId

instance (order : BrokerOrderSnapshot) (context : Stage8a4DurableRequestContext) :
    Decidable (SelectedOrderIdentity order context) :=
  inferInstanceAs (Decidable (_ ∧ _))

structure AdmissionFailure where
  outcome : Stage8a4OutcomeKind
  reason : Stage8a4ReconciliationReason

/-- The names that `Debug` prints. -/
def Stage8a4OutcomeKind.debugName : Stage8a4OutcomeKind → String
  | .exactOrderState => "ExactOrderState"
  | .conflict => "Conflict"
  | .stillUnknown => "StillUnknown"

def Stage8a4ReconciliationReason.debugName : Stage8a4ReconciliationReason → String
  | .exactTier1ClientIdentity => "ExactTier1ClientIdentity"
  | .exactTier2BrokerIdentity => "ExactTier2BrokerIdentity"
  | .exactTier3BoundShape => "ExactTier3BoundShape"
  | .sourceIncomplete => "SourceIncomplete"
  | .sourceStale => "SourceStale"
  | .sourceIdentityMismatch => "SourceIdentityMismatch"
  | .instrumentUnresolved => "InstrumentUnresolved"
  | .exactLookupUnavailable => "ExactLookupUnavailable"
  | .noCandidate => "NoCandidate"
  | .missingRequiredShape => "MissingRequiredShape"
  | .multipleCandidates => "MultipleCandidates"
  | .exactIdentityDisagreement => "ExactIdentityDisagreement"
  | .orderShapeContradiction => "OrderShapeContradiction"
  | .orderQuantityContradiction => "OrderQuantityContradiction"
  | .tradeIdentityConflict => "TradeIdentityConflict"
  | .tradeQuantityContradiction => "TradeQuantityContradiction"
  | .unknownOrderStatus => "UnknownOrderStatus"

structure Stage8a4AdmissionAttemptBinding where
  durableBindingSha256 : HexText
  requestId : List Char
  policyBindingSha256 : HexText
  canonicalTruthSha256 : HexText
  sourceEvidenceBindingSha256 : HexText

section Admission

variable (codec : Stage8a4Codec) (context : Stage8a4DurableRequestContext)
variable (policy : Stage8a4ReconciliationPolicy)

def outcomeText (outcome : Stage8a4OutcomeKind) (reason : Stage8a4ReconciliationReason) : List UInt8 :=
  utf8Bytes (outcome.debugName ++ ":" ++ reason.debugName)

def nonExact (outcome : Stage8a4OutcomeKind) (reason : Stage8a4ReconciliationReason) :
    Stage8a4ReconciliationDiagnostic :=
  { outcome := outcome
    reason := reason
    lifecycle := none
    fill := none
    selectedOrderBindingSha256 := none
    tradeSummaryBindingSha256 := none
    accountActiveOrdersCount := 0
    targetActiveOrdersCount := 0
    matchingTradeCount := 0
    semanticBindingSha256 := digestParts codec "stage8a4-non-exact-semantic-binding-v1" [outcomeText outcome reason]
    retryAuthorized := false
    sendAuthorized := false }

def admissionError (attempt : Stage8a4AdmissionAttemptBinding) (failure : AdmissionFailure) :
    Stage8a4ReconciliationDiagnostic :=
  { nonExact codec failure.outcome failure.reason with
    semanticBindingSha256 := digestParts codec "stage8a4-bound-admission-failure-semantic-v3"
      [charBytes attempt.durableBindingSha256, charBytes attempt.requestId, charBytes attempt.policyBindingSha256,
        charBytes attempt.canonicalTruthSha256, charBytes attempt.sourceEvidenceBindingSha256,
        outcomeText failure.outcome failure.reason] }

def incomplete : AdmissionFailure :=
  { outcome := .stillUnknown, reason := .sourceIncomplete }

def stale : AdmissionFailure :=
  { outcome := .stillUnknown, reason := .sourceStale }

def foreign : AdmissionFailure :=
  { outcome := .conflict, reason := .sourceIdentityMismatch }

def disagreeing : AdmissionFailure :=
  { outcome := .conflict, reason := .exactIdentityDisagreement }

/-- A response that the policy still trusts now. -/
def NotFresh (received : DateTimeUtc) : Prop :=
  received.After policy.trustedNow ∨ policy.maxSourceAge < codec.nanosecondsSince policy.trustedNow received

instance (received : DateTimeUtc) : Decidable (NotFresh codec policy received) :=
  inferInstanceAs (Decidable (_ ∨ _))

def validateTiming (timing : Stage8a4SourceTiming) : Except AdmissionFailure Unit := do
  rejectIf (context.possibleEffectAt.After timing.requestStartedAt ∨
    timing.requestStartedAt.After timing.responseReceivedAt) incomplete
  rejectIf (NotFresh codec policy timing.responseReceivedAt) stale

/-- The responses lie further apart than the policy allows. -/
def exceedsSkew (received : List DateTimeUtc) : Bool :=
  match received with
  | [] => false
  | first :: rest =>
      policy.maxCrossSourceSkew < codec.nanosecondsSince (rest.foldl laterOf first) (rest.foldl earlierOf first)

/-- One interval behind the ones that cover everything up to `coveredEnd`. -/
def coverInterval (coveredEnd : DateTimeUtc) (interval : Stage8a4TradeIntervalProof) :
    Except AdmissionFailure DateTimeUtc := do
  rejectIf (¬ interval.endExclusive.After interval.startInclusive ∨ interval.requestedLimit = 0 ∨
    interval.startInclusive.After coveredEnd ∨ context.possibleEffectAt.After interval.requestStartedAt ∨
    interval.requestStartedAt.After interval.responseReceivedAt ∨
    NotFresh codec policy interval.responseReceivedAt ∨
    policy.maxIntervalSplitDepth < interval.splitDepth) incomplete
  -- a saturated interval may have dropped trades
  rejectIf (interval.requestedLimit ≤ interval.returnedCount) incomplete
  .ok (laterOf coveredEnd interval.endExclusive)

def validateTradeIntervals (trades : Stage8a4BoundedTradeHistoryComplete) : Except AdmissionFailure Unit := do
  rejectIf (policy.maxTradeIntervals < trades.intervals.length ∨ policy.maxIntervalSplitDepth = 0) incomplete
  let intervals := trades.intervals.insertionSort StartsBefore
  let first ← orReject intervals.head? incomplete
  rejectIf (intervalCoverageFingerprint codec intervals ≠ trades.intervalCoverageSha256 ∨
    first.startInclusive.After context.eventStart ∨
    ∃ last ∈ intervals.getLast?, context.eventEnd.After last.endExclusive) incomplete
  let _ ← intervals.foldlM (coverInterval codec context policy) first.startInclusive
  rejectIf (exceedsSkew codec policy (intervals.map (·.responseReceivedAt)) = true) stale

def receivedTimes (evidence : Stage8a4SourceEvidence) : List DateTimeUtc :=
  [evidence.orders.timing.responseReceivedAt, evidence.positions.timing.responseReceivedAt,
    evidence.instruments.timing.responseReceivedAt] ++
    evidence.trades.intervals.map (·.responseReceivedAt) ++
    evidence.exactLookup.timing.toList.map (·.responseReceivedAt)

def stage8a4WriterEntryValidUntil (evidence : Stage8a4SourceEvidence) : DateTimeUtc :=
  codec.addDuration ((receivedTimes evidence).foldl earlierOf evidence.orders.timing.responseReceivedAt)
    policy.maxSourceAge

def validateAccounts (truth : BrokerTruthSnapshot) : Except AdmissionFailure Unit := do
  rejectIf (truth.accountId ≠ context.accountId) foreign
  rejectIf ((∃ order ∈ truth.orders, order.accountId ≠ context.accountId) ∨
    (∃ trade ∈ truth.trades, trade.accountId ≠ context.accountId) ∨
    ∃ position ∈ truth.positions, position.accountId ≠ context.accountId) foreign

def validateInstrument (truth : BrokerTruthSnapshot) : Except AdmissionFailure Unit :=
  let matchingSpecs := (truth.instruments.filter (·.matchesInstrumentId context.instrument)).length
  rejectIf (matchingSpecs ≠ 1 ∨ context.instrument.venueSymbol.getD "" = "")
    { outcome := if 1 < matchingSpecs then .conflict else .stillUnknown, reason := .instrumentUnresolved }

/-- An observed order is the one that was asked for, and the listed one, if it is listed. -/
def validateExactOrder (truth : BrokerTruthSnapshot) (observation : Stage8a4ExactOrderObservation) :
    Except AdmissionFailure Unit := do
  let expected ← orReject context.knownBrokerOrderId disagreeing
  rejectIf (observation.order.brokerOrderId ≠ some expected ∨ observation.order.accountId ≠ context.accountId ∨
    observation.order.receivedTs.After observation.timing.responseReceivedAt ∨
    ¬ SelectedOrderIdentity observation.order context) disagreeing
  match truth.orders.find? (fun order => order.brokerOrderId = some expected) with
  | none => .ok ()
  | some listed => rejectIf (¬ SameMaterialOrder listed observation.order) disagreeing

def validateExactLookup (truth : BrokerTruthSnapshot) (lookup : Stage8a4PrivateExactLookup) :
    Except AdmissionFailure Unit := do
  match lookup.timing with
  | none => .ok ()
  | some timing => validateTiming codec context policy timing
  rejectIf (lookup.hasValidSourceShape context = false) incomplete
  match lookup.succeededObservation with
  | none => .ok ()
  | some observation => validateExactOrder context truth observation

def checkAdmission (truth : BrokerTruthSnapshot) (evidence : Stage8a4SourceEvidence) :
    Except AdmissionFailure Unit := do
  rejectIf (validSha256 context.durableBindingSha256 = false ∨ validSha256 policy.policyBindingSha256 = false ∨
    evidence.acquisitionPolicySha256 ≠ policy.policyBindingSha256) incomplete
  rejectIf (validSha256 evidence.canonicalTruthPayloadSha256 = false ∨
    evidence.canonicalTruthPayloadSha256 ≠ canonicalTruthBinding codec truth) incomplete
  validateAccounts context truth
  validateTiming codec context policy evidence.orders.timing
  validateTiming codec context policy evidence.positions.timing
  validateTiming codec context policy evidence.instruments.timing
  validateTradeIntervals codec context policy evidence.trades
  rejectIf ((evidence.trades.intervals.map (·.returnedCount)).sum ≠ truth.trades.length) incomplete
  rejectIf (exceedsSkew codec policy (receivedTimes evidence) = true) stale
  validateInstrument context truth
  validateExactLookup codec context policy truth evidence.exactLookup

def truthBinding (canonicalTruthSha256 durableBindingSha256 policyBindingSha256 evidenceBindingSha256 : HexText) :
    HexText :=
  digestParts codec "stage8a4-complete-admission-v2" [charBytes canonicalTruthSha256,
    charBytes durableBindingSha256, charBytes policyBindingSha256, charBytes evidenceBindingSha256]

def admitted (truth : BrokerTruthSnapshot) (evidence : Stage8a4SourceEvidence) : Stage8a4FreshTruthAdmission :=
  let canonicalTruthSha256 := canonicalTruthBinding codec truth
  let evidenceBindingSha256 := sourceEvidenceBinding codec evidence canonicalTruthSha256
  { truth := truth
    exactLookup := evidence.exactLookup
    admittedRequestId := context.requestId
    admittedAccountId := context.accountId
    admittedInstrument := context.instrument
    admittedDurableBindingSha256 := context.durableBindingSha256
    admittedPolicyBindingSha256 := policy.policyBindingSha256
    admittedCanonicalTruthSha256 := canonicalTruthSha256
    sourceEvidenceBindingSha256 := evidenceBindingSha256
    truthBindingSha256 := truthBinding codec canonicalTruthSha256 context.durableBindingSha256
      policy.policyBindingSha256 evidenceBindingSha256
    writerEntryValidUntil := stage8a4WriterEntryValidUntil codec policy evidence
    accountActiveOrdersCount := truth.accountWideActiveOrderCount
    targetActiveOrdersCount := (truth.targetActiveOrders context.instrument).length }

def admitStage8a4BrokerTruth (truth : BrokerTruthSnapshot) (evidence : Stage8a4SourceEvidence) :
    Except Stage8a4ReconciliationDiagnostic Stage8a4FreshTruthAdmission :=
  let canonicalTruthSha256 := canonicalTruthBinding codec truth
  let attempt : Stage8a4AdmissionAttemptBinding := {
    durableBindingSha256 := context.durableBindingSha256
    requestId := context.requestId.toText
    policyBindingSha256 := policy.policyBindingSha256
    canonicalTruthSha256 := canonicalTruthSha256
    sourceEvidenceBindingSha256 := sourceEvidenceBinding codec evidence canonicalTruthSha256 }
  do
    (checkAdmission codec context policy truth evidence).mapError (admissionError codec attempt)
    .ok (admitted codec context policy truth evidence)

end Admission

end TradingGateway.FinamGateway.Stage8a4Reconciliation
