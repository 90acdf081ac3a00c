import Mathlib.Data.List.Sort
import TradingGateway.BrokerCore.AccountSummary
import TradingGateway.Stage6.ReconciliationV2

/-! Broker truth and the sources it was acquired from: the request it is asked about,
the policy it is judged under, and its digests. -/

set_option autoImplicit false

namespace TradingGateway.FinamGateway.Stage8a4Reconciliation

open BrokerCore.FixedPoint BrokerCore.HybridAttribution BrokerCore.Identifiers BrokerCore.OperationalSnapshot
open BrokerCore.Orders Stage6.DurableIdentity Stage6.JournalRecord Stage6.ReconciliationV2
open Foundation.Bytes

inductive Stage8a4ExactLifecycle where
  | working
  | terminalFilled
  | terminalRejected
  | terminalCancelled
  | terminalExpired
deriving DecidableEq

inductive Stage8a4FillEffect where
  | zero
  | partialFill (filledQty : Quantity)
  | full (filledQty : Quantity)
deriving DecidableEq

inductive Stage8a4OutcomeKind where
  | exactOrderState
  | conflict
  | stillUnknown
deriving DecidableEq

inductive Stage8a4ReconciliationReason where
  | exactTier1ClientIdentity
  | exactTier2BrokerIdentity
  | exactTier3BoundShape
  | sourceIncomplete
  | sourceStale
  | sourceIdentityMismatch
  | instrumentUnresolved
  | exactLookupUnavailable
  | noCandidate
  | missingRequiredShape
  | multipleCandidates
  | exactIdentityDisagreement
  | orderShapeContradiction
  | orderQuantityContradiction
  | tradeIdentityConflict
  | tradeQuantityContradiction
  | unknownOrderStatus
deriving DecidableEq

structure Stage8a4ReconciliationDiagnostic where
  outcome : Stage8a4OutcomeKind
  reason : Stage8a4ReconciliationReason
  lifecycle : Option Stage8a4ExactLifecycle
  fill : Option Stage8a4FillEffect
  selectedOrderBindingSha256 : Option HexText
  tradeSummaryBindingSha256 : Option HexText
  accountActiveOrdersCount : Nat
  targetActiveOrdersCount : Nat
  matchingTradeCount : Nat
  semanticBindingSha256 : HexText
  retryAuthorized : Bool
  sendAuthorized : Bool

/-- A durable request and the order it was about. Only the current durable authority
issues one, from an order shape that passed its own validation and a parsed digest. -/
structure Stage8a4DurableRequestContext where
  requestId : StrategyRequestId
  clientOrderId : ClientOrderId
  accountId : BrokerAccountId
  instrument : InstrumentId
  action : Stage6DurableActionKind
  attribution : HybridRuntimeAttribution
  side : OrderSide
  qty : Quantity
  orderType : BrokerCore.Orders.OrderType
  timeInForce : TimeInForce
  limitPrice : Option Price
  knownBrokerOrderId : Option BrokerOrderId
  targetOrderClientOrderId : Option ClientOrderId
  acceptedCommandPayloadSha256 : HexText
  possibleEffectAt : DateTimeUtc
  eventStart : DateTimeUtc
  eventEnd : DateTimeUtc
  durableBindingSha256 : HexText
  validShape : validateDurablePlaceShape orderType qty limitPrice = .ok ()
  canonicalBinding : isCanonicalSha256 durableBindingSha256 = true

structure Stage8a4ReconciliationPolicy where
  trustedNow : DateTimeUtc
  maxSourceAge : Int
  maxCrossSourceSkew : Int
  maxTradeIntervals : Nat
  maxIntervalSplitDepth : UInt8
  policyBindingSha256 : HexText

structure Stage8a4SourceTiming where
  requestStartedAt : DateTimeUtc
  responseReceivedAt : DateTimeUtc

structure Stage8a4NonPaginatedOrdersSnapshotComplete where
  timing : Stage8a4SourceTiming

structure Stage8a4CompletePositionsSnapshot where
  timing : Stage8a4SourceTiming

inductive Stage8a4InstrumentCompletenessEvidence where
  | exactTargetResolved (timing : Stage8a4SourceTiming)
  | fullRegistryCursorExhausted (timing : Stage8a4SourceTiming)

def Stage8a4InstrumentCompletenessEvidence.timing : Stage8a4InstrumentCompletenessEvidence → Stage8a4SourceTiming
  | .exactTargetResolved timing | .fullRegistryCursorExhausted timing => timing

structure Stage8a4TradeIntervalProof where
  startInclusive : DateTimeUtc
  endExclusive : DateTimeUtc
  requestedLimit : Nat
  returnedCount : Nat
  requestStartedAt : DateTimeUtc
  responseReceivedAt : DateTimeUtc
  splitDepth : UInt8

structure Stage8a4BoundedTradeHistoryComplete where
  intervals : List Stage8a4TradeIntervalProof
  intervalCoverageSha256 : HexText

structure Stage8a4ExactOrderObservation where
  order : BrokerOrderSnapshot
  timing : Stage8a4SourceTiming

inductive Stage8a4PrivateExactLookup where
  | notAttempted
  | succeeded (observation : Stage8a4ExactOrderObservation)
  | documentedNotFound (timing : Stage8a4SourceTiming) (documentedStatusCategory : String)
  | unavailable (timing : Stage8a4SourceTiming) (failureCategory : String)
  | decodeFailure (timing : Stage8a4SourceTiming) (responseStatusCategory : String)
      (responseBindingSha256 : HexText)
  | stale (timing : Stage8a4SourceTiming) (staleObservationBindingSha256 : HexText)

structure Stage8a4SourceEvidence where
  orders : Stage8a4NonPaginatedOrdersSnapshotComplete
  trades : Stage8a4BoundedTradeHistoryComplete
  positions : Stage8a4CompletePositionsSnapshot
  instruments : Stage8a4InstrumentCompletenessEvidence
  exactLookup : Stage8a4PrivateExactLookup
  canonicalTruthPayloadSha256 : HexText
  acquisitionPolicySha256 : HexText

structure Stage8a4ReadonlySourceAcquisition where
  truth : BrokerTruthSnapshot
  ordersTiming : Stage8a4SourceTiming
  positionsTiming : Stage8a4SourceTiming
  instrumentTiming : Stage8a4SourceTiming
  tradeIntervals : List Stage8a4TradeIntervalProof
  exactLookup : Stage8a4PrivateExactLookup

structure Stage8a4FreshTruthAdmission where
  truth : BrokerTruthSnapshot
  exactLookup : Stage8a4PrivateExactLookup
  admittedRequestId : StrategyRequestId
  admittedAccountId : BrokerAccountId
  admittedInstrument : InstrumentId
  admittedDurableBindingSha256 : HexText
  admittedPolicyBindingSha256 : HexText
  admittedCanonicalTruthSha256 : HexText
  sourceEvidenceBindingSha256 : HexText
  truthBindingSha256 : HexText
  writerEntryValidUntil : DateTimeUtc
  accountActiveOrdersCount : Nat
  targetActiveOrdersCount : Nat

structure Stage8a4MaterialTradeBinding where
  accountId : BrokerAccountId
  brokerTradeId : BrokerTradeId
  brokerOrderId : Option BrokerOrderId
  clientOrderId : Option ClientOrderId
  instrument : InstrumentId
  side : OrderSide
  qty : Quantity
  price : Price
  grossAmount : Option Decimal
  commission : Option Decimal
  brokerAssetId : Option String
  board : Option String
  expirationDate : Option NaiveDate
  sourceTs : DateTimeUtc

structure CanonicalTruth where
  accountId : BrokerAccountId
  orders : List HexText
  positions : List HexText
  cash : Option BrokerCashSnapshot
  trades : List HexText
  instruments : List HexText
  receivedTs : DateTimeUtc

/-- What reconciliation takes from outside the repository: the JSON form of broker
rows, the texts of instants and decimals, and the arithmetic of instants. -/
structure Stage8a4Codec extends TransitionCodec where
  orderSnapshotToVec : BrokerOrderSnapshot → List UInt8
  positionSnapshotToVec : BrokerPositionSnapshot → List UInt8
  tradeSnapshotToVec : BrokerTradeSnapshot → List UInt8
  instrumentSpecToVec : BrokerInstrumentSpec → List UInt8
  canonicalTruthToVec : CanonicalTruth → List UInt8
  materialTradesToVec : List Stage8a4MaterialTradeBinding → List UInt8
  toRfc3339 : DateTimeUtc → String
  displayDecimal : Decimal → String
  nanosecondsSince : DateTimeUtc → DateTimeUtc → Int
  addDuration : DateTimeUtc → Int → DateTimeUtc

/-- Sixty-four hexadecimal digits of either case. -/
def validSha256 (value : HexText) : Bool :=
  value.length = 64 ∧ value.all fun digit =>
    ('0' ≤ digit ∧ digit ≤ '9') ∨ ('a' ≤ digit ∧ digit ≤ 'f') ∨ ('A' ≤ digit ∧ digit ≤ 'F')

/-- The characters that `str::trim` removes. -/
def isWhiteSpace (character : Char) : Bool :=
  let code := character.toNat
  (9 ≤ code ∧ code ≤ 13) ∨ code = 32 ∨ code = 0x85 ∨ code = 0xA0 ∨ code = 0x1680 ∨
    (0x2000 ≤ code ∧ code ≤ 0x200A) ∨ code = 0x2028 ∨ code = 0x2029 ∨ code = 0x202F ∨ code = 0x205F ∨
    code = 0x3000

def isBlank (text : String) : Bool :=
  text.toList.all isWhiteSpace

def earlierOf (left right : DateTimeUtc) : DateTimeUtc :=
  if left.After right then right else left

/-- The order of two intervals by their start, and by their end where they start together. -/
def StartsBefore (left right : Stage8a4TradeIntervalProof) : Prop :=
  right.startInclusive.After left.startInclusive ∨
    (left.startInclusive = right.startInclusive ∧ ¬ left.endExclusive.After right.endExclusive)

instance : DecidableRel StartsBefore := fun _ _ => inferInstanceAs (Decidable (_ ∨ _))

namespace Stage8a4PrivateExactLookup

def succeededObservation : Stage8a4PrivateExactLookup → Option Stage8a4ExactOrderObservation
  | .succeeded observation => some observation
  | _ => none

def timing : Stage8a4PrivateExactLookup → Option Stage8a4SourceTiming
  | .notAttempted => none
  | .succeeded observation => some observation.timing
  | .documentedNotFound timing _ | .unavailable timing _ | .decodeFailure timing _ _ | .stale timing _ =>
      some timing

/-- A lookup was asked by broker order id, and a failed one says how it failed. -/
def hasValidSourceShape (lookup : Stage8a4PrivateExactLookup) (context : Stage8a4DurableRequestContext) : Bool :=
  match lookup with
  | .notAttempted | .succeeded _ => true
  | .documentedNotFound _ category | .unavailable _ category =>
      context.knownBrokerOrderId.isSome && !isBlank category
  | .decodeFailure _ category binding =>
      context.knownBrokerOrderId.isSome && !isBlank category && validSha256 binding
  | .stale _ binding => context.knownBrokerOrderId.isSome && validSha256 binding

end Stage8a4PrivateExactLookup

section Digests

variable (codec : Stage8a4Codec)

def digestParts (domain : String) (parts : List (List UInt8)) : HexText :=
  (codec.sha256 (utf8Bytes domain ++ parts.flatMap lengthPrefixed)).hex

def orderDigest (domain : String) (order : BrokerOrderSnapshot) : HexText :=
  digestParts codec domain [codec.orderSnapshotToVec order]

def sortedHashes (hashes : List HexText) : List HexText :=
  hashes.insertionSort fun left right => (compare left right).isLE = true

def canonicalTruthBinding (truth : BrokerTruthSnapshot) : HexText :=
  digestParts codec "stage8a4-admitted-canonical-truth-multiset-v2" [codec.canonicalTruthToVec {
    accountId := truth.accountId
    orders := sortedHashes (truth.orders.map (orderDigest codec "stage8a4-canonical-order-v2"))
    positions := sortedHashes (truth.positions.map fun position =>
      digestParts codec "stage8a4-canonical-position-v2" [codec.positionSnapshotToVec position])
    cash := truth.cash
    trades := sortedHashes (truth.trades.map fun trade =>
      digestParts codec "stage8a4-canonical-raw-trade-v2" [codec.tradeSnapshotToVec trade])
    instruments := sortedHashes (truth.instruments.map fun spec =>
      digestParts codec "stage8a4-canonical-instrument-v2" [codec.instrumentSpecToVec spec])
    receivedTs := truth.receivedTs }]

def instantBytes (time : DateTimeUtc) : List UInt8 :=
  utf8Bytes (codec.toRfc3339 time)

def privateExactLookupBinding (lookup : Stage8a4PrivateExactLookup) : HexText :=
  let timed (state : String) (timing : Stage8a4SourceTiming) (parts : List (List UInt8)) :=
    utf8Bytes state :: instantBytes codec timing.requestStartedAt ::
      instantBytes codec timing.responseReceivedAt :: parts
  digestParts codec "stage8a4-private-exact-lookup-v1" <|
    match lookup with
    | .notAttempted => [utf8Bytes "not_attempted"]
    | .succeeded observation => timed "succeeded" observation.timing
        [charBytes (orderDigest codec "stage8a4-exact-order-observation-v2" observation.order)]
    | .documentedNotFound timing category => timed "documented_not_found" timing [utf8Bytes category]
    | .unavailable timing category => timed "unavailable" timing [utf8Bytes category]
    | .decodeFailure timing category binding =>
        timed "decode_failure" timing [utf8Bytes category, charBytes binding]
    | .stale timing binding => timed "stale" timing [charBytes binding]

def intervalCoverageFingerprint (intervals : List Stage8a4TradeIntervalProof) : HexText :=
  (codec.sha256 (utf8Bytes "stage8a4-trade-interval-coverage-v1" ++ intervals.flatMap fun interval =>
    instantBytes codec interval.startInclusive ++ instantBytes codec interval.endExclusive ++
      toBigEndian 8 interval.requestedLimit ++ toBigEndian 8 interval.returnedCount ++
      [interval.splitDepth])).hex

def sourceTimingBinding (timing : Stage8a4SourceTiming) : List UInt8 :=
  instantBytes codec timing.requestStartedAt ++ instantBytes codec timing.responseReceivedAt

def sourceEvidenceBinding (evidence : Stage8a4SourceEvidence) (canonicalTruthSha256 : HexText) : HexText :=
  let resolved := match evidence.instruments with
    | .exactTargetResolved _ => "exact-target-resolved"
    | .fullRegistryCursorExhausted _ => "full-registry-cursor-exhausted"
  let intervals := (evidence.trades.intervals.insertionSort StartsBefore).flatMap fun interval =>
    instantBytes codec interval.startInclusive ++ instantBytes codec interval.endExclusive ++
      toBigEndian 8 interval.requestedLimit ++ toBigEndian 8 interval.returnedCount ++
      instantBytes codec interval.requestStartedAt ++ instantBytes codec interval.responseReceivedAt ++
      [interval.splitDepth]
  (codec.sha256 (utf8Bytes "stage8a4-source-evidence-binding-v2" ++ charBytes canonicalTruthSha256 ++
    charBytes evidence.canonicalTruthPayloadSha256 ++ charBytes evidence.acquisitionPolicySha256 ++
    sourceTimingBinding codec evidence.orders.timing ++ sourceTimingBinding codec evidence.positions.timing ++
    utf8Bytes resolved ++ sourceTimingBinding codec evidence.instruments.timing ++
    charBytes evidence.trades.intervalCoverageSha256 ++ intervals ++
    charBytes (privateExactLookupBinding codec evidence.exactLookup))).hex

/-- The frozen production profile: sources at most thirty seconds old and five apart. -/
def issueStage8a4PolicyFromFrozenConfig (trustedNow : DateTimeUtc) : Stage8a4ReconciliationPolicy :=
  { trustedNow := trustedNow
    maxSourceAge := 30 * 10 ^ 9
    maxCrossSourceSkew := 5 * 10 ^ 9
    maxTradeIntervals := 32
    maxIntervalSplitDepth := 8
    policyBindingSha256 := digestParts codec "stage8a4-frozen-production-reconciliation-policy-v1"
      [toBigEndian 8 30000, toBigEndian 8 5000, toBigEndian 8 32, [8]] }

def issueStage8a4SourceEvidenceFromReadonlyAcquisition (acquisition : Stage8a4ReadonlySourceAcquisition)
    (policy : Stage8a4ReconciliationPolicy) : BrokerTruthSnapshot × Stage8a4SourceEvidence :=
  (acquisition.truth, {
    orders := { timing := acquisition.ordersTiming }
    trades := {
      intervals := acquisition.tradeIntervals
      intervalCoverageSha256 := intervalCoverageFingerprint codec acquisition.tradeIntervals }
    positions := { timing := acquisition.positionsTiming }
    instruments := .exactTargetResolved acquisition.instrumentTiming
    exactLookup := acquisition.exactLookup
    canonicalTruthPayloadSha256 := canonicalTruthBinding codec acquisition.truth
    acquisitionPolicySha256 := policy.policyBindingSha256 })

end Digests

end TradingGateway.FinamGateway.Stage8a4Reconciliation
