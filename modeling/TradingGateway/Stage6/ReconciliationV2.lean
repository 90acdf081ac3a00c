import TradingGateway.Stage8b.WorkingLimitEvidence

/-! Reconciliation transitions: the second version of journal records, with the
lookup evidence, the broker facts and the suffix manifest they carry. -/

set_option autoImplicit false

namespace TradingGateway.Stage6.ReconciliationV2

open BrokerCore.FixedPoint BrokerCore.Identifiers BrokerCore.Orders
open DurableIdentity JournalRecord Replay Stage8b.WorkingLimitEvidence
open Foundation.ExceptRun

def stage6DurableRecordSchemaVersionV2 : UInt16 := 2
def maxMaterialTradesV2 : Nat := 256
def maxSuffixRecordsV2 : Nat := 32

inductive Stage6ReconciliationV2Error where
  | decodeFailed
  | unsupportedSchema (version : UInt64)
  | ambiguousSchema
  | nonCanonicalEncoding
  | recordIdentityMismatch
  | payloadDigestMismatch
  | eventPayloadMismatch
  | invalidCausalEnvelope
  | invalidDurableIdentity
  | invalidPayload
  | invalidLookupEvidence
  | invalidBrokerOrderFact
  | invalidMaterialTradeFact
  | invalidSuffixManifest
  | collectionBoundExceeded
  | replay (error : Stage6ReplayError)
  | pendingBatchConflict
  | unexpectedSuffixRecord
  | v2AfterFinalization
deriving DecidableEq

/-- How a check that adds decimals stops: with its error, or in the overflow
panic of the addition. -/
inductive Stage6ReconciliationV2Halt where
  | rejected (error : Stage6ReconciliationV2Error)
  | panicked
deriving DecidableEq

inductive Stage6ReconciliationEndpointKindV2 where
  | place
  | cancel
deriving DecidableEq

inductive Stage6ReconciliationLifecycleV2 where
  | working
  | terminalFilled
  | terminalRejected
  | terminalCancelled
  | terminalExpired
deriving DecidableEq

inductive Stage6ReconciliationTransitionKindV2 where
  | exact (lifecycle : Stage6ReconciliationLifecycleV2)
  | reconciliationConflictHold
  | reconciliationStillUnknownHold
deriving DecidableEq

inductive Stage6ReconciliationFillEffectV2 where
  | zero
  | partialFill (filledQty : Quantity)
  | full (filledQty : Quantity)

structure Stage6BrokerOrderFactV2 where
  accountId : BrokerAccountId
  brokerOrderId : Option BrokerOrderId
  clientOrderId : Option ClientOrderId
  instrument : InstrumentId
  side : OrderSide
  orderType : BrokerCore.Orders.OrderType
  timeInForce : Option TimeInForce
  status : OrderStatus
  lifecycle : BrokerOrderLifecycle
  qty : Quantity
  filledQty : Quantity
  remainingQty : Option Quantity
  limitPrice : Option Price
  brokerAssetId : Option String
  board : Option String
  expirationDate : Option NaiveDate
  sourceTs : Option DateTimeUtc
  receivedTs : DateTimeUtc

structure Stage6MaterialTradeFactV2 where
  accountId : BrokerAccountId
  brokerTradeId : BrokerTradeId
  brokerOrderId : Option BrokerOrderId
  clientOrderId : Option ClientOrderId
  instrument : InstrumentId
  side : OrderSide
  qty : Quantity
  price : Price
  grossAmount : Option Decimal
  commission : Option Decimal
  brokerAssetId : Option String
  board : Option String
  expirationDate : Option NaiveDate
  sourceTs : DateTimeUtc
  receivedTs : DateTimeUtc

structure Stage6AccountSafetySummaryV2 where
  accountActiveOrdersCount : UInt32
  accountUnknownOrdersCount : UInt32
  accountOrphanOrdersCount : UInt32
  accountOpenPositionsCount : UInt32
  targetActiveOrdersCount : UInt32
  targetUnknownOrdersCount : UInt32
  targetTerminalOrdersCount : UInt32
  targetInconsistentOrdersCount : UInt32
  targetOpenPositionsCount : UInt32
  otherSymbolActiveOrdersCount : UInt32
  accountSafetyBindingSha256 : Stage6Sha256Digest

structure Stage6PreAppendPreconditionV2 where
  expectedStage6CheckpointOrFrontierFingerprint : Stage6Sha256Digest
  expectedRecoverySealGeneration : UInt64
  expectedRecoverySealFingerprint : Stage6Sha256Digest
  expectedRequestStateFingerprint : Stage6Sha256Digest

structure Stage6ExactOrderObservationV2 where
  order : Stage6BrokerOrderFactV2
  observationBindingSha256 : Stage6Sha256Digest

structure AttemptedLookup where
  accountId : BrokerAccountId
  queriedBrokerOrderId : BrokerOrderId
  durableRequestBindingSha256 : Stage6Sha256Digest
  requestStartedAt : DateTimeUtc
  responseReceivedAt : DateTimeUtc

inductive Stage6ExactLookupEvidenceV2 where
  | notAttempted
  | succeeded (attempt : AttemptedLookup) (exactOrderObservationV2 : Stage6ExactOrderObservationV2)
  | documentedNotFound (attempt : AttemptedLookup) (documentedStatusCategory : String)
  | unavailable (attempt : AttemptedLookup) (failureCategory : String)
  | decodeFailure (attempt : AttemptedLookup) (responseStatusCategory : String)
      (responseBindingSha256 : Stage6Sha256Digest)
  | stale (attempt : AttemptedLookup) (staleObservationBindingSha256 : Stage6Sha256Digest)

structure Stage6SuffixManifestEntryV2 where
  ordinal : UInt16
  eventKind : Stage6JournalEventKind
  journalRecordId : Stage6JournalRecordId
  lifecycleSequence : Stage6LifecycleSequence
  canonicalPayloadSha256 : Stage6Sha256Digest
  canonicalRecordSha256 : Stage6Sha256Digest
deriving DecidableEq

structure Stage6SuffixManifestV2 where
  entries : List Stage6SuffixManifestEntryV2
deriving DecidableEq

structure Stage6ReconciliationTransitionPayloadV2 where
  stableTransitionKeySha256 : Stage6Sha256Digest
  durableRequestBindingSha256 : Stage6Sha256Digest
  privateAuthoritativeOutcomeBindingSha256 : Stage6Sha256Digest
  endpointKind : Stage6ReconciliationEndpointKindV2
  transitionKind : Stage6ReconciliationTransitionKindV2
  exactLookupEvidence : Stage6ExactLookupEvidenceV2
  brokerOrderFact : Option Stage6BrokerOrderFactV2
  materialTradeFacts : List Stage6MaterialTradeFactV2
  fillEffect : Stage6ReconciliationFillEffectV2
  accountSafetySummary : Stage6AccountSafetySummaryV2
  preAppendPrecondition : Stage6PreAppendPreconditionV2
  deterministicSuffixManifest : Stage6SuffixManifestV2

inductive Stage6JournalEventKindV2 where
  | reconciliationTransitionApplied
deriving DecidableEq

structure Stage6JournalRecordWireV2 where
  schemaVersion : UInt16
  journalRecordId : Stage6JournalRecordId
  lifecycleSequence : Stage6LifecycleSequence
  previousRecordId : Option Stage6JournalRecordId
  causalParentId : Option Stage6JournalRecordId
  durableRequestIdentity : Stage6DurableRequestIdentityV1
  eventKind : Stage6JournalEventKindV2
  payload : Stage6ReconciliationTransitionPayloadV2
  canonicalPayloadSha256 : Stage6Sha256Digest
  sourceEvidenceSha256 : Stage6Sha256Digest

/-- What transition records take from outside the repository: the JSON form of
payloads and records. -/
structure TransitionCodec extends OutcomeEvidenceCodec where
  payloadV2ToVec : Stage6ReconciliationTransitionPayloadV2 → List UInt8
  recordV2ToVec : Stage6JournalRecordWireV2 → List UInt8
  recordV2FromSlice : List UInt8 → Option Stage6JournalRecordWireV2

def Stage6ReconciliationFillEffectV2.validate (effect : Stage6ReconciliationFillEffectV2) :
    Except Stage6ReconciliationV2Error Unit :=
  match effect with
  | .zero => .ok ()
  | .partialFill filledQty | .full filledQty => rejectIf (¬ Decimal.zero < filledQty) .invalidPayload

def Stage6BrokerOrderFactV2.IsPartialFill (order : Stage6BrokerOrderFactV2) (filledQty : Quantity) : Prop :=
  filledQty.Same order.filledQty ∧ Decimal.zero < filledQty ∧ filledQty < order.qty

instance (order : Stage6BrokerOrderFactV2) (filledQty : Quantity) : Decidable (order.IsPartialFill filledQty) :=
  inferInstanceAs (Decidable (_ ∧ _))

def derivedLifecycle (order : Stage6BrokerOrderFactV2) (fillEffect : Stage6ReconciliationFillEffectV2) :
    Option Stage6ReconciliationLifecycleV2 :=
  let whenUnfilled (lifecycle : Stage6ReconciliationLifecycleV2) :=
    if order.filledQty.Same Decimal.zero then some lifecycle else none
  let whenPartial (filledQty : Quantity) (lifecycle : Stage6ReconciliationLifecycleV2) :=
    if order.IsPartialFill filledQty then some lifecycle else none
  match order.status, fillEffect with
  | .new, .zero | .working, .zero => whenUnfilled .working
  | .partiallyFilled, .partialFill filledQty => whenPartial filledQty .working
  | .filled, .full filledQty =>
      if filledQty.Same order.filledQty ∧ filledQty.Same order.qty then some .terminalFilled else none
  | .rejected, .zero => whenUnfilled .terminalRejected
  | .canceled, .zero => whenUnfilled .terminalCancelled
  | .canceled, .partialFill filledQty => whenPartial filledQty .terminalCancelled
  | .expired, .zero => whenUnfilled .terminalExpired
  | .expired, .partialFill filledQty => whenPartial filledQty .terminalExpired
  | _, _ => none

def validateExactStateMatrix (declaredLifecycle : Stage6ReconciliationLifecycleV2)
    (order : Stage6BrokerOrderFactV2) (fillEffect : Stage6ReconciliationFillEffectV2) :
    Except Stage6ReconciliationV2Error Unit :=
  rejectIf (derivedLifecycle order fillEffect ≠ some declaredLifecycle) .invalidPayload

def expectedLifecycle : OrderStatus → BrokerOrderLifecycle
  | .new | .working | .partiallyFilled => .active
  | .filled | .canceled | .rejected | .expired => .terminal
  | .unknown _ => .unknown

section Validation

variable (codec : TransitionCodec)

/-- A remaining quantity, if there is one, completes the filled quantity. -/
def Stage6BrokerOrderFactV2.validateRemaining (order : Stage6BrokerOrderFactV2) :
    Except Stage6ReconciliationV2Halt Unit := do
  match order.remainingQty with
  | none => .ok ()
  | some remaining =>
      rejectIf (remaining < Decimal.zero) (.rejected .invalidBrokerOrderFact)
      let total ← orReject (order.filledQty.checkedAdd remaining) .panicked
      rejectIf (¬ total.Same order.qty) (.rejected .invalidBrokerOrderFact)

def Stage6BrokerOrderFactV2.validate (order : Stage6BrokerOrderFactV2)
    (identity : Stage6DurableRequestIdentityV1) : Except Stage6ReconciliationV2Halt Unit := do
  rejectIf (order.accountId ≠ identity.accountId ∨ order.instrument ≠ identity.instrument ∨
    order.qty ≤ Decimal.zero ∨ order.filledQty < Decimal.zero ∨ order.qty < order.filledQty ∨
    order.lifecycle ≠ expectedLifecycle order.status) (.rejected .invalidBrokerOrderFact)
  order.validateRemaining
  rejectIf (order.brokerAssetId = some "" ∨ order.board = some "" ∨
    ∃ source ∈ order.sourceTs, source.After order.receivedTs) (.rejected .invalidBrokerOrderFact)

def Stage6MaterialTradeFactV2.validate (trade : Stage6MaterialTradeFactV2)
    (identity : Stage6DurableRequestIdentityV1) : Except Stage6ReconciliationV2Error Unit :=
  rejectIf (trade.accountId ≠ identity.accountId ∨ trade.instrument ≠ identity.instrument ∨
    trade.qty ≤ Decimal.zero ∨ trade.price ≤ Decimal.zero ∨ trade.brokerAssetId = some "" ∨
    trade.board = some "" ∨ trade.sourceTs.After trade.receivedTs) .invalidMaterialTradeFact

def AttemptedLookup.validate (attempt : AttemptedLookup) (identity : Stage6DurableRequestIdentityV1)
    (expectedDurableRequestBinding : Stage6Sha256Digest) (category : Option String) :
    Except Stage6ReconciliationV2Error Unit :=
  rejectIf (attempt.accountId ≠ identity.accountId ∨
    attempt.durableRequestBindingSha256 ≠ expectedDurableRequestBinding ∨
    attempt.requestStartedAt.After attempt.responseReceivedAt ∨ category = some "") .invalidLookupEvidence

def Stage6ExactLookupEvidenceV2.validate (evidence : Stage6ExactLookupEvidenceV2)
    (identity : Stage6DurableRequestIdentityV1) (expectedDurableRequestBinding : Stage6Sha256Digest) :
    Except Stage6ReconciliationV2Halt Unit := do
  let validateAttempt (attempt : AttemptedLookup) (category : Option String) :=
    (attempt.validate identity expectedDurableRequestBinding category).mapError
      Stage6ReconciliationV2Halt.rejected
  match evidence with
  | .notAttempted => .ok ()
  | .succeeded attempt observation =>
      observation.order.validate identity
      rejectIf (observation.order.brokerOrderId ≠ some attempt.queriedBrokerOrderId)
        (.rejected .invalidLookupEvidence)
      validateAttempt attempt none
  | .documentedNotFound attempt category | .unavailable attempt category
  | .decodeFailure attempt category _ => validateAttempt attempt (some category)
  | .stale attempt _ => validateAttempt attempt none

def Stage6SuffixManifestEntryV2.matchesRecord (entry : Stage6SuffixManifestEntryV2)
    (record : Stage6JournalRecordV1 codec.toDurableRecordCodec) : Bool :=
  entry.eventKind = record.eventKind && entry.journalRecordId = record.journalRecordId &&
    entry.lifecycleSequence = record.lifecycleSequence &&
    entry.canonicalPayloadSha256 = record.canonicalPayloadSha256 &&
    entry.canonicalRecordSha256 = Stage6Sha256Digest.of codec.toDurableRecordCodec record.encodeCanonical

/-- The entry at `index` stands for the record that many positions after the transition. -/
def Stage6SuffixManifestEntryV2.validate (entry : Stage6SuffixManifestEntryV2)
    (identity : Stage6DurableRequestIdentityV1) (v2Sequence : Stage6LifecycleSequence) (index : Nat) :
    Except Stage6ReconciliationV2Error Unit := do
  let expectedSequence ← orReject (checkedAdd v2Sequence.value (UInt64.ofNat (index + 1)))
    .invalidSuffixManifest
  rejectIf (entry.ordinal.toNat ≠ index ∨ entry.lifecycleSequence.value ≠ expectedSequence ∨
    entry.journalRecordId ≠ Stage6JournalRecordId.derive codec.toDurableRecordCodec
      identity.strategyRequestId entry.lifecycleSequence) .invalidSuffixManifest

def Stage6SuffixManifestV2.validate (manifest : Stage6SuffixManifestV2)
    (identity : Stage6DurableRequestIdentityV1) (v2Sequence : Stage6LifecycleSequence) :
    Except Stage6ReconciliationV2Error Unit := do
  rejectIf (maxSuffixRecordsV2 < manifest.entries.length) .collectionBoundExceeded
  manifest.entries.zipIdx.forM fun (entry, index) => entry.validate codec identity v2Sequence index

/-- The loop over the trade facts; it keeps the trade ids it has met. -/
def validateMaterialTrades (identity : Stage6DurableRequestIdentityV1)
    (trades : List Stage6MaterialTradeFactV2) :
    Except Stage6ReconciliationV2Error (List BrokerTradeId) :=
  trades.foldlM (fun tradeIds trade => do
    trade.validate identity
    rejectIf (trade.brokerTradeId ∈ tradeIds) .invalidMaterialTradeFact
    .ok (tradeIds ++ [trade.brokerTradeId])) []

namespace Stage6ReconciliationTransitionPayloadV2

/-- An exact transition has an order whose state and fills add up. -/
def validateExact (payload : Stage6ReconciliationTransitionPayloadV2)
    (lifecycle : Stage6ReconciliationLifecycleV2) : Except Stage6ReconciliationV2Halt Unit := do
  let order ← orReject payload.brokerOrderFact (.rejected .invalidPayload)
  (validateExactStateMatrix lifecycle order payload.fillEffect).mapError .rejected
  let materialQty ← orReject (Decimal.checkedSum (payload.materialTradeFacts.map fun trade => trade.qty)) .panicked
  rejectIf (¬ materialQty.Same order.filledQty) (.rejected .invalidPayload)

def validateFacts (payload : Stage6ReconciliationTransitionPayloadV2)
    (identity : Stage6DurableRequestIdentityV1) : Except Stage6ReconciliationV2Halt Unit := do
  match payload.brokerOrderFact with
  | none => .ok ()
  | some order => order.validate identity
  let _ ← (validateMaterialTrades identity payload.materialTradeFacts).mapError
    Stage6ReconciliationV2Halt.rejected
  match payload.transitionKind with
  | .exact lifecycle => payload.validateExact lifecycle
  | .reconciliationConflictHold | .reconciliationStillUnknownHold => .ok ()

def validate (payload : Stage6ReconciliationTransitionPayloadV2)
    (identity : Stage6DurableRequestIdentityV1) (sequence : Stage6LifecycleSequence) :
    Except Stage6ReconciliationV2Halt Unit := do
  rejectIf (maxMaterialTradesV2 < payload.materialTradeFacts.length ∨
    (identity.action = .place ∧ payload.endpointKind = .cancel) ∨
    (identity.action = .cancel ∧ payload.endpointKind = .place)) (.rejected .invalidPayload)
  payload.fillEffect.validate.mapError .rejected
  payload.exactLookupEvidence.validate identity payload.durableRequestBindingSha256
  payload.validateFacts identity
  (payload.deterministicSuffixManifest.validate codec identity sequence).mapError .rejected

end Stage6ReconciliationTransitionPayloadV2

def Stage6JournalRecordWireV2.validate (record : Stage6JournalRecordWireV2) :
    Except Stage6ReconciliationV2Halt Unit := do
  rejectIf (record.schemaVersion ≠ stage6DurableRecordSchemaVersionV2)
    (.rejected (.unsupportedSchema record.schemaVersion.toUInt64))
  rejectIf (record.previousRecordId = none ∨ record.causalParentId ≠ record.previousRecordId)
    (.rejected .invalidCausalEnvelope)
  rejectIf (record.journalRecordId ≠ Stage6JournalRecordId.derive codec.toDurableRecordCodec
    record.durableRequestIdentity.strategyRequestId record.lifecycleSequence)
    (.rejected .recordIdentityMismatch)
  record.durableRequestIdentity.validateSelf.mapError fun _ => .rejected .invalidDurableIdentity
  rejectIf (record.eventKind ≠ .reconciliationTransitionApplied) (.rejected .eventPayloadMismatch)
  rejectIf (Stage6Sha256Digest.of codec.toDurableRecordCodec (codec.payloadV2ToVec record.payload) ≠
    record.canonicalPayloadSha256) (.rejected .payloadDigestMismatch)
  record.payload.validate codec record.durableRequestIdentity record.lifecycleSequence

/-- A transition record that passes its own validation; the decoder is its only constructor. -/
structure Stage6JournalRecordV2 extends Stage6JournalRecordWireV2 where
  valid : toStage6JournalRecordWireV2.validate codec = .ok ()

variable {codec}

def Stage6JournalRecordV2.ofWire (wire : Stage6JournalRecordWireV2) :
    Except Stage6ReconciliationV2Halt (Stage6JournalRecordV2 codec) :=
  match validated : wire.validate codec with
  | .error halt => .error halt
  | .ok () => .ok { toStage6JournalRecordWireV2 := wire, valid := validated }

def Stage6JournalRecordV2.encodeCanonical (record : Stage6JournalRecordV2 codec) : List UInt8 :=
  codec.recordV2ToVec record.toStage6JournalRecordWireV2

def Stage6JournalRecordV2.decodeCanonical (codec : TransitionCodec) (bytes : List UInt8) :
    Except Stage6ReconciliationV2Halt (Stage6JournalRecordV2 codec) := do
  let wire ← orReject (codec.recordV2FromSlice bytes) (.rejected .decodeFailed)
  let record ← Stage6JournalRecordV2.ofWire wire
  rejectIf (record.encodeCanonical ≠ bytes) (.rejected .nonCanonicalEncoding)
  .ok record

abbrev Stage6JournalRecordV2.requestId (record : Stage6JournalRecordV2 codec) : StrategyRequestId :=
  record.durableRequestIdentity.strategyRequestId

abbrev Stage6JournalRecordV2.manifestEntries (record : Stage6JournalRecordV2 codec) :
    List Stage6SuffixManifestEntryV2 :=
  record.payload.deterministicSuffixManifest.entries

end Validation

end TradingGateway.Stage6.ReconciliationV2
