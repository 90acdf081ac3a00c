import TradingGateway.Stage5e.ScheduleVerifierProperties

/-! The bindings that are prepared from a verified envelope, for every route. -/

set_option autoImplicit false

namespace TradingGateway.Stage5e.ScheduleRoutes

open BrokerCore.Orders BrokerCore.Orders.DateTimeUtc Stage6.JournalRecord Stage6.VersionedRecord
open ScheduleGrid ScheduleSource ScheduleEnvelope ScheduleVerifier
open Foundation.ExceptRun

structure VerifiedSourceProjection extends Stage5eScheduleWindowEvidence where
  brokerSymbol : String
  venueMic : String
  board : String
  sourceContractVersion : String
  selectedSessionType : NormalizedSessionType
  openFrom : Int
  openUntil : Int
  normalizedObservedAt : DateTimeUtc
  stage4ObservedAt : DateTimeUtc
  stage4DynamicSessionFingerprint : List UInt8

inductive Stage8bP1ePreparedScheduleRouteV1 where
  | market (projection : VerifiedSourceProjection)
  | scheduleStep (route : ScheduleStepRoute)
  | dayExpiry (boundaryTsUtcMs : Int)

/-- A candidate on any route; `Stage8bP1eScheduleBindingCandidateV1` is one that takes a schedule step. -/
structure ScheduleBindingCandidate where
  authorityKind : Stage8bP1eScheduleAuthorityKindV1
  envelopeSha256 : HexText
  exactEnvelopeBytes : List UInt8
  operationalIdentitySha256 : HexText
  predecessorM10 : Stage8bP1eM10IdentityV1
  candidateOrLastEligibleM10 : Stage8bP1eM10IdentityV1
  publicationSequence : UInt64
  redisStreamId : String
  requestOrOrderBinding : Stage8bP1eRequestOrOrderBindingV1
  route : Stage8bP1ePreparedScheduleRouteV1
  scheduleSemanticSha256 : HexText
  semanticRevision : UInt64
  sourceGeneration : UInt64
  tradingDay : String
  transitionKind : Stage8bP1eScheduleTransitionKindV1
  validUntil : DateTimeUtc

def ScheduleBindingCandidate.withStep (candidate : ScheduleBindingCandidate) (route : ScheduleStepRoute) :
    Stage8bP1eScheduleBindingCandidateV1 where
  authorityKind := candidate.authorityKind
  envelopeSha256 := candidate.envelopeSha256
  exactEnvelopeBytes := candidate.exactEnvelopeBytes
  operationalIdentitySha256 := candidate.operationalIdentitySha256
  predecessorM10 := candidate.predecessorM10
  candidateOrLastEligibleM10 := candidate.candidateOrLastEligibleM10
  publicationSequence := candidate.publicationSequence
  redisStreamId := candidate.redisStreamId
  requestOrOrderBinding := candidate.requestOrOrderBinding
  route := route
  scheduleSemanticSha256 := candidate.scheduleSemanticSha256
  semanticRevision := candidate.semanticRevision
  sourceGeneration := candidate.sourceGeneration
  tradingDay := candidate.tradingDay
  transitionKind := candidate.transitionKind
  validUntil := candidate.validUntil

def ScheduleBindingCandidate.ofStep (candidate : Stage8bP1eScheduleBindingCandidateV1) : ScheduleBindingCandidate where
  authorityKind := candidate.authorityKind
  envelopeSha256 := candidate.envelopeSha256
  exactEnvelopeBytes := candidate.exactEnvelopeBytes
  operationalIdentitySha256 := candidate.operationalIdentitySha256
  predecessorM10 := candidate.predecessorM10
  candidateOrLastEligibleM10 := candidate.candidateOrLastEligibleM10
  publicationSequence := candidate.publicationSequence
  redisStreamId := candidate.redisStreamId
  requestOrOrderBinding := candidate.requestOrOrderBinding
  route := .scheduleStep candidate.route
  scheduleSemanticSha256 := candidate.scheduleSemanticSha256
  semanticRevision := candidate.semanticRevision
  sourceGeneration := candidate.sourceGeneration
  tradingDay := candidate.tradingDay
  transitionKind := candidate.transitionKind
  validUntil := candidate.validUntil

/-- `decode_lower_hex::<32>`. -/
def decodeDigest (value : HexText) : Except Stage8bP1eScheduleSourceError (List UInt8) := do
  rejectIf (validLowerHex value 64 = false) .payloadConflict
  .ok (decodeHexPairs value)

end TradingGateway.Stage5e.ScheduleRoutes

namespace TradingGateway.Stage5e.ScheduleVerifier.Stage8bP1eAcceptedScheduleSource

open BrokerCore.Orders BrokerCore.Orders.DateTimeUtc Stage6.JournalRecord Stage6.VersionedRecord
open ScheduleGrid ScheduleSource ScheduleEnvelope ScheduleRoutes
open Foundation.ExceptRun

variable {codec : EnvelopeCodec} (source : Stage8bP1eAcceptedScheduleSource codec)

theorem sessions_valid : validateSessions codec.calendar source.envelope.payload.normalizedSchedule.sessions
    source.envelope.payload.tradingDay = .ok () := by
  have sound := source.sound
  unfold validatePayloadSemantics at sound
  obtain ⟨_, sound⟩ := check_bind_ok_iff.1 sound
  obtain ⟨_, sound⟩ := check_bind_ok_iff.1 sound
  obtain ⟨valid, _⟩ := check_bind_ok_iff.1 sound
  exact valid

def steps : Stage8bP1eAcceptedScheduleSourceV1 codec.calendar where
  operationalIdentitySha256 := source.envelope.operationalIdentitySha256
  tradingDay := source.envelope.payload.tradingDay
  sessions := source.envelope.payload.normalizedSchedule.sessions
  evidenceKind := source.envelope.payload.stage4Evidence.evidenceKind
  scheduleState := source.envelope.payload.stage4Evidence.scheduleState
  boundaryProof := source.envelope.payload.stage4Evidence.boundaryProof
  envelopeSha256 := source.envelopeSha256
  exactEnvelopeBytes := source.exactEnvelopeBytes
  publicationSequence := source.highWater.publicationSequence
  scheduleSemanticSha256 := source.highWater.scheduleSemanticSha256
  semanticRevision := source.highWater.semanticRevision
  sourceGeneration := source.highWater.sourceGeneration
  validUntil := source.validUntil
  sessionsValid := source.sessions_valid

/-- `prepare_binding`, for any route. -/
def prepareBinding (transitionKind : Stage8bP1eScheduleTransitionKindV1)
    (authorityKind : Stage8bP1eScheduleAuthorityKindV1) (predecessor candidate : Stage8bP1eM10IdentityV1)
    (binding : Stage8bP1eRequestOrOrderBindingV1) (redisStreamId : String) (route : Stage8bP1ePreparedScheduleRouteV1) :
    Except Stage8bP1eScheduleSourceError ScheduleBindingCandidate := do
  rejectIf (validRedisId redisStreamId.toList = false ∨ validRequestOrOrderBinding transitionKind binding = false)
    .transitionMismatch
  .ok {
    authorityKind := authorityKind
    envelopeSha256 := source.envelopeSha256
    exactEnvelopeBytes := source.exactEnvelopeBytes
    operationalIdentitySha256 := source.envelope.operationalIdentitySha256
    predecessorM10 := predecessor
    candidateOrLastEligibleM10 := candidate
    publicationSequence := source.highWater.publicationSequence
    redisStreamId := redisStreamId
    requestOrOrderBinding := binding
    route := route
    scheduleSemanticSha256 := source.highWater.scheduleSemanticSha256
    semanticRevision := source.highWater.semanticRevision
    sourceGeneration := source.highWater.sourceGeneration
    tradingDay := source.envelope.payload.tradingDay
    transitionKind := transitionKind
    validUntil := source.validUntil }

section Routes

variable (predecessor candidate : Stage8bP1eM10IdentityV1)

def openProjection : Except Stage8bP1eScheduleSourceError VerifiedSourceProjection := do
  validateM10Pair codec.calendar predecessor candidate source.envelope.payload.tradingDay
  let sessions ← source.steps.normalizedSessions
  let selected ← orReject (sessions.find? fun session => session.sessionType = .tradableOpen ∧
    session.Covers candidate.closeTs) .routeDenied
  let fingerprint ← decodeDigest source.envelope.scheduleSemanticSha256
  let day ← parseExactDay codec.calendar source.envelope.payload.tradingDay
  let normalizedObservedAt ← parseExactTimestamp codec.calendar
    source.envelope.payload.normalizedSchedule.sourceObservedAtUtc
  let stage4Fingerprint ← decodeDigest source.envelope.payload.stage4Evidence.reportSha256
  .ok {
    instrument := instrumentId
    tradingDay := day
    effectiveObservedAt := latest normalizedObservedAt source.stage4ObservedAt
    expiresAt := source.validUntil
    fingerprint := fingerprint
    normalizedSessions := sessions
    normalizedSessionsFingerprint := fingerprint
    normalizedSnapshotIdentityFingerprint := fingerprint
    brokerSymbol := "IMOEXF@RTSX"
    venueMic := "RTSX"
    board := "FUT"
    sourceContractVersion := producerContract
    selectedSessionType := selected.sessionType
    openFrom := selected.start
    openUntil := selected.finish
    normalizedObservedAt := normalizedObservedAt
    stage4ObservedAt := source.stage4ObservedAt
    stage4DynamicSessionFingerprint := stage4Fingerprint }

def prepareMarketWith (strategyRequestId : String) (canonicalCommandSha256 : HexText)
    (publicationSeal : Option (UInt64 × HexText)) (redisStreamId : String) :
    Except Stage8bP1eScheduleSourceError ScheduleBindingCandidate := do
  source.steps.requireOpenRoute
  let projection ← source.openProjection predecessor candidate
  source.prepareBinding .marketExecution .market predecessor candidate {
      strategyRequestId := some strategyRequestId
      canonicalCommandSha256 := some canonicalCommandSha256
      activeBrokerOrderId := none
      workingBookTransitionSha256 := none
      publicationSealGeneration := publicationSeal.map Prod.fst
      publicationSealCommitmentSha256 := publicationSeal.map Prod.snd }
    redisStreamId (.market projection)

def prepareMarketBinding (strategyRequestId : String) (canonicalCommandSha256 : HexText) (redisStreamId : String) :
    Except Stage8bP1eScheduleSourceError ScheduleBindingCandidate :=
  source.prepareMarketWith predecessor candidate strategyRequestId canonicalCommandSha256 none redisStreamId

def preparePublishedMarketBinding (strategyRequestId : String) (canonicalCommandSha256 : HexText)
    (publicationSeal : UInt64 × HexText) (redisStreamId : String) :
    Except Stage8bP1eScheduleSourceError ScheduleBindingCandidate :=
  source.prepareMarketWith predecessor candidate strategyRequestId canonicalCommandSha256 (some publicationSeal)
    redisStreamId

def prepareGeneratedMarketBinding (strategyRequestId : String) (canonicalCommandSha256 : HexText)
    (publicationSeal : UInt64 × HexText) (redisStreamId : String) :
    Except Stage8bP1eScheduleSourceError ScheduleBindingCandidate :=
  source.preparePublishedMarketBinding predecessor candidate strategyRequestId canonicalCommandSha256 publicationSeal
    redisStreamId

def prepareWorkingLimitBinding (activeBrokerOrderId : String) (workingBookTransitionSha256 : HexText)
    (redisStreamId : String) : Except Stage8bP1eScheduleSourceError ScheduleBindingCandidate :=
  .ofStep <$> source.steps.prepareWorkingLimitBinding predecessor candidate activeBrokerOrderId
    workingBookTransitionSha256 redisStreamId

def prepareInitialLimitBinding (strategyRequestId : String) (canonicalCommandSha256 : HexText)
    (publicationSeal : UInt64 × HexText) (redisStreamId : String) :
    Except Stage8bP1eScheduleSourceError ScheduleBindingCandidate :=
  .ofStep <$> source.steps.prepareInitialLimitBinding predecessor candidate strategyRequestId canonicalCommandSha256
    publicationSeal redisStreamId

def prepareCancelBinding (strategyRequestId : String) (canonicalCommandSha256 : HexText)
    (publicationSeal : UInt64 × HexText) (activeBrokerOrderId : String) (workingBookTransitionSha256 : HexText)
    (redisStreamId : String) : Except Stage8bP1eScheduleSourceError ScheduleBindingCandidate :=
  .ofStep <$> source.steps.prepareCancelBinding predecessor candidate strategyRequestId canonicalCommandSha256
    publicationSeal activeBrokerOrderId workingBookTransitionSha256 redisStreamId

def prepareDayExpiryBinding (lastEvaluated : Stage8bP1eM10IdentityV1) (trustedNow : DateTimeUtc)
    (activeBrokerOrderId : String) (workingBookTransitionSha256 : HexText) (redisStreamId : String) :
    Except Stage8bP1eScheduleSourceError ScheduleBindingCandidate := do
  let evidence := source.envelope.payload.stage4Evidence
  rejectIf (evidence.evidenceKind ≠ .dayBoundary ∨ evidence.scheduleState ≠ .closed) .routeDenied
  let proof ← orReject evidence.boundaryProof .payloadConflict
  let boundary ← parseExactTimestamp codec.calendar proof.boundaryTsUtc
  let lastOpen ← parseExactTimestamp codec.calendar proof.lastEligibleM10OpenTsUtc
  let lastClose ← parseExactTimestamp codec.calendar proof.lastEligibleM10CloseTsUtc
  rejectIf (boundary.After trustedNow ∨ trustedNow.After source.validUntil) .transitionMismatch
  rejectIf (proof.tradingDay ≠ source.envelope.payload.tradingDay ∨
    lastEvaluated.openTsUtcMs ≠ codec.calendar.timestampMillis lastOpen ∨
    lastEvaluated.closeTsUtcMs ≠ codec.calendar.timestampMillis lastClose ∨
    lastEvaluated.redisId ≠ toString (codec.calendar.timestampMillis lastClose) ++ "-0") .transitionMismatch
  let lastEligible ← source.steps.lastEligibleM10RedisId
  rejectIf (lastEligible ≠ lastEvaluated.redisId) .transitionMismatch
  validateM10Pair codec.calendar predecessor lastEvaluated source.envelope.payload.tradingDay
  source.prepareBinding .dayExpiry .dayExpiry predecessor lastEvaluated {
      strategyRequestId := none
      canonicalCommandSha256 := none
      activeBrokerOrderId := some activeBrokerOrderId
      workingBookTransitionSha256 := some workingBookTransitionSha256
      publicationSealGeneration := none
      publicationSealCommitmentSha256 := none }
    redisStreamId (.dayExpiry (codec.calendar.timestampMillis boundary))

end Routes

/-- A candidate that one of the routes has prepared, and the instant it was prepared at where the route asks for one. -/
inductive Prepares : Option DateTimeUtc → ScheduleBindingCandidate → Prop where
  | market {predecessor bar : Stage8bP1eM10IdentityV1} {requestId : String} {commandSha256 : HexText}
      {redisStreamId : String} {candidate : ScheduleBindingCandidate} :
      source.prepareMarketBinding predecessor bar requestId commandSha256 redisStreamId = .ok candidate →
      Prepares none candidate
  | publishedMarket {predecessor bar : Stage8bP1eM10IdentityV1} {requestId : String} {commandSha256 : HexText}
      {publicationSeal : UInt64 × HexText} {redisStreamId : String} {candidate : ScheduleBindingCandidate} :
      source.preparePublishedMarketBinding predecessor bar requestId commandSha256 publicationSeal redisStreamId = .ok candidate →
      Prepares none candidate
  | generatedMarket {predecessor bar : Stage8bP1eM10IdentityV1} {requestId : String} {commandSha256 : HexText}
      {publicationSeal : UInt64 × HexText} {redisStreamId : String} {candidate : ScheduleBindingCandidate} :
      source.prepareGeneratedMarketBinding predecessor bar requestId commandSha256 publicationSeal redisStreamId = .ok candidate →
      Prepares none candidate
  | workingLimit {predecessor bar : Stage8bP1eM10IdentityV1} {orderId : String} {transitionSha256 : HexText}
      {redisStreamId : String} {candidate : ScheduleBindingCandidate} :
      source.prepareWorkingLimitBinding predecessor bar orderId transitionSha256 redisStreamId = .ok candidate →
      Prepares none candidate
  | initialLimit {predecessor bar : Stage8bP1eM10IdentityV1} {requestId : String} {commandSha256 : HexText}
      {publicationSeal : UInt64 × HexText} {redisStreamId : String} {candidate : ScheduleBindingCandidate} :
      source.prepareInitialLimitBinding predecessor bar requestId commandSha256 publicationSeal redisStreamId = .ok candidate →
      Prepares none candidate
  | cancel {predecessor bar : Stage8bP1eM10IdentityV1} {requestId : String} {commandSha256 : HexText}
      {publicationSeal : UInt64 × HexText} {orderId : String} {transitionSha256 : HexText} {redisStreamId : String}
      {candidate : ScheduleBindingCandidate} :
      source.prepareCancelBinding predecessor bar requestId commandSha256 publicationSeal orderId transitionSha256
        redisStreamId = .ok candidate →
      Prepares none candidate
  | dayExpiry {predecessor bar : Stage8bP1eM10IdentityV1} {trustedNow : DateTimeUtc} {orderId : String}
      {transitionSha256 : HexText} {redisStreamId : String} {candidate : ScheduleBindingCandidate} :
      source.prepareDayExpiryBinding predecessor bar trustedNow orderId transitionSha256 redisStreamId = .ok candidate →
      Prepares (some trustedNow) candidate

end TradingGateway.Stage5e.ScheduleVerifier.Stage8bP1eAcceptedScheduleSource
