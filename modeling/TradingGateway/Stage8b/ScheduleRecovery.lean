import TradingGateway.Stage5e.ScheduleRoutes
import TradingGateway.Stage8b.ScheduleBindings

/-! How a schedule binding is rebuilt from its journal record: the envelope is verified
again at the recorded instant, and the route prepared again. -/

set_option autoImplicit false

namespace TradingGateway.Stage8b.ScheduleRecovery

open BrokerCore.Orders
open Stage5e.ScheduleSource Stage5e.ScheduleEnvelope Stage5e.ScheduleVerifier Stage5e.ScheduleRoutes
open Stage6.JournalRecord Stage6.ReconciliationV2 Stage6.VersionedRecord ScheduleBindings
open Foundation.Bytes Foundation.ExceptRun

structure RecoveryCodec extends BindingCodec where
  envelopeJson : EnvelopeJson

def RecoveryCodec.envelopes (codec : RecoveryCodec) : EnvelopeCodec :=
  { codec.envelopeJson with
    calendar := codec.toBindingCodec.calendar
    sha256 := codec.sha256 }

/-- The record takes all of a candidate but its route. -/
def routeless : ScheduleStepRoute where
  initialOnly := false
  cancelOnly := false
  lastEligibleM10RedisId := ""

section Recovery

variable (codec : RecoveryCodec)

/-- `Stage6JournalRecordV4::from_stage8b_p1e_candidate`, for a candidate on any route. -/
def fromCandidate (candidate : ScheduleBindingCandidate) (lifecycleSequence : Stage6LifecycleSequence)
    (previousRecordId : Stage6JournalRecordId) (priorCoveringSealGeneration : UInt64) (boundAtUtc : DateTimeUtc) :
    Except Stage6ReconciliationV2Error (Stage6JournalRecordV4 codec.toReconciliationCodec) :=
  fromStage8bP1eCandidate codec.toBindingCodec (candidate.withStep routeless) lifecycleSequence previousRecordId
    priorCoveringSealGeneration boundAtUtc

/-- `to_p1e_identity`. The texts of a validated record can be read. -/
def toP1eIdentity (value : Stage6ScheduleM10IdentityV4) :
    Except Stage8bP1eScheduleSourceError Stage8bP1eM10IdentityV1 := do
  let closed ← (parseExactTimestampV4 codec.toReconciliationCodec value.closeTsUtc).mapError fun _ => .transitionMismatch
  let opened ← (parseExactTimestampV4 codec.toReconciliationCodec value.openTsUtc).mapError fun _ => .transitionMismatch
  .ok {
    closeTsUtcMs := codec.chrono.timestampMillis closed
    openTsUtcMs := codec.chrono.timestampMillis opened
    payloadSha256 := value.payloadSha256
    redisId := value.redisId
    semanticIdSha256 := value.semanticIdSha256 }

/-- `matches_stage8b_p1e_candidate`. -/
def matchesCandidate (record : Stage6JournalRecordV4 codec.toReconciliationCodec)
    (candidate : ScheduleBindingCandidate) : Bool :=
  match scheduleM10 codec.toBindingCodec candidate.predecessorM10,
      scheduleM10 codec.toBindingCodec candidate.candidateOrLastEligibleM10 with
  | .ok predecessor, .ok current =>
      record.operationalIdentitySha256 = candidate.operationalIdentitySha256 &&
        record.transitionKind = candidate.transitionKind && record.authorityKind = candidate.authorityKind &&
        record.tradingDay = candidate.tradingDay && record.predecessorM10 == predecessor &&
        record.candidateOrLastEligibleM10 == current &&
        record.requestOrOrderBinding == candidate.requestOrOrderBinding &&
        record.redisStreamId = candidate.redisStreamId &&
        record.sourceGeneration = toString candidate.sourceGeneration.toNat &&
        record.publicationSequence = toString candidate.publicationSequence.toNat &&
        record.semanticRevision = toString candidate.semanticRevision.toNat &&
        record.scheduleSemanticSha256 = candidate.scheduleSemanticSha256 &&
        record.exactEnvelopeHex = hexString candidate.exactEnvelopeBytes &&
        record.envelopeSha256 = candidate.envelopeSha256
  | _, _ => false

def prepareAgain (source : Stage8bP1eAcceptedScheduleSource codec.envelopes)
    (record : Stage6JournalRecordV4 codec.toReconciliationCodec) (predecessor bar : Stage8bP1eM10IdentityV1)
    (boundAt : DateTimeUtc) : Except Stage8bP1eScheduleSourceError ScheduleBindingCandidate := do
  let binding := record.requestOrOrderBinding
  match record.transitionKind with
  | .marketExecution =>
      let requestId ← orReject binding.strategyRequestId .transitionMismatch
      let commandSha256 ← orReject binding.canonicalCommandSha256 .transitionMismatch
      match binding.publicationSealGeneration, binding.publicationSealCommitmentSha256 with
      | none, none => source.prepareMarketBinding predecessor bar requestId commandSha256 record.redisStreamId
      | some generation, some commitment =>
          source.prepareGeneratedMarketBinding predecessor bar requestId commandSha256 (generation, commitment)
            record.redisStreamId
      | _, _ => .error .transitionMismatch
  | .initialLimitEvaluation =>
      let requestId ← orReject binding.strategyRequestId .transitionMismatch
      let commandSha256 ← orReject binding.canonicalCommandSha256 .transitionMismatch
      let generation ← orReject binding.publicationSealGeneration .transitionMismatch
      let commitment ← orReject binding.publicationSealCommitmentSha256 .transitionMismatch
      source.prepareInitialLimitBinding predecessor bar requestId commandSha256 (generation, commitment)
        record.redisStreamId
  | .workingLimitEvaluation =>
      let orderId ← orReject binding.activeBrokerOrderId .transitionMismatch
      let transitionSha256 ← orReject binding.workingBookTransitionSha256 .transitionMismatch
      source.prepareWorkingLimitBinding predecessor bar orderId transitionSha256 record.redisStreamId
  | .cancelStep =>
      let requestId ← orReject binding.strategyRequestId .transitionMismatch
      let commandSha256 ← orReject binding.canonicalCommandSha256 .transitionMismatch
      let generation ← orReject binding.publicationSealGeneration .transitionMismatch
      let commitment ← orReject binding.publicationSealCommitmentSha256 .transitionMismatch
      let orderId ← orReject binding.activeBrokerOrderId .transitionMismatch
      let transitionSha256 ← orReject binding.workingBookTransitionSha256 .transitionMismatch
      source.prepareCancelBinding predecessor bar requestId commandSha256 (generation, commitment) orderId
        transitionSha256 record.redisStreamId
  | .dayExpiry =>
      let orderId ← orReject binding.activeBrokerOrderId .transitionMismatch
      let transitionSha256 ← orReject binding.workingBookTransitionSha256 .transitionMismatch
      source.prepareDayExpiryBinding predecessor bar boundAt orderId transitionSha256 record.redisStreamId

/-- The context the recorded envelope is verified in again: the record's own identity and instant, the
registry and the high water of the envelope itself. -/
def recoveryContext (envelope : Stage8bP1eScheduleEnvelopeV3) (highWater : Stage8bP1eScheduleHighWaterV1)
    (operationalIdentitySha256 runtimeConfigSha256 instrumentMapSha256 : HexText) (boundAt : DateTimeUtc) :
    Stage8bP1eScheduleVerificationContextV1 where
  expectedInstrumentMapFingerprintSha256 := instrumentMapSha256
  expectedOperationalIdentitySha256 := operationalIdentitySha256
  expectedRegistryIdentitySha256 := envelope.payload.registry.registryIdentitySha256
  expectedRegistryVersion := envelope.payload.registry.registryVersion
  expectedRuntimeConfigFingerprintSha256 := runtimeConfigSha256
  highWater := some highWater
  trustedNow := boundAt

/-- `recover_stage8b_p1e_schedule_binding_material_v4_with_key`. -/
def recoverBindingMaterial (anchor : TrustAnchor) (record : Stage6JournalRecordV4 codec.toReconciliationCodec)
    (runtimeConfigSha256 instrumentMapSha256 : HexText) :
    Except Stage8bP1eScheduleSourceError (ScheduleBindingCandidate × Stage8bP1eScheduleHighWaterV1) := do
  let exact ← (decodeLowerHexV4 record.exactEnvelopeHex).mapError fun _ => .transitionMismatch
  let envelope ← orReject (codec.envelopes.envelopeFromSlice exact) .nonCanonicalEnvelope
  let highWater ← highWaterFromEnvelope codec.envelopes envelope (sha256Hex codec.envelopes exact)
  let boundAt ← (parseExactTimestampV4 codec.toReconciliationCodec record.boundAtUtc).mapError
    fun _ => .transitionMismatch
  let accepted ← verifyEnvelope codec.envelopes anchor exact (recoveryContext envelope highWater
    record.operationalIdentitySha256 runtimeConfigSha256 instrumentMapSha256 boundAt)
  let predecessor ← toP1eIdentity codec record.predecessorM10
  let bar ← toP1eIdentity codec record.candidateOrLastEligibleM10
  let candidate ← prepareAgain codec accepted record predecessor bar boundAt
  rejectIf (matchesCandidate codec record candidate = false) .transitionMismatch
  .ok (candidate, highWater)

def recoverScheduleBindingCandidateV4 (record : Stage6JournalRecordV4 codec.toReconciliationCodec)
    (runtimeConfigSha256 instrumentMapSha256 : HexText) :
    Except Stage8bP1eScheduleSourceError ScheduleBindingCandidate := do
  let anchor ← pinnedAnchor codec.envelopes
  let material ← recoverBindingMaterial codec anchor record runtimeConfigSha256 instrumentMapSha256
  .ok material.1

def recoverScheduleHighWaterV4 (record : Stage6JournalRecordV4 codec.toReconciliationCodec)
    (runtimeConfigSha256 instrumentMapSha256 : HexText) :
    Except Stage8bP1eScheduleSourceError Stage8bP1eScheduleHighWaterV1 := do
  let anchor ← pinnedAnchor codec.envelopes
  let material ← recoverBindingMaterial codec anchor record runtimeConfigSha256 instrumentMapSha256
  .ok material.2

end Recovery

end TradingGateway.Stage8b.ScheduleRecovery
