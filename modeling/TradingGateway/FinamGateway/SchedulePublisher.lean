import TradingGateway.Stage8b.ScheduleWindow

/-! The publisher of signed schedules: what it prepares, what it keeps durably, and the
rows it appends to the stream. -/

set_option autoImplicit false

namespace TradingGateway.FinamGateway.SchedulePublisher

open BrokerCore.Orders
open Stage5e.ScheduleEnvelope Stage5e.ScheduleVerifier
open Stage6.JournalRecord Stage6.VersionedRecord Stage8b.WorkingLimitEvidence
open Foundation.Bytes Foundation.ExceptRun

inductive Stage8bP1eSchedulePublisherError where
  | invalidInput
  | signingAuthorityMismatch
  | durableStateConflict
  | signingFailed
deriving DecidableEq

structure Stage8bP1eSchedulePublisherInputV1 where
  payload : Stage8bP1eSchedulePayloadV2
  operationalIdentitySha256 : HexText
  runtimeConfigFingerprintSha256 : HexText
  instrumentMapFingerprintSha256 : HexText
  publishedAtUtc : DateTimeUtc

structure Stage8bP1eScheduleSigner where
  publicKeyEd25519Hex : HexText
  signRawPrehash : List UInt8 → Except Stage8bP1eSchedulePublisherError (List UInt8)

inductive Stage8bP1eSchedulePublisherPhaseV1 where
  | prepared
  | published
deriving DecidableEq

structure Stage8bP1eSchedulePublisherStateV1 where
  schemaVersion : UInt16
  domain : String
  phase : Stage8bP1eSchedulePublisherPhaseV1
  sourceGeneration : String
  publicationSequence : String
  semanticRevision : String
  scheduleSemanticSha256 : HexText
  publishedAtUtc : String
  envelopeSha256 : HexText
  exactEnvelopeHex : HexText
  redisStreamId : Option String

def stateDomain : String := "moex.stage8b.p1e.schedule-publisher-state.v1"

def decodeLowerHex (value : HexText) : Except Stage8bP1eSchedulePublisherError (List UInt8) := do
  rejectIf (value = [] ∨ value.length % 2 ≠ 0 ∨ value.all isLowerHex = false) .durableStateConflict
  .ok (decodeHexPairs value)

namespace Stage8bP1eSchedulePublisherStateV1

section Validation

variable (codec : EnvelopeCodec) (state : Stage8bP1eSchedulePublisherStateV1)

def exactEnvelopeBytes : Except Stage8bP1eSchedulePublisherError (List UInt8) :=
  decodeLowerHex state.exactEnvelopeHex

/-- A prepared state has no row yet, a published one names its row. -/
def phaseMismatch : Bool :=
  match state.phase, state.redisStreamId with
  | .prepared, redisStreamId => redisStreamId.isSome
  | .published, some value => !validRedisId value.toList
  | .published, none => true

/-- The state and the envelope it holds name the same publication. -/
def Agrees (exact : List UInt8) (parsed : Stage8bP1eScheduleEnvelopeV3) : Prop :=
  state.schemaVersion = 1 ∧ state.domain = stateDomain ∧ state.sourceGeneration = "1" ∧ parsed.schemaVersion = 3 ∧
    parsed.domain = envelopeDomain ∧ parsed.producerId = producerId ∧
    parsed.producerContractVersion = producerContract ∧ parsed.semanticIdentityContractVersion = 1 ∧
    parsed.keyId = keyId ∧ parsed.keyGeneration = 2 ∧ validNonzeroDecimal state.publicationSequence = true ∧
    validNonzeroDecimal state.semanticRevision = true ∧ isCanonicalSha256 state.scheduleSemanticSha256 = true ∧
    isCanonicalSha256 state.envelopeSha256 = true ∧ codec.envelopeToVec parsed = exact ∧
    sha256Hex codec exact = state.envelopeSha256 ∧ parsed.sourceGeneration = state.sourceGeneration ∧
    parsed.publicationSequence = state.publicationSequence ∧ parsed.semanticRevision = state.semanticRevision ∧
    parsed.scheduleSemanticSha256 = state.scheduleSemanticSha256 ∧ parsed.publishedAtUtc = state.publishedAtUtc ∧
    state.phaseMismatch = false

instance (exact : List UInt8) (parsed : Stage8bP1eScheduleEnvelopeV3) : Decidable (state.Agrees codec exact parsed) :=
  inferInstanceAs (Decidable (_ ∧ _))

def validateStructuralState :
    Except Stage8bP1eSchedulePublisherError (List UInt8 × Stage8bP1eScheduleVerificationContextV1) := do
  let exact ← state.exactEnvelopeBytes
  let parsed ← orReject (codec.envelopeFromSlice exact) .durableStateConflict
  rejectIf (¬ state.Agrees codec exact parsed) .durableStateConflict
  let publishedAt ← orReject (codec.calendar.parseFromRfc3339 parsed.publishedAtUtc) .durableStateConflict
  .ok (exact, {
    expectedInstrumentMapFingerprintSha256 := parsed.instrumentMapFingerprintSha256
    expectedOperationalIdentitySha256 := parsed.operationalIdentitySha256
    expectedRegistryIdentitySha256 := parsed.payload.registry.registryIdentitySha256
    expectedRegistryVersion := parsed.payload.registry.registryVersion
    expectedRuntimeConfigFingerprintSha256 := parsed.runtimeConfigFingerprintSha256
    highWater := none
    trustedNow := publishedAt })

def validate : Except Stage8bP1eSchedulePublisherError Unit := do
  let (exact, context) ← state.validateStructuralState codec
  let _ ← (authenticateStage8bP1eScheduleObservationV3 codec exact context).mapError fun _ => .durableStateConflict
  .ok ()

end Validation

end Stage8bP1eSchedulePublisherStateV1

inductive Stage8bP1eSchedulePublisherLineage where
  | first
  | resume (prior : Stage8bP1eSchedulePublisherStateV1)

section Prepare

variable (codec : EnvelopeCodec)

def resumePublication (prior : Stage8bP1eSchedulePublisherStateV1) (publishedAtUtc : DateTimeUtc)
    (semanticHash : HexText) : Except Stage8bP1eSchedulePublisherError (UInt64 × UInt64) := do
  prior.validate codec
  rejectIf (prior.phase ≠ .published) .durableStateConflict
  let priorPublishedAt ← orReject (codec.calendar.parseFromRfc3339 prior.publishedAtUtc) .durableStateConflict
  rejectIf (¬ publishedAtUtc.After priorPublishedAt) .durableStateConflict
  -- The numbers of a validated state can be read.
  let sequence ← orReject (parseU64 prior.publicationSequence) .durableStateConflict
  let revision ← orReject (parseU64 prior.semanticRevision) .durableStateConflict
  let nextSequence ← orReject (checkedAdd sequence 1) .durableStateConflict
  if prior.scheduleSemanticSha256 = semanticHash then .ok (nextSequence, revision)
  else do
    let nextRevision ← orReject (checkedAdd revision 1) .durableStateConflict
    .ok (nextSequence, nextRevision)

def publicationNumbers (lineage : Stage8bP1eSchedulePublisherLineage) (publishedAtUtc : DateTimeUtc)
    (semanticHash : HexText) : Except Stage8bP1eSchedulePublisherError (UInt64 × UInt64) :=
  match lineage with
  | .first => .ok (1, 1)
  | .resume prior => resumePublication codec prior publishedAtUtc semanticHash

def unsignedEnvelope (input : Stage8bP1eSchedulePublisherInputV1) (publicationSequence semanticRevision : UInt64) :
    Stage8bP1eScheduleEnvelopeV3 where
  domain := envelopeDomain
  instrumentMapFingerprintSha256 := input.instrumentMapFingerprintSha256
  keyGeneration := 2
  keyId := keyId
  operationalIdentitySha256 := input.operationalIdentitySha256
  payload := input.payload
  payloadSha256 := payloadSha256 codec input.payload
  producerContractVersion := producerContract
  producerId := producerId
  publicationSequence := toString publicationSequence.toNat
  publishedAtUtc := codec.calendar.toRfc3339Micros input.publishedAtUtc
  runtimeConfigFingerprintSha256 := input.runtimeConfigFingerprintSha256
  scheduleSemanticSha256 := semanticSha256 codec (semanticIdentityOf input.payload)
  schemaVersion := 3
  semanticIdentity := semanticIdentityOf input.payload
  semanticIdentityContractVersion := 1
  semanticRevision := toString semanticRevision.toNat
  signatureEd25519Hex := []
  sourceGeneration := "1"

def preparedState (envelope : Stage8bP1eScheduleEnvelopeV3) : Stage8bP1eSchedulePublisherStateV1 where
  schemaVersion := 1
  domain := stateDomain
  phase := .prepared
  sourceGeneration := "1"
  publicationSequence := envelope.publicationSequence
  semanticRevision := envelope.semanticRevision
  scheduleSemanticSha256 := envelope.scheduleSemanticSha256
  publishedAtUtc := envelope.publishedAtUtc
  envelopeSha256 := sha256Hex codec (codec.envelopeToVec envelope)
  exactEnvelopeHex := hexString (codec.envelopeToVec envelope)
  redisStreamId := none

def prepareStage8bP1eSchedulePublication (input : Stage8bP1eSchedulePublisherInputV1)
    (lineage : Stage8bP1eSchedulePublisherLineage) (signer : Stage8bP1eScheduleSigner) :
    Except Stage8bP1eSchedulePublisherError Stage8bP1eSchedulePublisherStateV1 := do
  rejectIf (signer.publicKeyEd25519Hex ≠ schedulePublicKeyEd25519Hex ∨
    isCanonicalSha256 input.operationalIdentitySha256 = false ∨
    isCanonicalSha256 input.runtimeConfigFingerprintSha256 = false ∨
    isCanonicalSha256 input.instrumentMapFingerprintSha256 = false) .signingAuthorityMismatch
  let numbers ← publicationNumbers codec lineage input.publishedAtUtc
    (semanticSha256 codec (semanticIdentityOf input.payload))
  let unsigned := unsignedEnvelope codec input numbers.1 numbers.2
  let digest ← decodeLowerHex (unsignedSignatureSha256 codec unsigned)
  let signature ← (signer.signRawPrehash digest).mapError fun _ => .signingFailed
  rejectIf (codec.ed25519Verify (decodeHexPairs schedulePublicKeyEd25519Hex) digest signature = false)
    .signingAuthorityMismatch
  let state := preparedState codec { unsigned with signatureEd25519Hex := hexString signature }
  state.validate codec
  .ok state

end Prepare

inductive PublicationEnd where
  | stopsBeforeRow
  | stopsBehindRow
  | answers (redisId : String)

structure Publisher where
  durable : Option Stage8bP1eSchedulePublisherStateV1
  rows : List (List UInt8)

section Publish

variable (codec : EnvelopeCodec)

/-- `publish_stage8b_p1e_prepared_schedule`, up to where it stops. Prepared is durable before the row is
appended; an answer that is not an id, like a lost one, leaves it at that. -/
def publishPrepared (publisher : Publisher) (prepared : Stage8bP1eSchedulePublisherStateV1) (finish : PublicationEnd) :
    Except Stage8bP1eSchedulePublisherError Publisher := do
  rejectIf (prepared.phase ≠ .prepared) .durableStateConflict
  prepared.validate codec
  let payload ← prepared.exactEnvelopeBytes
  match finish with
  | .stopsBeforeRow => .ok { publisher with durable := some prepared }
  | .stopsBehindRow => .ok { durable := some prepared, rows := payload :: publisher.rows }
  | .answers redisId =>
      let published := { prepared with phase := .published, redisStreamId := some redisId }
      if validRedisId redisId.toList = true ∧ published.validate codec = .ok () then
        .ok { durable := some published, rows := payload :: publisher.rows }
      else .ok { durable := some prepared, rows := payload :: publisher.rows }

end Publish

inductive PublisherEvent where
  | publish (input : Stage8bP1eSchedulePublisherInputV1) (finish : PublicationEnd)
  | republish (finish : PublicationEnd)

section Runs

variable (codec : EnvelopeCodec) (signer : Stage8bP1eScheduleSigner)

def Publisher.lineage (publisher : Publisher) : Stage8bP1eSchedulePublisherLineage :=
  match publisher.durable with
  | none => .first
  | some prior => .resume prior

def Publisher.step (publisher : Publisher) : PublisherEvent → Except Stage8bP1eSchedulePublisherError Publisher
  | .publish input finish => do
      let prepared ← prepareStage8bP1eSchedulePublication codec input publisher.lineage signer
      publishPrepared codec publisher prepared finish
  | .republish finish => do
      let prepared ← orReject publisher.durable .durableStateConflict
      publishPrepared codec publisher prepared finish

def Publisher.advance (publisher : Publisher) (event : PublisherEvent) : Publisher :=
  match publisher.step codec signer event with
  | .ok next => next
  | .error _ => publisher

def Publisher.initial : Publisher where
  durable := none
  rows := []

end Runs

end TradingGateway.FinamGateway.SchedulePublisher
