import TradingGateway.Stage5e.ScheduleEnvelope

/-! The verifier of signed schedule envelopes: as fresh evidence at an instant, and as
a retained observation. -/

set_option autoImplicit false

namespace TradingGateway.Stage5e.ScheduleVerifier

open BrokerCore.Orders BrokerCore.Orders.DateTimeUtc Stage6.JournalRecord Stage6.VersionedRecord
open ScheduleSource ScheduleEnvelope
open Foundation.Bytes Foundation.ExceptRun

/-- The canonical JSON of envelopes and of their parts, and the signature scheme. The unsigned form
leaves out the signature. -/
structure EnvelopeJson where
  envelopeToVec : Stage8bP1eScheduleEnvelopeV3 → List UInt8
  envelopeFromSlice : List UInt8 → Option Stage8bP1eScheduleEnvelopeV3
  unsignedToVec : Stage8bP1eScheduleEnvelopeV3 → List UInt8
  sessionsToVec : List Stage8bP1eScheduleSessionV1 → List UInt8
  payloadToVec : Stage8bP1eSchedulePayloadV2 → List UInt8
  semanticIdentityToVec : Stage8bP1eScheduleSemanticIdentityV1 → List UInt8
  reportToVec : Stage4BootstrapEvidenceReport → List UInt8
  reportFromSlice : List UInt8 → Option Stage4BootstrapEvidenceReport
  ed25519Verify : List UInt8 → List UInt8 → List UInt8 → Bool

structure EnvelopeCodec extends EnvelopeJson where
  calendar : SourceCalendar
  sha256 : List UInt8 → Sha256Output

structure TrustAnchor where
  publicKeyEd25519Hex : HexText
  validFrom : DateTimeUtc
  validUntil : DateTimeUtc

def validLowerHex (value : HexText) (exactLen : Nat) : Bool :=
  value.length = exactLen && value.all isLowerHex

def decodeHexVec (value : HexText) : Except Stage8bP1eScheduleSourceError (List UInt8) := do
  rejectIf (value = [] ∨ value.length % 2 ≠ 0 ∨ value.all isLowerHex = false) .payloadConflict
  .ok (decodeHexPairs value)

def validNonzeroDecimal (value : String) : Bool :=
  (parseNonzeroDecimal value.toList).isOk

/-- `str::parse::<u64>`: digits behind an optional plus sign. -/
def parseU64 (value : String) : Option UInt64 :=
  let digits : List Char := match value.toList with
    | '+' :: rest => rest
    | rest => rest
  let number := digits.foldl (fun total digit => total * 10 + (digit.toNat - '0'.toNat)) 0
  if digits ≠ [] ∧ digits.all Char.isDigit = true ∧ number < 2 ^ 64 then some (UInt64.ofNat number) else none

def expectedInstrument : Stage8bP1eScheduleInstrumentV1 where
  board := "FUT"
  brokerSymbol := "IMOEXF@RTSX"
  exchange := "moex"
  market := "futures"
  symbol := "IMOEXF"
  tickSize := "0.5"
  venueMic := "RTSX"

def instrumentId : InstrumentId where
  symbol := "IMOEXF"
  venueSymbol := some "IMOEXF@RTSX"
  exchange := .moex
  market := .futures

def validRegistryVersion (value : String) : Bool :=
  value ≠ "" && value.utf8ByteSize ≤ 128 &&
    value.toList.all fun character => character.isAlphanum || character ∈ ['.', '_', '-']

section Parts

variable (codec : EnvelopeCodec)

def sha256Hex (bytes : List UInt8) : HexText :=
  (codec.sha256 bytes).hex

def domainSha256 (domain : String) (bytes : List UInt8) : HexText :=
  sha256Hex codec (domain.toUTF8.toList ++ 0 :: bytes)

def semanticSha256 (identity : Stage8bP1eScheduleSemanticIdentityV1) : HexText :=
  domainSha256 codec semanticHashDomain (codec.semanticIdentityToVec identity)

def payloadSha256 (payload : Stage8bP1eSchedulePayloadV2) : HexText :=
  sha256Hex codec (codec.payloadToVec payload)

def unsignedSignatureSha256 (envelope : Stage8bP1eScheduleEnvelopeV3) : HexText :=
  domainSha256 codec signatureDomain (codec.unsignedToVec envelope)

def validateEnvelopeConstants (envelope : Stage8bP1eScheduleEnvelopeV3) : Except Stage8bP1eScheduleSourceError Unit :=
  rejectIf (envelope.schemaVersion ≠ 3 ∨ envelope.domain ≠ envelopeDomain ∨ envelope.producerId ≠ producerId ∨
    envelope.producerContractVersion ≠ producerContract ∨ envelope.semanticIdentityContractVersion ≠ 1 ∨
    envelope.keyId ≠ keyId ∨ envelope.keyGeneration ≠ 2 ∨ validNonzeroDecimal envelope.sourceGeneration = false ∨
    validNonzeroDecimal envelope.publicationSequence = false ∨
    validNonzeroDecimal envelope.semanticRevision = false ∨
    isCanonicalSha256 envelope.scheduleSemanticSha256 = false ∨
    isCanonicalSha256 envelope.operationalIdentitySha256 = false ∨
    isCanonicalSha256 envelope.runtimeConfigFingerprintSha256 = false ∨
    isCanonicalSha256 envelope.instrumentMapFingerprintSha256 = false ∨
    isCanonicalSha256 envelope.payloadSha256 = false ∨ validLowerHex envelope.signatureEd25519Hex 128 = false)
    .untrusted

def validateEmbeddedHashes (envelope : Stage8bP1eScheduleEnvelopeV3) : Except Stage8bP1eScheduleSourceError Unit := do
  let payload := envelope.payload
  let evidence := payload.stage4Evidence
  rejectIf (isCanonicalSha256 payload.normalizedSchedule.normalizedPayloadSha256 = false ∨
    isCanonicalSha256 evidence.reportSha256 = false ∨ evidence.reportCanonicalJsonHex.all isLowerHex = false ∨
    evidence.reportCanonicalJsonHex = [] ∨ 262144 < evidence.reportCanonicalJsonHex.length) .payloadConflict
  let reportBytes ← decodeHexVec evidence.reportCanonicalJsonHex
  rejectIf (sha256Hex codec reportBytes ≠ evidence.reportSha256 ∨
    sha256Hex codec (codec.sessionsToVec payload.normalizedSchedule.sessions) ≠
      payload.normalizedSchedule.normalizedPayloadSha256 ∨
    payloadSha256 codec payload ≠ envelope.payloadSha256) .payloadConflict

def verifySignature (publicKeyHex signatureHex message : HexText) : Except Stage8bP1eScheduleSourceError Unit :=
  rejectIf (validLowerHex publicKeyHex 64 = false ∨ validLowerHex signatureHex 128 = false ∨
    codec.ed25519Verify (decodeHexPairs publicKeyHex) (decodeHexPairs message) (decodeHexPairs signatureHex) = false)
    .untrusted

/-- Strict canonical bytes of an envelope whose constants, hashes and signature hold while the key is trusted. -/
def openEnvelope (anchor : TrustAnchor) (exactEnvelopeBytes : List UInt8) (trustedNow : DateTimeUtc) :
    Except Stage8bP1eScheduleSourceError Stage8bP1eScheduleEnvelopeV3 := do
  let envelope ← orReject (codec.envelopeFromSlice exactEnvelopeBytes) .nonCanonicalEnvelope
  rejectIf (codec.envelopeToVec envelope ≠ exactEnvelopeBytes) .nonCanonicalEnvelope
  validateEnvelopeConstants envelope
  validateEmbeddedHashes codec envelope
  rejectIf (anchor.validFrom.After trustedNow ∨ trustedNow.After anchor.validUntil) .untrusted
  verifySignature codec anchor.publicKeyEd25519Hex envelope.signatureEd25519Hex (unsignedSignatureSha256 codec envelope)
  rejectIf (envelope.sourceGeneration ≠ sourceGenerationText) .progressionConflict
  .ok envelope

structure EvidenceTimes where
  normalizedObserved : DateTimeUtc
  normalizedExpires : DateTimeUtc
  stage4Observed : DateTimeUtc
  stage4Expires : DateTimeUtc

def evidenceTimes (envelope : Stage8bP1eScheduleEnvelopeV3) : Except Stage8bP1eScheduleSourceError EvidenceTimes := do
  let normalizedObserved ← parseExactTimestamp codec.calendar envelope.payload.normalizedSchedule.sourceObservedAtUtc
  let normalizedExpires ← parseExactTimestamp codec.calendar envelope.payload.normalizedSchedule.sourceExpiresAtUtc
  let stage4Observed ← parseExactTimestamp codec.calendar envelope.payload.stage4Evidence.sourceObservedAtUtc
  let stage4Expires ← parseExactTimestamp codec.calendar envelope.payload.stage4Evidence.sourceExpiresAtUtc
  .ok {
    normalizedObserved := normalizedObserved
    normalizedExpires := normalizedExpires
    stage4Observed := stage4Observed
    stage4Expires := stage4Expires }

def EvidenceTimes.Skewed (times : EvidenceTimes) : Prop :=
  crossSourceMaxSkewMs < ((times.normalizedObserved.numMillisecondsSince times.stage4Observed).natAbs : Int)

instance (times : EvidenceTimes) : Decidable times.Skewed :=
  inferInstanceAs (Decidable (_ < _))

def matchesIdentity (envelope : Stage8bP1eScheduleEnvelopeV3) (context : Stage8bP1eScheduleVerificationContextV1) :
    Except Stage8bP1eScheduleSourceError Unit :=
  rejectIf (envelope.operationalIdentitySha256 ≠ context.expectedOperationalIdentitySha256 ∨
    envelope.runtimeConfigFingerprintSha256 ≠ context.expectedRuntimeConfigFingerprintSha256 ∨
    envelope.instrumentMapFingerprintSha256 ≠ context.expectedInstrumentMapFingerprintSha256 ∨
    envelope.payload.registry.registryIdentitySha256 ≠ context.expectedRegistryIdentitySha256 ∨
    envelope.payload.registry.registryVersion ≠ context.expectedRegistryVersion) .identityMismatch

def FreshSection (part : Stage4BootstrapEvidenceSourceSection) (ageMs : Int) : Prop :=
  part.sourceStatus = .present ∧ part.freshnessStatus = .fresh ∧ part.blocksBootstrap = false ∧
    0 ≤ ageMs ∧ ageMs ≤ part.maxAgeMs.toNat

instance (part : Stage4BootstrapEvidenceSourceSection) (ageMs : Int) : Decidable (FreshSection part ageMs) :=
  inferInstanceAs (Decidable (_ ∧ _))

/-- When a required section expires, and the earliest expiry so far. An overflow aborts. -/
def sectionExpiry (checkedTs : DateTimeUtc) (current : Option DateTimeUtc)
    (part : Stage4BootstrapEvidenceSourceSection) : Except Stage8bP1eScheduleSourceError (Option DateTimeUtc) := do
  let ageMs ← orReject part.ageMs .payloadConflict
  rejectIf (¬ FreshSection part ageMs) .payloadConflict
  let remaining := (part.maxAgeMs.toNat : Int) - ageMs
  rejectIf (2 ^ 63 ≤ remaining) .payloadConflict
  let expiry ← orReject (checkedTs.plusMilliseconds remaining) .payloadConflict
  .ok (some (match current with
    | some current => earliest current expiry
    | none => expiry))

def validateReportStatus (report : Stage4BootstrapEvidenceReport) : Except Stage8bP1eScheduleSourceError Unit :=
  rejectIf (report.schemaVersion ≠ stage4BootstrapEvidenceReportSchemaVersion ∨ report.status ≠ .accepted ∨
    report.targetInstrument ≠ instrumentId ∨ report.brokerTruthSourceStatus ≠ .present ∨
    report.stage4cStatus ≠ .bootstrapReady ∨ report.stage4eStatus ≠ .applied ∨ report.stage4fStatus ≠ .accepted ∨
    report.stage4gStatus ≠ .accepted ∨ report.stage4hStatus ≠ .accepted ∨ report.stage4cBlockerKinds ≠ [] ∨
    report.stage4eBlockerKinds ≠ [] ∨ report.stage4fBlockerKinds ≠ [] ∨ report.stage4gBlockerKinds ≠ [] ∨
    report.stage4gLifecycleIssues ≠ [] ∨ report.stage4hBlockerKinds ≠ [] ∨
    report.reasonChain.length ≠ report.blockerCount ∨ report.blockerCount ≠ 0 ∨
    report.manualInterventionRequired = true ∨ report.noLiveAuthorization = false ∨
    report.redaction.reportRedacted = false ∨ report.redaction.rawPayloadsExported = true ∨
    report.redaction.secretsExported = true ∨ report.redaction.accountSensitiveDumpsExported = true ∨
    report.redaction.brokerAccountIdExported = true ∨ report.redaction.rawOrderCommentsExported = true ∨
    report.safetyBoundary ≠ .closed) .payloadConflict

/-- When the schedule was observed, by the report, whose earliest expiry has to be the declared one. -/
def validateStage4Report (envelope : Stage8bP1eScheduleEnvelopeV3) (declaredExpiry : DateTimeUtc) :
    Except Stage8bP1eScheduleSourceError DateTimeUtc := do
  let evidence := envelope.payload.stage4Evidence
  rejectIf (isCanonicalSha256 evidence.reportSha256 = false ∨ evidence.reportCanonicalJsonHex.all isLowerHex = false ∨
    evidence.reportCanonicalJsonHex = [] ∨ 262144 < evidence.reportCanonicalJsonHex.length) .payloadConflict
  let bytes ← decodeHexVec evidence.reportCanonicalJsonHex
  rejectIf (sha256Hex codec bytes ≠ evidence.reportSha256) .payloadConflict
  let report ← orReject (codec.reportFromSlice bytes) .payloadConflict
  rejectIf (codec.reportToVec report ≠ bytes) .payloadConflict
  validateReportStatus report
  rejectIf (report.sourceSections = [] ∨ ¬ (report.sourceSections.map (·.kind)).Nodup ∨
    report.sourceSections.countP (·.kind = .schedule) ≠ 1) .payloadConflict
  let schedule ← orReject (report.sourceSections.find? (·.kind = .schedule)) .payloadConflict
  let ageMs ← orReject schedule.ageMs .payloadConflict
  rejectIf (¬ FreshSection schedule ageMs ∨ schedule.requiredForBootstrap = false) .payloadConflict
  let observed ← orReject (report.checkedTs.plusMilliseconds (-ageMs)) .payloadConflict
  let recomputed ← (report.sourceSections.filter (·.requiredForBootstrap)).foldlM (sectionExpiry report.checkedTs) none
  let recomputedExpiry ← orReject recomputed .payloadConflict
  rejectIf (recomputedExpiry ≠ declaredExpiry) .payloadConflict
  .ok observed

def validateStage4SemanticState (evidence : Stage8bP1eStage4EvidenceV2) (sessions : List Stage8bP1eScheduleSessionV1)
    (tradingDay : String) : Except Stage8bP1eScheduleSourceError Unit :=
  match evidence.evidenceKind, evidence.scheduleState, evidence.boundaryProof with
  | .tradability, .open, none => .ok ()
  | .dayBoundary, .closed, some proof => do
      let opened ← parseExactTimestamp codec.calendar proof.lastEligibleM10OpenTsUtc
      let closed ← parseExactTimestamp codec.calendar proof.lastEligibleM10CloseTsUtc
      let boundary ← parseExactTimestamp codec.calendar proof.boundaryTsUtc
      let lastTradableClose ← lastTradableEnd codec.calendar sessions
      rejectIf (¬ (proof.tradingDay = tradingDay ∧ closed.nanosecondsSince opened = 600 * 10 ^ 9 ∧ boundary = closed ∧
        boundary = lastTradableClose ∧ codec.calendar.timestampMillis boundary % 600000 = 0)) .payloadConflict
  | _, _, _ => .error .payloadConflict

def semanticIdentityOf (payload : Stage8bP1eSchedulePayloadV2) : Stage8bP1eScheduleSemanticIdentityV1 where
  domain := semanticDomain
  instrument := payload.instrument
  registry := payload.registry
  schemaVersion := 1
  sessions := payload.normalizedSchedule.sessions
  stage4SemanticState := {
    boundaryProof := payload.stage4Evidence.boundaryProof
    evidenceKind := payload.stage4Evidence.evidenceKind
    scheduleState := payload.stage4Evidence.scheduleState }
  timeframeSec := m10SecondsU32
  timezone := payload.timezone
  tradingDay := payload.tradingDay

def validatePayloadSemantics (envelope : Stage8bP1eScheduleEnvelopeV3) :
    Except Stage8bP1eScheduleSourceError Unit := do
  let payload := envelope.payload
  let schedule := payload.normalizedSchedule
  rejectIf (payload.instrument ≠ expectedInstrument) .identityMismatch
  rejectIf (payload.schemaVersion ≠ 2 ∨ payload.domain ≠ payloadDomain ∨ payload.timezone ≠ timezoneText ∨
    validRegistryVersion payload.registry.registryVersion = false ∨
    isCanonicalSha256 payload.registry.registryIdentitySha256 = false ∨
    (parseExactDay codec.calendar payload.tradingDay).isOk = false ∨ schedule.sessions = [] ∨
    128 < schedule.sessions.length ∨ isCanonicalSha256 schedule.rawResponseSha256 = false ∨
    isCanonicalSha256 schedule.normalizedPayloadSha256 = false) .payloadConflict
  validateSessions codec.calendar schedule.sessions payload.tradingDay
  validateStage4SemanticState codec payload.stage4Evidence schedule.sessions payload.tradingDay
  rejectIf (envelope.semanticIdentity ≠ semanticIdentityOf payload ∨
    semanticSha256 codec (semanticIdentityOf payload) ≠ envelope.scheduleSemanticSha256) .payloadConflict

def highWaterFromEnvelope (envelope : Stage8bP1eScheduleEnvelopeV3) (envelopeSha256 : HexText) :
    Except Stage8bP1eScheduleSourceError Stage8bP1eScheduleHighWaterV1 := do
  let publicationSequence ← orReject (parseU64 envelope.publicationSequence) .progressionConflict
  let publishedAtUtc ← parseExactTimestamp codec.calendar envelope.publishedAtUtc
  let semanticRevision ← orReject (parseU64 envelope.semanticRevision) .progressionConflict
  let sourceGeneration ← orReject (parseU64 envelope.sourceGeneration) .progressionConflict
  .ok {
    envelopeSha256 := envelopeSha256
    publicationSequence := publicationSequence
    publishedAtUtc := publishedAtUtc
    scheduleSemanticSha256 := envelope.scheduleSemanticSha256
    semanticRevision := semanticRevision
    sourceGeneration := sourceGeneration }

end Parts

/-- How a newest row may stand to the durable high water. -/
def validateProgression (prior : Option Stage8bP1eScheduleHighWaterV1) (candidate : Stage8bP1eScheduleHighWaterV1) :
    Except Stage8bP1eScheduleSourceError Stage8bP1eScheduleProgressionV1 :=
  match prior with
  | none => .ok .bootstrap
  | some prior => do
      rejectIf (candidate.sourceGeneration ≠ prior.sourceGeneration) .progressionConflict
      rejectIf (candidate.publicationSequence < prior.publicationSequence ∨
        prior.publishedAtUtc.After candidate.publishedAtUtc ∨ candidate.semanticRevision < prior.semanticRevision)
        .rollback
      if candidate.publicationSequence = prior.publicationSequence then
        if candidate = prior then .ok .idempotent else .error .progressionConflict
      else
        rejectIf (¬ candidate.publishedAtUtc.After prior.publishedAtUtc ∨
          (candidate.semanticRevision = prior.semanticRevision ∧
            candidate.scheduleSemanticSha256 ≠ prior.scheduleSemanticSha256)) .progressionConflict
        .ok .monotonicSnapshot

/-- A verified envelope. Its sessions and its semantic identity have passed their check. -/
structure Stage8bP1eAcceptedScheduleSource (codec : EnvelopeCodec) where
  envelope : Stage8bP1eScheduleEnvelopeV3
  envelopeSha256 : HexText
  exactEnvelopeBytes : List UInt8
  highWater : Stage8bP1eScheduleHighWaterV1
  progression : Stage8bP1eScheduleProgressionV1
  stage4ObservedAt : DateTimeUtc
  validUntil : DateTimeUtc
  sound : validatePayloadSemantics codec envelope = .ok ()

section Verify

variable (codec : EnvelopeCodec)

def acceptEnvelope (anchor : TrustAnchor) (exactEnvelopeBytes : List UInt8) (envelope : Stage8bP1eScheduleEnvelopeV3)
    (times : EvidenceTimes) (candidate : Stage8bP1eScheduleHighWaterV1) (progression : Stage8bP1eScheduleProgressionV1) :
    Except Stage8bP1eScheduleSourceError (Stage8bP1eAcceptedScheduleSource codec) :=
  match sound : validatePayloadSemantics codec envelope with
  | .error error => .error error
  | .ok () => do
      let transportLimit ← orReject (candidate.publishedAtUtc.plusMilliseconds transportMaxAgeMs) .payloadConflict
      .ok {
        envelope := envelope
        envelopeSha256 := candidate.envelopeSha256
        exactEnvelopeBytes := exactEnvelopeBytes
        highWater := candidate
        progression := progression
        stage4ObservedAt := times.stage4Observed
        validUntil := earliest (earliest (earliest times.normalizedExpires times.stage4Expires) transportLimit)
          anchor.validUntil
        sound := sound }

def verifyEnvelope (anchor : TrustAnchor) (exactEnvelopeBytes : List UInt8)
    (context : Stage8bP1eScheduleVerificationContextV1) :
    Except Stage8bP1eScheduleSourceError (Stage8bP1eAcceptedScheduleSource codec) := do
  let now := context.trustedNow
  let envelope ← openEnvelope codec anchor exactEnvelopeBytes now
  let publishedAt ← parseExactTimestamp codec.calendar envelope.publishedAtUtc
  let horizon ← orReject (now.plusMilliseconds futureSkewMs) .future
  rejectIf (publishedAt.After horizon) .future
  rejectIf (transportMaxAgeMs < now.numMillisecondsSince publishedAt) .stale
  let times ← evidenceTimes codec envelope
  rejectIf (times.normalizedObserved.After horizon ∨ times.stage4Observed.After horizon) .future
  rejectIf (times.normalizedObserved.After times.normalizedExpires ∨ now.After times.normalizedExpires ∨
    normalizedMaxAgeMs < now.numMillisecondsSince times.normalizedObserved) .stale
  rejectIf (times.stage4Observed.After times.stage4Expires ∨ now.After times.stage4Expires) .stage4EvidenceBlocked
  rejectIf times.Skewed .progressionConflict
  let candidate ← highWaterFromEnvelope codec envelope (sha256Hex codec exactEnvelopeBytes)
  let progression ← validateProgression context.highWater candidate
  matchesIdentity envelope context
  let reportObserved ← (validateStage4Report codec envelope times.stage4Expires).mapError
    fun _ => .stage4EvidenceBlocked
  rejectIf (reportObserved ≠ times.stage4Observed) .payloadConflict
  acceptEnvelope codec anchor exactEnvelopeBytes envelope times candidate progression

/-- A retained row, without a decision on its freshness. -/
def authenticateObservation (anchor : TrustAnchor) (exactEnvelopeBytes : List UInt8)
    (context : Stage8bP1eScheduleVerificationContextV1) :
    Except Stage8bP1eScheduleSourceError Stage8bP1eScheduleHighWaterV1 := do
  let now := context.trustedNow
  let envelope ← openEnvelope codec anchor exactEnvelopeBytes now
  matchesIdentity envelope context
  let publishedAt ← parseExactTimestamp codec.calendar envelope.publishedAtUtc
  let horizon ← orReject (now.plusMilliseconds futureSkewMs) .future
  rejectIf (publishedAt.After horizon) .future
  let times ← evidenceTimes codec envelope
  rejectIf (times.normalizedObserved.After times.normalizedExpires ∨ times.stage4Observed.After times.stage4Expires ∨
    times.Skewed) .progressionConflict
  let reportObserved ← (validateStage4Report codec envelope times.stage4Expires).mapError
    fun _ => .stage4EvidenceBlocked
  rejectIf (reportObserved ≠ times.stage4Observed) .payloadConflict
  validatePayloadSemantics codec envelope
  highWaterFromEnvelope codec envelope (sha256Hex codec exactEnvelopeBytes)

def schedulePublicKeyEd25519Hex : HexText :=
  "432a274889bc2b3a4492b3a1510f7356e1c2878337263e28472335f8600e4d99".toList

def scheduleKeyValidFromUtc : String := "2026-08-30T00:00:00Z"
def scheduleKeyValidUntilUtc : String := "2027-08-30T00:00:00Z"

def pinnedAnchor : Except Stage8bP1eScheduleSourceError TrustAnchor := do
  let validFrom ← orReject (codec.calendar.parseFromRfc3339 scheduleKeyValidFromUtc) .untrusted
  let validUntil ← orReject (codec.calendar.parseFromRfc3339 scheduleKeyValidUntilUtc) .untrusted
  .ok { publicKeyEd25519Hex := schedulePublicKeyEd25519Hex, validFrom := validFrom, validUntil := validUntil }

def verifyStage8bP1eScheduleEnvelopeV3 (exactEnvelopeBytes : List UInt8)
    (context : Stage8bP1eScheduleVerificationContextV1) :
    Except Stage8bP1eScheduleSourceError (Stage8bP1eAcceptedScheduleSource codec) := do
  verifyEnvelope codec (← pinnedAnchor codec) exactEnvelopeBytes context

def authenticateStage8bP1eScheduleObservationV3 (exactEnvelopeBytes : List UInt8)
    (context : Stage8bP1eScheduleVerificationContextV1) :
    Except Stage8bP1eScheduleSourceError Stage8bP1eScheduleHighWaterV1 := do
  authenticateObservation codec (← pinnedAnchor codec) exactEnvelopeBytes context

end Verify

end TradingGateway.Stage5e.ScheduleVerifier
