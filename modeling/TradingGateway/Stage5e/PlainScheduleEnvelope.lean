import TradingGateway.Stage5e.ScheduleVerifierProperties
import TradingGateway.Stage6.PlainScheduleCodec

/-! Plain encodings of schedule envelopes, on a calendar that knows one day, and an
envelope of that day. -/

set_option autoImplicit false

namespace TradingGateway.Stage5e.PlainScheduleEnvelope

open BrokerCore.Orders BrokerCore.Orders.DateTimeUtc Stage6.VersionedRecord
open ScheduleSource ScheduleEnvelope ScheduleVerifier
open Stage6.PlainCodec Stage6.PlainScheduleCodec
open Foundation.Bytes

def daySecond (hour minute second : Nat) : DateTimeUtc :=
  { seconds := 1788220800 + 3600 * hour + 60 * minute + second, nanos := 0 }

def dayInstants : List (String × DateTimeUtc) :=
  [("2026-08-31T12:00:00.000000Z", { seconds := 1788177600, nanos := 0 }),
    ("2026-09-01T07:00:00.000000Z", daySecond 7 0 0), ("2026-09-01T11:30:00.000000Z", daySecond 11 30 0),
    ("2026-09-01T11:40:00.000000Z", daySecond 11 40 0), ("2026-09-01T11:50:00.000000Z", daySecond 11 50 0),
    ("2026-09-01T12:00:00.000000Z", daySecond 12 0 0), ("2026-09-01T12:00:01.000000Z", daySecond 12 0 1),
    ("2026-09-01T12:00:10.000000Z", daySecond 12 0 10), ("2026-09-01T15:00:00.000000Z", daySecond 15 0 0)]

def keyInstants : List (String × DateTimeUtc) :=
  [(scheduleKeyValidFromUtc, { seconds := 1788048000, nanos := 0 }),
    (scheduleKeyValidUntilUtc, { seconds := 1819584000, nanos := 0 })]

/-- A calendar that knows these instants and their day. -/
def dayChrono : Chrono where
  parseFromRfc3339 := fun text =>
    ((dayInstants ++ keyInstants).find? fun known => known.1 = text).map Prod.snd
  toRfc3339Micros := fun time =>
    ((dayInstants.find? fun known => known.2 = time.truncMicros).map Prod.fst).getD ""
  parseDate := fun text => if text = "2026-09-01" then some { day := 20697 } else none
  dateNaive := fun time => { day := time.seconds / 86400 }
  timestampMillis := fun time => time.seconds * 1000 + time.nanos.toNat / 1000000
  nanosecondsSince := nanosecondsSince

def dayMillis (milliseconds : Int) : DateTimeUtc where
  seconds := milliseconds / 1000
  nanos := UInt32.ofNat ((milliseconds % 1000).toNat * 1000000)

def dayCalendar : SourceCalendar :=
  { dayChrono with
    fromTimestampMillis := fun milliseconds => some (dayMillis milliseconds)
    dayText := fun date => if date.day = 20697 then "2026-09-01" else "" }

theorem dayCalendar_laws : ChronoLaws dayCalendar := by
  have reads : ∀ known ∈ dayInstants, dayChrono.parseFromRfc3339 known.1 = some known.2 := by
    decide
  have unread : dayChrono.parseFromRfc3339 "" = none := by
    decide
  constructor
  · intro time parsed isParsed
    have parses : dayChrono.parseFromRfc3339 (dayChrono.toRfc3339Micros time) = some parsed := isParsed
    cases found : dayInstants.find? fun known => known.2 = time.truncMicros with
    | none =>
        have text : dayChrono.toRfc3339Micros time = "" := by
          simp [dayChrono, found]
        rw [text, unread] at parses
        cases parses
    | some known =>
        have text : dayChrono.toRfc3339Micros time = known.1 := by
          simp [dayChrono, found]
        have same : known.2 = time.truncMicros := by simpa using List.find?_some found
        rw [text, reads known (List.mem_of_find?_eq_some found)] at parses
        rw [← same, Option.some.inj parses]
  · intro milliseconds time made
    have same : dayMillis milliseconds = time := Option.some.inj made
    subst same
    have nanos : (dayMillis milliseconds).nanos.toNat = (milliseconds % 1000).toNat * 1000000 := by
      refine UInt32.toNat_ofNat_of_lt' ?_
      unfold UInt32.size
      omega
    constructor
    · rw [DateTimeUtc.mk.injEq]
      refine ⟨rfl, ?_⟩
      rw [← UInt32.toNat_inj, truncMicros_nanos, nanos]
      omega
    · have count : (dayMillis milliseconds).seconds * 1000 +
          ((dayMillis milliseconds).nanos.toNat / 1000000 : Nat) = milliseconds := by
        rw [nanos]
        unfold dayMillis
        dsimp only
        omega
      exact count
  · intro validFrom read
    have known : dayChrono.parseFromRfc3339 scheduleKeyValidFromUtc = some { seconds := 1788048000, nanos := 0 } := by
      decide
    exact Option.some.inj (read.symm.trans known)
  · intro validUntil read
    have known : dayChrono.parseFromRfc3339 scheduleKeyValidUntilUtc = some { seconds := 1819584000, nanos := 0 } := by
      decide
    exact Option.some.inj (read.symm.trans known)

def dayReport : Stage4BootstrapEvidenceReport where
  schemaVersion := 1
  checkedTs := daySecond 12 0 0
  status := .accepted
  targetInstrument := instrumentId
  brokerTruthSourceStatus := .present
  sourceSections := [{
    kind := .schedule
    sourceStatus := .present
    freshnessStatus := .fresh
    requiredForBootstrap := true
    blocksBootstrap := false
    ageMs := some 86400000
    maxAgeMs := 86410000 }]
  stage4cStatus := .bootstrapReady
  stage4cBlockerKinds := []
  stage4eStatus := .applied
  stage4eBlockerKinds := []
  stage4fStatus := .accepted
  stage4fBlockerKinds := []
  stage4gStatus := .accepted
  stage4gBlockerKinds := []
  stage4gLifecycleIssues := []
  stage4hStatus := .accepted
  stage4hBlockerKinds := []
  reasonChain := []
  redaction := {
    reportRedacted := true
    rawPayloadsExported := false
    secretsExported := false
    accountSensitiveDumpsExported := false
    brokerAccountIdExported := false
    rawOrderCommentsExported := false }
  safetyBoundary := .closed
  manualInterventionRequired := false
  noLiveAuthorization := true
  blockerCount := 0

def plainSession (session : Stage8bP1eScheduleSessionV1) : List UInt8 :=
  plainText session.startUtc ++ plainText session.endUtc ++ plainTag session.sessionType.ctorIdx

def plainSemanticIdentity (identity : Stage8bP1eScheduleSemanticIdentityV1) : List UInt8 :=
  plainText identity.tradingDay ++ identity.sessions.flatMap plainSession

def plainReport (report : Stage4BootstrapEvidenceReport) : List UInt8 :=
  toBigEndian 8 report.checkedTs.seconds.toNat ++ toBigEndian 2 report.sourceSections.length

def plainPayload (payload : Stage8bP1eSchedulePayloadV2) : List UInt8 :=
  plainText payload.tradingDay ++ payload.normalizedSchedule.sessions.flatMap plainSession ++
    plainText payload.normalizedSchedule.sourceObservedAtUtc ++ plainText payload.normalizedSchedule.sourceExpiresAtUtc ++
    plainText payload.stage4Evidence.sourceObservedAtUtc ++ plainText payload.stage4Evidence.sourceExpiresAtUtc

def plainUnsigned (envelope : Stage8bP1eScheduleEnvelopeV3) : List UInt8 :=
  plainText envelope.publicationSequence ++ plainText envelope.publishedAtUtc ++ plainText envelope.semanticRevision ++
    plainPayload envelope.payload

def plainEnvelope (envelope : Stage8bP1eScheduleEnvelopeV3) : List UInt8 :=
  plainUnsigned envelope ++ plainHexText envelope.signatureEd25519Hex

def daySessions : List Stage8bP1eScheduleSessionV1 :=
  [{ startUtc := "2026-09-01T07:00:00.000000Z"
     endUtc := "2026-09-01T15:00:00.000000Z"
     sessionType := .tradableOpen }]

/-- A schedule that was observed a day before and expires ten seconds after noon. -/
def dayPayload : Stage8bP1eSchedulePayloadV2 where
  domain := payloadDomain
  instrument := expectedInstrument
  normalizedSchedule := {
    normalizedPayloadSha256 := (plainHash (daySessions.flatMap plainSession)).hex
    rawResponseSha256 := sampleHex 1
    sessions := daySessions
    sourceExpiresAtUtc := "2026-09-01T12:00:10.000000Z"
    sourceObservedAtUtc := "2026-08-31T12:00:00.000000Z" }
  registry := { registryIdentitySha256 := sampleHex 2, registryVersion := "v1" }
  schemaVersion := 2
  stage4Evidence := {
    boundaryProof := none
    evidenceKind := .tradability
    reportCanonicalJsonHex := hexString (plainReport dayReport)
    reportSha256 := (plainHash (plainReport dayReport)).hex
    scheduleState := .open
    sourceExpiresAtUtc := "2026-09-01T12:00:10.000000Z"
    sourceObservedAtUtc := "2026-08-31T12:00:00.000000Z" }
  timezone := timezoneText
  tradingDay := "2026-09-01"

def dayEnvelope : Stage8bP1eScheduleEnvelopeV3 where
  domain := envelopeDomain
  instrumentMapFingerprintSha256 := sampleHex 3
  keyGeneration := 2
  keyId := keyId
  operationalIdentitySha256 := sampleHex 4
  payload := dayPayload
  payloadSha256 := (plainHash (plainPayload dayPayload)).hex
  producerContractVersion := producerContract
  producerId := producerId
  publicationSequence := "1"
  publishedAtUtc := "2026-09-01T12:00:00.000000Z"
  runtimeConfigFingerprintSha256 := sampleHex 5
  scheduleSemanticSha256 := (plainHash (semanticHashDomain.toUTF8.toList ++ 0 ::
    plainSemanticIdentity (semanticIdentityOf dayPayload))).hex
  schemaVersion := 3
  semanticIdentity := semanticIdentityOf dayPayload
  semanticIdentityContractVersion := 1
  semanticRevision := "1"
  signatureEd25519Hex := List.replicate 128 '5'
  sourceGeneration := sourceGenerationText

/-- The JSON of envelopes, which reads the given ones back. The signature of the sample is the only one
that verifies. -/
def dayJson (known : List Stage8bP1eScheduleEnvelopeV3) : EnvelopeJson where
  envelopeToVec := plainEnvelope
  envelopeFromSlice := fun bytes => known.find? fun envelope => plainEnvelope envelope = bytes
  unsignedToVec := plainUnsigned
  sessionsToVec := fun sessions => sessions.flatMap plainSession
  payloadToVec := plainPayload
  semanticIdentityToVec := plainSemanticIdentity
  reportToVec := plainReport
  reportFromSlice := fun bytes => if bytes = plainReport dayReport then some dayReport else none
  ed25519Verify := fun _ _ signature => signature = List.replicate 64 0x55

end TradingGateway.Stage5e.PlainScheduleEnvelope
