import TradingGateway.Stage6.ReconciliationV2

/-! Records of the third and fourth versions, which bind outcomes and schedule
evidence into the journal, and the sum of all four versions. -/

set_option autoImplicit false

namespace TradingGateway.Stage6.VersionedRecord

open BrokerCore.Orders
open DurableIdentity JournalRecord ReconciliationV2 Stage8b.WorkingLimitEvidence
open Foundation.Bytes Foundation.ExceptRun

def stage6DurableRecordSchemaVersionV3 : UInt16 := 3
def stage6DurableRecordSchemaVersionV4 : UInt16 := 4

inductive Stage6JournalEventKindV3 where
  | p1d3OutcomeRecorded
deriving DecidableEq

structure Stage6JournalRecordWireV3 where
  schemaVersion : UInt16
  journalRecordId : Stage6JournalRecordId
  lifecycleSequence : Stage6LifecycleSequence
  previousRecordId : Stage6JournalRecordId
  eventKind : Stage6JournalEventKindV3
  operationalIdentitySha256 : HexText
  outcomeKind : String
  transitionOrdinal : UInt64
  outcomeEvidenceBytes : List UInt8
  outcomeEvidenceSha256 : Stage6Sha256Digest

inductive Stage8bP1eScheduleTransitionKindV1 where
  | marketExecution
  | initialLimitEvaluation
  | workingLimitEvaluation
  | cancelStep
  | dayExpiry
deriving DecidableEq

inductive Stage8bP1eScheduleAuthorityKindV1 where
  | market
  | scheduleStep
  | dayExpiry
deriving DecidableEq

structure Stage8bP1eRequestOrOrderBindingV1 where
  strategyRequestId : Option String
  canonicalCommandSha256 : Option HexText
  activeBrokerOrderId : Option String
  workingBookTransitionSha256 : Option HexText
  publicationSealGeneration : Option UInt64
  publicationSealCommitmentSha256 : Option HexText

structure Stage6ScheduleM10IdentityV4 where
  redisId : String
  semanticIdSha256 : HexText
  payloadSha256 : HexText
  openTsUtc : String
  closeTsUtc : String

/-- The fields hashed into the id of a schedule record: all but the id. -/
structure Stage6JournalRecordBodyV4 where
  schemaVersion : UInt16
  recordKind : String
  previousRecordId : Stage6JournalRecordId
  causalParentId : Stage6JournalRecordId
  lifecycleSequence : String
  priorCoveringSealGeneration : String
  expectedCoveringSealGeneration : String
  operationalIdentitySha256 : HexText
  transitionKind : Stage8bP1eScheduleTransitionKindV1
  transitionBindingSha256 : HexText
  authorityKind : Stage8bP1eScheduleAuthorityKindV1
  tradingDay : String
  instrument : String
  timeframeSec : UInt32
  predecessorM10 : Stage6ScheduleM10IdentityV4
  candidateOrLastEligibleM10 : Stage6ScheduleM10IdentityV4
  requestOrOrderBinding : Stage8bP1eRequestOrOrderBindingV1
  redisStreamId : String
  sourceGeneration : String
  publicationSequence : String
  semanticRevision : String
  scheduleSemanticSha256 : HexText
  exactEnvelopeHex : HexText
  envelopeSha256 : HexText
  boundAtUtc : String

structure Stage6JournalRecordWireV4 extends Stage6JournalRecordBodyV4 where
  journalRecordId : Stage6JournalRecordId

structure Stage6ScheduleTransitionBindingV4 where
  operationalIdentitySha256 : HexText
  transitionKind : Stage8bP1eScheduleTransitionKindV1
  authorityKind : Stage8bP1eScheduleAuthorityKindV1
  tradingDay : String
  instrument : String
  timeframeSec : UInt32
  predecessorM10 : Stage6ScheduleM10IdentityV4
  candidateOrLastEligibleM10 : Stage6ScheduleM10IdentityV4
  requestOrOrderBinding : Stage8bP1eRequestOrOrderBindingV1
  redisStreamId : String
  sourceGeneration : String
  publicationSequence : String
  semanticRevision : String
  scheduleSemanticSha256 : HexText
  envelopeSha256 : HexText

/-- The calendar library: RFC 3339 text in both directions, dates, and the
millisecond and nanosecond counts taken from instants. -/
structure Chrono where
  parseFromRfc3339 : String → Option DateTimeUtc
  toRfc3339Micros : DateTimeUtc → String
  parseDate : String → Option NaiveDate
  dateNaive : DateTimeUtc → NaiveDate
  timestampMillis : DateTimeUtc → Int
  nanosecondsSince : DateTimeUtc → DateTimeUtc → Int

/-- What versioned records take from outside the repository. `topLevelEntries`
reads the keys of a JSON object in order, with every value that is a 64-bit
number, and whether the input ends behind the object. -/
structure ReconciliationCodec extends TransitionCodec where
  chrono : Chrono
  recordV3ToVec : Stage6JournalRecordWireV3 → List UInt8
  recordV3FromSlice : List UInt8 → Option Stage6JournalRecordWireV3
  bodyV4ToVec : Stage6JournalRecordBodyV4 → List UInt8
  transitionBindingV4ToVec : Stage6ScheduleTransitionBindingV4 → List UInt8
  recordV4ToVec : Stage6JournalRecordWireV4 → List UInt8
  recordV4FromSlice : List UInt8 → Option Stage6JournalRecordWireV4
  topLevelEntries : List UInt8 → Option (List (String × Option UInt64) × Bool)

section V3

variable (codec : ReconciliationCodec)

def Stage6JournalRecordWireV3.validate (record : Stage6JournalRecordWireV3) :
    Except Stage6ReconciliationV2Error Unit := do
  rejectIf (record.schemaVersion ≠ stage6DurableRecordSchemaVersionV3 ∨
    record.eventKind ≠ .p1d3OutcomeRecorded ∨ record.transitionOrdinal = 0) .invalidPayload
  let evidence ← (Stage8bP1d3OutcomeEvidenceV1.decodeCanonical codec.toOutcomeEvidenceCodec
    record.outcomeEvidenceBytes).mapError fun _ => .invalidPayload
  let expectedId := Stage6JournalRecordId.deriveStage8bP1d3Outcome codec.toDurableRecordCodec
    evidence.operationalIdentitySha256 evidence.brokerOrderId evidence.transitionOrdinal
    evidence.outcomeKind.canonicalName
  let digest ← (evidence.digestSha256 codec.toOutcomeEvidenceCodec).mapError fun _ => .invalidPayload
  let expectedDigest ← (Stage6Sha256Digest.parse digest).mapError fun _ => .payloadDigestMismatch
  rejectIf (record.journalRecordId ≠ expectedId ∨
    record.journalRecordId.value ≠ evidence.stage6OutcomeRecordId ∨
    record.operationalIdentitySha256 ≠ evidence.operationalIdentitySha256 ∨
    record.outcomeKind ≠ evidence.outcomeKind.canonicalName ∨
    record.transitionOrdinal ≠ evidence.transitionOrdinal ∨
    record.outcomeEvidenceSha256 ≠ expectedDigest) .recordIdentityMismatch

structure Stage6JournalRecordV3 extends Stage6JournalRecordWireV3 where
  valid : toStage6JournalRecordWireV3.validate codec = .ok ()

variable {codec}

namespace Stage6JournalRecordV3

def ofWire (wire : Stage6JournalRecordWireV3) :
    Except Stage6ReconciliationV2Error (Stage6JournalRecordV3 codec) :=
  match validated : wire.validate codec with
  | .error error => .error error
  | .ok () => .ok { toStage6JournalRecordWireV3 := wire, valid := validated }

def encodeCanonical (record : Stage6JournalRecordV3 codec) : List UInt8 :=
  codec.recordV3ToVec record.toStage6JournalRecordWireV3

def decodeCanonical (codec : ReconciliationCodec) (bytes : List UInt8) :
    Except Stage6ReconciliationV2Error (Stage6JournalRecordV3 codec) := do
  let wire ← orReject (codec.recordV3FromSlice bytes) .decodeFailed
  let record ← ofWire wire
  rejectIf (record.encodeCanonical ≠ bytes) .nonCanonicalEncoding
  .ok record

/-- The outcome a transition key names: identity, kind and ordinal behind zero separators. -/
def transitionKey (record : Stage6JournalRecordV3 codec) : List Char :=
  record.operationalIdentitySha256 ++ '\x00' :: record.outcomeKind.toList ++
    '\x00' :: (toString record.transitionOrdinal).toList

end Stage6JournalRecordV3

end V3

section V4

def parseNonzeroDecimal (value : List Char) : Except Stage6ReconciliationV2Error UInt64 := do
  rejectIf (value = [] ∨ 20 < value.length ∨ value.head? = some '0' ∨
    value.any (fun digit => !digit.isDigit)) .invalidPayload
  let number := value.foldl (fun total digit => total * 10 + (digit.toNat - '0'.toNat)) 0
  rejectIf (2 ^ 64 ≤ number) .invalidPayload
  .ok (UInt64.ofNat number)

def parseDecimal (value : List Char) : Except Stage6ReconciliationV2Error UInt64 :=
  if value = ['0'] then .ok 0 else parseNonzeroDecimal value

/-- `milliseconds-sequence`, both in canonical decimal form. -/
def validRedisId (value : List Char) : Bool :=
  match value.span (· != '-') with
  | (milliseconds, '-' :: sequence) =>
      !sequence.contains '-' && (parseNonzeroDecimal milliseconds).isOk &&
        (sequence == ['0'] || (parseNonzeroDecimal sequence).isOk)
  | _ => false

def hexDigitValue (digit : Char) : Nat :=
  if digit ≤ '9' then digit.toNat - '0'.toNat else digit.toNat - 'a'.toNat + 10

def decodeHexPairs : HexText → List UInt8
  | high :: low :: rest => UInt8.ofNat (hexDigitValue high * 16 + hexDigitValue low) :: decodeHexPairs rest
  | _ => []

def decodeLowerHexV4 (value : HexText) : Except Stage6ReconciliationV2Error (List UInt8) := do
  rejectIf (value = [] ∨ value.length % 2 ≠ 0 ∨ value.any (fun digit => !isLowerHex digit)) .invalidPayload
  .ok (decodeHexPairs value)

/-- A present identifier that is not empty and at most 256 bytes long. -/
def boundedIdentifier (value : Option String) : Bool :=
  value.any fun text => text ≠ "" && text.utf8ByteSize ≤ 256

def validV4RouteBinding (transitionKind : Stage8bP1eScheduleTransitionKindV1)
    (authorityKind : Stage8bP1eScheduleAuthorityKindV1) (binding : Stage8bP1eRequestOrOrderBindingV1) :
    Bool :=
  match transitionKind, authorityKind with
  | .marketExecution, .market | .initialLimitEvaluation, .scheduleStep =>
      boundedIdentifier binding.strategyRequestId &&
        binding.canonicalCommandSha256.any isCanonicalSha256 &&
        binding.activeBrokerOrderId.isNone && binding.workingBookTransitionSha256.isNone
  | .cancelStep, .scheduleStep =>
      boundedIdentifier binding.strategyRequestId &&
        binding.canonicalCommandSha256.any isCanonicalSha256 &&
        boundedIdentifier binding.activeBrokerOrderId &&
        binding.workingBookTransitionSha256.any isCanonicalSha256 &&
        binding.publicationSealGeneration.any (fun generation => 0 < generation) &&
        binding.publicationSealCommitmentSha256.any isCanonicalSha256
  | .workingLimitEvaluation, .scheduleStep | .dayExpiry, .dayExpiry =>
      binding.strategyRequestId.isNone && binding.canonicalCommandSha256.isNone &&
        boundedIdentifier binding.activeBrokerOrderId &&
        binding.workingBookTransitionSha256.any isCanonicalSha256 &&
        binding.publicationSealGeneration.isNone && binding.publicationSealCommitmentSha256.isNone
  | _, _ => false

def Stage6JournalRecordBodyV4.transitionBinding (body : Stage6JournalRecordBodyV4) :
    Stage6ScheduleTransitionBindingV4 :=
  { operationalIdentitySha256 := body.operationalIdentitySha256
    transitionKind := body.transitionKind
    authorityKind := body.authorityKind
    tradingDay := body.tradingDay
    instrument := body.instrument
    timeframeSec := body.timeframeSec
    predecessorM10 := body.predecessorM10
    candidateOrLastEligibleM10 := body.candidateOrLastEligibleM10
    requestOrOrderBinding := body.requestOrOrderBinding
    redisStreamId := body.redisStreamId
    sourceGeneration := body.sourceGeneration
    publicationSequence := body.publicationSequence
    semanticRevision := body.semanticRevision
    scheduleSemanticSha256 := body.scheduleSemanticSha256
    envelopeSha256 := body.envelopeSha256 }

variable (codec : ReconciliationCodec)

/-- Only the text that writing the instant gives back is accepted. -/
def parseExactTimestampV4 (value : String) : Except Stage6ReconciliationV2Error DateTimeUtc := do
  let parsed ← orReject (codec.chrono.parseFromRfc3339 value) .invalidPayload
  rejectIf (codec.chrono.toRfc3339Micros parsed ≠ value) .invalidPayload
  .ok parsed

def validateV4M10 (value : Stage6ScheduleM10IdentityV4) (tradingDay : String) :
    Except Stage6ReconciliationV2Error Unit := do
  let opened ← parseExactTimestampV4 codec value.openTsUtc
  let closed ← parseExactTimestampV4 codec value.closeTsUtc
  let day ← orReject (codec.chrono.parseDate tradingDay) .invalidPayload
  rejectIf (codec.chrono.nanosecondsSince closed opened ≠ 600 * 10 ^ 9 ∨
    codec.chrono.dateNaive closed ≠ day ∨
    value.redisId ≠ toString (codec.chrono.timestampMillis closed) ++ "-0" ∨
    isCanonicalSha256 value.semanticIdSha256 = false ∨ isCanonicalSha256 value.payloadSha256 = false)
    .invalidPayload

def Stage6JournalRecordBodyV4.deriveRecordId (body : Stage6JournalRecordBodyV4) :
    Except Stage6ReconciliationV2Error Stage6JournalRecordId :=
  (Stage6JournalRecordId.parseExact (codec.sha256
    ("moex.stage6.schedule-evidence-bound.record-id.v1".toUTF8.toList ++ 0 ::
      codec.bodyV4ToVec body)).hex).mapError fun _ => .recordIdentityMismatch

def Stage6JournalRecordBodyV4.deriveTransitionBindingSha256 (body : Stage6JournalRecordBodyV4) : HexText :=
  (codec.sha256 ("moex.stage8b.p1e.schedule-transition-binding.sha256.v1".toUTF8.toList ++ 0 ::
    codec.transitionBindingV4ToVec body.transitionBinding)).hex

/-- The first group of checks: the texts, the numbers and the two derived digests. -/
def Stage6JournalRecordWireV4.validateEnvelope (record : Stage6JournalRecordWireV4) :
    Except Stage6ReconciliationV2Error Unit := do
  let sequence ← parseNonzeroDecimal record.lifecycleSequence.toList
  let priorGeneration ← parseDecimal record.priorCoveringSealGeneration.toList
  let expectedGeneration ← parseNonzeroDecimal record.expectedCoveringSealGeneration.toList
  let sourceGeneration ← parseNonzeroDecimal record.sourceGeneration.toList
  let publicationSequence ← parseNonzeroDecimal record.publicationSequence.toList
  let semanticRevision ← parseNonzeroDecimal record.semanticRevision.toList
  rejectIf (record.schemaVersion ≠ stage6DurableRecordSchemaVersionV4 ∨
    record.recordKind ≠ "schedule_evidence_bound" ∨ record.previousRecordId ≠ record.causalParentId ∨
    checkedAdd priorGeneration 1 ≠ some expectedGeneration ∨ sequence = 0 ∨ sourceGeneration = 0 ∨
    publicationSequence = 0 ∨ semanticRevision = 0 ∨ record.instrument ≠ "IMOEXF@RTSX" ∨
    record.timeframeSec ≠ 600) .invalidPayload
  rejectIf ([record.operationalIdentitySha256, record.transitionBindingSha256,
    record.scheduleSemanticSha256, record.envelopeSha256].any (fun value => !isCanonicalSha256 value))
    .invalidPayload
  rejectIf (validRedisId record.redisStreamId.toList = false ∨
    (parseExactTimestampV4 codec record.boundAtUtc).isOk = false ∨ record.exactEnvelopeHex = [] ∨
    524288 < record.exactEnvelopeHex.length ∨ record.exactEnvelopeHex.length % 2 ≠ 0 ∨
    record.exactEnvelopeHex.any (fun digit => !isLowerHex digit)) .invalidPayload
  rejectIf (record.deriveTransitionBindingSha256 codec ≠ record.transitionBindingSha256) .invalidPayload
  let derivedId ← record.deriveRecordId codec
  rejectIf (derivedId ≠ record.journalRecordId) .invalidPayload

def Stage6JournalRecordWireV4.validate (record : Stage6JournalRecordWireV4) :
    Except Stage6ReconciliationV2Error Unit := do
  record.validateEnvelope codec
  validateV4M10 codec record.predecessorM10 record.tradingDay
  validateV4M10 codec record.candidateOrLastEligibleM10 record.tradingDay
  let predecessorClose ← parseExactTimestampV4 codec record.predecessorM10.closeTsUtc
  let candidateClose ← parseExactTimestampV4 codec record.candidateOrLastEligibleM10.closeTsUtc
  rejectIf (¬ candidateClose.After predecessorClose) .invalidPayload
  let envelope ← decodeLowerHexV4 record.exactEnvelopeHex
  rejectIf ((codec.sha256 envelope).hex ≠ record.envelopeSha256 ∨
    validV4RouteBinding record.transitionKind record.authorityKind record.requestOrOrderBinding = false)
    .invalidPayload

structure Stage6JournalRecordV4 extends Stage6JournalRecordWireV4 where
  valid : toStage6JournalRecordWireV4.validate codec = .ok ()

variable {codec}

namespace Stage6JournalRecordV4

def ofWire (wire : Stage6JournalRecordWireV4) :
    Except Stage6ReconciliationV2Error (Stage6JournalRecordV4 codec) :=
  match validated : wire.validate codec with
  | .error error => .error error
  | .ok () => .ok { toStage6JournalRecordWireV4 := wire, valid := validated }

def encodeCanonical (record : Stage6JournalRecordV4 codec) : List UInt8 :=
  codec.recordV4ToVec record.toStage6JournalRecordWireV4

def decodeCanonical (codec : ReconciliationCodec) (bytes : List UInt8) :
    Except Stage6ReconciliationV2Error (Stage6JournalRecordV4 codec) := do
  let wire ← orReject (codec.recordV4FromSlice bytes) .decodeFailed
  let record ← ofWire wire
  rejectIf (record.encodeCanonical ≠ bytes) .nonCanonicalEncoding
  .ok record

/-- A validated lifecycle text is a nonzero number. -/
theorem lifecycleSequence_parses (record : Stage6JournalRecordV4 codec) :
    ∃ sequence, parseNonzeroDecimal record.lifecycleSequence.toList = .ok sequence ∧ sequence ≠ 0 := by
  have valid := record.valid
  unfold Stage6JournalRecordWireV4.validate at valid
  obtain ⟨valid, _⟩ := check_bind_ok_iff.1 valid
  unfold Stage6JournalRecordWireV4.validateEnvelope at valid
  obtain ⟨sequence, parsed, valid⟩ := bind_ok_iff.1 valid
  refine ⟨sequence, parsed, ?_⟩
  obtain ⟨_, _, valid⟩ := bind_ok_iff.1 valid
  obtain ⟨_, _, valid⟩ := bind_ok_iff.1 valid
  obtain ⟨_, _, valid⟩ := bind_ok_iff.1 valid
  obtain ⟨_, _, valid⟩ := bind_ok_iff.1 valid
  obtain ⟨_, _, valid⟩ := bind_ok_iff.1 valid
  obtain ⟨checks, _⟩ := check_bind_ok_iff.1 valid
  simp only [rejectIf_ok_iff, not_or] at checks
  exact checks.2.2.2.2.1

def parsedLifecycleSequence (record : Stage6JournalRecordV4 codec) : Stage6LifecycleSequence :=
  match parsed : parseNonzeroDecimal record.lifecycleSequence.toList with
  | .ok value => { value := value
                   nonzero := by
                     obtain ⟨sequence, isSequence, nonzero⟩ := record.lifecycleSequence_parses
                     cases isSequence.symm.trans parsed
                     exact nonzero }
  | .error error => absurd parsed (by
      obtain ⟨sequence, isSequence, _⟩ := record.lifecycleSequence_parses
      simp [isSequence])

/-- Schedule transitions are known by the digest that binds them. -/
def transitionKey (record : Stage6JournalRecordV4 codec) : HexText :=
  record.transitionBindingSha256

end Stage6JournalRecordV4

end V4

section Versioned

variable (codec : ReconciliationCodec)

inductive Stage6JournalRecordVersioned where
  | v1 (record : Stage6JournalRecordV1 codec.toDurableRecordCodec)
  | v2 (record : Stage6JournalRecordV2 codec.toTransitionCodec)
  | v3 (record : Stage6JournalRecordV3 codec)
  | v4 (record : Stage6JournalRecordV4 codec)

/-- The visitor of the schema probe: exactly one `schema_version`, and it is a number. -/
def visitSchemaEntries : Option UInt64 → List (String × Option UInt64) → Option UInt64
  | schema, [] => schema
  | schema, (key, value) :: rest =>
      if key = "schema_version" then
        match schema, value with
        | none, some version => visitSchemaEntries (some version) rest
        | _, _ => none
      else visitSchemaEntries schema rest

def probeSchemaVersion (bytes : List UInt8) : Except Stage6ReconciliationV2Error UInt64 := do
  let (entries, ended) ← orReject (codec.topLevelEntries bytes) .ambiguousSchema
  let version ← orReject (visitSchemaEntries none entries) .ambiguousSchema
  rejectIf (ended = false) .decodeFailed
  .ok version

def mapV1Error : Stage6DurableIdentityError → Stage6ReconciliationV2Error
  | .unsupportedSchema => .unsupportedSchema 1
  | .nonCanonicalEncoding => .nonCanonicalEncoding
  | _ => .decodeFailed

namespace Stage6JournalRecordVersioned

def decodeCanonical (bytes : List UInt8) :
    Except Stage6ReconciliationV2Halt (Stage6JournalRecordVersioned codec) := do
  let version ← (probeSchemaVersion codec bytes).mapError .rejected
  if version = 1 then
    (.v1 <$> Stage6JournalRecordV1.decodeCanonical codec.toDurableRecordCodec bytes).mapError
      fun error => .rejected (mapV1Error error)
  else if version = 2 then .v2 <$> Stage6JournalRecordV2.decodeCanonical codec.toTransitionCodec bytes
  else if version = 3 then
    (.v3 <$> Stage6JournalRecordV3.decodeCanonical codec bytes).mapError .rejected
  else if version = 4 then
    (.v4 <$> Stage6JournalRecordV4.decodeCanonical codec bytes).mapError .rejected
  else .error (.rejected (.unsupportedSchema version))

variable {codec}

def encodeCanonical : Stage6JournalRecordVersioned codec → List UInt8
  | .v1 record => record.encodeCanonical
  | .v2 record => record.encodeCanonical
  | .v3 record => record.encodeCanonical
  | .v4 record => record.encodeCanonical

def journalRecordId : Stage6JournalRecordVersioned codec → Stage6JournalRecordId
  | .v1 record => record.journalRecordId
  | .v2 record => record.journalRecordId
  | .v3 record => record.journalRecordId
  | .v4 record => record.journalRecordId

def lifecycleSequence : Stage6JournalRecordVersioned codec → Stage6LifecycleSequence
  | .v1 record => record.lifecycleSequence
  | .v2 record => record.lifecycleSequence
  | .v3 record => record.lifecycleSequence
  | .v4 record => record.parsedLifecycleSequence

end Stage6JournalRecordVersioned

end Versioned

/-! Schedule records and their wires: each is made of the other. -/

theorem v4_ofWire_ok {codec : ReconciliationCodec} {wire : Stage6JournalRecordWireV4}
    {record : Stage6JournalRecordV4 codec} (built : Stage6JournalRecordV4.ofWire wire = .ok record) :
    record.toStage6JournalRecordWireV4 = wire := by
  unfold Stage6JournalRecordV4.ofWire at built
  split at built
  · cases built
  · cases built
    rfl

theorem v4_ofWire_self {codec : ReconciliationCodec} (record : Stage6JournalRecordV4 codec) :
    Stage6JournalRecordV4.ofWire record.toStage6JournalRecordWireV4 = .ok record := by
  unfold Stage6JournalRecordV4.ofWire
  split
  next error failed => simp [record.valid] at failed
  next => rfl

/-- A schedule record is decoded from its encoding if its wire is read back. -/
theorem v4_decodeCanonical {codec : ReconciliationCodec} {record : Stage6JournalRecordV4 codec}
    (read : codec.recordV4FromSlice record.encodeCanonical = some record.toStage6JournalRecordWireV4) :
    Stage6JournalRecordV4.decodeCanonical codec record.encodeCanonical = .ok record := by
  unfold Stage6JournalRecordV4.decodeCanonical
  rw [orReject_bind_of_some read, v4_ofWire_self, ok_bind, rejectIf_of_not _ (by simp)]
  rfl

end TradingGateway.Stage6.VersionedRecord
