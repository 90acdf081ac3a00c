import TradingGateway.Stage6.MemoryJournal

/-! The plain codec for schedule records and checkpoints, and a small journal of
schedule records behind one accepted request. -/

set_option autoImplicit false

namespace TradingGateway.Stage6.PlainScheduleCodec

open JournalRecord JournalFrames MemoryJournal PlainCodec PlainReconciliationCodec
open VersionedRecord Foundation.Bytes

def plainHexText (digits : HexText) : List UInt8 :=
  toBigEndian 4 digits.length ++ plainDigits digits

def plainM10 (candle : Stage6ScheduleM10IdentityV4) : List UInt8 :=
  plainText candle.redisId ++ plainHexText candle.semanticIdSha256 ++ plainHexText candle.payloadSha256 ++
    plainText candle.openTsUtc ++ plainText candle.closeTsUtc

def plainRequestOrOrder (binding : Stage8bP1eRequestOrOrderBindingV1) : List UInt8 :=
  plainOption plainText binding.strategyRequestId ++ plainOption plainHexText binding.canonicalCommandSha256 ++
    plainOption plainText binding.activeBrokerOrderId ++
    plainOption plainHexText binding.workingBookTransitionSha256 ++
    plainOption (fun generation => toBigEndian 8 generation.toNat) binding.publicationSealGeneration ++
    plainOption plainHexText binding.publicationSealCommitmentSha256

def plainTransitionBinding (binding : Stage6ScheduleTransitionBindingV4) : List UInt8 :=
  plainHexText binding.operationalIdentitySha256 ++ plainTag binding.transitionKind.ctorIdx ++
    plainTag binding.authorityKind.ctorIdx ++ plainText binding.tradingDay ++ plainText binding.instrument ++
    toBigEndian 4 binding.timeframeSec.toNat ++ plainM10 binding.predecessorM10 ++
    plainM10 binding.candidateOrLastEligibleM10 ++ plainRequestOrOrder binding.requestOrOrderBinding ++
    plainText binding.redisStreamId ++ plainText binding.sourceGeneration ++
    plainText binding.publicationSequence ++ plainText binding.semanticRevision ++
    plainHexText binding.scheduleSemanticSha256 ++ plainHexText binding.envelopeSha256

def plainBodyV4 (body : Stage6JournalRecordBodyV4) : List UInt8 :=
  toBigEndian 2 body.schemaVersion.toNat ++ plainText body.recordKind ++ plainDigits body.previousRecordId.value ++
    plainDigits body.causalParentId.value ++ plainText body.lifecycleSequence ++
    plainText body.priorCoveringSealGeneration ++ plainText body.expectedCoveringSealGeneration ++
    plainTransitionBinding body.transitionBinding ++ plainHexText body.transitionBindingSha256 ++
    plainHexText body.exactEnvelopeHex ++ plainText body.boundAtUtc

def plainRecordV4 (record : Stage6JournalRecordWireV4) : List UInt8 :=
  plainBodyV4 record.toStage6JournalRecordBodyV4 ++ plainDigits record.journalRecordId.value

def plainFrontier (version : UInt16) (frontier : Stage6JournalFrontierV1) : List UInt8 :=
  toBigEndian 2 version.toNat ++ toBigEndian 2 frontier.storageSchemaVersion.toNat ++
    toBigEndian 8 frontier.frameCount ++ toBigEndian 8 frontier.journalByteLength ++
    plainDigits frontier.lastFrameSha256 ++ plainOption (fun id => plainDigits id.value) frontier.lastRecordId ++
    plainOption (fun sequence => toBigEndian 8 sequence.value.toNat) frontier.lastLifecycleSequence

/-- The ends of the first ten-minute candles of a day, as texts and as seconds. -/
def sampleInstants : List (String × Int) :=
  [("1970-01-01T00:00:00.000000Z", 0), ("1970-01-01T00:10:00.000000Z", 600),
    ("1970-01-01T00:20:00.000000Z", 1200), ("1970-01-01T00:30:00.000000Z", 1800)]

/-- A calendar that knows these instants and their day. -/
def sampleChrono : Chrono where
  parseFromRfc3339 := fun text =>
    (sampleInstants.find? fun known => known.1 = text).map fun known => { seconds := known.2, nanos := 0 }
  toRfc3339Micros := fun time =>
    ((sampleInstants.find? fun known => known.2 = time.seconds).map Prod.fst).getD ""
  parseDate := fun text => if text = "1970-01-01" then some { day := 0 } else none
  dateNaive := fun time => { day := time.seconds / 86400 }
  timestampMillis := fun time => time.seconds * 1000 + time.nanos.toNat / 1000000
  nanosecondsSince := fun later earlier =>
    (later.seconds - earlier.seconds) * 10 ^ 9 + (later.nanos.toNat - earlier.nanos.toNat)

/-- The plain codec that reads the given records of the first and the fourth version back. -/
def scheduleCodec (known : List Stage6JournalRecordWireV1) (bindings : List Stage6JournalRecordWireV4) :
    CheckpointCodec :=
  { readingCodec known with
    chrono := sampleChrono
    bodyV4ToVec := plainBodyV4
    transitionBindingV4ToVec := plainTransitionBinding
    recordV4ToVec := plainRecordV4
    recordV4FromSlice := fun bytes => bindings.find? fun wire => plainRecordV4 wire = bytes
    checkpointInputToVec := plainFrontier }

def sampleHex (byte : UInt8) : HexText :=
  (sampleDigest byte).value

/-- The candle that ends at the given position of the sample instants. -/
def sampleM10 (opens closes redisId : String) : Stage6ScheduleM10IdentityV4 :=
  { redisId := redisId
    semanticIdSha256 := sampleHex 11
    payloadSha256 := sampleHex 12
    openTsUtc := opens
    closeTsUtc := closes }

def firstM10 : Stage6ScheduleM10IdentityV4 :=
  sampleM10 "1970-01-01T00:00:00.000000Z" "1970-01-01T00:10:00.000000Z" "600000-0"

def secondM10 : Stage6ScheduleM10IdentityV4 :=
  sampleM10 "1970-01-01T00:10:00.000000Z" "1970-01-01T00:20:00.000000Z" "1200000-0"

def thirdM10 : Stage6ScheduleM10IdentityV4 :=
  sampleM10 "1970-01-01T00:20:00.000000Z" "1970-01-01T00:30:00.000000Z" "1800000-0"

/-- The evaluation of the working order `B-1` on the candle after `predecessor`,
bound behind the record `previous`. -/
def sampleEvaluation (previous : Stage6JournalRecordId) (sequence : String)
    (predecessor candidate : Stage6ScheduleM10IdentityV4) : Option Stage6JournalRecordWireV4 :=
  let body : Stage6JournalRecordBodyV4 := {
    schemaVersion := stage6DurableRecordSchemaVersionV4
    recordKind := "schedule_evidence_bound"
    previousRecordId := previous
    causalParentId := previous
    lifecycleSequence := sequence
    priorCoveringSealGeneration := "1"
    expectedCoveringSealGeneration := "2"
    operationalIdentitySha256 := sampleHex 13
    transitionKind := .workingLimitEvaluation
    transitionBindingSha256 := []
    authorityKind := .scheduleStep
    tradingDay := "1970-01-01"
    instrument := "IMOEXF@RTSX"
    timeframeSec := 600
    predecessorM10 := predecessor
    candidateOrLastEligibleM10 := candidate
    requestOrOrderBinding := {
      strategyRequestId := none
      canonicalCommandSha256 := none
      activeBrokerOrderId := some "B-1"
      workingBookTransitionSha256 := some (sampleHex 14)
      publicationSealGeneration := none
      publicationSealCommitmentSha256 := none }
    redisStreamId := "1-1"
    sourceGeneration := "1"
    publicationSequence := "1"
    semanticRevision := "1"
    scheduleSemanticSha256 := sampleHex 15
    exactEnvelopeHex := ['0', '0']
    envelopeSha256 := (plainHash [0]).hex
    boundAtUtc := "1970-01-01T00:20:00.000000Z" }
  let bound := { body with
    transitionBindingSha256 := body.deriveTransitionBindingSha256 (scheduleCodec [] []).toReconciliationCodec }
  (bound.deriveRecordId (scheduleCodec [] []).toReconciliationCodec).toOption.map fun id =>
    { bound with journalRecordId := id }

/-- An accepted request, and the evaluations of a working order on two candles behind it. -/
structure EvaluatedOrder where
  accepted : Stage6JournalRecordWireV1
  first : Stage6JournalRecordWireV4
  second : Stage6JournalRecordWireV4

def evaluatedOrder : Option EvaluatedOrder := do
  let sample ← rejectedPlace
  let first ← sampleEvaluation sample.accepted.journalRecordId "2" firstM10 secondM10
  let second ← sampleEvaluation first.journalRecordId "3" secondM10 thirdM10
  some {
    accepted := sample.accepted.toStage6JournalRecordWireV1
    first := first
    second := second }

def EvaluatedOrder.codec (sample : EvaluatedOrder) : CheckpointCodec :=
  scheduleCodec [sample.accepted] [sample.first, sample.second]

structure EvaluatedJournal (codec : CheckpointCodec) where
  accepted : Stage6JournalRecordV1 codec.toDurableRecordCodec
  first : Stage6JournalRecordV4 codec.toReconciliationCodec
  second : Stage6JournalRecordV4 codec.toReconciliationCodec

def EvaluatedJournal.oneBinding {codec : CheckpointCodec} (journal : EvaluatedJournal codec) :
    List (Stage6JournalRecordVersioned codec.toReconciliationCodec) :=
  [.v1 journal.accepted, .v4 journal.first]

def EvaluatedJournal.twoBindings {codec : CheckpointCodec} (journal : EvaluatedJournal codec) :
    List (Stage6JournalRecordVersioned codec.toReconciliationCodec) :=
  [.v1 journal.accepted, .v4 journal.first, .v4 journal.second]

theorem EvaluatedJournal.mem_twoBindings {codec : CheckpointCodec} (journal : EvaluatedJournal codec)
    {record : Stage6JournalRecordVersioned codec.toReconciliationCodec} (member : record ∈ journal.oneBinding) :
    record ∈ journal.twoBindings := by
  have longer : record ∈ journal.oneBinding ++ [.v4 journal.second] := List.mem_append_left _ member
  exact longer

def EvaluatedOrder.journal (sample : EvaluatedOrder) : Option (EvaluatedJournal sample.codec) := do
  let accepted ← (Stage6JournalRecordV1.ofWire sample.accepted).toOption
  let first ← (Stage6JournalRecordV4.ofWire sample.first).toOption
  let second ← (Stage6JournalRecordV4.ofWire sample.second).toOption
  some {
    accepted := accepted
    first := first
    second := second }

end TradingGateway.Stage6.PlainScheduleCodec
