import TradingGateway.BrokerCore.DecimalArithmetic
import TradingGateway.BrokerCore.OperationalSnapshot
import TradingGateway.Foundation.KeyedRows
import TradingGateway.Stage8b.WorkingLimitEvidence

/-! The working book of limit orders: at most one active order, a bounded registry
of finished ones, and a hash chain over every change. -/

set_option autoImplicit false

namespace TradingGateway.Stage8b.WorkingLimitBook

open BrokerCore.FixedPoint BrokerCore.HybridAttribution BrokerCore.Identifiers BrokerCore.OperationalSnapshot
open BrokerCore.Orders Stage6.JournalRecord WorkingLimitEvidence
open Foundation.Bytes Foundation.ExceptRun Foundation.KeyedRows

def stage8bP1d3WorkingBookSchemaVersion : UInt16 := 1

def p1d3MaxOrderRecordsPerGeneration : Nat := 1024

def stage8bP1d3WorkingBookDomain : String := "moex.stage8b.p1d3.working-book.v1"

def stage8bP1d3BookTransitionDomain : String := "moex.stage8b.p1d3.book-transition.v1"

def stage8bP1d3BookGenesisDomain : String := "moex.stage8b.p1d3.book-genesis.v1"

inductive Stage8bP1d3BookPhase where
  | migrated
  | ack
  | working
  | eval
  | terminal
  | cancelRecovered
deriving DecidableEq

structure Stage8bP1d3OrderRecordV1 where
  brokerOrderId : BrokerOrderId
  originalRequestId : StrategyRequestId
  originalDurablePlaceClientId : ClientOrderId
  canonicalCommandSha256 : HexText
  acceptedStage6IdentitySha256 : HexText
  deterministicOrderFingerprintSha256 : HexText
  accountId : BrokerAccountId
  instrument : InstrumentId
  attribution : HybridRuntimeAttribution
  side : OrderSide
  qtyDecimalBytes : Vector UInt8 16
  limitPriceDecimalBytes : Vector UInt8 16
  status : OrderStatus
  lifecycle : BrokerOrderLifecycle
  filledQtyDecimalBytes : Vector UInt8 16
  remainingQtyDecimalBytes : Vector UInt8 16
  decisionM10RedisId : String
  decisionM10SemanticIdSha256 : HexText
  decisionM10PayloadSha256 : HexText
  decisionM10OpenTsUtcMs : Int
  decisionM10CloseTsUtcMs : Int
  firstObservationRedisId : Option String
  firstObservationSemanticIdSha256 : Option HexText
  firstObservationPayloadSha256 : Option HexText
  lastEvaluatedM10RedisId : Option String
  lastEvaluatedM10SemanticIdSha256 : Option HexText
  lastEvaluatedM10PayloadSha256 : Option HexText
  lastEvaluatedCloseTsUtcMs : Option Int
  scheduleFingerprintSha256 : HexText
  tradingDayIdentity : String
  latestOrderProjectionSha256 : HexText
  brokerTradeId : Option BrokerTradeId
  totalSequenceFrontier : UInt64
  transitionOrdinal : UInt64

structure Stage8bP1d3WorkingBookProjectionV1 where
  schemaVersion : UInt16
  identityDomain : String
  transitionDomain : String
  operationalIdentitySha256 : HexText
  packageGeneration : UInt64
  accountId : BrokerAccountId
  instrument : InstrumentId
  attribution : HybridRuntimeAttribution
  records : List Stage8bP1d3OrderRecordV1
  activeBrokerOrderId : Option BrokerOrderId
  transitionOrdinal : UInt64
  previousTransitionSha256 : HexText
  latestTransitionSha256 : HexText
  latestOutcomeEvidenceSha256 : HexText
  totalSequenceFrontier : UInt64
  phase : Stage8bP1d3BookPhase

structure PostBookState where
  domain : String
  operationalIdentitySha256 : HexText
  packageGeneration : UInt64
  accountId : BrokerAccountId
  instrument : InstrumentId
  attribution : HybridRuntimeAttribution
  records : List Stage8bP1d3OrderRecordV1
  activeBrokerOrderId : Option BrokerOrderId
  nextTransitionOrdinal : UInt64
  totalSequenceFrontier : UInt64

structure Stage8bP1d3EvaluationEvidenceV1 where
  schemaVersion : UInt16
  domain : String
  operationalIdentitySha256 : HexText
  packageGeneration : UInt64
  accountId : BrokerAccountId
  instrument : InstrumentId
  attributionFingerprintSha256 : HexText
  brokerOrderId : BrokerOrderId
  candidateM10RedisId : String
  candidateM10SemanticIdSha256 : HexText
  candidateM10PayloadSha256 : HexText
  candidateM10CanonicalBytesSha256 : HexText
  candidateM10OpenTsUtcMs : Int
  candidateM10CloseTsUtcMs : Int
  scheduleFingerprintSha256 : HexText
  tradingDayIdentity : String
  lastEligibleM10RedisId : String
  preBookSha256 : HexText
  expectedPostBookSha256 : HexText
  sequenceFrontier : UInt64
  transitionOrdinal : UInt64
  previousOutcomeEvidenceSha256 : HexText

structure FinalizationEvidence where
  domain : String
  observedAt : DateTimeUtc
  strategyRequestId : StrategyRequestId
  finalRecordId : HexText
  disposition : Stage6RequestFinalDispositionV1

/-- What the working book takes from outside the repository: its JSON writers, the
calendar, and of decimals the rounded division and the changes of scale. -/
structure WorkingLimitCodec extends OutcomeEvidenceCodec where
  bookToVec : Stage8bP1d3WorkingBookProjectionV1 → List UInt8
  postBookStateToVec : PostBookState → List UInt8
  orderToVec : BrokerOrderSnapshot → List UInt8
  evaluationToVec : Stage8bP1d3EvaluationEvidenceV1 → List UInt8
  finalizationToVec : FinalizationEvidence → List UInt8
  timestampMillisOpt : Int → Option DateTimeUtc
  dateNaiveText : DateTimeUtc → String
  addNanosecond : DateTimeUtc → Option DateTimeUtc
  decimalDiv : Decimal → Decimal → Option Decimal
  decimalRoundNearestEven : Nat → Decimal → Decimal
  decimalRescale : Nat → Decimal → Decimal

def compareBytes (left right : String) : Ordering :=
  compare (utf8Bytes left) (utf8Bytes right)

def hexNibble (character : Char) : UInt8 :=
  if character.isDigit then UInt8.ofNat (character.toNat - 48) else UInt8.ofNat (character.toNat - 87)

def hexBytes : List Char → List UInt8
  | high :: low :: rest => (hexNibble high * 16 + hexNibble low) :: hexBytes rest
  | _ => []

def rawSha256 (value : HexText) : Except Stage8bP1d3Error (List UInt8) := do
  rejectIf (isCanonicalSha256 value = false) .identityMismatch
  .ok (hexBytes value)

section Digests

variable (codec : WorkingLimitCodec)

def sha256Hex (bytes : List UInt8) : HexText :=
  (codec.sha256 bytes).hex

def nulSeparatedSha256 (fields : List (List UInt8)) : HexText :=
  sha256Hex codec (List.intercalate [0] fields)

def genesisSha256 (acceptedP1d2PackageCommitmentSha256 operationalIdentitySha256 : HexText)
    (packageGeneration : UInt64) : Except Stage8bP1d3Error HexText := do
  let commitment ← rawSha256 acceptedP1d2PackageCommitmentSha256
  let identity ← rawSha256 operationalIdentitySha256
  .ok (sha256Hex codec (utf8Bytes stage8bP1d3BookGenesisDomain ++ 0 :: commitment ++ identity ++
    toBigEndian 8 packageGeneration.toNat))

def transitionSha256 (ordinal : UInt64) (previous : HexText) (evidenceBytes postBookBytes : List UInt8) :
    Except Stage8bP1d3Error HexText := do
  let previousBytes ← rawSha256 previous
  .ok (sha256Hex codec (utf8Bytes stage8bP1d3BookTransitionDomain ++ 0 :: toBigEndian 8 ordinal.toNat ++
    previousBytes ++ lengthPrefixed evidenceBytes ++ lengthPrefixed postBookBytes))

end Digests

def laterCounter (left right : UInt64) : UInt64 :=
  if left ≤ right then right else left

/-- `post_book_state_sha256`: the prospective ordinal and frontier are the largest
of the book's own and of its rows, so sealing does not change the digest. -/
def postBookStateSha256 (codec : WorkingLimitCodec) (book : Stage8bP1d3WorkingBookProjectionV1) : HexText :=
  sha256Hex codec (codec.postBookStateToVec {
    domain := "moex.stage8b.p1d3.post-book-state.v1"
    operationalIdentitySha256 := book.operationalIdentitySha256
    packageGeneration := book.packageGeneration
    accountId := book.accountId
    instrument := book.instrument
    attribution := book.attribution
    records := book.records
    activeBrokerOrderId := book.activeBrokerOrderId
    nextTransitionOrdinal := book.records.foldl
      (fun largest record => laterCounter largest record.transitionOrdinal) book.transitionOrdinal
    totalSequenceFrontier := book.records.foldl
      (fun largest record => laterCounter largest record.totalSequenceFrontier) book.totalSequenceFrontier })

namespace Stage8bP1d3OrderRecordV1

variable (codec : WorkingLimitCodec) (record : Stage8bP1d3OrderRecordV1)

def qty : Except Stage8bP1d3Error Decimal :=
  Stage8bP1d3OutcomeEvidenceV1.decimal codec.toOutcomeEvidenceCodec record.qtyDecimalBytes

def limitPrice : Except Stage8bP1d3Error Decimal :=
  Stage8bP1d3OutcomeEvidenceV1.decimal codec.toOutcomeEvidenceCodec record.limitPriceDecimalBytes

/-- The three shapes of status, lifecycle, quantities and trade that a record may have. -/
def ShapeAllowed (qty filled remaining : Decimal) : Prop :=
  (record.status = .working ∧ record.lifecycle = .active ∧ filled.Same Decimal.zero ∧ remaining.Same qty ∧
    record.brokerTradeId = none) ∨
  (record.status = .filled ∧ record.lifecycle = .terminal ∧ filled.Same qty ∧ remaining.Same Decimal.zero ∧
    record.brokerTradeId ≠ none) ∨
  ((record.status = .canceled ∨ record.status = .expired) ∧ record.lifecycle = .terminal ∧
    filled.Same Decimal.zero ∧ remaining.Same qty ∧ record.brokerTradeId = none)

instance (qty filled remaining : Decimal) : Decidable (record.ShapeAllowed qty filled remaining) :=
  inferInstanceAs (Decidable (_ ∨ _))

def validate (book : Stage8bP1d3WorkingBookProjectionV1) : Except Stage8bP1d3Error Unit := do
  let qty ← record.qty codec
  let limit ← record.limitPrice codec
  let filled ← Stage8bP1d3OutcomeEvidenceV1.decimal codec.toOutcomeEvidenceCodec record.filledQtyDecimalBytes
  let remaining ←
    Stage8bP1d3OutcomeEvidenceV1.decimal codec.toOutcomeEvidenceCodec record.remainingQtyDecimalBytes
  rejectIf (record.accountId ≠ book.accountId ∨ record.instrument ≠ book.instrument ∨
    record.attribution ≠ book.attribution) .invalidRegistry
  rejectIf (qty ≤ Decimal.zero ∨ isIntegral qty = false ∨ limit ≤ Decimal.zero ∨ filled < Decimal.zero ∨
    remaining < Decimal.zero ∨
    (filled.checkedAdd remaining).any (fun sum => sum.Same qty) = false) .invalidRegistry
  rejectIf ([record.canonicalCommandSha256, record.acceptedStage6IdentitySha256,
    record.deterministicOrderFingerprintSha256, record.decisionM10SemanticIdSha256,
    record.decisionM10PayloadSha256, record.scheduleFingerprintSha256,
    record.latestOrderProjectionSha256].any (fun value => !isCanonicalSha256 value)) .invalidRegistry
  rejectIf (record.decisionM10RedisId ≠ toString record.decisionM10CloseTsUtcMs ++ "-0" ∨
    record.decisionM10CloseTsUtcMs - record.decisionM10OpenTsUtcMs ≠ 600000 ∨
    record.transitionOrdinal = 0) .invalidRegistry
  rejectIf (¬ record.ShapeAllowed qty filled remaining) .invalidRegistry

end Stage8bP1d3OrderRecordV1

/-- What `validate` has seen of the records so far. -/
structure SeenRecords where
  orderIds : List BrokerOrderId
  requestIds : List StrategyRequestId
  clientIds : List ClientOrderId
  fingerprints : List HexText
  previousOrderId : Option BrokerOrderId
  activeRows : Nat

def SeenRecords.start : SeenRecords :=
  { orderIds := []
    requestIds := []
    clientIds := []
    fingerprints := []
    previousOrderId := none
    activeRows := 0 }

namespace Stage8bP1d3WorkingBookProjectionV1

def activeRecord (book : Stage8bP1d3WorkingBookProjectionV1) : Option Stage8bP1d3OrderRecordV1 :=
  book.activeBrokerOrderId.bind fun active =>
    book.records.find? fun record => record.brokerOrderId = active

def record (book : Stage8bP1d3WorkingBookProjectionV1) (id : BrokerOrderId) : Option Stage8bP1d3OrderRecordV1 :=
  book.records.find? fun record => record.brokerOrderId = id

variable (codec : WorkingLimitCodec)

def validateRecord (book : Stage8bP1d3WorkingBookProjectionV1) (seen : SeenRecords)
    (record : Stage8bP1d3OrderRecordV1) : Except Stage8bP1d3Error SeenRecords := do
  record.validate codec book
  rejectIf (seen.previousOrderId.any (fun previous =>
      (compareBytes previous.value record.brokerOrderId.value).isGE) = true ∨
    record.brokerOrderId ∈ seen.orderIds ∨ record.originalRequestId ∈ seen.requestIds ∨
    record.originalDurablePlaceClientId ∈ seen.clientIds ∨
    record.deterministicOrderFingerprintSha256 ∈ seen.fingerprints) .invalidRegistry
  rejectIf (record.lifecycle = .active ∧ book.activeBrokerOrderId ≠ some record.brokerOrderId) .invalidRegistry
  .ok {
    orderIds := record.brokerOrderId :: seen.orderIds
    requestIds := record.originalRequestId :: seen.requestIds
    clientIds := record.originalDurablePlaceClientId :: seen.clientIds
    fingerprints := record.deterministicOrderFingerprintSha256 :: seen.fingerprints
    previousOrderId := some record.brokerOrderId
    activeRows := if record.lifecycle = .active then seen.activeRows + 1 else seen.activeRows }

def validate (book : Stage8bP1d3WorkingBookProjectionV1) : Except Stage8bP1d3Error Unit := do
  rejectIf (book.schemaVersion ≠ stage8bP1d3WorkingBookSchemaVersion ∨
    book.identityDomain ≠ stage8bP1d3WorkingBookDomain ∨
    book.transitionDomain ≠ stage8bP1d3BookTransitionDomain ∨ book.packageGeneration = 0 ∨
    p1d3MaxOrderRecordsPerGeneration < book.records.length) .invalidRegistry
  rejectIf ([book.operationalIdentitySha256, book.previousTransitionSha256, book.latestTransitionSha256,
    book.latestOutcomeEvidenceSha256].any (fun value => !isCanonicalSha256 value)) .invalidRegistry
  let seen ← book.records.foldlM (validateRecord codec book) SeenRecords.start
  rejectIf (1 < seen.activeRows ∨ (seen.activeRows = 0 ↔ book.activeBrokerOrderId ≠ none) ∨
    book.activeBrokerOrderId.any (fun id => id ∉ seen.orderIds) = true) .invalidRegistry

def encodeCanonical (book : Stage8bP1d3WorkingBookProjectionV1) : Except Stage8bP1d3Error (List UInt8) := do
  book.validate codec
  .ok (codec.bookToVec book)

def canonicalSha256 (book : Stage8bP1d3WorkingBookProjectionV1) : Except Stage8bP1d3Error HexText :=
  sha256Hex codec <$> book.encodeCanonical codec

def sortRecords (records : List Stage8bP1d3OrderRecordV1) : List Stage8bP1d3OrderRecordV1 :=
  records.insertionSort fun left right => (compareBytes left.brokerOrderId.value right.brokerOrderId.value).isLE

def insertOrReplace (book : Stage8bP1d3WorkingBookProjectionV1) (record : Stage8bP1d3OrderRecordV1) :
    Except Stage8bP1d3Error Stage8bP1d3WorkingBookProjectionV1 := do
  rejectIf ((book.record record.brokerOrderId).isNone = true ∧
    p1d3MaxOrderRecordsPerGeneration ≤ book.records.length) .invalidRegistry
  let records := sortRecords (replaceOrAppend Stage8bP1d3OrderRecordV1.brokerOrderId record book.records)
  .ok { book with
    records := records
    activeBrokerOrderId := (records.find? fun record => record.lifecycle = .active).map (·.brokerOrderId) }

/-- Link the book behind its former self. The digest is taken while its own field is empty. -/
def advance (book : Stage8bP1d3WorkingBookProjectionV1) (evidenceBytes : List UInt8)
    (phase : Stage8bP1d3BookPhase) (totalSequenceFrontier : UInt64) :
    Except Stage8bP1d3Error Stage8bP1d3WorkingBookProjectionV1 := do
  let ordinal ← orReject (checkedAdd book.transitionOrdinal 1) .invalidTransition
  let unsealed := { book with
    previousTransitionSha256 := book.latestTransitionSha256
    transitionOrdinal := ordinal
    totalSequenceFrontier := totalSequenceFrontier
    phase := phase
    latestTransitionSha256 := [] }
  let latest ← transitionSha256 codec ordinal unsealed.previousTransitionSha256 evidenceBytes
    (codec.bookToVec unsealed)
  rejectIf (book.latestTransitionSha256 ≠ [] ∧
    book.latestTransitionSha256 ≠ unsealed.previousTransitionSha256) .invalidTransition
  let advanced := { unsealed with latestTransitionSha256 := latest }
  advanced.validate codec
  .ok advanced

def migrateFromP1d2 (acceptedP1d2PackageCommitmentSha256 operationalIdentitySha256 : HexText)
    (packageGeneration : UInt64) (accountId : BrokerAccountId) (instrument : InstrumentId)
    (attribution : HybridRuntimeAttribution) (totalSequenceFrontier : UInt64) :
    Except Stage8bP1d3Error Stage8bP1d3WorkingBookProjectionV1 := do
  rejectIf (isCanonicalSha256 acceptedP1d2PackageCommitmentSha256 = false ∨
    isCanonicalSha256 operationalIdentitySha256 = false ∨ packageGeneration = 0) .identityMismatch
  let genesis ← genesisSha256 codec acceptedP1d2PackageCommitmentSha256 operationalIdentitySha256
    packageGeneration
  let value : Stage8bP1d3WorkingBookProjectionV1 := {
    schemaVersion := stage8bP1d3WorkingBookSchemaVersion
    identityDomain := stage8bP1d3WorkingBookDomain
    transitionDomain := stage8bP1d3BookTransitionDomain
    operationalIdentitySha256 := operationalIdentitySha256
    packageGeneration := packageGeneration
    accountId := accountId
    instrument := instrument
    attribution := attribution
    records := []
    activeBrokerOrderId := none
    transitionOrdinal := 0
    previousTransitionSha256 := genesis
    latestTransitionSha256 := genesis
    latestOutcomeEvidenceSha256 := genesis
    totalSequenceFrontier := totalSequenceFrontier
    phase := .migrated }
  value.validate codec
  .ok value

end Stage8bP1d3WorkingBookProjectionV1

end TradingGateway.Stage8b.WorkingLimitBook
