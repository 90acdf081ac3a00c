import TradingGateway.Stage6.PlainReconciliationCodec
import TradingGateway.Stage8b.WorkingLimitBuilders

/-! The plain codec for the working book, and the inputs of a one-lot limit order. -/

set_option autoImplicit false

namespace TradingGateway.Stage8b.PlainWorkingLimitCodec

open BrokerCore.FixedPoint BrokerCore.HybridAttribution BrokerCore.Identifiers BrokerCore.OperationalSnapshot
open Stage6.JournalRecord Stage6.PlainCodec
open WorkingLimitBook WorkingLimitEvidence WorkingLimitInputs WorkingLimitProjections
open Foundation.Bytes

/-- The sixteen bytes of a decimal: scale and sign, then the magnitude from its low byte. -/
def decimalBytes (value : Decimal) : Vector UInt8 16 :=
  Vector.mk (0 :: 0 :: UInt8.ofNat value.scale :: (if value.negative then 128 else 0) ::
    (toBigEndian 12 value.magnitude).reverse).toArray (by simp)

def decimalOfBytes (bytes : Vector UInt8 16) : Decimal :=
  match bytes.toList with
  | _ :: _ :: scale :: sign :: magnitude =>
      if bound : ofBigEndian magnitude.reverse < 2 ^ 96 ∧ scale.toNat ≤ 28 then
        { negative := sign = 128
          magnitude := ofBigEndian magnitude.reverse
          scale := scale.toNat
          magnitudeBound := bound.1
          scaleBound := bound.2 }
      else Decimal.zero
  | _ => Decimal.zero

theorem decimalOfBytes_decimalBytes (value : Decimal) : decimalOfBytes (decimalBytes value) = value := by
  obtain ⟨negative, magnitude, scale, magnitudeBound, scaleBound⟩ := value
  have back : ofBigEndian (toBigEndian 12 magnitude).reverse.reverse = magnitude := by
    rw [List.reverse_reverse]
    exact ofBigEndian_toBigEndian (lt_of_lt_of_le magnitudeBound (by decide))
  have scaled : (UInt8.ofNat scale).toNat = scale := by
    rw [UInt8.toNat_ofNat']
    exact Nat.mod_eq_of_lt (lt_of_le_of_lt scaleBound (by decide))
  have signed : decide ((if negative = true then 128 else 0 : UInt8) = 128) = negative := by
    cases negative <;> decide
  simp only [decimalOfBytes, decimalBytes, Vector.toList_mk, back, scaled, signed, magnitudeBound, scaleBound,
    and_self, dite_true]

/-- More fractional digits, while the magnitude has room for them. -/
def plainRescale (scale : Nat) (value : Decimal) : Decimal :=
  if bound : value.magnitude * 10 ^ (scale - value.scale) < 2 ^ 96 ∧ value.scale ≤ scale ∧ scale ≤ 28 then
    { negative := value.negative
      magnitude := value.magnitude * 10 ^ (scale - value.scale)
      scale := scale
      magnitudeBound := bound.1
      scaleBound := bound.2.2 }
  else value

def padded (width value : Nat) : String :=
  let digits := toString value
  String.ofList (List.replicate (width - digits.length) '0') ++ digits

def plainDate (day : Int) : String :=
  let shifted := day + 719468
  let era := shifted / 146097
  let dayOfEra := (shifted % 146097).toNat
  let yearOfEra := (dayOfEra - dayOfEra / 1460 + dayOfEra / 36524 - dayOfEra / 146096) / 365
  let dayOfYear := dayOfEra - (365 * yearOfEra + yearOfEra / 4 - yearOfEra / 100)
  let fromMarch := (5 * dayOfYear + 2) / 153
  let month := if fromMarch < 10 then fromMarch + 3 else fromMarch - 9
  let year := (era * 400).toNat + yearOfEra + (if month ≤ 2 then 1 else 0)
  padded 4 year ++ "-" ++ padded 2 month ++ "-" ++ padded 2 (dayOfYear - (153 * fromMarch + 2) / 5 + 1)

example : plainDate 19675 = "2023-11-14" := by decide

def plainSequence (value : UInt64) : List UInt8 :=
  toBigEndian 8 value.toNat

def plainEvidence (evidence : Stage8bP1d3OutcomeEvidenceV1) : List UInt8 :=
  plainTag evidence.outcomeKind.ctorIdx ++ plainSequence evidence.transitionOrdinal ++
    plainOption (fun id => id.uuid.toList) evidence.requestId ++ plainDigits evidence.preBookSha256 ++
    plainDigits evidence.expectedPostBookSha256 ++ plainOption Vector.toList evidence.fillPriceDecimalBytes ++
    plainOption plainSequence evidence.reservedSeqAck ++ plainOption plainSequence evidence.reservedSeqTruth ++
    plainSequence evidence.sequenceAllocationFrontier ++ plainDigits evidence.stage6OutcomeRecordId

def plainOrderRecord (record : Stage8bP1d3OrderRecordV1) : List UInt8 :=
  record.originalRequestId.uuid.toList ++ plainTag record.status.ctorIdx ++ plainTag record.lifecycle.ctorIdx ++
    record.filledQtyDecimalBytes.toList ++ plainDigits record.latestOrderProjectionSha256 ++
    plainSequence record.totalSequenceFrontier ++ plainSequence record.transitionOrdinal

def plainBook (book : Stage8bP1d3WorkingBookProjectionV1) : List UInt8 :=
  book.records.flatMap plainOrderRecord ++ plainSequence book.transitionOrdinal ++
    plainDigits book.previousTransitionSha256 ++ plainDigits book.latestTransitionSha256 ++
    plainDigits book.latestOutcomeEvidenceSha256 ++ plainSequence book.totalSequenceFrontier ++
    plainTag book.phase.ctorIdx

def plainPostBookState (state : PostBookState) : List UInt8 :=
  state.records.flatMap plainOrderRecord ++ plainSequence state.nextTransitionOrdinal ++
    plainSequence state.totalSequenceFrontier

def plainOrder (order : BrokerOrderSnapshot) : List UInt8 :=
  plainTag order.status.ctorIdx ++ plainTag order.lifecycle.ctorIdx ++ plainDecimal order.filledQty ++
    plainTime order.receivedTs

def plainEvaluation (evidence : Stage8bP1d3EvaluationEvidenceV1) : List UInt8 :=
  plainDigits evidence.preBookSha256 ++ plainDigits evidence.expectedPostBookSha256 ++
    plainSequence evidence.sequenceFrontier ++ plainSequence evidence.transitionOrdinal

def plainFinalization (evidence : FinalizationEvidence) : List UInt8 :=
  plainTime evidence.observedAt ++ evidence.strategyRequestId.uuid.toList ++ plainTag evidence.disposition.ctorIdx

/-- The plain codec of the working book: of every value it writes what one transition
changes. Its reader knows the evidence it is given. Quotients and averages
with more than eight digits do not occur in it. -/
def plainWorkingLimitCodec (known : List Stage8bP1d3OutcomeEvidenceV1) : WorkingLimitCodec where
  toReplayCodec := plainCodec
  evidenceToVec := plainEvidence
  evidenceFromSlice := fun bytes => known.find? fun evidence => plainEvidence evidence = bytes
  decimalDeserialize := decimalOfBytes
  decimalSerialize := decimalBytes
  bookToVec := plainBook
  postBookStateToVec := plainPostBookState
  orderToVec := plainOrder
  evaluationToVec := plainEvaluation
  finalizationToVec := plainFinalization
  timestampMillisOpt := fun millis =>
    some { seconds := millis / 1000, nanos := UInt32.ofNat ((millis % 1000).toNat * 1000000) }
  dateNaiveText := fun time => plainDate (time.seconds / 86400)
  addNanosecond := fun time =>
    if time.nanos < 999999999 then some { time with nanos := time.nanos + 1 }
    else some { seconds := time.seconds + 1, nanos := 0 }
  decimalDiv := fun _ _ => none
  decimalRoundNearestEven := fun _ value => value
  decimalRescale := plainRescale

section Decimals

variable (known : List Stage8bP1d3OutcomeEvidenceV1)

@[simp] theorem decimalSerialize_plain (value : Decimal) :
    (plainWorkingLimitCodec known).decimalSerialize value = decimalBytes value := by
  rfl

@[simp] theorem decimalDeserialize_plain (bytes : Vector UInt8 16) :
    (plainWorkingLimitCodec known).decimalDeserialize bytes = decimalOfBytes bytes := by
  rfl

theorem decimalReadsBack_plain (value : Decimal) :
    (plainWorkingLimitCodec known).decimalDeserialize ((plainWorkingLimitCodec known).decimalSerialize value) =
      value := by
  rw [decimalSerialize_plain, decimalDeserialize_plain, decimalOfBytes_decimalBytes]

end Decimals

def sampleClose (index : Nat) : Int :=
  1700000400000 + 600000 * index

def sampleBarId (index : Nat) : String :=
  toString (sampleClose index) ++ "-0"

/-- The first of these digests stands for whatever was hashed outside. -/
def sampleHex (byte : UInt8) : HexText :=
  (plainHash [byte]).hex

theorem priceBelow_fits : 99 < 2 ^ 96 := by decide

theorem priceAbove_fits : 101 < 2 ^ 96 := by decide

def sampleBar (index : Nat) (price : Decimal) : Stage8bP1d3CanonicalM10Evidence :=
  { redisId := sampleBarId index
    semanticIdSha256 := sampleHex (UInt8.ofNat index)
    payloadSha256 := sampleHex (UInt8.ofNat index)
    canonicalBytesSha256 := sampleHex (UInt8.ofNat index)
    operationalIdentitySha256 := sampleHex 0
    instrument := sampleInstrument
    openTsUtcMs := sampleClose index - 600000
    closeTsUtcMs := sampleClose index
    opened := price
    high := price
    low := price
    closed := price }

/-- The step from one bar to the next, on a day whose last bar is the ninth. -/
def sampleStep (predecessor candidate : Nat) : Stage8bP1d3ScheduleStepAuthority :=
  { scheduleFingerprintSha256 := sampleHex 0
    tradingDayIdentity := plainDate (sampleClose candidate / 86400000)
    lastEligibleM10RedisId := sampleBarId 9
    predecessorRedisId := sampleBarId predecessor
    candidateRedisId := sampleBarId candidate
    route := .legacy }

def sampleExpiry : Stage8bP1d3DayExpiryAuthority :=
  { scheduleFingerprintSha256 := sampleHex 0
    tradingDayIdentity := plainDate (sampleClose 0 / 86400000)
    lastEligibleM10RedisId := sampleBarId 0
    boundaryTsUtcMs := sampleClose 0
    hasV4Proof := false }

/-- Buy one lot at a hundred, under the given request. -/
def sampleLimitOrder (index : UInt8) (attribution : HybridRuntimeAttribution) (frontier : UInt64) :
    Stage8bP1d3InitialLimitInput :=
  { operationalIdentitySha256 := sampleHex 0
    packageGeneration := 1
    accountId := { value := "A-1" }
    instrument := sampleInstrument
    attribution := attribution
    requestId := sampleRequest index
    durableClientOrderId := ClientOrderId.fromStrategyRequest (sampleRequest index)
    canonicalCommandSha256 := sampleHex 0
    acceptedCommandPayloadSha256 := sampleHex 0
    acceptedStage6IdentitySha256 := sampleHex 0
    decisionM10RedisId := sampleBarId 0
    decisionM10SemanticIdSha256 := sampleHex 0
    decisionM10PayloadSha256 := sampleHex 0
    decisionM10OpenTsUtcMs := sampleClose 0 - 600000
    decisionM10CloseTsUtcMs := sampleClose 0
    side := .buy
    qty := Decimal.ofNat 1 Decimal.one_fits
    limitPrice := Decimal.ofNat 100 (by decide)
    prePositionQty := Decimal.zero
    prePositionAvgPrice := none
    sequenceAllocationFrontier := frontier
    stage6DispatchRecordId := sampleHex 0
    stage6OutcomeLifecycleSequence := 3
    stage6PredecessorFrontierSha256 := sampleHex 0
    stage6ReservedCheckpointSha256 := sampleHex 0
    previousOutcomeEvidenceSha256 := sampleHex 0 }

def sampleCancel (index : UInt8) (attribution : HybridRuntimeAttribution) (frontier : UInt64) :
    Stage8bP1d3CancelInput :=
  { operationalIdentitySha256 := sampleHex 0
    packageGeneration := 1
    accountId := { value := "A-1" }
    instrument := sampleInstrument
    attribution := attribution
    requestId := sampleRequest index
    durableRequestClientId := ClientOrderId.fromStrategyRequest (sampleRequest index)
    canonicalCommandSha256 := sampleHex 0
    acceptedCommandPayloadSha256 := sampleHex 0
    acceptedStage6IdentitySha256 := sampleHex 0
    targetBrokerOrderId := deriveOrderId (plainWorkingLimitCodec []) (sampleHex 0) (sampleRequest 1) (sampleHex 0)
    targetPlaceClientId := some (ClientOrderId.fromStrategyRequest (sampleRequest 1))
    decisionM10RedisId := sampleBarId 0
    decisionM10SemanticIdSha256 := sampleHex 0
    decisionM10PayloadSha256 := sampleHex 0
    decisionM10OpenTsUtcMs := sampleClose 0 - 600000
    decisionM10CloseTsUtcMs := sampleClose 0
    prePositionQty := Decimal.zero
    prePositionAvgPrice := none
    sequenceAllocationFrontier := frontier
    stage6DispatchRecordId := sampleHex 0
    stage6DispatchLifecycleSequence := 2
    stage6PredecessorFrontierSha256 := sampleHex 0
    targetStage6ReservedCheckpointSha256 := none
    stage6ReservedCheckpointSha256 := sampleHex 0
    previousOutcomeEvidenceSha256 := sampleHex 0 }

end TradingGateway.Stage8b.PlainWorkingLimitCodec
