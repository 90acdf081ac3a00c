import Mathlib.Data.Prod.Lex
import Mathlib.Data.Rat.Defs
import Mathlib.Algebra.Order.Group.Unbundled.Abs
import Mathlib.Algebra.Order.Ring.Rat
import TradingGateway.BrokerCore.Bars
import TradingGateway.Foundation.SortedKeys

/-! The parity report of two streams of ten-minute bars: the oracle's and the candidate's bars
are normalized to one bar an open time and compared time by time. Prices are exact numbers. -/

set_option autoImplicit false

namespace TradingGateway.BrokerCore.Orders.DateTimeUtc

instance : LinearOrder DateTimeUtc :=
  LinearOrder.lift' (fun time => toLex (time.seconds, time.nanos.toNat)) (by
    intro left right same
    have fields := Prod.ext_iff.1 (toLex.injective same)
    cases left with
    | mk seconds nanos => cases right with
      | mk otherSeconds otherNanos =>
          rw [DateTimeUtc.mk.injEq]
          exact ⟨fields.1, UInt32.toNat_inj.1 fields.2⟩)

end TradingGateway.BrokerCore.Orders.DateTimeUtc

namespace TradingGateway.BrokerCore.ParityReport

open Bars Orders Foundation.SortedKeys

structure M10Bar where
  instrument : InstrumentId
  sourceKind : MarketDataSourceKind
  timeframeSec : UInt32
  openTs : DateTimeUtc
  closeTs : DateTimeUtc
  «open» : ℚ
  high : ℚ
  low : ℚ
  close : ℚ
  volume : ℚ
  isFinal : Bool
deriving DecidableEq

inductive Stage3MarketDataParityStatus where
  | synchronized
  | blockedDiff
  | missingAlorOracleStream
  | missingFinamDerivedStream
  | noOverlappingBuckets
  | evidenceIncomplete
deriving DecidableEq

structure Stage3DiffCounts where
  missingAlorBar : Nat := 0
  missingFinamDerivedBar : Nat := 0
  exactDuplicateAlorBucket : Nat := 0
  exactDuplicateFinamBucket : Nat := 0
  conflictingDuplicateAlorBucket : Nat := 0
  conflictingDuplicateFinamBucket : Nat := 0
  timestampMismatch : Nat := 0
  ohlcvMismatch : Nat := 0
  timeframeMismatch : Nat := 0
  finalityMismatch : Nat := 0
  instrumentMismatch : Nat := 0
  sourceKindDiagnostic : Nat := 0
deriving DecidableEq

def Stage3DiffCounts.blockingTotal (counts : Stage3DiffCounts) : Nat :=
  counts.missingAlorBar + counts.missingFinamDerivedBar + counts.conflictingDuplicateAlorBucket +
    counts.conflictingDuplicateFinamBucket + counts.timestampMismatch + counts.ohlcvMismatch +
    counts.timeframeMismatch + counts.finalityMismatch + counts.instrumentMismatch

/-- The first bar of each open time, how many later ones equal it, and the times of those that do not. -/
structure Stage3NormalizedM10Buckets where
  byOpenTs : List M10Bar
  exactDuplicateBucketCount : Nat
  conflictingDuplicateBucketOpenTs : List DateTimeUtc

namespace Stage3NormalizedM10Buckets

variable (buckets : Stage3NormalizedM10Buckets)

def get (openTs : DateTimeUtc) : Option M10Bar :=
  buckets.byOpenTs.find? fun bar => bar.openTs = openTs

def keys : List DateTimeUtc :=
  buckets.byOpenTs.map M10Bar.openTs

def observe (bar : M10Bar) : Stage3NormalizedM10Buckets :=
  match buckets.get bar.openTs with
  | none => { buckets with byOpenTs := buckets.byOpenTs ++ [bar] }
  | some existing =>
      if existing = bar then { buckets with exactDuplicateBucketCount := buckets.exactDuplicateBucketCount + 1 }
      else { buckets with
        conflictingDuplicateBucketOpenTs := buckets.conflictingDuplicateBucketOpenTs.insert bar.openTs }

def empty : Stage3NormalizedM10Buckets where
  byOpenTs := []
  exactDuplicateBucketCount := 0
  conflictingDuplicateBucketOpenTs := []

def conflicts : List DateTimeUtc :=
  sortedKeys buckets.conflictingDuplicateBucketOpenTs

end Stage3NormalizedM10Buckets

def normalizeStage3M10BucketsForReport (bars : List M10Bar) : Stage3NormalizedM10Buckets :=
  bars.foldl Stage3NormalizedM10Buckets.observe .empty

/-- The counters and marks of the walk over the open times. -/
structure Stage3Tally where
  matchedBucketCount : Nat := 0
  matched : Marks DateTimeUtc := Marks.none
  alorOnlyBucketCount : Nat := 0
  finamOnlyBucketCount : Nat := 0
  diagnosticDiffCount : Nat := 0
  synchronizedCandidateCount : Nat := 0
  rejectedCandidateCount : Nat := 0
  diffCounts : Stage3DiffCounts
  diffs : Marks DateTimeUtc := Marks.none
  maxAbsOpenDiff : ℚ := 0
  maxAbsHighDiff : ℚ := 0
  maxAbsLowDiff : ℚ := 0
  maxAbsCloseDiff : ℚ := 0
  maxAbsVolumeDiff : ℚ := 0

def Stage3Tally.blockWhere (tally : Stage3Tally) (differs : Prop) [Decidable differs] (openTs : DateTimeUtc)
    (count : Stage3DiffCounts → Stage3DiffCounts) : Stage3Tally :=
  if differs then { tally with diffCounts := count tally.diffCounts, diffs := tally.diffs.record openTs } else tally

section Comparison

variable (targetInstrument : InstrumentId) (alor finam : M10Bar)

def InstrumentDiffers : Prop :=
  alor.instrument ≠ targetInstrument ∨ finam.instrument ≠ targetInstrument

def TimeframeDiffers : Prop :=
  alor.timeframeSec ≠ 600 ∨ finam.timeframeSec ≠ 600

def FinalityDiffers : Prop :=
  alor.isFinal = false ∨ finam.isFinal = false

def TimestampDiffers : Prop :=
  alor.openTs ≠ finam.openTs ∨ alor.closeTs ≠ finam.closeTs

def OhlcvDiffers : Prop :=
  |alor.open - finam.open| ≠ 0 ∨ |alor.high - finam.high| ≠ 0 ∨ |alor.low - finam.low| ≠ 0 ∨
    |alor.close - finam.close| ≠ 0 ∨ |alor.volume - finam.volume| ≠ 0

instance : Decidable (InstrumentDiffers targetInstrument alor finam) :=
  inferInstanceAs (Decidable (_ ∨ _))

instance : Decidable (TimeframeDiffers alor finam) :=
  inferInstanceAs (Decidable (_ ∨ _))

instance : Decidable (FinalityDiffers alor finam) :=
  inferInstanceAs (Decidable (_ ∨ _))

instance : Decidable (TimestampDiffers alor finam) :=
  inferInstanceAs (Decidable (_ ∨ _))

instance : Decidable (OhlcvDiffers alor finam) :=
  inferInstanceAs (Decidable (_ ∨ _))

/-- The five differences that block, in the order of their checks. -/
def Stage3Tally.compare (tally : Stage3Tally) (openTs : DateTimeUtc) : Stage3Tally :=
  ((((tally.blockWhere (InstrumentDiffers targetInstrument alor finam) openTs fun counts =>
        { counts with instrumentMismatch := counts.instrumentMismatch + 1 }).blockWhere
      (TimeframeDiffers alor finam) openTs fun counts =>
        { counts with timeframeMismatch := counts.timeframeMismatch + 1 }).blockWhere
      (FinalityDiffers alor finam) openTs fun counts =>
        { counts with finalityMismatch := counts.finalityMismatch + 1 }).blockWhere
      (TimestampDiffers alor finam) openTs fun counts =>
        { counts with timestampMismatch := counts.timestampMismatch + 1 }).blockWhere
      (OhlcvDiffers alor finam) openTs fun counts =>
        { counts with ohlcvMismatch := counts.ohlcvMismatch + 1 }

def Stage3Tally.updateMaxDiffs (tally : Stage3Tally) : Stage3Tally :=
  { tally with
    maxAbsOpenDiff := max tally.maxAbsOpenDiff |alor.open - finam.open|
    maxAbsHighDiff := max tally.maxAbsHighDiff |alor.high - finam.high|
    maxAbsLowDiff := max tally.maxAbsLowDiff |alor.low - finam.low|
    maxAbsCloseDiff := max tally.maxAbsCloseDiff |alor.close - finam.close|
    maxAbsVolumeDiff := max tally.maxAbsVolumeDiff |alor.volume - finam.volume| }

def Stage3Tally.countSourceKind (tally : Stage3Tally) : Stage3Tally :=
  if alor.sourceKind = finam.sourceKind then tally
  else { tally with
    diffCounts := { tally.diffCounts with sourceKindDiagnostic := tally.diffCounts.sourceKindDiagnostic + 1 }
    diagnosticDiffCount := tally.diagnosticDiffCount + 1 }

def Stage3Tally.matchBucket (tally : Stage3Tally) (duplicateConflict : Bool) (openTs : DateTimeUtc) : Stage3Tally :=
  let started := { tally with
    matchedBucketCount := tally.matchedBucketCount + 1
    matched := tally.matched.record openTs }
  let compared := ((started.compare targetInstrument alor finam openTs).updateMaxDiffs alor finam).countSourceKind
    alor finam
  if duplicateConflict = false ∧ compared.diffCounts.blockingTotal = started.diffCounts.blockingTotal then
    { compared with synchronizedCandidateCount := compared.synchronizedCandidateCount + 1 }
  else { compared with rejectedCandidateCount := compared.rejectedCandidateCount + 1 }

end Comparison

section Report

variable (targetInstrument : InstrumentId) (alor finam : Stage3NormalizedM10Buckets)

def Stage3Tally.step (tally : Stage3Tally) (openTs : DateTimeUtc) : Stage3Tally :=
  match alor.get openTs, finam.get openTs with
  | some alorBar, some finamBar =>
      tally.matchBucket targetInstrument alorBar finamBar
        (openTs ∈ alor.conflictingDuplicateBucketOpenTs ∨ openTs ∈ finam.conflictingDuplicateBucketOpenTs) openTs
  | some _, none =>
      { tally with
        alorOnlyBucketCount := tally.alorOnlyBucketCount + 1
        diffCounts := { tally.diffCounts with
          missingFinamDerivedBar := tally.diffCounts.missingFinamDerivedBar + 1 }
        diffs := tally.diffs.record openTs }
  | none, some _ =>
      { tally with
        finamOnlyBucketCount := tally.finamOnlyBucketCount + 1
        rejectedCandidateCount := tally.rejectedCandidateCount + 1
        diffCounts := { tally.diffCounts with missingAlorBar := tally.diffCounts.missingAlorBar + 1 }
        diffs := tally.diffs.record openTs }
  | none, none => tally

def conflictEnds : List DateTimeUtc :=
  [alor.conflicts.head?, alor.conflicts.getLast?, finam.conflicts.head?, finam.conflicts.getLast?].filterMap id

def Stage3Tally.initial : Stage3Tally where
  diffCounts := {
    exactDuplicateAlorBucket := alor.exactDuplicateBucketCount
    exactDuplicateFinamBucket := finam.exactDuplicateBucketCount
    conflictingDuplicateAlorBucket := alor.conflictingDuplicateBucketOpenTs.length
    conflictingDuplicateFinamBucket := finam.conflictingDuplicateBucketOpenTs.length }
  diffs := (conflictEnds alor finam).foldl Marks.record Marks.none
  diagnosticDiffCount := alor.exactDuplicateBucketCount + finam.exactDuplicateBucketCount

def allBucketOpenTs : List DateTimeUtc :=
  sortedKeys (alor.keys ++ finam.keys)

def Stage3Tally.run : Stage3Tally :=
  (allBucketOpenTs alor finam).foldl (Stage3Tally.step targetInstrument alor finam) (Stage3Tally.initial alor finam)

end Report

structure Stage3ComparisonSummary where
  matchedBucketCount : Nat
  firstMatchedBucketOpenTs : Option DateTimeUtc
  lastMatchedBucketOpenTs : Option DateTimeUtc
  alorOnlyBucketCount : Nat
  finamOnlyBucketCount : Nat
  blockingDiffCount : Nat
  diagnosticDiffCount : Nat

structure Stage3DiffSummary where
  maxAbsOpenDiff : ℚ
  maxAbsHighDiff : ℚ
  maxAbsLowDiff : ℚ
  maxAbsCloseDiff : ℚ
  maxAbsVolumeDiff : ℚ
  firstDiffBucketOpenTs : Option DateTimeUtc
  lastDiffBucketOpenTs : Option DateTimeUtc
  diffCounts : Stage3DiffCounts

structure Stage3StrategyInputPublicationCounts where
  rawM1PublishedAsModelBarCount : Nat
  finamDerivedM10PublishedAsModelBarCount : Nat
  alorNativeM10OracleBarsSeen : Nat
  candidateBarsRejectedBeforeStrategyCount : Nat

structure Stage3MarketDataParityReport where
  alorCompleteBuckets : Nat
  finamCompleteBuckets : Nat
  finamBarsSeenM1 : Nat
  status : Stage3MarketDataParityStatus
  strategyInputPublication : Stage3StrategyInputPublicationCounts
  comparisonSummary : Stage3ComparisonSummary
  diffSummary : Stage3DiffSummary

/-- The safety boundary of the report is closed, so only the bars decide. -/
def parityStatus (alorOracleBars finamDerivedBars : List M10Bar) (matchedBucketCount blockingDiffCount : Nat) :
    Stage3MarketDataParityStatus :=
  if alorOracleBars = [] ∧ finamDerivedBars = [] then .evidenceIncomplete
  else if alorOracleBars = [] then .missingAlorOracleStream
  else if finamDerivedBars = [] then .missingFinamDerivedStream
  else if matchedBucketCount = 0 then .noOverlappingBuckets
  else if blockingDiffCount = 0 then .synchronized
  else .blockedDiff

def generateStage3cRedactedM10ParityReport (alorOracleBars finamDerivedBars : List M10Bar)
    (targetInstrument : InstrumentId) : Stage3MarketDataParityReport :=
  let alor := normalizeStage3M10BucketsForReport alorOracleBars
  let finam := normalizeStage3M10BucketsForReport finamDerivedBars
  let tally := Stage3Tally.run targetInstrument alor finam
  { alorCompleteBuckets := alor.byOpenTs.length
    finamCompleteBuckets := finam.byOpenTs.length
    finamBarsSeenM1 := finam.byOpenTs.length * 10
    status := parityStatus alorOracleBars finamDerivedBars tally.matchedBucketCount tally.diffCounts.blockingTotal
    strategyInputPublication := {
      rawM1PublishedAsModelBarCount := 0
      finamDerivedM10PublishedAsModelBarCount := tally.synchronizedCandidateCount
      alorNativeM10OracleBarsSeen := alorOracleBars.length
      candidateBarsRejectedBeforeStrategyCount := tally.rejectedCandidateCount }
    comparisonSummary := {
      matchedBucketCount := tally.matchedBucketCount
      firstMatchedBucketOpenTs := tally.matched.first
      lastMatchedBucketOpenTs := tally.matched.last
      alorOnlyBucketCount := tally.alorOnlyBucketCount
      finamOnlyBucketCount := tally.finamOnlyBucketCount
      blockingDiffCount := tally.diffCounts.blockingTotal
      diagnosticDiffCount := tally.diagnosticDiffCount }
    diffSummary := {
      maxAbsOpenDiff := tally.maxAbsOpenDiff
      maxAbsHighDiff := tally.maxAbsHighDiff
      maxAbsLowDiff := tally.maxAbsLowDiff
      maxAbsCloseDiff := tally.maxAbsCloseDiff
      maxAbsVolumeDiff := tally.maxAbsVolumeDiff
      firstDiffBucketOpenTs := tally.diffs.first
      lastDiffBucketOpenTs := tally.diffs.last
      diffCounts := tally.diffCounts } }

end TradingGateway.BrokerCore.ParityReport
