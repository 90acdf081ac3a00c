import TradingGateway.BrokerCore.Bars
import TradingGateway.Foundation.ExceptRun

/-! Aggregation of final source bars into the bars of a larger timeframe, bucket by bucket. -/

set_option autoImplicit false

namespace TradingGateway.BrokerCore.BarAggregation

open FixedPoint Orders Bars
open Foundation.ExceptRun

inductive BarAggregationRejectReason where
  | nonFinalSourceBar
  | sourceTimeframeZero
  | targetTimeframeZero
  | sourceDoesNotDivideTarget
  | sourceTimeframeNotSmallerThanTarget
  | sourceBarDurationMismatch
  | bucketTimestampOutOfRange
  | instrumentChangedWithinBucket
  | sourceKindChangedWithinBucket
  | nonContiguousSourceBar
  | nonMonotonicSourceBar
deriving DecidableEq

inductive BarAggregationAction where
  | buffered (bucketOpenTs : DateTimeUtc) (bufferedCount : Nat)
  | emitted (emitted : Bar)
  | rejected (reason : BarAggregationRejectReason)
  | droppedIncompleteBucket (bucketOpenTs : DateTimeUtc) (bufferedCount : Nat)
deriving DecidableEq

structure BarAggregationBucket where
  bucketOpenTs : DateTimeUtc
  targetTimeframeSec : UInt32
  first : Bar
  later : List Bar
deriving DecidableEq

namespace BarAggregationBucket

variable (bucket : BarAggregationBucket)

def bars : List Bar :=
  bucket.first :: bucket.later

def last : Bar :=
  bucket.later.getLastD bucket.first

def push (bar : Bar) : BarAggregationBucket :=
  { bucket with later := bucket.later ++ [bar] }

def expectedCount : Nat :=
  (bucket.targetTimeframeSec / bucket.first.timeframeSec).toNat

def IsComplete : Prop :=
  bucket.bars.length = bucket.expectedCount

instance : Decidable bucket.IsComplete :=
  inferInstanceAs (Decidable (_ = _))

def canAccept (bar : Bar) : Except BarAggregationRejectReason Unit := do
  rejectIf (bucket.first.instrument ≠ bar.instrument) .instrumentChangedWithinBucket
  rejectIf (bucket.first.sourceKind ≠ bar.sourceKind) .sourceKindChangedWithinBucket
  rejectIf (¬ bar.openTs.After bucket.last.openTs) .nonMonotonicSourceBar
  rejectIf (bar.openTs ≠ bucket.last.closeTs) .nonContiguousSourceBar

/-- `if bar.high > high`, over the later bars. -/
def highest : Price :=
  bucket.later.foldl (fun high bar => if high < bar.high then bar.high else high) bucket.first.high

def lowest : Price :=
  bucket.later.foldl (fun low bar => if bar.low < low then bar.low else low) bucket.first.low

def totalVolume : Option Quantity :=
  (bucket.later.map Bar.volume).foldlM Decimal.checkedAdd bucket.first.volume

/-- `none` is the panic of an overflowing sum, or of a close beyond the last instant. -/
def aggregate : Option Bar := do
  let volume ← bucket.totalVolume
  let closeTs ← DateTimeUtc.timestampOpt (bucket.bucketOpenTs.seconds + bucket.targetTimeframeSec.toNat)
  some {
    instrument := bucket.first.instrument
    sourceKind := bucket.first.sourceKind
    timeframeSec := bucket.targetTimeframeSec
    openTs := bucket.bucketOpenTs
    closeTs := closeTs
    «open» := bucket.first.open
    high := bucket.highest
    low := bucket.lowest
    close := bucket.last.close
    volume := volume
    isFinal := true }

end BarAggregationBucket

structure CanonicalBarAggregator where
  targetTimeframeSec : UInt32
  current : Option BarAggregationBucket
deriving DecidableEq

def CanonicalBarAggregator.new (targetTimeframeSec : UInt32) : CanonicalBarAggregator :=
  { targetTimeframeSec := targetTimeframeSec
    current := none }

def validateSourceBar (bar : Bar) (targetTimeframeSec : UInt32) : Except BarAggregationRejectReason Unit := do
  rejectIf (bar.isFinal = false) .nonFinalSourceBar
  rejectIf (bar.timeframeSec = 0) .sourceTimeframeZero
  rejectIf (targetTimeframeSec = 0) .targetTimeframeZero
  rejectIf (targetTimeframeSec ≤ bar.timeframeSec) .sourceTimeframeNotSmallerThanTarget
  rejectIf (targetTimeframeSec % bar.timeframeSec ≠ 0) .sourceDoesNotDivideTarget
  rejectIf (bar.closeTs.numSecondsSince bar.openTs ≠ bar.timeframeSec.toNat) .sourceBarDurationMismatch

def bucketOpenTs (openTs : DateTimeUtc) (targetTimeframeSec : UInt32) : Option DateTimeUtc :=
  DateTimeUtc.timestampOpt (openTs.seconds - openTs.seconds % targetTimeframeSec.toNat)

namespace CanonicalBarAggregator

variable (aggregator : CanonicalBarAggregator)

def startBucket (bucketOpenTs : DateTimeUtc) (bar : Bar) : CanonicalBarAggregator :=
  { aggregator with
    current := some {
      bucketOpenTs := bucketOpenTs
      targetTimeframeSec := aggregator.targetTimeframeSec
      first := bar
      later := [] } }

/-- The current bucket taken out, and nothing put back. -/
def withoutBucket : CanonicalBarAggregator :=
  { aggregator with current := none }

def extendBucket (bucket : BarAggregationBucket) (bar : Bar) : Option (BarAggregationAction × CanonicalBarAggregator) :=
  match bucket.canAccept bar with
  | .error reason => some (.rejected reason, aggregator.withoutBucket)
  | .ok () =>
      if (bucket.push bar).IsComplete then do
        let emitted ← (bucket.push bar).aggregate
        some (.emitted emitted, aggregator.withoutBucket)
      else
        some (.buffered bucket.bucketOpenTs (bucket.push bar).bars.length,
          { aggregator with current := some (bucket.push bar) })

def observeInBucket (bucketOpenTs : DateTimeUtc) (bar : Bar) : Option (BarAggregationAction × CanonicalBarAggregator) :=
  match aggregator.current with
  | none => some (.buffered bucketOpenTs 1, aggregator.startBucket bucketOpenTs bar)
  | some bucket =>
      if bucket.bucketOpenTs = bucketOpenTs then aggregator.extendBucket bucket bar
      else if bucketOpenTs.After bucket.bucketOpenTs then
        some (.droppedIncompleteBucket bucket.bucketOpenTs bucket.bars.length, aggregator.startBucket bucketOpenTs bar)
      else some (.rejected .nonMonotonicSourceBar, aggregator.withoutBucket)

/-- `none` is a panic. -/
def observeFinalSourceBar (bar : Bar) : Option (BarAggregationAction × CanonicalBarAggregator) :=
  match validateSourceBar bar aggregator.targetTimeframeSec with
  | .error reason => some (.rejected reason, aggregator)
  | .ok () =>
      match bucketOpenTs bar.openTs aggregator.targetTimeframeSec with
      | none => some (.rejected .bucketTimestampOutOfRange, aggregator)
      | some bucketOpenTs => aggregator.observeInBucket bucketOpenTs bar

def observeAll (aggregator : CanonicalBarAggregator) :
    List Bar → Option (List BarAggregationAction × CanonicalBarAggregator)
  | [] => some ([], aggregator)
  | bar :: bars => do
      let (action, next) ← aggregator.observeFinalSourceBar bar
      let (actions, last) ← next.observeAll bars
      some (action :: actions, last)

end CanonicalBarAggregator

end TradingGateway.BrokerCore.BarAggregation
