import TradingGateway.BrokerCore.Bars
import TradingGateway.Foundation.ExceptRun
import TradingGateway.Foundation.PartitionPoint

/-! The retained minute bars of a closed source, and the ten-minute bars that are
derived from those of them that exist. -/

set_option autoImplicit false

namespace TradingGateway.BrokerCore.ObservedM1

open Bars FixedPoint Orders Foundation.ExceptRun Foundation.PartitionPoint

def observedM1PolicyV1 : String := "closed-rest-observed-m1-to-m10-v1"
def receiptDomain : String := "moex.closed-rest-observed-m1-receipt.v1"
def maxBytes : Nat := 16 * 1024 * 1024
def maxRows : Nat := 7 * 24 * 60

inductive ObservedM1Error where
  | binding
  | encoding
  | range
  | bar
  | emptyBucket
deriving DecidableEq

structure ReceiptV1 where
  schemaVersion : UInt16
  domain : String
  policy : String
  sourceSnapshotSha256 : String
  startTs : DateTimeUtc
  endTs : DateTimeUtc
  receivedAt : DateTimeUtc
  instrument : InstrumentId
  bars : List Bar

/-- The JSON form of a receipt and the digest of bytes, as lower-case hexadecimal text. -/
structure ReceiptCodec where
  receiptToVec : ReceiptV1 → Option (List UInt8)
  sha : List UInt8 → String

def MinuteAligned (time : DateTimeUtc) : Prop :=
  0 < time.seconds ∧ time.seconds % 60 = 0 ∧ time.nanos = 0

instance (time : DateTimeUtc) : Decidable (MinuteAligned time) :=
  inferInstanceAs (Decidable (_ ∧ _))

def isSha256 (text : String) : Bool :=
  text.length = 64 && text.toList.all fun character =>
    character.isDigit || ('a' ≤ character && character ≤ 'f')

/-- `Ord::max` and `Ord::min` of decimals. -/
def maxOf (left right : Decimal) : Decimal :=
  if right < left then left else right

def minOf (left right : Decimal) : Decimal :=
  if right < left then right else left

/-- A decimal whose text does not change when it is normalized: no trailing zero, no negative zero. -/
def IsNormalized (value : Decimal) : Prop :=
  (value.scale = 0 ∨ value.magnitude % 10 ≠ 0) ∧ ¬ (value.negative = true ∧ value.magnitude = 0)

instance (value : Decimal) : Decidable (IsNormalized value) :=
  inferInstanceAs (Decidable (_ ∧ _))

namespace ReceiptV1

variable (value : ReceiptV1)

/-- One turn of the loop over the bars; it keeps the opening of the last one. -/
def checkBar (prior : Option DateTimeUtc) (bar : Bar) : Except ObservedM1Error (Option DateTimeUtc) := do
  rejectIf (bar.instrument ≠ value.instrument ∨ bar.sourceKind ≠ .historicalPoll ∨ bar.timeframeSec ≠ 60 ∨
    bar.isFinal = false ∨ ¬ MinuteAligned bar.openTs ∨ value.startTs.After bar.openTs ∨
    ¬ value.endTs.After bar.openTs ∨ bar.openTs.plusSeconds 60 ≠ some bar.closeTs ∨
    (∃ last ∈ prior, ¬ bar.openTs.After last) ∨ bar.low ≤ Decimal.zero ∨ bar.high < bar.low ∨
    bar.high < maxOf bar.open bar.close ∨ minOf bar.open bar.close < bar.low ∨ bar.volume < Decimal.zero ∨
    ∃ decimal ∈ [bar.open, bar.high, bar.low, bar.close, bar.volume], ¬ IsNormalized decimal) .bar
  .ok (some bar.openTs)

/-- The checks of `ObservedM1Receipt::checked` on the fields of a receipt. -/
def validate : Except ObservedM1Error Unit := do
  rejectIf (value.schemaVersion ≠ 1 ∨ value.domain ≠ receiptDomain ∨ value.policy ≠ observedM1PolicyV1 ∨
    isSha256 value.sourceSnapshotSha256 = false ∨ value.instrument.symbol = "") .binding
  rejectIf (¬ MinuteAligned value.startTs ∨ ¬ MinuteAligned value.endTs ∨ ¬ value.endTs.After value.startTs ∨
    value.endTs.After value.receivedAt ∨ 7 * 86400 * 1000000000 < value.endTs.nanosecondsSince value.startTs ∨
    maxRows < value.bars.length) .range
  let _ ← value.bars.foldlM value.checkBar none
  .ok ()

end ReceiptV1

/-- A receipt that has passed its checks; `checked` is its only constructor. -/
structure ObservedM1Receipt where
  value : ReceiptV1
  bytes : List UInt8
  sha256 : String
  valid : value.validate = .ok ()

def ObservedM1Receipt.checked (codec : ReceiptCodec) (value : ReceiptV1) :
    Except ObservedM1Error ObservedM1Receipt :=
  match validated : value.validate with
  | .error error => .error error
  | .ok () => do
      let bytes ← orReject (codec.receiptToVec value) .encoding
      rejectIf (maxBytes < bytes.length) .encoding
      .ok { value := value, bytes := bytes, sha256 := codec.sha bytes, valid := validated }

structure ObservedM10Derivation where
  bar : Bar
  actualM1 : List Bar
  minuteBitmap : UInt16

/-- The bit of the minute that opens so many nanoseconds after the window. -/
def minuteBit (openTs minuteTs : DateTimeUtc) : UInt16 :=
  UInt16.ofNat (1 <<< (minuteTs.numSecondsSince openTs / 60).toNat)

def addMinute (openTs : DateTimeUtc) (window : Bar × UInt16) (minute : Bar) :
    Except ObservedM1Error (Bar × UInt16) := do
  let volume ← orReject (window.1.volume.checkedAdd minute.volume) .bar
  .ok ({ window.1 with
      high := maxOf window.1.high minute.high
      low := minOf window.1.low minute.low
      volume := volume },
    window.2 ||| minuteBit openTs minute.openTs)

def ObservedM1Receipt.bucket (receipt : ObservedM1Receipt) (openTs : DateTimeUtc) :
    Except ObservedM1Error ObservedM10Derivation := do
  let closeTs ← orReject (openTs.plusSeconds 600) .range
  rejectIf (¬ MinuteAligned openTs ∨ openTs.seconds % 600 ≠ 0 ∨ receipt.value.startTs.After openTs ∨
    closeTs.After receipt.value.endTs) .range
  let start := partitionPoint (fun bar => decide (openTs.After bar.openTs)) receipt.value.bars
  let stop := partitionPoint (fun bar => decide (closeTs.After bar.openTs)) receipt.value.bars
  let actualM1 := (receipt.value.bars.take stop).drop start
  let first ← orReject actualM1.head? .emptyBucket
  let last ← orReject actualM1.getLast? .emptyBucket
  let bar := { first with
    openTs := openTs
    closeTs := closeTs
    timeframeSec := 600
    close := last.close
    volume := Decimal.zero }
  let (bar, minuteBitmap) ← actualM1.foldlM (addMinute openTs) (bar, 0)
  .ok { bar := bar, actualM1 := actualM1, minuteBitmap := minuteBitmap }

end TradingGateway.BrokerCore.ObservedM1
