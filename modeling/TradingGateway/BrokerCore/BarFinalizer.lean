import TradingGateway.BrokerCore.Bars
import Mathlib.Logic.Function.Basic

/-! The finalizer of live bars: it holds the forming bar of each stream back until the next
bar closes it, and passes final bars through once. -/

set_option autoImplicit false

namespace TradingGateway.BrokerCore.BarFinalizer

open Orders Bars

structure ClosedBarStreamKey where
  instrument : InstrumentId
  timeframeSec : UInt32
  sourceKind : MarketDataSourceKind
deriving DecidableEq

def ClosedBarStreamKey.fromBar (bar : Bar) : ClosedBarStreamKey :=
  { instrument := bar.instrument
    timeframeSec := bar.timeframeSec
    sourceKind := bar.sourceKind }

inductive ClosedBarFinalizerActionKind where
  | bufferedForming
  | updatedForming
  | emittedClosedFromNextBar
  | passedThroughFinal
  | suppressedDuplicateFinal
  | droppedNonMonotonicForming
  | passedThroughNonLiveSource
deriving DecidableEq

structure ClosedBarFinalizerAction where
  kind : ClosedBarFinalizerActionKind
  emitted : Option Bar
deriving DecidableEq

structure ClosedBarFinalizer where
  formingByStream : ClosedBarStreamKey → Option Bar
  lastEmittedOpenTsByStream : ClosedBarStreamKey → Option DateTimeUtc

namespace ClosedBarFinalizer

/-- `ClosedBarFinalizer::default`. -/
def empty : ClosedBarFinalizer :=
  { formingByStream := fun _ => none
    lastEmittedOpenTsByStream := fun _ => none }

variable (finalizer : ClosedBarFinalizer)

def withForming (key : ClosedBarStreamKey) (forming : Option Bar) : ClosedBarFinalizer :=
  { finalizer with formingByStream := Function.update finalizer.formingByStream key forming }

def withLastEmitted (key : ClosedBarStreamKey) (openTs : DateTimeUtc) : ClosedBarFinalizer :=
  { finalizer with
    lastEmittedOpenTsByStream := Function.update finalizer.lastEmittedOpenTsByStream key (some openTs) }

def emitOnce (key : ClosedBarStreamKey) (bar : Bar) (kind : ClosedBarFinalizerActionKind) :
    ClosedBarFinalizerAction × ClosedBarFinalizer :=
  if ∃ lastOpenTs ∈ finalizer.lastEmittedOpenTsByStream key, ¬ bar.openTs.After lastOpenTs then
    ({ kind := .suppressedDuplicateFinal, emitted := none }, finalizer)
  else
    ({ kind := kind, emitted := some bar }, finalizer.withLastEmitted key bar.openTs)

def close (forming : Bar) : Bar :=
  { forming with isFinal := true }

def dropFormingUpTo (key : ClosedBarStreamKey) (bar : Bar) : ClosedBarFinalizer :=
  if ∃ forming ∈ finalizer.formingByStream key, ¬ forming.openTs.After bar.openTs then
    finalizer.withForming key none
  else finalizer

def observeForming (key : ClosedBarStreamKey) (bar : Bar) : ClosedBarFinalizerAction × ClosedBarFinalizer :=
  match finalizer.formingByStream key with
  | none => ({ kind := .bufferedForming, emitted := none }, finalizer.withForming key (some bar))
  | some previous =>
      if bar.openTs = previous.openTs then
        ({ kind := .updatedForming, emitted := none }, finalizer.withForming key (some bar))
      else if bar.openTs.After previous.openTs then
        (finalizer.withForming key (some bar)).emitOnce key (close previous) .emittedClosedFromNextBar
      else
        ({ kind := .droppedNonMonotonicForming, emitted := none }, finalizer)

def observeBar (bar : Bar) : ClosedBarFinalizerAction × ClosedBarFinalizer :=
  if bar.sourceKind ≠ .liveStream then
    ({ kind := .passedThroughNonLiveSource, emitted := some bar }, finalizer)
  else if bar.isFinal then
    (finalizer.dropFormingUpTo (.fromBar bar) bar).emitOnce (.fromBar bar) bar .passedThroughFinal
  else
    finalizer.observeForming (.fromBar bar) bar

def next (finalizer : ClosedBarFinalizer) (bar : Bar) : ClosedBarFinalizer :=
  (finalizer.observeBar bar).2

def emittedBars (finalizer : ClosedBarFinalizer) : List Bar → List Bar
  | [] => []
  | bar :: bars => (finalizer.observeBar bar).1.emitted.toList ++ (finalizer.next bar).emittedBars bars

end ClosedBarFinalizer

end TradingGateway.BrokerCore.BarFinalizer
