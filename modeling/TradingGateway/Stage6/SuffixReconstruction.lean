import TradingGateway.Stage6.ReconciliationV2

/-! Recovery of the suffix records that a reconciliation transition promises,
from the transition alone. -/

set_option autoImplicit false

namespace TradingGateway.Stage6.SuffixReconstruction

open BrokerCore.Identifiers
open DurableIdentity JournalRecord ReconciliationV2 Stage8b.WorkingLimitEvidence
open Foundation.ExceptRun

section Suffix

variable {codec : TransitionCodec}

/-- The suffix records built so far, the id of the last record and the offset of the next. -/
structure SuffixProgress (codec : TransitionCodec) where
  records : List (Stage6JournalRecordV1 codec.toDurableRecordCodec)
  previous : Stage6JournalRecordId
  ordinal : UInt64

def SuffixProgress.start (transition : Stage6JournalRecordV2 codec) : SuffixProgress codec :=
  { records := []
    previous := transition.journalRecordId
    ordinal := 1 }

def nextSequence (transition : Stage6JournalRecordV2 codec) (offset : UInt64) :
    Except Stage6ReconciliationV2Halt Stage6LifecycleSequence := do
  let value ← orReject (checkedAdd transition.lifecycleSequence.value offset) (.rejected .invalidSuffixManifest)
  (Stage6LifecycleSequence.new value).mapError fun _ => .rejected .invalidSuffixManifest

namespace SuffixProgress

def push (transition : Stage6JournalRecordV2 codec)
    (build : Stage6LifecycleSequence → Option Stage6JournalRecordId →
      Except Stage6DurableIdentityError (Stage6JournalRecordV1 codec.toDurableRecordCodec))
    (progress : SuffixProgress codec) : Except Stage6ReconciliationV2Halt (SuffixProgress codec) := do
  let sequence ← nextSequence transition progress.ordinal
  let record ← (build sequence (some progress.previous)).mapError fun _ => .rejected .invalidSuffixManifest
  .ok {
    records := progress.records ++ [record]
    previous := record.journalRecordId
    ordinal := progress.ordinal + 1 }

def pushOrder (transition : Stage6JournalRecordV2 codec) (orderId : BrokerOrderId)
    (progress : SuffixProgress codec) : Except Stage6ReconciliationV2Halt (SuffixProgress codec) :=
  progress.push transition fun sequence previous =>
    Stage6JournalRecordV1.brokerOrderObserved transition.durableRequestIdentity orderId sequence previous
      transition.sourceEvidenceSha256

def pushTrade (transition : Stage6JournalRecordV2 codec) (orderId : BrokerOrderId)
    (progress : SuffixProgress codec) (trade : Stage6MaterialTradeFactV2) :
    Except Stage6ReconciliationV2Halt (SuffixProgress codec) :=
  if trade.brokerOrderId ≠ some orderId then .ok progress
  else progress.push transition fun sequence previous =>
    Stage6JournalRecordV1.brokerTradeObserved transition.durableRequestIdentity trade.brokerTradeId orderId
      sequence previous transition.sourceEvidenceSha256

def pushFinalized (transition : Stage6JournalRecordV2 codec) (disposition : Stage6RequestFinalDispositionV1)
    (progress : SuffixProgress codec) : Except Stage6ReconciliationV2Halt (SuffixProgress codec) :=
  progress.push transition fun sequence previous =>
    Stage6JournalRecordV1.requestFinalized transition.durableRequestIdentity disposition sequence previous
      transition.sourceEvidenceSha256

end SuffixProgress

def sortedTrades (trades : List Stage6MaterialTradeFactV2) : List Stage6MaterialTradeFactV2 :=
  trades.mergeSort fun left right => (compare left.brokerTradeId right.brokerTradeId).isLE

/-- The order that the trade records name. All trades that name an order have to
name the selected one, or the same one if none is selected. -/
def projectedTradeOrderId (selectedOrderId : Option BrokerOrderId) (trades : List Stage6MaterialTradeFactV2) :
    Except Stage6ReconciliationV2Halt (Option BrokerOrderId) :=
  let materialOrderIds := trades.filterMap fun trade => trade.brokerOrderId
  match selectedOrderId with
  | some orderId => do
      rejectIf (∃ candidate ∈ materialOrderIds, candidate ≠ orderId) (.rejected .invalidSuffixManifest)
      .ok (some orderId)
  | none => do
      rejectIf (1 < materialOrderIds.dedup.length) (.rejected .invalidSuffixManifest)
      .ok materialOrderIds.head?

def placeDisposition (lifecycle : Stage6ReconciliationLifecycleV2) : Stage6RequestFinalDispositionV1 :=
  if lifecycle = .terminalRejected then .rejected else .completed

def cancelOutcomeOf (lifecycle : Stage6ReconciliationLifecycleV2) : Option Stage6CancelOutcomeV1 :=
  match lifecycle with
  | .terminalFilled => some .executionObserved
  | .terminalCancelled => some .canceled
  | .terminalRejected | .terminalExpired => some .alreadyTerminalNonExecution
  | .working => none

def placeSuffix (transition : Stage6JournalRecordV2 codec) (lifecycle : Stage6ReconciliationLifecycleV2) :
    Except Stage6ReconciliationV2Halt (SuffixProgress codec) := do
  let selectedOrderId := transition.payload.brokerOrderFact.bind fun order => order.brokerOrderId
  let trades := sortedTrades transition.payload.materialTradeFacts
  let projected ← projectedTradeOrderId selectedOrderId trades
  let observed ← selectedOrderId.elim (.ok (.start transition)) fun orderId =>
    SuffixProgress.pushOrder transition orderId (.start transition)
  let traded ← projected.elim (.ok observed) fun orderId =>
    trades.foldlM (SuffixProgress.pushTrade transition orderId) observed
  traded.pushFinalized transition (placeDisposition lifecycle)

def cancelSuffix (transition : Stage6JournalRecordV2 codec) (lifecycle : Stage6ReconciliationLifecycleV2) :
    Except Stage6ReconciliationV2Halt (SuffixProgress codec) := do
  let target ← orReject transition.durableRequestIdentity.targetBrokerOrderId (.rejected .invalidSuffixManifest)
  let outcome ← orReject (cancelOutcomeOf lifecycle) (.rejected .invalidSuffixManifest)
  let observed ← SuffixProgress.push transition (fun sequence previous =>
    Stage6JournalRecordV1.cancelOutcomeObserved transition.durableRequestIdentity target outcome sequence
      previous transition.sourceEvidenceSha256) (.start transition)
  observed.pushFinalized transition .completed

def exactSuffix (transition : Stage6JournalRecordV2 codec) (lifecycle : Stage6ReconciliationLifecycleV2) :
    Except Stage6ReconciliationV2Halt (SuffixProgress codec) :=
  match transition.durableRequestIdentity.action with
  | .place => placeSuffix transition lifecycle
  | .cancel => cancelSuffix transition lifecycle

/-- The lifecycle whose records make a suffix; holds, and cancels of an order
that still works, have none. -/
def suffixLifecycle (transition : Stage6JournalRecordV2 codec) : Option Stage6ReconciliationLifecycleV2 :=
  match transition.payload.transitionKind with
  | .exact lifecycle =>
      if transition.durableRequestIdentity.action = .cancel ∧ lifecycle = .working then none else some lifecycle
  | .reconciliationConflictHold | .reconciliationStillUnknownHold => none

def cancelOriginalTargetShape (transition : Stage6JournalRecordV2 codec) :
    Except Stage6ReconciliationV2Halt (Option Stage6DurablePlaceOrderShapeV1) :=
  if transition.durableRequestIdentity.action = .cancel then do
    let order ← orReject transition.payload.brokerOrderFact (.rejected .invalidSuffixManifest)
    let timeInForce ← orReject order.timeInForce (.rejected .invalidSuffixManifest)
    let shape ← (Stage6DurablePlaceOrderShapeV1.new order.side order.orderType order.qty order.limitPrice
      timeInForce).mapError fun _ => .rejected .invalidSuffixManifest
    .ok (some shape)
  else .ok none

def verifySuffix (transition : Stage6JournalRecordV2 codec)
    (records : List (Stage6JournalRecordV1 codec.toDurableRecordCodec)) :
    Except Stage6ReconciliationV2Halt (List (Stage6JournalRecordV1 codec.toDurableRecordCodec)) := do
  let manifest := transition.manifestEntries
  let kept := records.take manifest.length
  rejectIf (manifest.length ≠ kept.length ∨
    ∃ pair ∈ manifest.zip kept, pair.1.matchesRecord codec pair.2 = false) (.rejected .invalidSuffixManifest)
  .ok kept

/-- `reconstruct_stage8a4_suffix_from_v2`. -/
def reconstructStage8a4SuffixFromV2 (record : Stage6JournalRecordV2 codec) :
    Except Stage6ReconciliationV2Halt
      (List (Stage6JournalRecordV1 codec.toDurableRecordCodec) × Option Stage6DurablePlaceOrderShapeV1) := do
  let transition ← Stage6JournalRecordV2.decodeCanonical codec record.encodeCanonical
  let shape ← cancelOriginalTargetShape transition
  match suffixLifecycle transition with
  | none => do
      rejectIf (transition.manifestEntries ≠ []) (.rejected .invalidSuffixManifest)
      .ok ([], shape)
  | some lifecycle => do
      let built ← exactSuffix transition lifecycle
      let records ← verifySuffix transition built.records
      .ok (records, shape)

end Suffix

end TradingGateway.Stage6.SuffixReconstruction
