import TradingGateway.FinamGateway.RealTransportLifecycle
import Mathlib.Data.List.Count

/-! Submits and cancels are persisted once each, and their counts are kept, unless the
late answer to a place overwrites a cancel. -/

set_option autoImplicit false

namespace TradingGateway.FinamGateway.RealTransportLifecycle

open BrokerCore.Identifiers BrokerCore.Orders BrokerCore.OrderPath
open BrokerCore.OrderPath.InMemoryOrderPathStore
open Foundation.ExceptRun Foundation.Triples Foundation.Runs

section WriteBacks

variable {Error Value Result : Type} {store : InMemoryOrderPathStore} {builds : OrderPathRecord → Result → Prop}

inductive WriteBack (store : InMemoryOrderPathStore) (builds : OrderPathRecord → Result → Prop) :
    Except Error Result × InMemoryOrderPathStore → Prop where
  | refused (error : Error) : WriteBack store builds (.error error, store)
  | written (applied : OrderPathRecord) (result : Result) (next : InMemoryOrderPathStore)
      (built : builds applied result) (success : store.updateRecord applied = .ok next) :
      WriteBack store builds (.ok result, next)

theorem writeBack_bind {source : Except Error Value} {action : Value → StoreAction Error Result}
    (rest : ∀ value, source = .ok value → WriteBack store builds ((action value).outcome store)) :
    WriteBack store builds ((Action.ofExcept source >>= action).outcome store) := by
  rw [Action.outcome_bind, Action.outcome_ofExcept]
  cases computed : source with
  | error error => exact .refused error
  | ok value => exact rest value computed

theorem writeBack_get {action : InMemoryOrderPathStore → StoreAction Error Result}
    (rest : WriteBack store builds ((action store).outcome store)) :
    WriteBack store builds ((get >>= action).outcome store) := by
  rw [Action.outcome_bind, Action.outcome_get]
  exact rest

theorem writeBack_persist {applied : OrderPathRecord} {result : Result} (built : builds applied result) :
    WriteBack store builds ((persistRecord applied >>= fun _ => pure result).outcome store) := by
  rw [Action.outcome_bind, persistRecord, Action.outcome_mapError, outcome_runUpdateRecord]
  cases success : store.updateRecord applied with
  | error error => exact .refused _
  | ok next => exact .written applied result next built success

theorem writeBack_last {builds : OrderPathRecord → PUnit → Prop} {applied : OrderPathRecord}
    (built : builds applied ()) : WriteBack store builds ((persistRecord applied).outcome store) := by
  rw [persistRecord, Action.outcome_mapError, outcome_runUpdateRecord]
  cases success : store.updateRecord applied with
  | error error => exact .refused _
  | ok next => exact .written applied () next built success

end WriteBacks

section Operations

variable (store : InMemoryOrderPathStore)

theorem transitionOrError_ok {record moved : OrderPathRecord} {event : OrderPathEvent} {now : DateTimeUtc}
    (success : transitionOrError record event now = .ok moved) :
    ∃ state, nextOrderPathState record.state event = some state ∧
      { record.noteEvent event with state := state, lastUpdateTs := now } = moved := by
  unfold transitionOrError at success
  rw [mapError_ok_iff] at success
  exact OrderPathRecord.transition_ok_iff.1 success

theorem writeBack_persistPlace (approved : PreflightApprovedPlaceOrder) (beginTs : DateTimeUtc) :
    WriteBack store
      (fun applied result => result = applied ∧ ∃ stored,
        store.getByRequestId approved.order.requestId = some stored ∧
        transitionOrError stored .beginSubmit beginTs = .ok applied)
      ((m3d2dPersistPlaceBeginSubmit approved beginTs).outcome store) := by
  refine writeBack_get (writeBack_bind fun stored found => writeBack_bind fun applied moved => ?_)
  exact writeBack_persist ⟨rfl, stored, (orReject_ok_iff ..).1 found, moved⟩

theorem writeBack_persistCancel (approved : PreflightApprovedCancelOrder) (beginTs : DateTimeUtc) :
    WriteBack store
      (fun applied result => result = applied ∧ ∃ requestId stored, approved.mappedRequestId = some requestId ∧
        store.getByRequestId requestId = some stored ∧ transitionOrError stored .requestCancel beginTs = .ok applied)
      ((m3d2dPersistCancelRequest approved beginTs).outcome store) := by
  refine writeBack_get (writeBack_bind fun requestId mapped => ?_)
  refine writeBack_bind fun stored found => writeBack_bind fun applied moved => ?_
  exact writeBack_persist
    ⟨rfl, requestId, stored, (orReject_ok_iff ..).1 mapped, (orReject_ok_iff ..).1 found, moved⟩

theorem writeBack_applyPlace (record : OrderPathRecord) (execution : M3d2RealOrderEndpointTransportExecution)
    (outcomeTs : DateTimeUtc) :
    WriteBack store
      (fun applied _ => ∃ outcome, placeOutcome record execution outcomeTs = .ok outcome ∧ outcome.record = applied)
      ((m3d2dApplyPlaceTransportExecution record execution outcomeTs).outcome store) :=
  writeBack_bind fun outcome computed => writeBack_persist ⟨outcome, computed, rfl⟩

theorem writeBack_applyCancel (record : OrderPathRecord) (approved : PreflightApprovedCancelOrder)
    (execution : M3d2RealOrderEndpointTransportExecution) (outcomeTs : DateTimeUtc) :
    WriteBack store
      (fun applied _ => ∃ outcome, cancelOutcome record approved execution outcomeTs = .ok outcome ∧
        outcome.record = applied)
      ((m3d2dApplyCancelTransportExecution record approved execution outcomeTs).outcome store) :=
  writeBack_bind fun outcome computed => writeBack_persist ⟨outcome, computed, rfl⟩

theorem writeBack_restart (requestId : StrategyRequestId) (now : DateTimeUtc) :
    WriteBack store
      (fun applied _ => ∃ stored, store.getByRequestId requestId = some stored ∧
        stored.recoverAfterRestart now = .ok applied)
      ((recoverRecordAfterRestart requestId now).outcome store) := by
  refine writeBack_get (writeBack_bind fun stored found => writeBack_bind fun applied recovered => ?_)
  exact writeBack_last ⟨stored, (orReject_ok_iff ..).1 found, (mapError_ok_iff ..).1 recovered⟩

end Operations

section Outcomes

variable {record : OrderPathRecord} {execution : M3d2RealOrderEndpointTransportExecution} {outcomeTs : DateTimeUtc}
  {outcome : AppliedOutcome}

/-- What an outcome may change of a record: the state, the time and the notes. -/
structure KeepsAttempts (record applied : OrderPathRecord) : Prop where
  request : applied.requestId = record.requestId
  client : applied.clientOrderId = record.clientOrderId
  submits : applied.submitAttemptCount = record.submitAttemptCount
  cancels : applied.cancelAttemptCount = record.cancelAttemptCount

theorem applyTransition_ok {event : OrderPathEvent} {status : CommandAckStatus} {reason : CommandAckReasonCode}
    {kind : M3d2dLifecycleOutcomeKind}
    (applied : applyTransition record event outcomeTs status reason kind = .ok outcome) :
    ∃ state, nextOrderPathState record.state event = some state ∧
      outcome.record = { record.noteEvent event with state := state, lastUpdateTs := outcomeTs } := by
  unfold applyTransition at applied
  obtain ⟨moved, transitioned, result⟩ := bind_ok_iff.1 applied
  obtain ⟨state, reached, rfl⟩ := transitionOrError_ok transitioned
  cases (pure_ok_iff ..).1 result
  exact ⟨state, reached, rfl⟩

theorem requireManualIntervention_ok {status : CommandAckStatus} {errorKind : OrderPathErrorKind}
    {reason : CommandAckReasonCode} {kind : M3d2dLifecycleOutcomeKind}
    (applied : requireManualIntervention record outcomeTs status errorKind reason kind = .ok outcome) :
    KeepsAttempts record outcome.record ∧ outcome.record.brokerOrderId = record.brokerOrderId ∧
      nextOrderPathState record.state .requireManualIntervention = some outcome.record.state := by
  unfold requireManualIntervention at applied
  obtain ⟨moved, transitioned, result⟩ := bind_ok_iff.1 applied
  obtain ⟨state, reached, rfl⟩ := transitionOrError_ok transitioned
  cases (pure_ok_iff ..).1 result
  refine ⟨?_, ?_, reached⟩
  · constructor <;> simp [OrderPathRecord.noteEvent]
  · simp [OrderPathRecord.noteEvent]

theorem applyUnclassified_ok {requestSent : Bool} (applied : applyUnclassified record requestSent outcomeTs = .ok outcome) :
    KeepsAttempts record outcome.record ∧ outcome.record.brokerOrderId = record.brokerOrderId ∧
      nextOrderPathState record.state .requireManualIntervention = some outcome.record.state := by
  unfold applyUnclassified at applied
  split at applied
  · exact requireManualIntervention_ok applied
  · exact requireManualIntervention_ok applied

theorem keepsAttempts_noteEvent {event : OrderPathEvent} {state : OrderPathState}
    (counted : event ≠ .beginSubmit ∧ event ≠ .requestCancel) :
    KeepsAttempts record { record.noteEvent event with state := state, lastUpdateTs := outcomeTs } := by
  constructor <;> simp [counted]

def waitingStates : List OrderPathState :=
  [.submitInFlight, .submittedPendingBrokerOrderId, .timeoutUnknownPending, .brokerRejected,
    .manualInterventionRequired]

inductive PlaceAnswer (record : OrderPathRecord) (execution : M3d2RealOrderEndpointTransportExecution)
    (outcomeTs : DateTimeUtc) (applied : OrderPathRecord) : Prop where
  | submitted (brokerOrderId : BrokerOrderId)
      (named : execution.classifiedResponse = some (.execution (.accepted (some brokerOrderId))))
      (state : applied.state = .submitted) (known : applied.brokerOrderId = some brokerOrderId)
      (time : applied.lastUpdateTs = outcomeTs)
  | unnamed (state : applied.state ∈ waitingStates) (same : applied.brokerOrderId = record.brokerOrderId)

theorem placeOutcome_ok (inFlight : record.state = .submitInFlight)
    (applied : placeOutcome record execution outcomeTs = .ok outcome) :
    KeepsAttempts record outcome.record ∧ PlaceAnswer record execution outcomeTs outcome.record := by
  unfold placeOutcome at applied
  split at applied
  · rename_i brokerOrderId named
    obtain ⟨state, reached, isRecord⟩ := applyTransition_ok applied
    have isSubmitted : OrderPathState.submitted = state := by
      rw [inFlight] at reached
      exact Option.some.inj reached
    rw [isRecord]
    refine ⟨?_, .submitted brokerOrderId named isSubmitted.symm (by simp) rfl⟩
    constructor <;> simp
  · obtain ⟨state, reached, isRecord⟩ := applyTransition_ok applied
    have isPending : OrderPathState.submittedPendingBrokerOrderId = state := by
      rw [inFlight] at reached
      exact Option.some.inj reached
    rw [isRecord]
    exact ⟨keepsAttempts_noteEvent (by decide), .unnamed (by simp [← isPending, waitingStates]) (by simp)⟩
  · obtain ⟨state, reached, isRecord⟩ := applyTransition_ok applied
    have isRejected : OrderPathState.brokerRejected = state := by
      rw [inFlight] at reached
      exact Option.some.inj reached
    rw [isRecord]
    exact ⟨keepsAttempts_noteEvent (by decide), .unnamed (by simp [← isRejected, waitingStates]) (by simp)⟩
  · obtain ⟨state, reached, isRecord⟩ := applyTransition_ok applied
    have isUnknown : OrderPathState.timeoutUnknownPending = state := by
      rw [inFlight] at reached
      exact Option.some.inj reached
    rw [isRecord]
    exact ⟨keepsAttempts_noteEvent (by decide), .unnamed (by simp [← isUnknown, waitingStates]) (by simp)⟩
  · obtain ⟨kept, sameBroker, reached⟩ := requireManualIntervention_ok applied
    have isManual : OrderPathState.manualInterventionRequired = outcome.record.state := by
      rw [inFlight] at reached
      exact Option.some.inj reached
    exact ⟨kept, .unnamed (by simp [← isManual, waitingStates]) sameBroker⟩
  · obtain ⟨kept, sameBroker, reached⟩ := applyUnclassified_ok applied
    have isManual : OrderPathState.manualInterventionRequired = outcome.record.state := by
      rw [inFlight] at reached
      exact Option.some.inj reached
    exact ⟨kept, .unnamed (by simp [← isManual, waitingStates]) sameBroker⟩

def cancelStates : List OrderPathState :=
  [.cancelRequested, .cancelSubmitted, .cancelTimeoutUnknownPending, .manualInterventionRequired]

def cancelEvents : List OrderPathEvent :=
  [.cancelAccepted, .cancelRejected, .cancelTimedOut, .requireManualIntervention]

theorem cancelState_of_event {event : OrderPathEvent} {state : OrderPathState} (isOutcome : event ∈ cancelEvents)
    (reached : nextOrderPathState .cancelRequested event = some state) : state ∈ cancelStates := by
  simp only [cancelEvents, List.mem_cons, List.not_mem_nil, or_false] at isOutcome
  obtain rfl | rfl | rfl | rfl := isOutcome
  · cases reached
    decide
  · cases reached
    decide
  · cases reached
    decide
  · cases reached
    decide

theorem cancelOutcome_ok {approved : PreflightApprovedCancelOrder} (requested : record.state = .cancelRequested)
    (applied : cancelOutcome record approved execution outcomeTs = .ok outcome) :
    KeepsAttempts record outcome.record ∧ outcome.record.brokerOrderId = record.brokerOrderId ∧
      outcome.record.state ∈ cancelStates := by
  have moves : ∀ {event status reason kind},
      applyTransition record event outcomeTs status reason kind = .ok outcome →
      event ∈ cancelEvents →
      KeepsAttempts record outcome.record ∧ outcome.record.brokerOrderId = record.brokerOrderId ∧
        outcome.record.state ∈ cancelStates := by
    intro event status reason kind transitioned isOutcome
    obtain ⟨state, reached, isRecord⟩ := applyTransition_ok transitioned
    rw [requested] at reached
    rw [isRecord]
    refine ⟨keepsAttempts_noteEvent ?_, by simp, cancelState_of_event isOutcome reached⟩
    constructor
    · rintro rfl
      revert isOutcome
      decide
    · rintro rfl
      revert isOutcome
      decide
  have manual : ∀ {applied : OrderPathRecord}, KeepsAttempts record applied ∧
      applied.brokerOrderId = record.brokerOrderId ∧
      nextOrderPathState record.state .requireManualIntervention = some applied.state →
      KeepsAttempts record applied ∧ applied.brokerOrderId = record.brokerOrderId ∧ applied.state ∈ cancelStates := by
    rintro applied ⟨kept, sameBroker, reached⟩
    rw [requested] at reached
    exact ⟨kept, sameBroker, cancelState_of_event (by decide) reached⟩
  unfold cancelOutcome at applied
  split at applied
  · split at applied
    · exact moves applied (by decide)
    · exact moves applied (by decide)
  · exact moves applied (by decide)
  · exact moves applied (by decide)
  · exact manual (requireManualIntervention_ok applied)
  · exact manual (applyUnclassified_ok applied)

end Outcomes

def handedOut (copies : List OrderPathRecord) (requestId : StrategyRequestId) : Nat :=
  (copies.map OrderPathRecord.requestId).count requestId

/-- Submits and cancels are persisted at most once for a request, as often as its stored
record says, and cancels only with a known broker order id. -/
structure SendsOnce (state : LifecycleState) : Prop where
  submits : (state.submits.map OrderPathRecord.requestId).Nodup
  cancels : (state.cancels.map OrderPathRecord.requestId).Nodup
  counted : ∀ requestId record, state.store.getByRequestId requestId = some record →
    record.submitAttemptCount.toNat = handedOut state.submits requestId ∧
      record.cancelAttemptCount.toNat = handedOut state.cancels requestId
  known : ∀ copy ∈ state.cancels, copy.brokerOrderId ≠ none

def RemembersAttempts (state next : LifecycleState) : Prop :=
  ∀ requestId record, state.store.getByRequestId requestId = some record →
    ∃ later, next.store.getByRequestId requestId = some later ∧
      record.submitAttemptCount ≤ later.submitAttemptCount ∧ record.cancelAttemptCount ≤ later.cancelAttemptCount

/-- The answer to a place names the stored broker order, in time, but after a cancel of it was persisted. -/
def ForgetsCancel (state : LifecycleState) : LifecycleEvent → Prop
  | .applyPlace record execution outcomeTs =>
      ∃ stored, state.store.getByRequestId record.requestId = some stored ∧ 0 < stored.cancelAttemptCount ∧
        ¬ stored.lastUpdateTs.After outcomeTs ∧ ∃ brokerOrderId, stored.brokerOrderId = some brokerOrderId ∧
          execution.classifiedResponse = some (.execution (.accepted (some brokerOrderId)))
  | _ => False

def pendingStates : List OrderPathState :=
  [.submitInFlight, .submittedPendingBrokerOrderId, .timeoutUnknownPending]

def workingStates : List OrderPathState :=
  [.submitted, .recoveredByClientOrderId]

/-- Where a record is in its life, with how often its submit and its cancel were persisted. -/
inductive Phase (record : OrderPathRecord) : Nat → Nat → Prop where
  | recorded (state : record.state = .intentRecorded) (unknown : record.brokerOrderId = none)
      (submits : record.submitAttemptCount = 0) (cancels : record.cancelAttemptCount = 0) : Phase record 0 0
  | waiting (state : record.state ∈ waitingStates)
      (submits : record.submitAttemptCount = 1) (cancels : record.cancelAttemptCount = 0) : Phase record 1 0
  | working (state : record.state ∈ workingStates)
      (known : record.brokerOrderId ≠ none) (submits : record.submitAttemptCount = 1)
      (cancels : record.cancelAttemptCount = 0) : Phase record 1 0
  | cancelling (state : record.state ∈ cancelStates) (known : record.brokerOrderId ≠ none)
      (submits : record.submitAttemptCount = 1) (cancels : record.cancelAttemptCount = 1) : Phase record 1 1

theorem Phase.counts {record : OrderPathRecord} {submits cancels : Nat} (phase : Phase record submits cancels) :
    record.submitAttemptCount.toNat = submits ∧ record.cancelAttemptCount.toNat = cancels ∧
      submits ≤ 1 ∧ cancels ≤ submits := by
  cases phase with
  | recorded state unknown submits cancels => simp [submits, cancels]
  | waiting state submits cancels => simp [submits, cancels]
  | working state known submits cancels => simp [submits, cancels]
  | cancelling state known submits cancels => simp [submits, cancels]

section Phases

variable {record : OrderPathRecord} {submits cancels : Nat} (phase : Phase record submits cancels)

include phase

theorem Phase.of_recorded (state : record.state = .intentRecorded) :
    record.brokerOrderId = none ∧ record.submitAttemptCount = 0 ∧ record.cancelAttemptCount = 0 ∧
      submits = 0 ∧ cancels = 0 := by
  cases phase with
  | recorded _ unknown submits cancels => exact ⟨unknown, submits, cancels, rfl, rfl⟩
  | waiting isState => simp [state, waitingStates] at isState
  | working isState => simp [state, workingStates] at isState
  | cancelling isState => simp [state, cancelStates] at isState

theorem Phase.of_pending (state : record.state ∈ pendingStates) :
    record.submitAttemptCount = 1 ∧ record.cancelAttemptCount = 0 ∧ submits = 1 ∧ cancels = 0 := by
  cases phase with
  | recorded isState => simp [isState, pendingStates] at state
  | waiting _ submits cancels => exact ⟨submits, cancels, rfl, rfl⟩
  | working isState =>
      have disjoint : ∀ current ∈ pendingStates, current ∉ workingStates := by decide
      exact absurd isState (disjoint _ state)
  | cancelling isState =>
      have disjoint : ∀ current ∈ pendingStates, current ∉ cancelStates := by decide
      exact absurd isState (disjoint _ state)

theorem Phase.of_working (state : record.state ∈ workingStates) :
    record.brokerOrderId ≠ none ∧ record.submitAttemptCount = 1 ∧ record.cancelAttemptCount = 0 ∧
      submits = 1 ∧ cancels = 0 := by
  cases phase with
  | recorded isState => simp [isState, workingStates] at state
  | waiting isState =>
      have disjoint : ∀ current ∈ workingStates, current ∉ waitingStates := by decide
      exact absurd isState (disjoint _ state)
  | working _ known submits cancels => exact ⟨known, submits, cancels, rfl, rfl⟩
  | cancelling isState =>
      have disjoint : ∀ current ∈ workingStates, current ∉ cancelStates := by decide
      exact absurd isState (disjoint _ state)

theorem Phase.of_cancelled (cancelled : 0 < record.cancelAttemptCount) : record.state ∈ cancelStates := by
  cases phase with
  | recorded _ _ _ cancels => simp [cancels] at cancelled
  | waiting _ _ cancels => simp [cancels] at cancelled
  | working _ _ _ cancels => simp [cancels] at cancelled
  | cancelling isState => exact isState

end Phases

theorem beginSubmit_from {state reached : OrderPathState} (moves : nextOrderPathState state .beginSubmit = some reached) :
    state = .intentRecorded ∧ reached = .submitInFlight := by
  cases state <;> cases moves
  exact ⟨rfl, rfl⟩

theorem requestCancel_from {state reached : OrderPathState}
    (moves : nextOrderPathState state .requestCancel = some reached) :
    state ∈ workingStates ∧ reached = .cancelRequested := by
  cases state <;> cases moves
  · exact ⟨by decide, rfl⟩
  · exact ⟨by decide, rfl⟩

structure CopyOf (store : InMemoryOrderPathStore) (copy : OrderPathRecord) : Prop where
  stored : ∃ stored, store.getByRequestId copy.requestId = some stored ∧ stored.clientOrderId = copy.clientOrderId

theorem CopyOf.follows {store next : InMemoryOrderPathStore} {copy : OrderPathRecord} (copyOf : CopyOf store copy)
    (follows : Follows store next) : CopyOf next copy := by
  obtain ⟨stored, found, sameClient⟩ := copyOf.stored
  obtain ⟨later, foundLater, succeeds⟩ := follows _ _ found
  exact ⟨later, foundLater, succeeds.client.trans sameClient⟩

structure SubmitCopy (copy : OrderPathRecord) : Prop where
  state : copy.state = .submitInFlight
  unknown : copy.brokerOrderId = none
  submits : copy.submitAttemptCount = 1
  cancels : copy.cancelAttemptCount = 0

structure CancelCopy (copy : OrderPathRecord) : Prop where
  state : copy.state = .cancelRequested
  known : copy.brokerOrderId ≠ none
  submits : copy.submitAttemptCount = 1
  cancels : copy.cancelAttemptCount = 1

/-- The invariant of the lifecycle: every stored record is in a phase that agrees with the
copies handed out, and the copies are as they were persisted. -/
structure LifecycleSound (state : LifecycleState) : Prop where
  wellFormed : state.store.WellFormed
  phase : ∀ requestId record, state.store.getByRequestId requestId = some record →
    Phase record (handedOut state.submits requestId) (handedOut state.cancels requestId)
  submits : ∀ copy ∈ state.submits, CopyOf state.store copy ∧ SubmitCopy copy
  cancels : ∀ copy ∈ state.cancels, CopyOf state.store copy ∧ CancelCopy copy

theorem lifecycleSound_initial : LifecycleSound .initial := by
  constructor
  · exact wellFormed_empty
  · simp [LifecycleState.initial, InMemoryOrderPathStore.empty, InMemoryOrderPathStore.getByRequestId]
  · simp [LifecycleState.initial]
  · simp [LifecycleState.initial]

theorem handedOut_pos {copies : List OrderPathRecord} {copy : OrderPathRecord} (member : copy ∈ copies) :
    0 < handedOut copies copy.requestId :=
  List.count_pos_iff.2 (List.mem_map_of_mem member)

theorem handedOut_cons (copies : List OrderPathRecord) (copy : OrderPathRecord) (requestId : StrategyRequestId) :
    handedOut (copy :: copies) requestId =
      if requestId = copy.requestId then handedOut copies requestId + 1 else handedOut copies requestId := by
  unfold handedOut
  rw [List.map_cons, List.count_cons]
  by_cases same : requestId = copy.requestId
  · simp [same]
  · simp [same, Ne.symm same]

theorem handedOut_eq_zero {store : InMemoryOrderPathStore} {copies : List OrderPathRecord}
    (copyOf : ∀ copy ∈ copies, CopyOf store copy) {requestId : StrategyRequestId}
    (unknown : store.getByRequestId requestId = none) : handedOut copies requestId = 0 := by
  unfold handedOut
  rw [List.count_eq_zero, List.mem_map]
  rintro ⟨copy, member, rfl⟩
  obtain ⟨stored, found, -⟩ := (copyOf copy member).stored
  cases unknown.symm.trans found

theorem nodup_of_handedOut {copies : List OrderPathRecord}
    (once : ∀ requestId, handedOut copies requestId ≤ 1) : (copies.map OrderPathRecord.requestId).Nodup :=
  List.nodup_iff_count_le_one.2 once

theorem LifecycleSound.sendsOnce {state : LifecycleState} (sound : LifecycleSound state) : SendsOnce state := by
  constructor
  · apply nodup_of_handedOut
    intro requestId
    cases found : state.store.getByRequestId requestId with
    | none => simp [handedOut_eq_zero (fun copy member => (sound.submits copy member).1) found]
    | some record => exact (sound.phase requestId record found).counts.2.2.1
  · apply nodup_of_handedOut
    intro requestId
    cases found : state.store.getByRequestId requestId with
    | none => simp [handedOut_eq_zero (fun copy member => (sound.cancels copy member).1) found]
    | some record =>
        have counts := (sound.phase requestId record found).counts
        exact counts.2.2.2.trans counts.2.2.1
  · intro requestId record found
    have counts := (sound.phase requestId record found).counts
    exact ⟨counts.1, counts.2.1⟩
  · intro copy member
    exact (sound.cancels copy member).2.known

def StepKeeps (state next : LifecycleState) : Prop :=
  LifecycleSound next ∧ RemembersAttempts state next

theorem StepKeeps.refl {state : LifecycleState} (sound : LifecycleSound state) : StepKeeps state state :=
  ⟨sound, fun _ record found => ⟨record, found, UInt32.le_refl _, UInt32.le_refl _⟩⟩

/-- A record that is put in the place of the stored one, with the copies handed out for it. -/
theorem LifecycleSound.write {state : LifecycleState} (sound : LifecycleSound state) {applied : OrderPathRecord}
    {next : InMemoryOrderPathStore} {submits cancels : List OrderPathRecord}
    (success : state.store.updateRecord applied = .ok next)
    (otherSubmits : ∀ requestId ≠ applied.requestId, handedOut submits requestId = handedOut state.submits requestId)
    (otherCancels : ∀ requestId ≠ applied.requestId, handedOut cancels requestId = handedOut state.cancels requestId)
    (moreSubmits : handedOut state.submits applied.requestId ≤ handedOut submits applied.requestId)
    (moreCancels : handedOut state.cancels applied.requestId ≤ handedOut cancels applied.requestId)
    (submitCopies : ∀ copy ∈ submits, copy ∈ state.submits ∨ copy = applied ∧ SubmitCopy copy)
    (cancelCopies : ∀ copy ∈ cancels, copy ∈ state.cancels ∨ copy = applied ∧ CancelCopy copy)
    (phase : Phase applied (handedOut submits applied.requestId) (handedOut cancels applied.requestId)) :
    StepKeeps state { store := next, submits := submits, cancels := cancels } := by
  have stored := getByRequestId_of_updateRecord success
  have follows := follows_of_updateRecord success
  have own : CopyOf next applied := ⟨applied, by rw [stored, if_pos rfl], rfl⟩
  refine ⟨?_, ?_⟩
  · constructor
    · exact sound.wellFormed.updateRecord success
    · intro requestId record found
      rw [stored] at found
      by_cases same : requestId = applied.requestId
      · rw [if_pos same] at found
        cases found
        rw [same]
        exact phase
      · rw [if_neg same] at found
        rw [otherSubmits requestId same, otherCancels requestId same]
        exact sound.phase requestId record found
    · intro copy member
      obtain earlier | ⟨rfl, isCopy⟩ := submitCopies copy member
      · exact ⟨(sound.submits copy earlier).1.follows follows, (sound.submits copy earlier).2⟩
      · exact ⟨own, isCopy⟩
    · intro copy member
      obtain earlier | ⟨rfl, isCopy⟩ := cancelCopies copy member
      · exact ⟨(sound.cancels copy earlier).1.follows follows, (sound.cancels copy earlier).2⟩
      · exact ⟨own, isCopy⟩
  · intro requestId record found
    by_cases same : requestId = applied.requestId
    · have before := (sound.phase requestId record found).counts
      have after := phase.counts
      refine ⟨applied, by rw [stored, if_pos same], ?_, ?_⟩
      · rw [UInt32.le_iff_toNat_le, before.1, after.1, same]
        exact moreSubmits
      · rw [UInt32.le_iff_toNat_le, before.2.1, after.2.1, same]
        exact moreCancels
    · exact ⟨record, by rw [stored, if_neg same, found], UInt32.le_refl _, UInt32.le_refl _⟩

/-- A record that is put in the place of the stored one, no copy being handed out. -/
theorem LifecycleSound.rewrite {state : LifecycleState} (sound : LifecycleSound state) {applied : OrderPathRecord}
    {next : InMemoryOrderPathStore} (success : state.store.updateRecord applied = .ok next)
    (phase : Phase applied (handedOut state.submits applied.requestId) (handedOut state.cancels applied.requestId)) :
    StepKeeps state { state with store := next } :=
  sound.write success (fun _ _ => rfl) (fun _ _ => rfl) le_rfl le_rfl (fun _ => .inl) (fun _ => .inl) phase

section Steps

variable {state : LifecycleState} (sound : LifecycleSound state)

include sound

theorem keeps_insertIntent (order : PlaceOrder) (now : DateTimeUtc) (outgoingComment : Option OutgoingOrderComment) :
    StepKeeps state (state.after (.insertIntent order now outgoingComment)) := by
  simp only [LifecycleState.after, outcome_runInsertIntent]
  cases success : state.store.insertIntent (.fromPlaceOrder order now outgoingComment) with
  | error error => exact .refl sound
  | ok next =>
      have follows := follows_of_insertIntent success
      obtain ⟨unknown, -, -, isNext⟩ := insertIntent_ok_iff.1 success
      have stored := getByRequestId_withRecord state.store (.fromPlaceOrder order now outgoingComment)
      rw [isNext] at stored
      refine ⟨?_, ?_⟩
      · constructor
        · exact sound.wellFormed.insertIntent success
        · intro requestId record found
          change next.getByRequestId requestId = some record at found
          rw [stored] at found
          split at found
          · rename_i same
            cases found
            subst same
            rw [handedOut_eq_zero (fun copy member => (sound.submits copy member).1) unknown,
              handedOut_eq_zero (fun copy member => (sound.cancels copy member).1) unknown]
            exact .recorded rfl rfl rfl rfl
          · exact sound.phase requestId record found
        · exact fun copy member => ⟨(sound.submits copy member).1.follows follows, (sound.submits copy member).2⟩
        · exact fun copy member => ⟨(sound.cancels copy member).1.follows follows, (sound.cancels copy member).2⟩
      · intro requestId record found
        refine ⟨record, ?_, UInt32.le_refl _, UInt32.le_refl _⟩
        change next.getByRequestId requestId = some record
        rw [stored, if_neg, found]
        rintro rfl
        cases unknown.symm.trans found

/-- A submit is persisted of an intent alone. -/
theorem keeps_persistPlace (approved : PreflightApprovedPlaceOrder) (beginTs : DateTimeUtc) :
    StepKeeps state (state.after (.persistPlace approved beginTs)) := by
  have writes := writeBack_persistPlace state.store approved beginTs
  simp only [LifecycleState.after]
  revert writes
  generalize (m3d2dPersistPlaceBeginSubmit approved beginTs).outcome state.store = outcome
  intro writes
  cases writes with
  | refused error => exact .refl sound
  | written applied result next built success =>
      obtain ⟨rfl, stored, found, transitioned⟩ := built
      obtain ⟨reached, moves, rfl⟩ := transitionOrError_ok transitioned
      obtain ⟨isIntent, rfl⟩ := beginSubmit_from moves
      have phase := sound.phase _ _ found
      rw [← sound.wellFormed.requestId_eq found] at phase
      obtain ⟨unknown, submits, cancels, noSubmit, noCancel⟩ := phase.of_recorded isIntent
      refine sound.write success ?_ (fun _ _ => rfl) ?_ le_rfl ?_ (fun _ => .inl) ?_
      · intro requestId differs
        rw [handedOut_cons, if_neg differs]
      · rw [handedOut_cons, if_pos rfl]
        exact Nat.le_succ _
      · intro copy member
        obtain rfl | earlier := List.mem_cons.1 member
        · refine .inr ⟨rfl, ?_⟩
          constructor
          · rfl
          · simpa using unknown
          · simp [submits]
          · simpa using cancels
        · exact .inl earlier
      · rw [handedOut_cons, if_pos rfl]
        simp only [OrderPathRecord.noteEvent_requestId, noSubmit, noCancel]
        exact .waiting (by simp [waitingStates]) (by simp [submits]) (by simpa using cancels)

/-- A cancel is persisted of a working order alone. -/
theorem keeps_persistCancel (approved : PreflightApprovedCancelOrder) (beginTs : DateTimeUtc) :
    StepKeeps state (state.after (.persistCancel approved beginTs)) := by
  have writes := writeBack_persistCancel state.store approved beginTs
  simp only [LifecycleState.after]
  revert writes
  generalize (m3d2dPersistCancelRequest approved beginTs).outcome state.store = outcome
  intro writes
  cases writes with
  | refused error => exact .refl sound
  | written applied result next built success =>
      obtain ⟨rfl, requestId, stored, -, found, transitioned⟩ := built
      obtain ⟨reached, moves, rfl⟩ := transitionOrError_ok transitioned
      obtain ⟨isWorking, rfl⟩ := requestCancel_from moves
      have phase := sound.phase _ _ found
      rw [← sound.wellFormed.requestId_eq found] at phase
      obtain ⟨known, submits, cancels, oneSubmit, noCancel⟩ := phase.of_working isWorking
      refine sound.write success (fun _ _ => rfl) ?_ le_rfl ?_ (fun _ => .inl) ?_ ?_
      · intro requestId differs
        rw [handedOut_cons, if_neg differs]
      · rw [handedOut_cons, if_pos rfl]
        exact Nat.le_succ _
      · intro copy member
        obtain rfl | earlier := List.mem_cons.1 member
        · refine .inr ⟨rfl, ?_⟩
          constructor
          · rfl
          · simpa using known
          · simpa using submits
          · simp [cancels]
        · exact .inl earlier
      · rw [handedOut_cons, if_pos rfl]
        simp only [OrderPathRecord.noteEvent_requestId, oneSubmit, noCancel]
        exact .cancelling (by simp [cancelStates]) (by simpa using known) (by simpa using submits) (by simp [cancels])

theorem keeps_recover (clientOrderId : ClientOrderId) (brokerOrderId : BrokerOrderId) (now : DateTimeUtc) :
    StepKeeps state (state.after (.recover clientOrderId brokerOrderId now)) := by
  have recovery := recovery_spec state.store clientOrderId brokerOrderId now
  simp only [LifecycleState.after]
  revert recovery
  generalize (recoverOrderPathByClientOrderId clientOrderId brokerOrderId now).outcome state.store = outcome
  intro recovery
  cases recovery with
  | refused error => exact .refl sound
  | known record => exact .refl sound
  | recovered existing record next found unknown waiting moved written =>
      obtain ⟨stored, -⟩ := (getByClientOrderId_iff sound.wellFormed).1 found
      obtain ⟨reached, moves, rfl⟩ := OrderPathRecord.transition_ok_iff.1 moved
      have isRecovered : reached = .recoveredByClientOrderId := by
        simp only [List.mem_cons, List.not_mem_nil, or_false] at waiting
        obtain waits | waits := waiting
        · rw [waits] at moves
          exact (Option.some.inj moves).symm
        · rw [waits] at moves
          exact (Option.some.inj moves).symm
      obtain ⟨submits, cancels, oneSubmit, noCancel⟩ :=
        (sound.phase _ _ stored).of_pending (List.mem_cons_of_mem _ waiting)
      apply sound.rewrite written
      simp only [OrderPathRecord.noteEvent_requestId, oneSubmit, noCancel]
      exact .working (by simp [isRecovered, workingStates]) (by simp) (by simpa using submits) (by simpa using cancels)

theorem keeps_restart (requestId : StrategyRequestId) (now : DateTimeUtc) :
    StepKeeps state (state.after (.restart requestId now)) := by
  have writes := writeBack_restart state.store requestId now
  simp only [LifecycleState.after]
  revert writes
  generalize (recoverRecordAfterRestart requestId now).outcome state.store = outcome
  intro writes
  cases writes with
  | refused error => exact .refl sound
  | written applied result next built success =>
      obtain ⟨stored, found, recovered⟩ := built
      have phase := sound.phase _ _ found
      rw [← sound.wellFormed.requestId_eq found] at phase
      unfold OrderPathRecord.recoverAfterRestart at recovered
      split at recovered
      · rename_i inFlight
        obtain ⟨reached, moves, rfl⟩ := OrderPathRecord.transition_ok_iff.1 recovered
        have isUnknown : OrderPathState.timeoutUnknownPending = reached := by
          rw [inFlight] at moves
          exact Option.some.inj moves
        obtain ⟨submits, cancels, oneSubmit, noCancel⟩ := phase.of_pending (by simp [inFlight, pendingStates])
        apply sound.rewrite success
        simp only [OrderPathRecord.noteEvent_requestId, oneSubmit, noCancel]
        exact .waiting (by simp [← isUnknown, waitingStates]) (by simpa using submits) (by simpa using cancels)
      · cases recovered
        exact sound.rewrite success phase

/-- A cancel outcome is applied to a record whose cancel was persisted, and keeps its counts. -/
theorem keeps_applyCancel {record : OrderPathRecord} (member : record ∈ state.cancels)
    (approved : PreflightApprovedCancelOrder) (execution : M3d2RealOrderEndpointTransportExecution)
    (outcomeTs : DateTimeUtc) : StepKeeps state (state.after (.applyCancel record approved execution outcomeTs)) := by
  have writes := writeBack_applyCancel state.store record approved execution outcomeTs
  simp only [LifecycleState.after]
  revert writes
  generalize (m3d2dApplyCancelTransportExecution record approved execution outcomeTs).outcome state.store = outcome
  intro writes
  cases writes with
  | refused error => exact .refl sound
  | written applied result next built success =>
      obtain ⟨outcome, computed, rfl⟩ := built
      obtain ⟨⟨⟨stored, found, -⟩⟩, isCopy⟩ := sound.cancels record member
      obtain ⟨kept, sameBroker, isState⟩ := cancelOutcome_ok isCopy.state computed
      have counts := (sound.phase _ _ found).counts
      have handed := handedOut_pos member
      have oneCancel : handedOut state.cancels record.requestId = 1 := by omega
      have oneSubmit : handedOut state.submits record.requestId = 1 := by omega
      apply sound.rewrite success
      rw [kept.request, oneCancel, oneSubmit]
      exact .cancelling isState (sameBroker ▸ isCopy.known) (kept.submits.trans isCopy.submits)
        (kept.cancels.trans isCopy.cancels)

/-- A place outcome is applied to a record whose submit was persisted; where a cancel was
persisted since, the store takes it only with the broker order named and in time. -/
theorem keeps_applyPlace {record : OrderPathRecord} (member : record ∈ state.submits)
    (execution : M3d2RealOrderEndpointTransportExecution) (outcomeTs : DateTimeUtc)
    (remembers : ¬ ForgetsCancel state (.applyPlace record execution outcomeTs)) :
    StepKeeps state (state.after (.applyPlace record execution outcomeTs)) := by
  have writes := writeBack_applyPlace state.store record execution outcomeTs
  simp only [LifecycleState.after]
  revert writes
  generalize (m3d2dApplyPlaceTransportExecution record execution outcomeTs).outcome state.store = outcome
  intro writes
  cases writes with
  | refused error => exact .refl sound
  | written applied result next built success =>
      obtain ⟨outcome, computed, rfl⟩ := built
      obtain ⟨⟨⟨stored, found, -⟩⟩, isCopy⟩ := sound.submits record member
      obtain ⟨kept, answer⟩ := placeOutcome_ok isCopy.state computed
      have phase := sound.phase _ _ found
      have handed := handedOut_pos member
      have counts := phase.counts
      have oneSubmit : handedOut state.submits record.requestId = 1 := by omega
      obtain ⟨existing, isExisting, succeeds⟩ := succeeds_of_updateRecord success
      rw [kept.request, found] at isExisting
      cases isExisting
      have noCancel : handedOut state.cancels record.requestId = 0 := by
        by_contra someCancel
        have oneCancel : handedOut state.cancels record.requestId = 1 := by omega
        rw [oneSubmit, oneCancel] at phase
        cases phase with
        | cancelling isState known submits cancels =>
            obtain ⟨brokerOrderId, isKnown⟩ := Option.ne_none_iff_exists'.1 known
            have sameKnown := succeeds.broker brokerOrderId isKnown
            cases answer with
            | submitted answered named isSubmitted isAnswered time =>
                have sameAnswer := isAnswered.symm.trans sameKnown
                have onTime := succeeds.time
                rw [time] at onTime
                exact remembers
                  ⟨stored, found, by rw [cancels]; decide, onTime, brokerOrderId, isKnown, by rw [named, sameAnswer]⟩
            | unnamed isState same =>
                rw [same, isCopy.unknown] at sameKnown
                cases sameKnown
      apply sound.rewrite success
      rw [kept.request, oneSubmit, noCancel]
      have submits := kept.submits.trans isCopy.submits
      have cancels := kept.cancels.trans isCopy.cancels
      cases answer with
      | submitted answered named isSubmitted isAnswered time =>
          exact .working (by simp [isSubmitted, workingStates]) (by simp [isAnswered]) submits cancels
      | unnamed isState same => exact .waiting isState submits cancels

omit sound in
theorem placeOutcome_of_named {record : OrderPathRecord} (inFlight : record.state = .submitInFlight)
    {execution : M3d2RealOrderEndpointTransportExecution} {brokerOrderId : BrokerOrderId}
    (named : execution.classifiedResponse = some (.execution (.accepted (some brokerOrderId))))
    (outcomeTs : DateTimeUtc) :
    ∃ outcome, placeOutcome record execution outcomeTs = .ok outcome ∧ KeepsAttempts record outcome.record ∧
      outcome.record.brokerOrderId = some brokerOrderId ∧ outcome.record.lastUpdateTs = outcomeTs := by
  unfold placeOutcome
  rw [named]
  have moves : nextOrderPathState record.state .submitAccepted = some .submitted := by rw [inFlight]; rfl
  simp only [applyTransition, transitionOrError, OrderPathRecord.transition, moves]
  refine ⟨_, rfl, ?_, rfl, rfl⟩
  constructor <;> rfl

omit sound in
theorem updateRecord_of_known {store : InMemoryOrderPathStore} {record existing : OrderPathRecord}
    (found : store.getByRequestId record.requestId = some existing)
    (sameClient : existing.clientOrderId = record.clientOrderId) (known : existing.brokerOrderId ≠ none)
    (sameBroker : record.brokerOrderId = existing.brokerOrderId) (working : ¬ existing.state.IsTerminal)
    (onTime : ¬ existing.lastUpdateTs.After record.lastUpdateTs) : ∃ next, store.updateRecord record = .ok next := by
  obtain ⟨brokerOrderId, isKnown⟩ := Option.ne_none_iff_exists'.1 known
  have broker : store.checkBrokerOrderId existing record = .ok () := by
    unfold checkBrokerOrderId
    simp [sameBroker, isKnown]
  unfold InMemoryOrderPathStore.updateRecord
  simp [found, orReject, sameClient, broker, working, onTime]

/-- An answer that forgets a cancel lowers the count. -/
theorem lowered_of_forgetsCancel {event : LifecycleEvent} (handedOut : CopyHandedOut state event)
    (forgets : ForgetsCancel state event) : ¬ RemembersAttempts state (state.after event) := by
  cases event with
  | applyPlace record execution outcomeTs =>
      obtain ⟨stored, found, cancelled, onTime, brokerOrderId, isKnown, named⟩ := forgets
      obtain ⟨⟨⟨existing, isExisting, sameClient⟩⟩, isCopy⟩ := sound.submits record handedOut
      cases isExisting.symm.trans found
      obtain ⟨outcome, computed, kept, answered, time⟩ := placeOutcome_of_named isCopy.state named outcomeTs
      have working : ¬ stored.state.IsTerminal := by
        have disjoint : ∀ current ∈ cancelStates, ¬ current.IsTerminal := by decide
        exact disjoint _ ((sound.phase _ _ found).of_cancelled cancelled)
      obtain ⟨next, success⟩ := updateRecord_of_known (by rw [kept.request, found]) (by rw [sameClient, kept.client])
        (by simp [isKnown]) (by rw [answered, isKnown]) working (by rwa [time])
      have isNext : (state.after (.applyPlace record execution outcomeTs)).store = next := by
        simp [-bind_pure_comp, LifecycleState.after, m3d2dApplyPlaceTransportExecution, persistRecord,
          Action.outcome_bind, computed, outcome_runUpdateRecord, success, committed, Except.mapError]
      intro remembers
      obtain ⟨later, isLater, -, notLess⟩ := remembers _ _ found
      rw [isNext, getByRequestId_of_updateRecord success, if_pos kept.request.symm] at isLater
      cases isLater
      rw [kept.cancels, isCopy.cancels] at notLess
      exact UInt32.not_le.2 cancelled notLess
  | insertIntent => exact absurd forgets id
  | persistPlace => exact absurd forgets id
  | persistCancel => exact absurd forgets id
  | applyCancel => exact absurd forgets id
  | recover => exact absurd forgets id
  | restart => exact absurd forgets id

theorem keeps_after {event : LifecycleEvent} (handedOut : CopyHandedOut state event)
    (remembers : ¬ ForgetsCancel state event) : StepKeeps state (state.after event) := by
  cases event with
  | insertIntent order now outgoingComment => exact keeps_insertIntent sound order now outgoingComment
  | persistPlace approved beginTs => exact keeps_persistPlace sound approved beginTs
  | applyPlace record execution outcomeTs => exact keeps_applyPlace sound handedOut execution outcomeTs remembers
  | persistCancel approved beginTs => exact keeps_persistCancel sound approved beginTs
  | applyCancel record approved execution outcomeTs =>
      exact keeps_applyCancel sound handedOut approved execution outcomeTs
  | recover clientOrderId brokerOrderId now => exact keeps_recover sound clientOrderId brokerOrderId now
  | restart requestId now => exact keeps_restart sound requestId now

end Steps

/-- In every run from an empty store, whatever the order of the operations, each step leaves
every submit and cancel persisted at most once and no count lower, exactly when no step
applies an answer that forgets a cancel. -/
theorem lifecycle_sends_once_iff (events : List LifecycleEvent)
    (handedOut : EveryStep LifecycleState.after CopyHandedOut .initial events) :
    EveryStep LifecycleState.after
        (fun state event => SendsOnce (state.after event) ∧ RemembersAttempts state (state.after event))
        .initial events ↔
      EveryStep LifecycleState.after (fun state event => ¬ ForgetsCancel state event) .initial events := by
  refine EveryStep.iff_of_step ?_ lifecycleSound_initial handedOut
  intro state event sound isHandedOut
  refine ⟨⟨?_, ?_⟩, fun remembers => (keeps_after sound isHandedOut remembers).1⟩
  · rintro ⟨-, remembers⟩ forgets
    exact lowered_of_forgetsCancel sound isHandedOut forgets remembers
  · intro remembers
    obtain ⟨next, counts⟩ := keeps_after sound isHandedOut remembers
    exact ⟨next.sendsOnce, counts⟩

section Sample

def sampleAt (seconds : Int) : DateTimeUtc :=
  { seconds := seconds
    nanos := 0 }

def sampleOrder : PlaceOrder :=
  { requestId := { uuid := Vector.replicate 16 1 }
    createdTs := sampleAt 0
    ttlMs := some 1000
    accountId := { value := "ACC_TEST_0001" }
    clientOrderId := { value := "CID1" }
    instrument := {
      symbol := "TESTFUT"
      venueSymbol := some "TESTFUT@TEST"
      exchange := .other "TEST"
      market := .futures }
    side := .buy
    orderType := .limit
    qty := .zero
    limitPrice := some .zero
    timeInForce := .day
    comment := none }

def sampleBrokerOrderId : BrokerOrderId :=
  { value := "BROKER1"
    nonEmpty := by decide }

def sampleCancel : PreflightApprovedCancelOrder :=
  { cancel := {
      requestId := { uuid := Vector.replicate 16 2 }
      createdTs := sampleAt 3
      ttlMs := none
      accountId := sampleOrder.accountId
      orderId := sampleBrokerOrderId
      clientOrderId := some sampleOrder.clientOrderId }
    approvedTs := sampleAt 4
    mappedRequestId := some sampleOrder.requestId }

/-- The copy of the record that persisting the submit handed out. -/
def sampleSubmitted : OrderPathRecord :=
  { (OrderPathRecord.fromPlaceOrder sampleOrder (sampleAt 0) none).noteEvent .beginSubmit with
    state := .submitInFlight
    lastUpdateTs := sampleAt 1 }

/-- The answer to the place comes after a restart, a recovery and a cancel. -/
def sampleLateAnswer : List LifecycleEvent :=
  [.insertIntent sampleOrder (sampleAt 0) none,
    .persistPlace { order := sampleOrder, approvedTs := sampleAt 0 } (sampleAt 1),
    .restart sampleOrder.requestId (sampleAt 2),
    .recover sampleOrder.clientOrderId sampleBrokerOrderId (sampleAt 3),
    .persistCancel sampleCancel (sampleAt 4),
    .applyPlace sampleSubmitted
      { requestSent := true, classifiedResponse := some (.execution (.accepted (some sampleBrokerOrderId))) } (sampleAt 5),
    .persistCancel sampleCancel (sampleAt 6)]

theorem late_answer_cancels_twice :
    ¬ ∀ events, EveryStep LifecycleState.after CopyHandedOut .initial events →
      EveryStep LifecycleState.after
        (fun state event => SendsOnce (state.after event) ∧ RemembersAttempts state (state.after event))
        .initial events := by
  intro kept
  have steps := kept sampleLateAnswer (by decide)
  have distinct := steps.2.2.2.2.2.2.1.1.cancels
  revert distinct
  decide

theorem prompt_answers_send_once :
    EveryStep LifecycleState.after
        (fun state event => SendsOnce (state.after event) ∧ RemembersAttempts state (state.after event))
        .initial (sampleLateAnswer.take 5) ↔
      EveryStep LifecycleState.after (fun state event => ¬ ForgetsCancel state event) .initial
        (sampleLateAnswer.take 5) :=
  lifecycle_sends_once_iff (sampleLateAnswer.take 5) (by decide)

end Sample

end TradingGateway.FinamGateway.RealTransportLifecycle
