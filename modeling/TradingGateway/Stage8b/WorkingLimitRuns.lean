import TradingGateway.Foundation.Runs
import TradingGateway.Stage6.RecordIds
import TradingGateway.Stage8b.PlainWorkingLimitCodec
import TradingGateway.Stage8b.WorkingLimitInversion

/-! Runs of the working book: every plan a builder accepts replaces the book, and
what one plan can do bounds what a whole run can do. -/

set_option autoImplicit false

namespace TradingGateway.Stage8b.WorkingLimitRuns

open BrokerCore.FixedPoint BrokerCore.HybridAttribution BrokerCore.Identifiers
open Stage6.JournalRecord Stage6.RecordIds
open WorkingLimitBook WorkingLimitBook.Stage8bP1d3WorkingBookProjectionV1 WorkingLimitBuilders
open WorkingLimitEvidence WorkingLimitInputs WorkingLimitProjections
open Stage6.PlainCodec PlainWorkingLimitCodec
open Foundation.ExceptRun Foundation.Runs

inductive BuilderCall where
  | initial (input : Stage8bP1d3InitialLimitInput) (candidate : Option Stage8bP1d3CanonicalM10Evidence)
      (step : Option Stage8bP1d3ScheduleStepAuthority) (expiry : Option Stage8bP1d3DayExpiryAuthority)
  | later (input : Stage8bP1d3AutonomousInput) (candidate : Option Stage8bP1d3CanonicalM10Evidence)
      (step : Option Stage8bP1d3ScheduleStepAuthority) (expiry : Option Stage8bP1d3DayExpiryAuthority)
  | cancel (input : Stage8bP1d3CancelInput) (candidate : Stage8bP1d3CanonicalM10Evidence)
      (step : Stage8bP1d3ScheduleStepAuthority)
  | cancelAfterTarget (input : Stage8bP1d3CancelInput) (target : Stage8bP1d3OutcomeEvidenceV1)
  | completeCancel (deferred : Stage8bP1d3DeferredCancelAfterTarget) (checkpoint : HexText)

structure StepResult where
  outcome : Option Stage8bP1d3OutcomeEvidenceV1
  postBook : Stage8bP1d3WorkingBookProjectionV1

def StepResult.ofPlan (plan : Stage8bP1d3TransitionPlan) : StepResult :=
  { outcome := some plan.evidence, postBook := plan.postBook }

def StepResult.ofLater : Stage8bP1d3LaterEvaluationPlan → StepResult
  | .alreadyEvaluated book => { outcome := none, postBook := book }
  | .untouched _ _ postBook => { outcome := none, postBook := postBook }
  | .outcome plan => .ofPlan plan

def StepResult.ofCancel : Stage8bP1d3CancelTransitionPlan → StepResult
  | .ready plan => .ofPlan plan
  | .targetThenCancel target _ => .ofPlan target

def BuilderCall.run (codec : WorkingLimitCodec) (book : Stage8bP1d3WorkingBookProjectionV1) :
    BuilderCall → Except Stage8bP1d3Error StepResult
  | .initial input candidate step expiry =>
      .ofPlan <$> buildInitialLimitTransition codec book input candidate step expiry
  | .later input candidate step expiry =>
      .ofLater <$> buildLaterLimitTransition codec book input candidate step expiry
  | .cancel input candidate step => .ofCancel <$> buildCancelTransition codec book input candidate step
  | .cancelAfterTarget input target => .ofPlan <$> buildCancelAfterTargetTransition codec book input target
  | .completeCancel deferred checkpoint => .ofPlan <$> deferred.complete codec book checkpoint

structure RunStep where
  book : Stage8bP1d3WorkingBookProjectionV1
  call : BuilderCall
  result : StepResult

/-- The builder accepts the book, and its plan leaves the next one. -/
def Steps (codec : WorkingLimitCodec) (first : Stage8bP1d3WorkingBookProjectionV1) (step : RunStep)
    (last : Stage8bP1d3WorkingBookProjectionV1) : Prop :=
  step.book = first ∧ step.call.run codec first = .ok step.result ∧ step.result.postBook = last

abbrev BookRun (codec : WorkingLimitCodec) := Run (Steps codec)

/-- Make the calls one after another, each told the book it acts on. -/
def runCalls (codec : WorkingLimitCodec) (book : Stage8bP1d3WorkingBookProjectionV1) :
    List (Stage8bP1d3WorkingBookProjectionV1 → BuilderCall) →
      Except Stage8bP1d3Error (List RunStep × Stage8bP1d3WorkingBookProjectionV1)
  | [] => .ok ([], book)
  | next :: calls => do
      let result ← (next book).run codec book
      let (steps, last) ← runCalls codec result.postBook calls
      .ok ({ book := book, call := next book, result := result } :: steps, last)

theorem bookRun_of_runCalls {codec : WorkingLimitCodec} {book last : Stage8bP1d3WorkingBookProjectionV1}
    {calls : List (Stage8bP1d3WorkingBookProjectionV1 → BuilderCall)} {steps : List RunStep}
    (ran : runCalls codec book calls = .ok (steps, last)) : BookRun codec book steps last := by
  induction calls generalizing book steps with
  | nil =>
      cases ran
      exact .nil _
  | cons next calls ih =>
      obtain ⟨result, called, ran⟩ := bind_ok_iff.1 ran
      obtain ⟨⟨rest, end_⟩, continued, ran⟩ := bind_ok_iff.1 ran
      cases ran
      exact .cons ⟨rfl, called, rfl⟩ (ih continued)

def BuilderCall.NamesFreshOrder (codec : WorkingLimitCodec) (book : Stage8bP1d3WorkingBookProjectionV1) :
    BuilderCall → Prop
  | .initial input _ _ _ => book.record (deriveOrderId codec input.operationalIdentitySha256 input.requestId
      input.canonicalCommandSha256) = none
  | _ => True

instance (codec : WorkingLimitCodec) (book : Stage8bP1d3WorkingBookProjectionV1) (call : BuilderCall) :
    Decidable (call.NamesFreshOrder codec book) :=
  match call with
  | .initial _ _ _ _ => inferInstanceAs (Decidable (_ = none))
  | .later _ _ _ _ | .cancel _ _ _ | .cancelAfterTarget _ _ | .completeCancel _ _ =>
      inferInstanceAs (Decidable True)

def RunStep.NamesFreshOrder (codec : WorkingLimitCodec) (step : RunStep) : Prop :=
  step.call.NamesFreshOrder codec step.book

instance (codec : WorkingLimitCodec) (step : RunStep) : Decidable (step.NamesFreshOrder codec) :=
  inferInstanceAs (Decidable (step.call.NamesFreshOrder codec step.book))

def BuilderCall.cancelTarget : BuilderCall → Option BrokerOrderId
  | .initial _ _ _ _ => none
  | .later _ _ _ _ => none
  | .cancel input _ _ => some input.targetBrokerOrderId
  | .cancelAfterTarget input _ => some input.targetBrokerOrderId
  | .completeCancel deferred _ => some deferred.input.targetBrokerOrderId

def RunStep.CancelsEndedOrder (step : RunStep) : Prop :=
  ∃ target, step.call.cancelTarget = some target ∧
    ∃ record, step.book.record target = some record ∧ record.lifecycle ≠ .active

def reservedSequences (evidence : Stage8bP1d3OutcomeEvidenceV1) : List UInt64 :=
  evidence.reservedSeqAck.toList ++ evidence.reservedSeqTruth.toList

def outcomesOf (steps : List RunStep) : List Stage8bP1d3OutcomeEvidenceV1 :=
  steps.filterMap (·.result.outcome)

/-- The reserved sequences only grow, and no record id comes twice. -/
def ReusesNothing (outcomes : List Stage8bP1d3OutcomeEvidenceV1) : Prop :=
  (outcomes.flatMap reservedSequences).Pairwise (· < ·) ∧ (outcomes.map (·.stage6OutcomeRecordId)).Nodup

inductive RowOrigin (codec : WorkingLimitCodec) (book : Stage8bP1d3WorkingBookProjectionV1) :
    BuilderCall → Stage8bP1d3OrderRecordV1 → Prop where
  | opened {input : Stage8bP1d3InitialLimitInput} {candidate : Option Stage8bP1d3CanonicalM10Evidence}
      {step : Option Stage8bP1d3ScheduleStepAuthority} {expiry : Option Stage8bP1d3DayExpiryAuthority}
      {row : Stage8bP1d3OrderRecordV1} (named : row.brokerOrderId = deriveOrderId codec
        input.operationalIdentitySha256 input.requestId input.canonicalCommandSha256) :
      RowOrigin codec book (.initial input candidate step expiry) row
  | active {call : BuilderCall} {active row : Stage8bP1d3OrderRecordV1} (member : active ∈ book.records)
      (isActive : active.lifecycle = .active) (same : row.brokerOrderId = active.brokerOrderId) :
      RowOrigin codec book call row

/-- An outcome that is well formed and was allocated behind the book's frontier. -/
structure Outcome (codec : WorkingLimitCodec) (book : Stage8bP1d3WorkingBookProjectionV1) (ordinal : UInt64)
    (evidence : Stage8bP1d3OutcomeEvidenceV1) (count : Nat) : Prop where
  valid : evidence.validate codec.toOutcomeEvidenceCodec = .ok ()
  ordinal : evidence.transitionOrdinal = ordinal
  sequences : (reservedSequences evidence).map UInt64.toNat =
    List.range' (book.totalSequenceFrontier.toNat + 1) count

inductive StepEffect (codec : WorkingLimitCodec) (book : Stage8bP1d3WorkingBookProjectionV1)
    (call : BuilderCall) : StepResult → Prop where
  | unchanged (noTarget : call.cancelTarget = none) :
      StepEffect codec book call { outcome := none, postBook := book }
  | evaluated {row : Stage8bP1d3OrderRecordV1} {post : Stage8bP1d3WorkingBookProjectionV1}
      (noTarget : call.cancelTarget = none) (origin : RowOrigin codec book call row)
      (written : Written codec book row book.totalSequenceFrontier post) :
      StepEffect codec book call { outcome := none, postBook := post }
  | changed {row : Stage8bP1d3OrderRecordV1} {frontier : UInt64} {count : Nat}
      {evidence : Stage8bP1d3OutcomeEvidenceV1} {post : Stage8bP1d3WorkingBookProjectionV1}
      (origin : RowOrigin codec book call row) (written : Written codec book row frontier post)
      (outcome : Outcome codec book (book.transitionOrdinal + 1) evidence count)
      (kind : evidence.outcomeKind ≠ .cancelExecutionObserved ∧
        evidence.outcomeKind ≠ .cancelAlreadyTerminalNonExecution)
      (allocates : frontier.toNat = book.totalSequenceFrontier.toNat + count) (some : 0 < count)
      (opensOrCancelsActive : ∀ target, call.cancelTarget = .some target →
        ∀ record, book.record target = .some record → record.lifecycle = .active) :
      StepEffect codec book call { outcome := .some evidence, postBook := post }
  | recovered {evidence : Stage8bP1d3OutcomeEvidenceV1}
      (outcome : Outcome codec book book.transitionOrdinal evidence 1)
      (kind : evidence.outcomeKind = .cancelExecutionObserved ∨
        evidence.outcomeKind = .cancelAlreadyTerminalNonExecution)
      (ended : ∃ target, call.cancelTarget = .some target ∧
        ∃ record, book.record target = .some record ∧ record.lifecycle ≠ .active) :
      StepEffect codec book call { outcome := .some evidence, postBook := book }

section Effects

variable {codec : WorkingLimitCodec} {book : Stage8bP1d3WorkingBookProjectionV1}

theorem allocatePair_toNat {frontier : UInt64} {sequences : UInt64 × UInt64}
    (allocated : allocatePair frontier = .ok sequences) :
    sequences.1.toNat = frontier.toNat + 1 ∧ sequences.2.toNat = frontier.toNat + 2 := by
  unfold allocatePair at allocated
  obtain ⟨ack, first, allocated⟩ := bind_ok_iff.1 allocated
  obtain ⟨truth, second, allocated⟩ := bind_ok_iff.1 allocated
  cases allocated
  have firstSum := checkedAdd_toNat ((orReject_ok_iff ..).1 first)
  have secondSum := checkedAdd_toNat ((orReject_ok_iff ..).1 second)
  exact ⟨firstSum, by rw [secondSum, firstSum]; rfl⟩

theorem validateInitialInput_frontier {input : Stage8bP1d3InitialLimitInput}
    (checked : validateInitialInput book input = .ok ()) :
    input.sequenceAllocationFrontier = book.totalSequenceFrontier := by
  unfold validateInitialInput at checked
  obtain ⟨_, checked⟩ := check_bind_ok_iff.1 checked
  obtain ⟨_, checked⟩ := check_bind_ok_iff.1 checked
  obtain ⟨_, checked⟩ := check_bind_ok_iff.1 checked
  simp only [rejectIf_ok_iff, not_or, ne_eq, not_not] at checked
  exact checked.2.2.2.2

theorem validateAutonomousInput_frontier {input : Stage8bP1d3AutonomousInput}
    (checked : validateAutonomousInput book input = .ok ()) :
    input.sequenceAllocationFrontier = book.totalSequenceFrontier := by
  unfold validateAutonomousInput at checked
  obtain ⟨checked, _⟩ := check_bind_ok_iff.1 checked
  simp only [rejectIf_ok_iff, not_or, ne_eq, not_not] at checked
  exact checked.2.2.2.2.2

theorem validateCancelInput_frontier {input : Stage8bP1d3CancelInput}
    (checked : validateCancelInput book input = .ok ()) :
    input.sequenceAllocationFrontier = book.totalSequenceFrontier := by
  unfold validateCancelInput at checked
  obtain ⟨_, checked⟩ := check_bind_ok_iff.1 checked
  obtain ⟨_, _, checked⟩ := bind_ok_iff.1 checked
  obtain ⟨checked, _⟩ := check_bind_ok_iff.1 checked
  simp only [rejectIf_ok_iff, not_or, ne_eq, not_not] at checked
  exact checked.2.2.2.2

/-- The first observation of an order is never the acknowledgement of an ended one. -/
theorem observeInitial_kind {input : Stage8bP1d3InitialLimitInput}
    {candidate : Option Stage8bP1d3CanonicalM10Evidence} {step : Option Stage8bP1d3ScheduleStepAuthority}
    {expiry : Option Stage8bP1d3DayExpiryAuthority} {observed : InitialObservation}
    (observes : observeInitial codec book input candidate step expiry = .ok observed) :
    observed.kind ≠ .cancelExecutionObserved ∧ observed.kind ≠ .cancelAlreadyTerminalNonExecution := by
  unfold observeInitial at observes
  split at observes
  · unfold observeInitialCandidate at observes
    obtain ⟨_, observes⟩ := check_bind_ok_iff.1 observes
    obtain ⟨_, observes⟩ := check_bind_ok_iff.1 observes
    obtain ⟨_, observes⟩ := check_bind_ok_iff.1 observes
    obtain ⟨⟨decision, fill⟩, _, observes⟩ := bind_ok_iff.1 observes
    cases decision <;> cases observes <;> simp
  · unfold observeInitialExpiry at observes
    obtain ⟨_, observes⟩ := check_bind_ok_iff.1 observes
    cases observes
    simp
  · cases observes

theorem autonomousEnd_kind {record : Stage8bP1d3OrderRecordV1} {cause : AutonomousCause} {ended : AutonomousEnd}
    (ends : autonomousEnd codec record cause = .ok ended) :
    ended.kind ≠ .cancelExecutionObserved ∧ ended.kind ≠ .cancelAlreadyTerminalNonExecution := by
  cases cause with
  | filled bar step fillPrice =>
      unfold autonomousEnd at ends
      obtain ⟨_, _, ends⟩ := bind_ok_iff.1 ends
      obtain ⟨_, ends⟩ := check_bind_ok_iff.1 ends
      obtain ⟨_, _, ends⟩ := bind_ok_iff.1 ends
      cases ends
      simp
  | expired expiry =>
      unfold autonomousEnd at ends
      obtain ⟨_, _, ends⟩ := bind_ok_iff.1 ends
      cases ends
      simp

theorem initial_effect {input : Stage8bP1d3InitialLimitInput}
    {candidate : Option Stage8bP1d3CanonicalM10Evidence} {step : Option Stage8bP1d3ScheduleStepAuthority}
    {expiry : Option Stage8bP1d3DayExpiryAuthority} {plan : Stage8bP1d3TransitionPlan}
    (built : buildInitialLimitTransition codec book input candidate step expiry = .ok plan) :
    StepEffect codec book (.initial input candidate step expiry) (.ofPlan plan) := by
  obtain ⟨observed, _, sequences, _, _, _, _, _, observes, facts⟩ := buildInitialLimitTransition_ok built
  have frontier := validateInitialInput_frontier facts.checked
  obtain ⟨first, second⟩ := allocatePair_toNat facts.allocated
  rw [frontier] at first second
  have isSealed := facts.isSealed
  rw [StepResult.ofPlan, isSealed.evidenceIs]
  exact .changed (.opened rfl) (written_of_advance facts.inserts isSealed.advances)
    { valid := (validate_of_encodeCanonical isSealed.encodes).1
      ordinal := rfl
      sequences := by simp [reservedSequences, initialEvidence, first, second, List.range'] }
    (observeInitial_kind observes) second (by decide) (fun _ isCancel => nomatch isCancel)

/-- A later outcome on an active order, whichever builder asks for it. -/
theorem autonomous_effect {call : BuilderCall} {input : Stage8bP1d3AutonomousInput}
    {record : Stage8bP1d3OrderRecordV1} {cause : AutonomousCause} {plan : Stage8bP1d3TransitionPlan}
    (frontier : input.sequenceAllocationFrontier = book.totalSequenceFrontier) (member : record ∈ book.records)
    (isActive : record.lifecycle = .active)
    (targets : ∀ target, call.cancelTarget = some target →
      ∀ other, book.record target = some other → other.lifecycle = .active)
    (built : buildAutonomousOutcome codec book input record cause = .ok plan) :
    StepEffect codec book call (.ofPlan plan) := by
  obtain ⟨ended, seqTruth, _, _, _, _, _, _, _, facts⟩ := buildAutonomousOutcome_ok built
  have next := checkedAdd_toNat facts.allocated
  rw [frontier] at next
  have isSealed := facts.isSealed
  rw [StepResult.ofPlan, isSealed.evidenceIs]
  refine .changed (.active member isActive ?_) (written_of_advance facts.inserts isSealed.advances)
    { valid := (validate_of_encodeCanonical isSealed.encodes).1
      ordinal := rfl
      sequences := by simpa [reservedSequences, autonomousEvidence, List.range'] using next }
    (autonomousEnd_kind facts.ends) next (by decide) targets
  cases cause <;> rfl

theorem later_effect {input : Stage8bP1d3AutonomousInput}
    {candidate : Option Stage8bP1d3CanonicalM10Evidence} {step : Option Stage8bP1d3ScheduleStepAuthority}
    {expiry : Option Stage8bP1d3DayExpiryAuthority} {result : Stage8bP1d3LaterEvaluationPlan}
    (built : buildLaterLimitTransition codec book input candidate step expiry = .ok result) :
    StepEffect codec book (.later input candidate step expiry) (.ofLater result) := by
  obtain ⟨record, valid, checked, found, later⟩ := buildLaterLimitTransition_ok built
  obtain ⟨member, isActive⟩ := (registry_of_validate valid).activeRecord found
  have frontier := validateAutonomousInput_frontier checked
  cases later with
  | alreadyEvaluated => exact .unchanged rfl
  | untouched evaluation =>
      obtain ⟨ordinal, inserted, evidence, bytes, post, rfl, insertion, advanced⟩ :=
        buildUntouchedEvaluation_ok evaluation
      rw [frontier] at advanced
      have written : Written codec book _ book.totalSequenceFrontier post :=
        written_of_advance insertion advanced
      refine .evaluated rfl ?_ written
      exact .active member isActive rfl
  | outcome _ outcome => exact autonomous_effect frontier member isActive (fun _ isCancel => nomatch isCancel) outcome

/-- The cancel of a working order. -/
theorem canceled_effect {call : BuilderCall} {input : Stage8bP1d3CancelInput} {record : Stage8bP1d3OrderRecordV1}
    {candidate : Stage8bP1d3CanonicalM10Evidence} {step : Stage8bP1d3ScheduleStepAuthority}
    {predecessors : CancelPredecessors} {outcomeSequence : UInt64} {plan : Stage8bP1d3TransitionPlan}
    (member : record ∈ book.records)
    (targets : ∀ target, call.cancelTarget = some target →
      ∀ other, book.record target = some other → other.lifecycle = .active)
    (built : buildCancelOutcome codec book input record .cancelCanceled candidate step
      book.totalSequenceFrontier predecessors outcomeSequence = .ok plan) :
    StepEffect codec book call (.ofPlan plan) := by
  obtain ⟨_, sequences, _, _, _, _, _, facts⟩ := buildCancelOutcome_canceled built
  obtain ⟨first, second⟩ := allocatePair_toNat facts.allocated
  have isSealed := facts.isSealed
  rw [StepResult.ofPlan, isSealed.evidenceIs]
  refine .changed ?_ (written_of_advance facts.inserts isSealed.advances)
    { valid := (validate_of_encodeCanonical isSealed.encodes).1
      ordinal := rfl
      sequences := by simp [reservedSequences, cancelEvidence, canceledEffect, first, second, List.range'] }
    (by simp [cancelEvidence]) second (by decide) targets
  exact .active member facts.active rfl

/-- A cancel that finds its target ended. -/
theorem recovered_effect {call : BuilderCall} {input : Stage8bP1d3CancelInput} {record : Stage8bP1d3OrderRecordV1}
    {kind : Stage8bP1d3OutcomeKind} {candidate : Stage8bP1d3CanonicalM10Evidence}
    {step : Stage8bP1d3ScheduleStepAuthority} {predecessors : CancelPredecessors} {outcomeSequence : UInt64}
    {plan : Stage8bP1d3TransitionPlan} {target : BrokerOrderId} (targets : call.cancelTarget = some target)
    (found : book.record target = some record)
    (observes : kind = .cancelExecutionObserved ∨ kind = .cancelAlreadyTerminalNonExecution)
    (built : buildCancelOutcome codec book input record kind candidate step
      book.totalSequenceFrontier predecessors outcomeSequence = .ok plan) :
    StepEffect codec book call (.ofPlan plan) := by
  obtain ⟨_, seqAck, _, _, facts⟩ := buildCancelOutcome_recovered observes built
  have next := checkedAdd_toNat facts.allocated
  have valid := (validate_of_encodeCanonical facts.encodes).1
  rw [StepResult.ofPlan, facts.postBook]
  refine .recovered { valid := valid, ordinal := ?_, sequences := ?_ } ?_ ⟨target, targets, record, found, ?_⟩
  · rw [facts.evidenceIs]
    rfl
  · rw [facts.evidenceIs]
    simpa [reservedSequences, cancelEvidence, recoveredEffect, List.range'] using next
  · rw [facts.evidenceIs]
    exact observes
  · simp [facts.ended]

theorem cancel_effect {input : Stage8bP1d3CancelInput} {candidate : Stage8bP1d3CanonicalM10Evidence}
    {step : Stage8bP1d3ScheduleStepAuthority} {result : Stage8bP1d3CancelTransitionPlan}
    (built : buildCancelTransition codec book input candidate step = .ok result) :
    StepEffect codec book (.cancel input candidate step) (.ofCancel result) := by
  obtain ⟨record, valid, checked, found, _, plans⟩ := buildCancelTransition_ok built
  have frontier := validateCancelInput_frontier checked
  have targets (active : record.lifecycle = .active) : ∀ target,
      (BuilderCall.cancel input candidate step).cancelTarget = some target →
        ∀ other, book.record target = some other → other.lifecycle = .active := by
    intro target isTarget other isOther
    cases isTarget
    cases found.symm.trans isOther
    exact active
  cases plans with
  | fillsFirst active outcome =>
      exact autonomous_effect frontier (mem_of_record found).1 active (targets active) outcome
  | cancels active outcome =>
      rw [frontier] at outcome
      exact canceled_effect (mem_of_record found).1 (targets active) outcome
  | recovers ended status outcome =>
      rw [frontier] at outcome
      exact recovered_effect rfl found (endedOutcomeKind_ok status) outcome

/-- Every accepted call has one of the four effects. -/
theorem run_effect {call : BuilderCall} {result : StepResult} (ran : call.run codec book = .ok result) :
    StepEffect codec book call result := by
  cases call with
  | initial input candidate step expiry =>
      obtain ⟨plan, built, rfl⟩ := (map_ok_iff ..).1 ran
      exact initial_effect built
  | later input candidate step expiry =>
      obtain ⟨plan, built, rfl⟩ := (map_ok_iff ..).1 ran
      exact later_effect built
  | cancel input candidate step =>
      obtain ⟨plan, built, rfl⟩ := (map_ok_iff ..).1 ran
      exact cancel_effect built
  | cancelAfterTarget input target =>
      obtain ⟨plan, built, rfl⟩ := (map_ok_iff ..).1 ran
      obtain ⟨record, candidate, step, outcomeSequence, valid, checked, found, _, _, outcome⟩ :=
        buildCancelAfterTargetTransition_ok built
      rw [validateCancelInput_frontier checked] at outcome
      exact recovered_effect rfl found (.inl rfl) outcome
  | completeCancel deferred checkpoint =>
      obtain ⟨plan, built, rfl⟩ := (map_ok_iff ..).1 ran
      obtain ⟨record, outcomeSequence, valid, found, _, outcome⟩ := complete_ok built
      exact recovered_effect rfl found (.inl rfl) outcome

theorem Steps.effect {step : RunStep} {last : Stage8bP1d3WorkingBookProjectionV1}
    (stepped : Steps codec book step last) :
    ∃ call outcome, step = { book := book, call := call, result := { outcome := outcome, postBook := last } } ∧
      StepEffect codec book call { outcome := outcome, postBook := last } := by
  obtain ⟨given, call, ⟨outcome, post⟩⟩ := step
  obtain ⟨same, ran, left⟩ := stepped
  have same : given = book := same
  have left : post = last := left
  subst same left
  exact ⟨call, outcome, rfl, run_effect ran⟩

end Effects

/-- The calls of a sample run, for the attributions of its orders and of their cancels. -/
abbrev SampleCalls :=
  HybridRuntimeAttribution → HybridRuntimeAttribution → List (Stage8bP1d3WorkingBookProjectionV1 → BuilderCall)

/-- The run of the first calls and how it goes on, in the plain codec, from the book
that was migrated at frontier ten. -/
structure SampleRun where
  genesis : Stage8bP1d3WorkingBookProjectionV1
  steps : List RunStep
  book : Stage8bP1d3WorkingBookProjectionV1
  continued : List RunStep
  later : Stage8bP1d3WorkingBookProjectionV1

def sampleGenesis (attribution : HybridRuntimeAttribution) :
    Except Stage8bP1d3Error Stage8bP1d3WorkingBookProjectionV1 :=
  migrateFromP1d2 (plainWorkingLimitCodec []) (sampleHex 0) (sampleHex 0) 1 { value := "A-1" } sampleInstrument
    attribution 10

def sampleRun (first continued : SampleCalls) : Option SampleRun := do
  let entry ← sampleAttribution "ENTRY"
  let cancel ← sampleAttribution "CANCEL"
  let genesis ← (sampleGenesis entry).toOption
  let (steps, book) ← (runCalls (plainWorkingLimitCodec []) genesis (first entry cancel)).toOption
  let (more, later) ← (runCalls (plainWorkingLimitCodec []) book (continued entry cancel)).toOption
  some { genesis := genesis, steps := steps, book := book, continued := more, later := later }

theorem sampleRun_eq_some {first continued : SampleCalls} {run : SampleRun}
    (computed : sampleRun first continued = some run) :
    ∃ attribution, sampleGenesis attribution = .ok run.genesis ∧
      BookRun (plainWorkingLimitCodec []) run.genesis run.steps run.book ∧
        BookRun (plainWorkingLimitCodec []) run.book run.continued run.later := by
  simp only [sampleRun, Option.bind_eq_bind, Option.bind_eq_some_iff, toOption_eq_some_iff, Prod.exists] at computed
  obtain ⟨entry, _, cancel, _, genesis, migrated, steps, book, ran, more, later, wentOn, computed⟩ := computed
  cases computed
  exact ⟨entry, migrated, bookRun_of_runCalls ran, bookRun_of_runCalls wentOn⟩

def expiredFirst : SampleCalls :=
  fun entry _ => [fun book => .initial (sampleLimitOrder 1 entry book.totalSequenceFrontier) none none
    (some sampleExpiry)]

/-- The given request, seen by a bar above its limit. -/
def untouchedNext (index : UInt8) : SampleCalls :=
  fun entry _ => [fun book => .initial (sampleLimitOrder index entry book.totalSequenceFrontier)
    (some (sampleBar 1 (Decimal.ofNat 101 priceAbove_fits))) (some (sampleStep 0 1)) none]

/-- Two requests to cancel the first order, seen by the same bar. -/
def canceledTwice : SampleCalls :=
  fun _ cancel => [2, 3].map fun index book =>
    .cancel (sampleCancel index cancel book.totalSequenceFrontier) (sampleBar 1 (Decimal.ofNat 101 priceAbove_fits))
      (sampleStep 0 1)

/-- What the runs behind an expired order come to: another order is opened, the
same order is opened again, or it is canceled twice. -/
theorem sampleRuns_computed :
    (sampleRun expiredFirst (untouchedNext 2)).any (fun run =>
        (∀ step ∈ run.steps ++ run.continued, step.NamesFreshOrder (plainWorkingLimitCodec [])) ∧
          run.continued.length = 1 ∧ run.book.records.length = 1) = true ∧
      (sampleRun expiredFirst (untouchedNext 1)).any (fun run =>
        run.book.records.any fun ended => ended.lifecycle = .terminal ∧
          (run.later.record ended.brokerOrderId).any (fun reopened => reopened.lifecycle = .active) = true) = true ∧
      (sampleRun expiredFirst canceledTwice).any (fun run =>
        ¬ ((outcomesOf run.continued).flatMap reservedSequences).Pairwise (· < ·) ∧
          ¬ ((outcomesOf run.continued).map (·.stage6OutcomeRecordId)).Nodup ∧
          CollisionFree plainCodec.toDurableRecordCodec
            ((outcomesOf (run.steps ++ run.continued)).map outcomeIdPreimage)) = true := by
  refine ⟨?_, ?_, ?_⟩
  · decide +kernel
  · decide +kernel
  · decide +kernel

end TradingGateway.Stage8b.WorkingLimitRuns
