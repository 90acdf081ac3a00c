import TradingGateway.Stage8b.WorkingLimitRuns
import TradingGateway.Stage8b.WorkingLimitRecoveryProperties

/-! A crash after the outcome record is written loses nothing: whatever builder proposed
the transition, recovery computes it again from the book before and the record's bytes. -/

set_option autoImplicit false

namespace TradingGateway.Stage8b.CrashRecovery

open BrokerCore.FixedPoint BrokerCore.HybridAttribution BrokerCore.OperationalSnapshot BrokerCore.Orders
open Stage6.JournalRecord Stage6.PlainCodec PlainWorkingLimitCodec WorkingLimitRuns
open WorkingLimitBook WorkingLimitBook.Stage8bP1d3WorkingBookProjectionV1
open WorkingLimitBuilders WorkingLimitEvidence WorkingLimitInputs WorkingLimitProjections WorkingLimitRecovery
open Foundation.ExceptRun

/-- A transition that a builder proposes on the book. The flag says whether the expiry
it consumed carried a v4 proof. -/
inductive LivePlan (codec : WorkingLimitCodec) (preBook : Stage8bP1d3WorkingBookProjectionV1) :
    Bool → Stage8bP1d3TransitionPlan → Prop where
  | initial {input : Stage8bP1d3InitialLimitInput} {candidate : Option Stage8bP1d3CanonicalM10Evidence}
      {step : Option Stage8bP1d3ScheduleStepAuthority} {expiry : Option Stage8bP1d3DayExpiryAuthority}
      {plan : Stage8bP1d3TransitionPlan}
      (fresh : preBook.record (deriveOrderId codec input.operationalIdentitySha256 input.requestId
        input.canonicalCommandSha256) = none)
      (built : buildInitialLimitTransition codec preBook input candidate step expiry = .ok plan) :
      LivePlan codec preBook (expiry.any (·.hasV4Proof)) plan
  | later {input : Stage8bP1d3AutonomousInput} {candidate : Option Stage8bP1d3CanonicalM10Evidence}
      {step : Option Stage8bP1d3ScheduleStepAuthority} {expiry : Option Stage8bP1d3DayExpiryAuthority}
      {plan : Stage8bP1d3TransitionPlan}
      (built : buildLaterLimitTransition codec preBook input candidate step expiry = .ok (.outcome plan)) :
      LivePlan codec preBook (expiry.any (·.hasV4Proof)) plan
  | cancel {input : Stage8bP1d3CancelInput} {candidate : Stage8bP1d3CanonicalM10Evidence}
      {step : Stage8bP1d3ScheduleStepAuthority} {result : Stage8bP1d3CancelTransitionPlan}
      (built : buildCancelTransition codec preBook input candidate step = .ok result) :
      LivePlan codec preBook false (proposed result)
  | cancelAfterTarget {input : Stage8bP1d3CancelInput} {target : Stage8bP1d3OutcomeEvidenceV1}
      {plan : Stage8bP1d3TransitionPlan}
      (built : buildCancelAfterTargetTransition codec preBook input target = .ok plan) :
      LivePlan codec preBook false plan

structure Names (binding : Stage8bP1d3Stage6RecoveryBinding) (evidence : Stage8bP1d3OutcomeEvidenceV1) : Prop where
  outcomeRecord : evidence.stage6OutcomeRecordId = binding.outcomeRecordId
  predecessor : evidence.stage6PredecessorFrontierSha256 = binding.predecessorFrontierSha256
  checkpoint : evidence.stage6ReservedCheckpointSha256 = binding.reservedCheckpointSha256
  finalized : evidence.stage7RequestFinalizedRecordId = binding.requestFinalizedRecordId
  fingerprint : evidence.stage7RequestFinalizedFingerprintSha256 = binding.requestFinalizedFingerprintSha256
  postCheckpoint : isCanonicalSha256 binding.authenticatedPostCheckpointSha256 = true

section Recovery

variable {codec : WorkingLimitCodec} {preBook : Stage8bP1d3WorkingBookProjectionV1}
variable {plan : Stage8bP1d3TransitionPlan} {hasV4Proof : Bool}

/-- Sealed evidence is a record that the journal can hold. -/
theorem encodes_of_sealed {inserted : Stage8bP1d3WorkingBookProjectionV1} {evidence : Stage8bP1d3OutcomeEvidenceV1}
    {phase : Stage8bP1d3BookPhase} {frontier : UInt64} {ack : Option CommandAck} {truth : Option BrokerTruthSnapshot}
    (isSealed : Sealed codec inserted evidence phase frontier ack truth plan) :
    plan.evidence.encodeCanonical codec.toOutcomeEvidenceCodec = .ok plan.evidenceBytes := by
  rw [isSealed.evidenceIs]
  exact isSealed.encodes

theorem encodes_of_autonomous {input : Stage8bP1d3AutonomousInput} {record : Stage8bP1d3OrderRecordV1}
    {cause : AutonomousCause} (built : buildAutonomousOutcome codec preBook input record cause = .ok plan) :
    plan.evidence.encodeCanonical codec.toOutcomeEvidenceCodec = .ok plan.evidenceBytes := by
  obtain ⟨_, _, _, _, _, _, _, _, _, facts⟩ := buildAutonomousOutcome_ok built
  exact encodes_of_sealed facts.isSealed

theorem LivePlan.encodes (live : LivePlan codec preBook hasV4Proof plan) :
    plan.evidence.encodeCanonical codec.toOutcomeEvidenceCodec = .ok plan.evidenceBytes := by
  cases live with
  | initial _ built =>
      obtain ⟨_, _, _, _, _, _, _, _, _, facts⟩ := buildInitialLimitTransition_ok built
      exact encodes_of_sealed facts.isSealed
  | later built =>
      obtain ⟨_, _, _, _, later⟩ := buildLaterLimitTransition_ok built
      cases later with
      | untouched evaluation =>
          obtain ⟨_, _, _, _, _, isUntouched, _⟩ := buildUntouchedEvaluation_ok evaluation
          cases isUntouched
      | outcome _ outcome => exact encodes_of_autonomous outcome
  | cancel built =>
      obtain ⟨_, _, _, _, _, plans⟩ := buildCancelTransition_ok built
      cases plans with
      | fillsFirst _ outcome => exact encodes_of_autonomous outcome
      | cancels _ outcome =>
          obtain ⟨_, _, _, _, _, _, _, facts⟩ := buildCancelOutcome_canceled outcome
          exact encodes_of_sealed facts.isSealed
      | recovers _ status outcome =>
          obtain ⟨_, _, _, _, facts⟩ := buildCancelOutcome_recovered (endedOutcomeKind_ok status) outcome
          exact facts.encodes
  | cancelAfterTarget built =>
      obtain ⟨_, _, _, _, _, _, _, _, _, outcome⟩ := buildCancelAfterTargetTransition_ok built
      obtain ⟨_, _, _, _, facts⟩ := buildCancelOutcome_recovered (.inl rfl) outcome
      exact facts.encodes

/-- Each builder's transition is recovered, by the part of recovery for its outcome kind. -/
theorem LivePlan.recovers (readable : DecimalRoundTrip codec.toOutcomeEvidenceCodec)
    (live : LivePlan codec preBook hasV4Proof plan) :
    recoverStage8bP1d3OutcomeTransitionInner codec preBook (authenticatedOf plan) hasV4Proof = .ok plan := by
  cases live with
  | initial fresh built => exact recover_initial readable built fresh _
  | later built => exact recover_later readable built
  | cancel built => exact recover_cancel readable built
  | cancelAfterTarget built => exact recover_cancelAfterTarget readable built

section Journal

variable {evidence : Stage8bP1d3OutcomeEvidenceV1} {bytes : List UInt8}
variable {binding : Stage8bP1d3Stage6RecoveryBinding}

/-- What was written and reads back is decoded to the evidence it was written from. -/
theorem decodeCanonical_of_encodeCanonical
    (encoded : evidence.encodeCanonical codec.toOutcomeEvidenceCodec = .ok bytes)
    (reads : codec.evidenceFromSlice bytes = some evidence) :
    Stage8bP1d3OutcomeEvidenceV1.decodeCanonical codec.toOutcomeEvidenceCodec bytes = .ok evidence := by
  obtain ⟨valid, rfl⟩ := validate_of_encodeCanonical encoded
  unfold Stage8bP1d3OutcomeEvidenceV1.decodeCanonical
  rw [orReject_bind_of_some reads, valid, ok_bind, rejectIf_of_not _ (not_not.2 rfl), ok_bind]

theorem digests_canonical (valid : evidence.validate codec.toOutcomeEvidenceCodec = .ok ()) :
    isCanonicalSha256 evidence.stage6OutcomeRecordId = true ∧
      isCanonicalSha256 evidence.stage6PredecessorFrontierSha256 = true ∧
        isCanonicalSha256 evidence.stage6ReservedCheckpointSha256 = true := by
  unfold Stage8bP1d3OutcomeEvidenceV1.validate at valid
  obtain ⟨fields, _⟩ := check_bind_ok_iff.1 valid
  unfold Stage8bP1d3OutcomeEvidenceV1.validateFields at fields
  obtain ⟨_, _, fields⟩ := bind_ok_iff.1 fields
  obtain ⟨_, _, fields⟩ := bind_ok_iff.1 fields
  obtain ⟨_, fields⟩ := check_bind_ok_iff.1 fields
  obtain ⟨digests, _⟩ := check_bind_ok_iff.1 fields
  simp only [rejectIf_ok_iff, List.any_eq_true, not_exists, not_and, Bool.not_eq_true', Bool.not_eq_false] at digests
  exact ⟨digests _ (by simp), digests _ (by simp), digests _ (by simp)⟩

theorem authenticate_of_decodeCanonical (names : Names binding evidence)
    (valid : evidence.validate codec.toOutcomeEvidenceCodec = .ok ())
    (decoded : Stage8bP1d3OutcomeEvidenceV1.decodeCanonical codec.toOutcomeEvidenceCodec bytes = .ok evidence) :
    authenticateStage8bP1d3OutcomeEvidence codec.toOutcomeEvidenceCodec bytes binding =
      .ok { evidence := evidence, canonicalBytes := bytes } := by
  obtain ⟨outcomeRecord, predecessor, checkpoint⟩ := digests_canonical valid
  rw [names.outcomeRecord] at outcomeRecord
  rw [names.predecessor] at predecessor
  rw [names.checkpoint] at checkpoint
  unfold authenticateStage8bP1d3OutcomeEvidence
  simp only [decoded, ok_bind, outcomeRecord, predecessor, checkpoint, names.outcomeRecord, names.predecessor,
    names.checkpoint, names.finalized, names.fingerprint, names.postCheckpoint, Bool.true_eq_false, ne_eq,
    not_true_eq_false, or_self, rejectIf_of_not, not_false_eq_true]

end Journal

/-- Recovery recomputes the live transition: the record's bytes decode to the evidence
of the plan, every journal binding that names its records authenticates them, and from
the book before and that evidence alone comes the plan itself, with the same book after,
answer and broker truth. -/
theorem recovery_recomputes_live (readable : DecimalRoundTrip codec.toOutcomeEvidenceCodec)
    (live : LivePlan codec preBook hasV4Proof plan)
    (reads : codec.evidenceFromSlice plan.evidenceBytes = some plan.evidence) :
    Stage8bP1d3OutcomeEvidenceV1.decodeCanonical codec.toOutcomeEvidenceCodec plan.evidenceBytes =
        .ok plan.evidence ∧
      (∀ binding, Names binding plan.evidence →
        authenticateStage8bP1d3OutcomeEvidence codec.toOutcomeEvidenceCodec plan.evidenceBytes binding =
          .ok { evidence := plan.evidence, canonicalBytes := plan.evidenceBytes }) ∧
      recoverStage8bP1d3OutcomeTransitionInner codec preBook
        { evidence := plan.evidence, canonicalBytes := plan.evidenceBytes } hasV4Proof = .ok plan := by
  have decoded := decodeCanonical_of_encodeCanonical live.encodes reads
  have valid := (validate_of_encodeCanonical live.encodes).1
  refine ⟨decoded, ?_, live.recovers readable⟩
  intro binding names
  exact authenticate_of_decodeCanonical names valid decoded

end Recovery

section Sample

def filledInput (attribution : HybridRuntimeAttribution) (genesis : Stage8bP1d3WorkingBookProjectionV1) :
    Stage8bP1d3InitialLimitInput :=
  sampleLimitOrder 1 attribution genesis.totalSequenceFrontier

def filledFirst (codec : WorkingLimitCodec) (attribution : HybridRuntimeAttribution)
    (genesis : Stage8bP1d3WorkingBookProjectionV1) : Except Stage8bP1d3Error Stage8bP1d3TransitionPlan :=
  buildInitialLimitTransition codec genesis (filledInput attribution genesis)
    (some (sampleBar 1 (Decimal.ofNat 99 priceBelow_fits))) (some (sampleStep 0 1)) none

def filledCodec : WorkingLimitCodec :=
  plainWorkingLimitCodec (do
    let entry ← sampleAttribution "ENTRY"
    let genesis ← (sampleGenesis entry).toOption
    let plan ← (filledFirst (plainWorkingLimitCodec []) entry genesis).toOption
    some plan.evidence).toList

def filledSample : Option (HybridRuntimeAttribution × Stage8bP1d3WorkingBookProjectionV1 × Stage8bP1d3TransitionPlan) :=
  do
    let entry ← sampleAttribution "ENTRY"
    let genesis ← (sampleGenesis entry).toOption
    let plan ← (filledFirst filledCodec entry genesis).toOption
    some (entry, genesis, plan)

theorem filledSample_computed :
    filledSample.any (fun (entry, genesis, plan) =>
      genesis.record (deriveOrderId filledCodec (filledInput entry genesis).operationalIdentitySha256
          (filledInput entry genesis).requestId (filledInput entry genesis).canonicalCommandSha256) = none ∧
        filledCodec.evidenceFromSlice plan.evidenceBytes = some plan.evidence ∧
        plan.evidence.outcomeKind = .initialFilled) = true := by
  decide +kernel

theorem recovery_recomputes_live_filled :
    ∃ (genesis : Stage8bP1d3WorkingBookProjectionV1) (plan : Stage8bP1d3TransitionPlan),
      plan.evidence.outcomeKind = .initialFilled ∧
        recoverStage8bP1d3OutcomeTransitionInner filledCodec genesis
          { evidence := plan.evidence, canonicalBytes := plan.evidenceBytes } false = .ok plan := by
  obtain ⟨⟨entry, genesis, plan⟩, computed, checked⟩ := (Option.any_eq_true ..).1 filledSample_computed
  obtain ⟨fresh, reads, kind⟩ := of_decide_eq_true checked
  simp only [filledSample, Option.bind_eq_bind, Option.bind_eq_some_iff, toOption_eq_some_iff] at computed
  obtain ⟨_, _, _, _, _, built, computed⟩ := computed
  cases computed
  have readable : DecimalRoundTrip filledCodec.toOutcomeEvidenceCodec := decimalReadsBack_plain _
  have live := LivePlan.initial fresh built
  exact ⟨genesis, plan, kind, (recovery_recomputes_live readable live reads).2.2⟩

end Sample

end TradingGateway.Stage8b.CrashRecovery
