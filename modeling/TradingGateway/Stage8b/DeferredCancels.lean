import TradingGateway.Stage8b.WorkingLimitRecoveryProperties
import TradingGateway.Stage8b.WorkingLimitRuns

/-! The cancel that waits for a fill of its own target: what it goes on with can be rebuilt
from the evidence of the fill. -/

set_option autoImplicit false

namespace TradingGateway.Stage8b.DeferredCancels

open BrokerCore.FixedPoint Stage6.JournalRecord
open WorkingLimitBook WorkingLimitBook.Stage8bP1d3WorkingBookProjectionV1 WorkingLimitBuilders
open WorkingLimitEvidence WorkingLimitInputs WorkingLimitRecovery WorkingLimitRuns
open Stage6.PlainCodec PlainWorkingLimitCodec
open Foundation.ExceptRun

variable {codec : WorkingLimitCodec} {preBook : Stage8bP1d3WorkingBookProjectionV1}

section Digest

variable {key : Stage8bP1d3OrderRecordV1 → UInt64} {records : List Stage8bP1d3OrderRecordV1}

/-- Starting the largest counter of the rows at one of the rows makes no difference. -/
theorem foldl_laterCounter_raise {start raised : UInt64} (below : start ≤ raised)
    (attained : ∃ record ∈ records, key record = raised) :
    records.foldl (fun largest record => laterCounter largest (key record)) start =
      records.foldl (fun largest record => laterCounter largest (key record)) raised := by
  induction records generalizing start with
  | nil =>
      obtain ⟨_, member, _⟩ := attained
      cases member
  | cons head records ih =>
      rw [List.foldl_cons, List.foldl_cons]
      unfold laterCounter
      by_cases isRaised : raised ≤ key head
      · rw [if_pos isRaised, if_pos (UInt64.le_trans below isRaised)]
      · rw [if_neg isRaised]
        have headBelow : key head ≤ raised := UInt64.le_of_lt (UInt64.not_le.1 isRaised)
        refine ih ?_ ?_
        · split
          · exact headBelow
          · exact below
        · obtain ⟨record, member, same⟩ := attained
          cases member with
          | head => exact absurd (same ▸ UInt64.le_refl _) isRaised
          | tail _ member => exact ⟨record, member, same⟩

/-- The digest of the changed state is the same before and after the change is linked. -/
theorem postBookStateSha256_sealed {record : Stage8bP1d3OrderRecordV1}
    {inserted post : Stage8bP1d3WorkingBookProjectionV1} {latestOutcome : HexText} {evidenceBytes : List UInt8}
    {phase : Stage8bP1d3BookPhase} {frontier : UInt64} (insertion : preBook.insertOrReplace record = .ok inserted)
    (advanced : { inserted with latestOutcomeEvidenceSha256 := latestOutcome }.advance codec evidenceBytes phase
      frontier = .ok post)
    (ordinal : record.transitionOrdinal = preBook.transitionOrdinal + 1)
    (allocated : record.totalSequenceFrontier = frontier) (grows : preBook.totalSequenceFrontier ≤ frontier) :
    postBookStateSha256 codec post = postBookStateSha256 codec inserted := by
  have written := written_of_advance insertion advanced
  have member := written.mem_record
  obtain ⟨next, latest, counted, rfl⟩ := advance_ok advanced
  unfold insertOrReplace at insertion
  obtain ⟨_, insertion⟩ := check_bind_ok_iff.1 insertion
  cases insertion
  have nextIs : next = preBook.transitionOrdinal + 1 := by
    apply UInt64.toNat_inj.1
    have bound := next.toNat_lt
    rw [UInt64.toNat_add, counted]
    dsimp only at counted ⊢
    have one : (1 : UInt64).toNat = 1 := rfl
    omega
  have below : preBook.transitionOrdinal ≤ next := by
    rw [UInt64.le_iff_toNat_le, counted]
    dsimp only
    omega
  unfold postBookStateSha256
  dsimp only at member ⊢
  rw [foldl_laterCounter_raise below ⟨record, member, ordinal.trans nextIs.symm⟩,
    foldl_laterCounter_raise grows ⟨record, member, allocated⟩]

end Digest

section Outcome

variable {input : Stage8bP1d3CancelInput} {record : Stage8bP1d3OrderRecordV1}
  {candidate other : Stage8bP1d3CanonicalM10Evidence} {step : Stage8bP1d3ScheduleStepAuthority}

/-- What is acknowledged of an ended target reads no more of the bar and of the step than the evidence
of the fill tells of them. -/
theorem buildCancelOutcome_observed_congr {frontier outcomeSequence : UInt64} {predecessors : CancelPredecessors}
    (step otherStep : Stage8bP1d3ScheduleStepAuthority)
    (sameBar : candidateM10Of (some candidate) = candidateM10Of (some other))
    (sameFingerprint : step.scheduleFingerprintSha256 = otherStep.scheduleFingerprintSha256)
    (sameDay : step.tradingDayIdentity = otherStep.tradingDayIdentity)
    (sameLast : step.lastEligibleM10RedisId = otherStep.lastEligibleM10RedisId) :
    buildCancelOutcome codec preBook input record .cancelExecutionObserved candidate step frontier predecessors
        outcomeSequence =
      buildCancelOutcome codec preBook input record .cancelExecutionObserved other otherStep frontier predecessors
        outcomeSequence := by
  have sameClose : candidate.closeTsUtcMs = other.closeTsUtcMs :=
    Option.some.inj (congrArg M10Fields.closeTsUtcMs sameBar)
  have sameEvidence : ∀ effect ordinal preBookSha256 expected finalized,
      cancelEvidence codec preBook input .cancelExecutionObserved effect candidate step frontier ordinal
          predecessors preBookSha256 expected finalized =
        cancelEvidence codec preBook input .cancelExecutionObserved effect other otherStep frontier ordinal
          predecessors preBookSha256 expected finalized := by
    intro effect ordinal preBookSha256 expected finalized
    unfold cancelEvidence
    rw [sameBar, sameFingerprint, sameDay, sameLast, sameClose]
  unfold buildCancelOutcome
  simp only [cancelEffect, sameEvidence, sameClose]

structure TargetFirst (codec : WorkingLimitCodec) (preBook : Stage8bP1d3WorkingBookProjectionV1)
    (input : Stage8bP1d3CancelInput) (candidate : Stage8bP1d3CanonicalM10Evidence)
    (step : Stage8bP1d3ScheduleStepAuthority) (record : Stage8bP1d3OrderRecordV1) (price : Decimal)
    (targetCheckpoint : HexText) (target : Stage8bP1d3TransitionPlan)
    (continuation : Stage8bP1d3DeferredCancelAfterTarget) : Prop where
  checked : validateCancelInput preBook input = .ok ()
  bar : validateScopedBar preBook candidate = .ok ()
  located : preBook.record input.targetBrokerOrderId = some record
  built : buildAutonomousOutcome codec preBook (targetInput input targetCheckpoint) record
    (.filled candidate step (some price)) = .ok target
  continues : continuation = {
    input := input
    candidate := candidate
    step := step
    expectedTargetPostBookSha256 := postBookStateSha256 codec target.postBook
    targetOutcomeEvidenceSha256 := target.evidenceSha256 }

theorem cancelDirectly_ready {kind : Stage8bP1d3OutcomeKind} {target : Stage8bP1d3TransitionPlan}
    {continuation : Stage8bP1d3DeferredCancelAfterTarget} :
    cancelDirectly codec preBook input record kind candidate step ≠ .ok (.targetThenCancel target continuation) := by
  intro built
  obtain ⟨_, _, isReady, _⟩ := cancelDirectly_ok built
  cases isReady

theorem targetFirst_of_built {target : Stage8bP1d3TransitionPlan}
    {continuation : Stage8bP1d3DeferredCancelAfterTarget}
    (built : buildCancelTransition codec preBook input candidate step =
      .ok (.targetThenCancel target continuation)) :
    ∃ record price targetCheckpoint,
      TargetFirst codec preBook input candidate step record price targetCheckpoint target continuation := by
  unfold buildCancelTransition at built
  obtain ⟨_, built⟩ := check_bind_ok_iff.1 built
  obtain ⟨checked, built⟩ := check_bind_ok_iff.1 built
  obtain ⟨bar, built⟩ := check_bind_ok_iff.1 built
  obtain ⟨_, built⟩ := check_bind_ok_iff.1 built
  obtain ⟨record, located, built⟩ := bind_ok_iff.1 built
  obtain ⟨_, built⟩ := check_bind_ok_iff.1 built
  obtain ⟨_, built⟩ := check_bind_ok_iff.1 built
  split at built
  · unfold cancelActive at built
    obtain ⟨limit, _, built⟩ := bind_ok_iff.1 built
    obtain ⟨⟨decision, fill⟩, _, built⟩ := bind_ok_iff.1 built
    cases decision with
    | working => exact absurd built cancelDirectly_ready
    | filled =>
        unfold fillThenCancel at built
        obtain ⟨targetCheckpoint, _, built⟩ := bind_ok_iff.1 built
        obtain ⟨plan, outcome, built⟩ := bind_ok_iff.1 built
        cases built
        obtain ⟨_, _, _, _, _, _, _, _, _, made⟩ := buildAutonomousOutcome_ok outcome
        have ends := made.ends
        unfold autonomousEnd at ends
        obtain ⟨price, isPrice, _⟩ := bind_ok_iff.1 ends
        rw [orReject_ok_iff] at isPrice
        subst isPrice
        exact ⟨record, price, targetCheckpoint, checked, bar, (orReject_ok_iff ..).1 located, outcome, rfl⟩
  · obtain ⟨kind, _, built⟩ := bind_ok_iff.1 built
    exact absurd built cancelDirectly_ready

end Outcome

def rebasedInput (input : Stage8bP1d3CancelInput) (target : Stage8bP1d3TransitionPlan) (checkpoint : HexText) :
    Stage8bP1d3CancelInput :=
  { input with
    sequenceAllocationFrontier := target.postBook.totalSequenceFrontier
    stage6PredecessorFrontierSha256 := checkpoint
    targetStage6ReservedCheckpointSha256 := none
    previousOutcomeEvidenceSha256 := target.evidenceSha256 }

section Target

variable {input : Stage8bP1d3CancelInput} {record : Stage8bP1d3OrderRecordV1}
  {candidate : Stage8bP1d3CanonicalM10Evidence} {step : Stage8bP1d3ScheduleStepAuthority} {price : Decimal}
  {targetCheckpoint : HexText} {target : Stage8bP1d3TransitionPlan}
  {continuation : Stage8bP1d3DeferredCancelAfterTarget}

structure TargetFacts (codec : WorkingLimitCodec) (preBook : Stage8bP1d3WorkingBookProjectionV1)
    (input : Stage8bP1d3CancelInput) (candidate : Stage8bP1d3CanonicalM10Evidence)
    (step : Stage8bP1d3ScheduleStepAuthority) (price : Decimal) (target : Stage8bP1d3TransitionPlan) : Prop where
  valid : target.postBook.validate codec = .ok ()
  identity : target.postBook.operationalIdentitySha256 = preBook.operationalIdentitySha256
  generation : target.postBook.packageGeneration = preBook.packageGeneration
  account : target.postBook.accountId = preBook.accountId
  instrument : target.postBook.instrument = preBook.instrument
  attribution : target.postBook.attribution = preBook.attribution
  row : ∃ row, target.postBook.record input.targetBrokerOrderId = some row ∧ row.lifecycle = .terminal ∧
    row.status = .filled
  evidenceValid : target.evidence.validate codec.toOutcomeEvidenceCodec = .ok ()
  digest : target.evidence.digestSha256 codec.toOutcomeEvidenceCodec = .ok target.evidenceSha256
  canonical : isCanonicalSha256 target.evidenceSha256 = true
  kind : target.evidence.outcomeKind = .laterFilled
  noRequest : target.evidence.requestId = none
  order : target.evidence.brokerOrderId = input.targetBrokerOrderId
  predicted : target.evidence.expectedPostBookSha256 = postBookStateSha256 codec target.postBook
  bar : target.evidence.candidateM10 = candidateM10Of (some candidate)
  close : target.evidence.transitionSourceTsUtcMs = candidate.closeTsUtcMs
  fill : target.evidence.fillPriceDecimalBytes = some (codec.decimalSerialize price)
  fingerprint : target.evidence.scheduleFingerprintSha256 = step.scheduleFingerprintSha256
  day : target.evidence.tradingDayIdentity = step.tradingDayIdentity
  lastEligible : target.evidence.lastEligibleM10RedisId = step.lastEligibleM10RedisId

theorem digestSha256_canonical {evidenceCodec : OutcomeEvidenceCodec} {evidence : Stage8bP1d3OutcomeEvidenceV1}
    {digest : HexText} (digested : evidence.digestSha256 evidenceCodec = .ok digest) :
    isCanonicalSha256 digest = true := by
  unfold Stage8bP1d3OutcomeEvidenceV1.digestSha256 at digested
  obtain ⟨_, _, digested⟩ := bind_ok_iff.1 digested
  cases digested
  exact Sha256Output.isCanonicalSha256_hex _

theorem TargetFirst.facts
    (first : TargetFirst codec preBook input candidate step record price targetCheckpoint target continuation) :
    TargetFacts codec preBook input candidate step price target := by
  have frontier := validateCancelInput_frontier first.checked
  have named := (mem_of_record first.located).2
  obtain ⟨ended, seqTruth, timestamp, receipt, qty, limit, truth, inserted, preBookSha256, made⟩ :=
    buildAutonomousOutcome_ok first.built
  have ends := made.ends
  unfold autonomousEnd at ends
  obtain ⟨_, _, ends⟩ := bind_ok_iff.1 ends
  obtain ⟨_, ends⟩ := check_bind_ok_iff.1 ends
  obtain ⟨whole, _, ends⟩ := bind_ok_iff.1 ends
  cases ends
  have written := written_of_advance made.inserts made.isSealed.advances
  have located := (registry_of_validate written.valid).record_of_mem written.mem_record
  have grows : preBook.totalSequenceFrontier ≤ seqTruth := by
    rw [UInt64.le_iff_toNat_le, checkedAdd_toNat made.allocated]
    dsimp only [targetInput]
    rw [frontier]
    omega
  have predicted := postBookStateSha256_sealed made.inserts made.isSealed.advances rfl rfl grows
  obtain ⟨ordinal, latest, _, postIs⟩ := advance_ok made.isSealed.advances
  have inserts := made.inserts
  unfold insertOrReplace at inserts
  obtain ⟨_, inserts⟩ := check_bind_ok_iff.1 inserts
  have evidenceIs := made.isSealed.evidenceIs
  have encodes := made.isSealed.encodes
  have digests := made.isSealed.digests
  rw [← evidenceIs] at encodes digests
  exact {
    valid := written.valid
    identity := by rw [postIs]; cases inserts; rfl
    generation := by rw [postIs]; cases inserts; rfl
    account := by rw [postIs]; cases inserts; rfl
    instrument := by rw [postIs]; cases inserts; rfl
    attribution := by rw [postIs]; cases inserts; rfl
    row := ⟨_, named ▸ located, rfl, rfl⟩
    evidenceValid := (validate_of_encodeCanonical encodes).1
    digest := digests
    canonical := digestSha256_canonical digests
    kind := by rw [evidenceIs]; rfl
    noRequest := by rw [evidenceIs]; rfl
    order := by rw [evidenceIs]; exact named
    predicted := by rw [evidenceIs, predicted]; rfl
    bar := by rw [evidenceIs]; rfl
    close := by rw [evidenceIs]; rfl
    fill := by rw [evidenceIs]; rfl
    fingerprint := by rw [evidenceIs]; rfl
    day := by rw [evidenceIs]; rfl
    lastEligible := by rw [evidenceIs]; rfl }

/-- Of the rebased input only the checkpoint is left to check. -/
theorem validateCancelInput_rebased (checked : validateCancelInput preBook input = .ok ())
    (facts : TargetFacts codec preBook input candidate step price target) (checkpoint : HexText) :
    validateCancelInput target.postBook (rebasedInput input target checkpoint) =
      rejectIf (isCanonicalSha256 checkpoint = false) .identityMismatch := by
  unfold validateCancelInput at checked ⊢
  obtain ⟨inScope, checked⟩ := check_bind_ok_iff.1 checked
  obtain ⟨attribution, attributed, checked⟩ := bind_ok_iff.1 checked
  obtain ⟨named, checked⟩ := check_bind_ok_iff.1 checked
  obtain ⟨digests, decided⟩ := check_bind_ok_iff.1 checked
  simp only [rejectIf_ok_iff, not_or, ne_eq, not_not] at inScope named decided
  simp only [rejectIf_ok_iff, List.any_cons, List.any_nil, Bool.or_false, Bool.or_eq_true, Bool.not_eq_true',
    not_or, Bool.not_eq_false] at digests
  obtain ⟨sameAttribution, client, hasTarget, otherClient, _⟩ := named
  unfold rebasedInput
  dsimp only
  rw [facts.identity, facts.generation, facts.account, facts.instrument, facts.attribution, attributed]
  rw [rejectIf_of_not _ (by simp [inScope]), ok_bind, ok_bind, rejectIf_of_not _ (by
    simp only [not_or, ne_eq, not_not]
    exact ⟨sameAttribution, client, hasTarget, otherClient, trivial⟩), ok_bind]
  have decides : ∀ digests : Except Stage8bP1d3Error Unit, (do
      digests
      rejectIf (input.decisionM10RedisId ≠ toString input.decisionM10CloseTsUtcMs ++ "-0" ∨
        input.decisionM10CloseTsUtcMs - input.decisionM10OpenTsUtcMs ≠ 600000 ∨
        isIntegral input.prePositionQty = false ∨ input.stage6DispatchLifecycleSequence = 0 ∨
        (none : Option HexText).any (fun value => !isCanonicalSha256 value) = true)
        Stage8bP1d3Error.identityMismatch) = digests := by
    intro digests
    rw [rejectIf_of_not _ (by simp [decided])]
    cases digests <;> rfl
  rw [decides]
  cases isCanonical : isCanonicalSha256 checkpoint with
  | false => simp [rejectIf, isCanonical]
  | true => simp [rejectIf, isCanonical, digests, facts.canonical]

/-- What both ways come to: the checkpoint is checked, and the ended target acknowledged. -/
def acknowledgeTarget (codec : WorkingLimitCodec) (input : Stage8bP1d3CancelInput)
    (candidate : Stage8bP1d3CanonicalM10Evidence) (step : Stage8bP1d3ScheduleStepAuthority)
    (target : Stage8bP1d3TransitionPlan) (checkpoint : HexText) (row : Stage8bP1d3OrderRecordV1) :
    Except Stage8bP1d3Error Stage8bP1d3TransitionPlan := do
  rejectIf (isCanonicalSha256 checkpoint = false) .identityMismatch
  let outcomeSequence ← orReject (checkedAdd input.stage6DispatchLifecycleSequence 2) .invalidSequence
  buildCancelOutcome codec target.postBook (rebasedInput input target checkpoint) row .cancelExecutionObserved
    candidate step target.postBook.totalSequenceFrontier
    (cancelPredecessors (rebasedInput input target checkpoint)) outcomeSequence

theorem complete_eq (continues : continuation = {
      input := input
      candidate := candidate
      step := step
      expectedTargetPostBookSha256 := postBookStateSha256 codec target.postBook
      targetOutcomeEvidenceSha256 := target.evidenceSha256 })
    (facts : TargetFacts codec preBook input candidate step price target) (checkpoint : HexText) :
    ∃ row, row.lifecycle = .terminal ∧ target.postBook.record input.targetBrokerOrderId = some row ∧
      row.status = .filled ∧
      continuation.complete codec target.postBook checkpoint =
        acknowledgeTarget codec input candidate step target checkpoint row := by
  obtain ⟨row, located, ended, filled⟩ := facts.row
  refine ⟨row, ended, located, filled, ?_⟩
  subst continues
  have sameCheck : (isCanonicalSha256 checkpoint = false ∨
      postBookStateSha256 codec target.postBook ≠ postBookStateSha256 codec target.postBook) ↔
        isCanonicalSha256 checkpoint = false := by simp
  have passes : rejectIf (row.lifecycle ≠ .terminal ∨ row.status ≠ .filled) Stage8bP1d3Error.invalidTransition =
      .ok () := rejectIf_of_not _ (by simp [ended, filled])
  unfold Stage8bP1d3DeferredCancelAfterTarget.complete acknowledgeTarget
  dsimp only
  rw [facts.valid, ok_bind, rejectIf_congr _ sameCheck, located, orReject_bind_of_some rfl, passes, ok_bind]
  rfl

/-- The bar and the step as the evidence of the fill tells them. -/
theorem reconstruction_eq (readable : DecimalRoundTrip codec.toOutcomeEvidenceCodec)
    (bar : validateScopedBar preBook candidate = .ok ()) (checked : validateCancelInput preBook input = .ok ())
    (facts : TargetFacts codec preBook input candidate step price target) (checkpoint : HexText)
    {row : Stage8bP1d3OrderRecordV1} (located : target.postBook.record input.targetBrokerOrderId = some row)
    (ended : row.lifecycle = .terminal) (filled : row.status = .filled) :
    buildCancelAfterTargetTransition codec target.postBook (rebasedInput input target checkpoint)
        target.evidence =
      acknowledgeTarget codec input candidate step target checkpoint row := by
  have barId := validateScopedBar_redisId bar
  have rebuilt : ∃ other, candidateOfTarget target.evidence price = .ok other ∧
      candidateM10Of (some candidate) = candidateM10Of (some other) := by
    unfold candidateOfTarget
    rw [facts.bar]
    exact ⟨_, rfl, rfl⟩
  obtain ⟨other, isOther, sameBar⟩ := rebuilt
  unfold buildCancelAfterTargetTransition acknowledgeTarget
  rw [facts.valid, ok_bind, facts.evidenceValid, ok_bind, rejectIf_of_not _ (by
    simp [facts.kind, facts.noRequest, facts.order, rebasedInput]), ok_bind, facts.digest, ok_bind,
    rejectIf_of_not _ (by
      simp [facts.predicted, facts.bar, facts.close, candidateM10Of, barId, rebasedInput]), ok_bind,
    facts.fill, orReject_bind_of_some rfl, decimal_serialize readable, ok_bind, isOther, ok_bind]
  have passes : rejectIf (row.lifecycle ≠ .terminal ∨ row.status ≠ .filled) Stage8bP1d3Error.invalidTransition =
      .ok () := rejectIf_of_not _ (by simp [ended, filled])
  dsimp only
  rw [validateCancelInput_rebased checked facts checkpoint]
  dsimp only [rebasedInput]
  rw [located, orReject_bind_of_some rfl, passes, ok_bind]
  refine bind_congr fun _ => bind_congr fun outcomeSequence => ?_
  exact (buildCancelOutcome_observed_congr step _ sameBar facts.fingerprint.symm facts.day.symm
    facts.lastEligible.symm).symm

/-- The continuation of a cancel comes to the same plan, or to the same failure, as the cancel that is rebuilt
from the evidence of the fill, and leaves the book as the fill left it. -/
theorem continuation_eq_reconstruction (readable : DecimalRoundTrip codec.toOutcomeEvidenceCodec)
    (built : buildCancelTransition codec preBook input candidate step =
      .ok (.targetThenCancel target continuation)) (checkpoint : HexText) :
    continuation.complete codec target.postBook checkpoint =
        buildCancelAfterTargetTransition codec target.postBook (rebasedInput input target checkpoint)
          target.evidence ∧
      ∀ plan, continuation.complete codec target.postBook checkpoint = .ok plan →
        plan.postBook = target.postBook ∧ plan.truth = none := by
  obtain ⟨record, price, targetCheckpoint, first⟩ := targetFirst_of_built built
  have facts := first.facts
  obtain ⟨row, ended, located, filled, completes⟩ := complete_eq first.continues facts checkpoint
  rw [completes]
  constructor
  · exact (reconstruction_eq readable first.bar first.checked facts checkpoint located ended filled).symm
  · intro plan acknowledged
    unfold acknowledgeTarget at acknowledged
    obtain ⟨_, acknowledged⟩ := check_bind_ok_iff.1 acknowledged
    obtain ⟨outcomeSequence, _, acknowledged⟩ := bind_ok_iff.1 acknowledged
    obtain ⟨_, _, _, _, made⟩ := buildCancelOutcome_recovered (.inl rfl) acknowledged
    exact ⟨made.postBook, made.truthIs⟩

end Target

def crossedCancel : Option (Stage8bP1d3WorkingBookProjectionV1 × Stage8bP1d3CancelInput ×
    Stage8bP1d3TransitionPlan × Stage8bP1d3DeferredCancelAfterTarget) := do
  let run ← sampleRun (untouchedNext 1) fun _ _ => []
  let cancel ← sampleAttribution "CANCEL"
  let input := { sampleCancel 2 cancel run.book.totalSequenceFrontier with
    targetStage6ReservedCheckpointSha256 := some (sampleHex 1) }
  match ← (buildCancelTransition (plainWorkingLimitCodec []) run.book input
    (sampleBar 2 (Decimal.ofNat 99 priceBelow_fits)) (sampleStep 1 2)).toOption with
  | .ready _ => none
  | .targetThenCancel target continuation => some (run.book, input, target, continuation)

theorem continuation_eq_reconstruction_crossed :
    ∃ book input target continuation, buildCancelTransition (plainWorkingLimitCodec []) book input
        (sampleBar 2 (Decimal.ofNat 99 priceBelow_fits)) (sampleStep 1 2) =
      .ok (.targetThenCancel target continuation) ∧
      (continuation.complete (plainWorkingLimitCodec []) target.postBook (sampleHex 2)).isOk = true ∧
      continuation.complete (plainWorkingLimitCodec []) target.postBook (sampleHex 2) =
        buildCancelAfterTargetTransition (plainWorkingLimitCodec []) target.postBook
          (rebasedInput input target (sampleHex 2)) target.evidence := by
  have computed : crossedCancel.any (fun (_, _, target, continuation) =>
      (continuation.complete (plainWorkingLimitCodec []) target.postBook (sampleHex 2)).isOk) = true := by
    decide +kernel
  obtain ⟨⟨book, input, target, continuation⟩, found, succeeds⟩ := (Option.any_eq_true _ _).1 computed
  simp only [crossedCancel, Option.bind_eq_bind, Option.bind_eq_some_iff, toOption_eq_some_iff] at found
  obtain ⟨run, _, cancel, _, plan, built, found⟩ := found
  have readable : DecimalRoundTrip (plainWorkingLimitCodec []).toOutcomeEvidenceCodec := decimalReadsBack_plain _
  cases plan with
  | ready _ => cases found
  | targetThenCancel target continuation =>
      cases found
      exact ⟨_, _, _, _, built, succeeds, (continuation_eq_reconstruction readable built (sampleHex 2)).1⟩

end TradingGateway.Stage8b.DeferredCancels
