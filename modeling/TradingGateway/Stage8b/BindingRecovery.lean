import TradingGateway.Stage8b.ScheduleRecoveryProperties
import TradingGateway.Stage5e.PlainScheduleEnvelope
import TradingGateway.Stage8b.LimitEvaluations

/-! A durable schedule binding comes back as it was prepared exactly when its envelope is
still timely at the recorded instant. -/

set_option autoImplicit false

namespace TradingGateway.Stage8b.ScheduleRecovery

open BrokerCore.Orders BrokerCore.Orders.DateTimeUtc
open Stage5e.ScheduleSource Stage5e.ScheduleEnvelope Stage5e.ScheduleVerifier Stage5e.ScheduleRoutes
open Stage6.JournalRecord Stage6.VersionedRecord
open Foundation.ExceptRun

section Reverification

variable {codec : EnvelopeCodec} {anchor : TrustAnchor} {exactEnvelopeBytes : List UInt8}
  {context : Stage8bP1eScheduleVerificationContextV1} {accepted : Stage8bP1eAcceptedScheduleSource codec}

def again (source : Stage8bP1eAcceptedScheduleSource codec) : Stage8bP1eAcceptedScheduleSource codec :=
  { source with progression := .idempotent }

structure Verified (codec : EnvelopeCodec) (anchor : TrustAnchor) (exactEnvelopeBytes : List UInt8)
    (accepted : Stage8bP1eAcceptedScheduleSource codec) (times : EvidenceTimes) : Prop where
  authentic : Authentic codec anchor exactEnvelopeBytes accepted.envelope times accepted.highWater
  accepts : acceptEnvelope codec anchor exactEnvelopeBytes accepted.envelope times accepted.highWater
    accepted.progression = .ok accepted
  bytes : accepted.exactEnvelopeBytes = exactEnvelopeBytes
  limits : ∃ transportLimit, accepted.highWater.publishedAtUtc.plusMilliseconds transportMaxAgeMs = some transportLimit ∧
    ∀ now : DateTimeUtc, ¬ now.After accepted.validUntil → ¬ now.After times.normalizedExpires ∧
      ¬ now.After times.stage4Expires ∧ ¬ now.After transportLimit ∧ ¬ now.After anchor.validUntil

theorem verified_of_verifyEnvelope (verified : verifyEnvelope codec anchor exactEnvelopeBytes context = .ok accepted) :
    ∃ times, Verified codec anchor exactEnvelopeBytes accepted times ∧
      Unexpired anchor times context.trustedNow ∧
      TimelyAt accepted.highWater.publishedAtUtc times context.trustedNow ∧
      matchesIdentity accepted.envelope context = .ok () := by
  obtain ⟨envelope, times, candidate, progression, authentic, unexpired, timely, _, identity, accepts⟩ :=
    verifyEnvelope_ok_iff.1 verified
  obtain ⟨transportLimit, reaches, sound, same⟩ := acceptEnvelope_ok_iff.1 accepts
  subst same
  refine ⟨times, ⟨authentic, accepts, rfl, transportLimit, reaches, ?_⟩, unexpired, timely, identity⟩
  intro now fresh
  have anchored := not_after_trans fresh (earliest_not_after_right _ _)
  have unsigned := not_after_trans fresh (earliest_not_after_left _ _)
  have transport := not_after_trans unsigned (earliest_not_after_right _ _)
  have sources := not_after_trans unsigned (earliest_not_after_left _ _)
  exact ⟨not_after_trans sources (earliest_not_after_left _ _), not_after_trans sources (earliest_not_after_right _ _),
    transport, anchored⟩

/-- Verified again until it expires, an envelope is accepted exactly when it is timely then. -/
theorem Verified.verifyEnvelope_again_iff {times : EvidenceTimes}
    (verified : Verified codec anchor exactEnvelopeBytes accepted times)
    (known : context.highWater = some accepted.highWater) (identity : matchesIdentity accepted.envelope context = .ok ())
    (trusted : ¬ anchor.validFrom.After context.trustedNow) (fresh : ¬ context.trustedNow.After accepted.validUntil)
    (found : Stage8bP1eAcceptedScheduleSource codec) :
    verifyEnvelope codec anchor exactEnvelopeBytes context = .ok found ↔
      found = again accepted ∧ TimelyAt accepted.highWater.publishedAtUtc times context.trustedNow := by
  obtain ⟨_, _, limits⟩ := verified.limits
  obtain ⟨normalized, stage4, _, anchored⟩ := limits context.trustedNow fresh
  obtain ⟨transportLimit, reaches, sound, same⟩ := acceptEnvelope_ok_iff.1 verified.accepts
  rw [verifyEnvelope_ok_iff]
  constructor
  · rintro ⟨envelope, foundTimes, candidate, progression, authentic, _, timely, progresses, _, accepts⟩
    have sameEnvelope : envelope = accepted.envelope :=
      Option.some.inj (authentic.read.symm.trans verified.authentic.read)
    subst sameEnvelope
    have sameTimes : foundTimes = times := Except.ok.inj (authentic.instants.symm.trans verified.authentic.instants)
    have sameHighWater : candidate = accepted.highWater :=
      Except.ok.inj (authentic.highWater.symm.trans verified.authentic.highWater)
    subst sameTimes
    subst sameHighWater
    rw [known, validateProgression_self] at progresses
    have idempotent := Except.ok.inj progresses
    subst idempotent
    obtain ⟨limit, reached, _, isFound⟩ := acceptEnvelope_ok_iff.1 accepts
    have sameLimit : limit = transportLimit := Option.some.inj (reached.symm.trans reaches)
    subst sameLimit
    refine ⟨?_, timely⟩
    rw [isFound]
    unfold again
    conv_rhs => rw [same]
  · rintro ⟨rfl, timely⟩
    refine ⟨accepted.envelope, times, accepted.highWater, .idempotent, verified.authentic,
      ⟨trusted, anchored, normalized, stage4⟩, timely, ?_, identity, ?_⟩
    · rw [known, validateProgression_self]
    · rw [acceptEnvelope_ok_iff]
      refine ⟨transportLimit, reaches, sound, ?_⟩
      unfold again
      conv_lhs => rw [same]

end Reverification

section Routes

variable {codec : RecoveryCodec} {source : Stage8bP1eAcceptedScheduleSource codec.envelopes}
  {candidate : ScheduleBindingCandidate}

structure Binds (source : Stage8bP1eAcceptedScheduleSource codec.envelopes)
    (transitionKind : Stage8bP1eScheduleTransitionKindV1) (predecessor bar : Stage8bP1eM10IdentityV1)
    (binding : Stage8bP1eRequestOrOrderBindingV1) (redisStreamId : String) (candidate : ScheduleBindingCandidate) :
    Prop where
  transitionKind : candidate.transitionKind = transitionKind
  predecessor : candidate.predecessorM10 = predecessor
  bar : candidate.candidateOrLastEligibleM10 = bar
  binding : candidate.requestOrOrderBinding = binding
  redisStreamId : candidate.redisStreamId = redisStreamId
  envelope : candidate.exactEnvelopeBytes = source.exactEnvelopeBytes
  operationalIdentity : candidate.operationalIdentitySha256 = source.envelope.operationalIdentitySha256
  validUntil : candidate.validUntil = source.validUntil

section Bindings

variable {transitionKind : Stage8bP1eScheduleTransitionKindV1} {predecessor bar : Stage8bP1eM10IdentityV1}
  {binding : Stage8bP1eRequestOrOrderBindingV1} {redisStreamId : String}

theorem binds_of_prepareBinding {authorityKind : Stage8bP1eScheduleAuthorityKindV1}
    {route : Stage8bP1ePreparedScheduleRouteV1}
    (made : source.prepareBinding transitionKind authorityKind predecessor bar binding redisStreamId route = .ok candidate) :
    Binds source transitionKind predecessor bar binding redisStreamId candidate := by
  unfold Stage8bP1eAcceptedScheduleSource.prepareBinding at made
  obtain ⟨_, kept⟩ := check_bind_ok_iff.1 made
  have same := Except.ok.inj kept
  subst same
  exact ⟨rfl, rfl, rfl, rfl, rfl, rfl, rfl, rfl⟩

theorem binds_of_step {route : ScheduleStepRoute} {step : Stage8bP1eScheduleBindingCandidateV1}
    (made : source.steps.prepareBinding transitionKind predecessor bar binding redisStreamId route = .ok step) :
    Binds source transitionKind predecessor bar binding redisStreamId (.ofStep step) := by
  unfold Stage8bP1eAcceptedScheduleSourceV1.prepareBinding at made
  obtain ⟨_, kept⟩ := check_bind_ok_iff.1 made
  have same := Except.ok.inj kept
  subst same
  exact ⟨rfl, rfl, rfl, rfl, rfl, rfl, rfl, rfl⟩

end Bindings

section Market

variable {predecessor bar : Stage8bP1eM10IdentityV1} {requestId : String} {commandSha256 : HexText}
  {redisStreamId : String}

theorem binds_of_market {publicationSeal : Option (UInt64 × HexText)}
    (made : source.prepareMarketWith predecessor bar requestId commandSha256 publicationSeal redisStreamId =
      .ok candidate) :
    Binds source .marketExecution predecessor bar {
      strategyRequestId := some requestId
      canonicalCommandSha256 := some commandSha256
      activeBrokerOrderId := none
      workingBookTransitionSha256 := none
      publicationSealGeneration := publicationSeal.map Prod.fst
      publicationSealCommitmentSha256 := publicationSeal.map Prod.snd } redisStreamId candidate := by
  unfold Stage8bP1eAcceptedScheduleSource.prepareMarketWith at made
  obtain ⟨_, made⟩ := check_bind_ok_iff.1 made
  obtain ⟨_, _, made⟩ := bind_ok_iff.1 made
  exact binds_of_prepareBinding made

end Market

section Steps

/-- The routes of the older candidates bind what these do. -/
theorem binds_of_map {transitionKind : Stage8bP1eScheduleTransitionKindV1} {predecessor bar : Stage8bP1eM10IdentityV1}
    {binding : Stage8bP1eRequestOrOrderBindingV1} {redisStreamId : String}
    {prepared : Except Stage8bP1eScheduleSourceError Stage8bP1eScheduleBindingCandidateV1}
    (made : prepared.map .ofStep = .ok candidate)
    (binds : ∀ step, prepared = .ok step →
      Binds source transitionKind predecessor bar binding redisStreamId (.ofStep step)) :
    Binds source transitionKind predecessor bar binding redisStreamId candidate := by
  obtain ⟨step, stepMade, same⟩ := (map_ok_iff ..).1 made
  subst same
  exact binds step stepMade

variable {predecessor bar : Stage8bP1eM10IdentityV1} {requestId orderId : String}
  {commandSha256 transitionSha256 : HexText} {publicationSeal : UInt64 × HexText} {redisStreamId : String}

theorem binds_of_workingLimit (made : source.prepareWorkingLimitBinding predecessor bar orderId transitionSha256
      redisStreamId = .ok candidate) :
    Binds source .workingLimitEvaluation predecessor bar {
      strategyRequestId := none
      canonicalCommandSha256 := none
      activeBrokerOrderId := some orderId
      workingBookTransitionSha256 := some transitionSha256
      publicationSealGeneration := none
      publicationSealCommitmentSha256 := none } redisStreamId candidate := by
  refine binds_of_map made fun step stepMade => ?_
  unfold Stage8bP1eAcceptedScheduleSourceV1.prepareWorkingLimitBinding at stepMade
  obtain ⟨_, stepMade⟩ := check_bind_ok_iff.1 stepMade
  obtain ⟨_, stepMade⟩ := check_bind_ok_iff.1 stepMade
  obtain ⟨_, _, bound⟩ := bind_ok_iff.1 stepMade
  exact binds_of_step bound

theorem binds_of_initialLimit (made : source.prepareInitialLimitBinding predecessor bar requestId commandSha256
      publicationSeal redisStreamId = .ok candidate) :
    Binds source .initialLimitEvaluation predecessor bar {
      strategyRequestId := some requestId
      canonicalCommandSha256 := some commandSha256
      activeBrokerOrderId := none
      workingBookTransitionSha256 := none
      publicationSealGeneration := some publicationSeal.1
      publicationSealCommitmentSha256 := some publicationSeal.2 } redisStreamId candidate := by
  refine binds_of_map made fun step stepMade => ?_
  unfold Stage8bP1eAcceptedScheduleSourceV1.prepareInitialLimitBinding at stepMade
  obtain ⟨_, stepMade⟩ := check_bind_ok_iff.1 stepMade
  obtain ⟨_, stepMade⟩ := check_bind_ok_iff.1 stepMade
  obtain ⟨_, _, bound⟩ := bind_ok_iff.1 stepMade
  exact binds_of_step bound

theorem binds_of_cancel (made : source.prepareCancelBinding predecessor bar requestId commandSha256 publicationSeal
      orderId transitionSha256 redisStreamId = .ok candidate) :
    Binds source .cancelStep predecessor bar {
      strategyRequestId := some requestId
      canonicalCommandSha256 := some commandSha256
      activeBrokerOrderId := some orderId
      workingBookTransitionSha256 := some transitionSha256
      publicationSealGeneration := some publicationSeal.1
      publicationSealCommitmentSha256 := some publicationSeal.2 } redisStreamId candidate := by
  refine binds_of_map made fun step stepMade => ?_
  unfold Stage8bP1eAcceptedScheduleSourceV1.prepareCancelBinding at stepMade
  obtain ⟨_, stepMade⟩ := check_bind_ok_iff.1 stepMade
  obtain ⟨_, _, bound⟩ := bind_ok_iff.1 stepMade
  exact binds_of_step bound

/-- The boundary of a day is a whole microsecond, so that the instant of the expiry may be any at or after it. -/
theorem prepareDayExpiryBinding_ok (laws : ChronoLaws codec.envelopes.calendar) {trustedNow : DateTimeUtc}
    (made : source.prepareDayExpiryBinding predecessor bar trustedNow orderId transitionSha256 redisStreamId =
      .ok candidate) :
    Binds source .dayExpiry predecessor bar {
      strategyRequestId := none
      canonicalCommandSha256 := none
      activeBrokerOrderId := some orderId
      workingBookTransitionSha256 := some transitionSha256
      publicationSealGeneration := none
      publicationSealCommitmentSha256 := none } redisStreamId candidate ∧
    ∀ later : DateTimeUtc, ¬ trustedNow.After later → ¬ later.After source.validUntil →
      source.prepareDayExpiryBinding predecessor bar later.truncMicros orderId transitionSha256 redisStreamId =
        .ok candidate := by
  unfold Stage8bP1eAcceptedScheduleSource.prepareDayExpiryBinding at made
  dsimp only at made
  obtain ⟨closed, made⟩ := check_bind_ok_iff.1 made
  obtain ⟨proof, proven, made⟩ := bind_ok_iff.1 made
  obtain ⟨boundary, boundaryRead, made⟩ := bind_ok_iff.1 made
  obtain ⟨lastOpen, openRead, made⟩ := bind_ok_iff.1 made
  obtain ⟨lastClose, closeRead, made⟩ := bind_ok_iff.1 made
  obtain ⟨due, made⟩ := check_bind_ok_iff.1 made
  obtain ⟨lastBar, made⟩ := check_bind_ok_iff.1 made
  obtain ⟨lastEligible, eligible, made⟩ := bind_ok_iff.1 made
  obtain ⟨isLast, made⟩ := check_bind_ok_iff.1 made
  obtain ⟨pair, bound⟩ := check_bind_ok_iff.1 made
  simp only [rejectIf_ok_iff, not_or] at due
  refine ⟨binds_of_prepareBinding bound, ?_⟩
  intro later after fresh
  have reached := not_after_truncMicros (parseExactTimestamp_aligned laws boundaryRead) (not_after_trans due.1 after)
  have inTime := not_after_trans (truncMicros_not_after later) fresh
  unfold Stage8bP1eAcceptedScheduleSource.prepareDayExpiryBinding
  dsimp only
  rw [closed, ok_bind, proven, ok_bind, boundaryRead, ok_bind, openRead, ok_bind, closeRead, ok_bind,
    rejectIf_of_not _ (not_or.2 ⟨reached, inTime⟩), ok_bind, lastBar, ok_bind, eligible, ok_bind, isLast, ok_bind,
    pair, ok_bind]
  exact bound

end Steps

theorem binds_of_prepares (laws : ChronoLaws codec.envelopes.calendar) {notBefore : Option DateTimeUtc}
    (prepared : source.Prepares notBefore candidate) :
    ∃ transitionKind predecessor bar binding redisStreamId,
      Binds source transitionKind predecessor bar binding redisStreamId candidate := by
  cases prepared with
  | market made => exact ⟨_, _, _, _, _, binds_of_market made⟩
  | publishedMarket made => exact ⟨_, _, _, _, _, binds_of_market made⟩
  | generatedMarket made => exact ⟨_, _, _, _, _, binds_of_market made⟩
  | workingLimit made => exact ⟨_, _, _, _, _, binds_of_workingLimit made⟩
  | initialLimit made => exact ⟨_, _, _, _, _, binds_of_initialLimit made⟩
  | cancel made => exact ⟨_, _, _, _, _, binds_of_cancel made⟩
  | dayExpiry made => exact ⟨_, _, _, _, _, (prepareDayExpiryBinding_ok laws made).1⟩

/-- What a record holds leads back to the candidate on its route. -/
theorem prepareAgain_of_prepares (laws : ChronoLaws codec.envelopes.calendar) {notBefore : Option DateTimeUtc}
    (prepared : source.Prepares notBefore candidate) {boundAt : DateTimeUtc}
    {record : Stage6JournalRecordV4 codec.toReconciliationCodec} (recorded : Recorded codec candidate boundAt record)
    (started : ∀ start ∈ notBefore, ¬ start.After boundAt) :
    prepareAgain codec (again source) record candidate.predecessorM10 candidate.candidateOrLastEligibleM10
      boundAt.truncMicros = .ok candidate := by
  unfold prepareAgain
  dsimp only
  rw [recorded.transitionKind, recorded.binding, recorded.redisStreamId]
  cases prepared with
  | market made =>
      have binds := binds_of_market made
      rw [binds.transitionKind, binds.binding, binds.redisStreamId, binds.predecessor, binds.bar]
      exact made
  | publishedMarket made =>
      have binds := binds_of_market made
      rw [binds.transitionKind, binds.binding, binds.redisStreamId, binds.predecessor, binds.bar]
      exact made
  | generatedMarket made =>
      have binds := binds_of_market made
      rw [binds.transitionKind, binds.binding, binds.redisStreamId, binds.predecessor, binds.bar]
      exact made
  | workingLimit made =>
      have binds := binds_of_workingLimit made
      rw [binds.transitionKind, binds.binding, binds.redisStreamId, binds.predecessor, binds.bar]
      exact made
  | initialLimit made =>
      have binds := binds_of_initialLimit made
      rw [binds.transitionKind, binds.binding, binds.redisStreamId, binds.predecessor, binds.bar]
      exact made
  | cancel made =>
      have binds := binds_of_cancel made
      rw [binds.transitionKind, binds.binding, binds.redisStreamId, binds.predecessor, binds.bar]
      exact made
  | dayExpiry made =>
      obtain ⟨binds, prepares⟩ := prepareDayExpiryBinding_ok laws made
      have unexpired := recorded.unexpired
      rw [binds.validUntil] at unexpired
      rw [binds.transitionKind, binds.binding, binds.redisStreamId, binds.predecessor, binds.bar]
      exact prepares boundAt (started _ rfl) unexpired

end Routes

section Recovery

variable {codec : RecoveryCodec} {anchor : TrustAnchor} {exactEnvelopeBytes : List UInt8}
  {context : Stage8bP1eScheduleVerificationContextV1} {source : Stage8bP1eAcceptedScheduleSource codec.envelopes}
  {candidate : ScheduleBindingCandidate} {boundAt : DateTimeUtc}
  {record : Stage6JournalRecordV4 codec.toReconciliationCodec}

/-- The recorded envelope is timely at an instant: nothing of it is from the future or too old then. -/
def EnvelopeTimely (source : Stage8bP1eAcceptedScheduleSource codec.envelopes) (now : DateTimeUtc) : Prop :=
  ∃ times, evidenceTimes codec.envelopes source.envelope = .ok times ∧ TimelyAt source.highWater.publishedAtUtc times now

theorem recoverBindingMaterial_ok_iff (laws : ChronoLaws codec.envelopes.calendar)
    (trusted : anchor.validFrom.truncMicros = anchor.validFrom)
    (verified : verifyEnvelope codec.envelopes anchor exactEnvelopeBytes context = .ok source)
    {notBefore : Option DateTimeUtc} (prepared : source.Prepares notBefore candidate)
    (recorded : Recorded codec candidate boundAt record) (after : ¬ context.trustedNow.After boundAt)
    (started : ∀ start ∈ notBefore, ¬ start.After boundAt) :
    recoverBindingMaterial codec anchor record context.expectedRuntimeConfigFingerprintSha256
        context.expectedInstrumentMapFingerprintSha256 = .ok (candidate, source.highWater) ↔
      EnvelopeTimely source boundAt.truncMicros := by
  obtain ⟨times, accepted, unexpired, _, identity⟩ := verified_of_verifyEnvelope verified
  obtain ⟨transitionKind, predecessor, bar, binding, redisStreamId, binds⟩ := binds_of_prepares laws prepared
  have bytes := recorded.reads_envelope
  rw [binds.envelope, accepted.bytes] at bytes
  have operational := recorded.operationalIdentity
  rw [binds.operationalIdentity] at operational
  have valid := recorded.unexpired
  rw [binds.validUntil] at valid
  obtain ⟨_, predecessorValid, barValid, _⟩ := validRecord_reads record
  have predecessorRead := toP1eIdentity_of_scheduleM10 laws recorded.predecessor predecessorValid
  have barRead := toP1eIdentity_of_scheduleM10 laws recorded.bar barValid
  have sameIdentity : matchesIdentity source.envelope (recoveryContext source.envelope source.highWater
      record.operationalIdentitySha256 context.expectedRuntimeConfigFingerprintSha256
      context.expectedInstrumentMapFingerprintSha256 boundAt.truncMicros) = .ok () := by
    unfold matchesIdentity recoveryContext at *
    simp only [rejectIf_ok_iff, not_or, not_not] at *
    exact ⟨operational.symm, identity.2.1, identity.2.2.1, trivial, trivial⟩
  have stillTrusted : ¬ anchor.validFrom.After boundAt.truncMicros :=
    not_after_truncMicros trusted (not_after_trans unexpired.trusted after)
  have stillValid : ¬ boundAt.truncMicros.After source.validUntil :=
    not_after_trans (truncMicros_not_after boundAt) valid
  have reverified := accepted.verifyEnvelope_again_iff rfl sameIdentity stillTrusted stillValid
  unfold recoverBindingMaterial
  rw [(mapError_ok_iff ..).2 bytes, ok_bind, orReject_bind_of_some accepted.authentic.read,
    accepted.authentic.highWater, ok_bind, (mapError_ok_iff ..).2 (recorded.reads_bound laws), ok_bind]
  constructor
  · intro recovered
    obtain ⟨found, verifiedAgain, _⟩ := bind_ok_iff.1 recovered
    obtain ⟨_, timely⟩ := (reverified found).1 verifiedAgain
    exact ⟨times, accepted.authentic.instants, timely⟩
  · rintro ⟨found, instants, timely⟩
    have sameTimes : found = times := Except.ok.inj (instants.symm.trans accepted.authentic.instants)
    subst sameTimes
    rw [(reverified _).2 ⟨rfl, timely⟩, ok_bind, predecessorRead, ok_bind, barRead, ok_bind,
      prepareAgain_of_prepares laws prepared recorded started, ok_bind,
      rejectIf_of_not _ (by simp [recorded.matches_candidate]), ok_bind]

/-- The instants an envelope was accepted with have whole microseconds. -/
theorem Verified.whole {codec : EnvelopeCodec} {source : Stage8bP1eAcceptedScheduleSource codec} {times : EvidenceTimes}
    (laws : ChronoLaws codec.calendar) (verified : Verified codec anchor exactEnvelopeBytes source times) :
    source.highWater.publishedAtUtc.truncMicros = source.highWater.publishedAtUtc ∧
      times.normalizedObserved.truncMicros = times.normalizedObserved ∧
      times.stage4Observed.truncMicros = times.stage4Observed := by
  have published := highWaterFromEnvelope_published verified.authentic.highWater
  have instants := verified.authentic.instants
  unfold evidenceTimes at instants
  obtain ⟨normalizedObserved, normalizedRead, instants⟩ := bind_ok_iff.1 instants
  obtain ⟨_, _, instants⟩ := bind_ok_iff.1 instants
  obtain ⟨stage4Observed, stage4Read, instants⟩ := bind_ok_iff.1 instants
  obtain ⟨_, _, kept⟩ := bind_ok_iff.1 instants
  have same := Except.ok.inj kept
  subst same
  exact ⟨parseExactTimestamp_aligned laws published, parseExactTimestamp_aligned laws normalizedRead,
    parseExactTimestamp_aligned laws stage4Read⟩

/-- None of the instants lies within a leap second. -/
def AllOrdinary (source : Stage8bP1eAcceptedScheduleSource codec.envelopes) (times : EvidenceTimes)
    (verifiedAt boundAt : DateTimeUtc) : Prop :=
  ∀ time ∈ [source.highWater.publishedAtUtc, verifiedAt, boundAt, times.normalizedObserved, times.stage4Observed],
    time.Ordinary

instance (source : Stage8bP1eAcceptedScheduleSource codec.envelopes) (times : EvidenceTimes)
    (verifiedAt boundAt : DateTimeUtc) : Decidable (AllOrdinary source times verifiedAt boundAt) :=
  inferInstanceAs (Decidable (∀ time ∈ ([_, _, _, _, _] : List DateTimeUtc), time.Ordinary))

/-- What was verified, prepared and made durable comes back unless its envelope has gone stale by the
recorded instant: `valid_until` does not know the limit of 24 hours. -/
theorem committed_binding_recovers_iff (laws : ChronoLaws codec.envelopes.calendar)
    (verified : verifyStage8bP1eScheduleEnvelopeV3 codec.envelopes exactEnvelopeBytes context = .ok source)
    {notBefore : Option DateTimeUtc} (prepared : source.Prepares notBefore candidate)
    (after : ¬ context.trustedNow.After boundAt) (started : ∀ start ∈ notBefore, ¬ start.After boundAt)
    {lifecycleSequence : Stage6LifecycleSequence} {previousRecordId : Stage6JournalRecordId}
    {priorCoveringSealGeneration : UInt64}
    (made : fromCandidate codec candidate lifecycleSequence previousRecordId priorCoveringSealGeneration boundAt =
      .ok record)
    (read : codec.recordV4FromSlice record.encodeCanonical = some record.toStage6JournalRecordWireV4) :
    ((recoverScheduleBindingCandidateV4 codec record context.expectedRuntimeConfigFingerprintSha256
        context.expectedInstrumentMapFingerprintSha256 = .ok candidate ∧
      recoverScheduleHighWaterV4 codec record context.expectedRuntimeConfigFingerprintSha256
        context.expectedInstrumentMapFingerprintSha256 = .ok source.highWater ∧
      Stage6JournalRecordV4.decodeCanonical codec.toReconciliationCodec record.encodeCanonical = .ok record) ↔
        EnvelopeTimely source boundAt.truncMicros) ∧
    ∀ times, evidenceTimes codec.envelopes source.envelope = .ok times →
      AllOrdinary source times context.trustedNow boundAt →
      (EnvelopeTimely source boundAt.truncMicros ↔
        boundAt.truncMicros.numMillisecondsSince times.normalizedObserved ≤ normalizedMaxAgeMs) := by
  unfold verifyStage8bP1eScheduleEnvelopeV3 at verified
  obtain ⟨anchor, pinned, verified⟩ := bind_ok_iff.1 verified
  have trust := pinned
  unfold pinnedAnchor at trust
  obtain ⟨validFrom, fromRead, trust⟩ := bind_ok_iff.1 trust
  obtain ⟨validUntil, untilRead, trust⟩ := bind_ok_iff.1 trust
  have isFrom := laws.trust validFrom ((orReject_ok_iff ..).1 fromRead)
  have isUntil := laws.distrust validUntil ((orReject_ok_iff ..).1 untilRead)
  have isAnchor := Except.ok.inj trust
  have midnight : ({ seconds := 1788048000, nanos := 0 } : DateTimeUtc).truncMicros =
      { seconds := 1788048000, nanos := 0 } := by
    decide
  have whole : anchor.validFrom.truncMicros = anchor.validFrom := by
    rw [← isAnchor, isFrom]
    exact midnight
  have recorded := recorded_of_fromCandidate made
  have material := recoverBindingMaterial_ok_iff laws whole verified prepared recorded after started
  constructor
  · rw [← material]
    unfold recoverScheduleBindingCandidateV4 recoverScheduleHighWaterV4
    rw [pinned, ok_bind, ok_bind]
    constructor
    · rintro ⟨candidateFound, highWaterFound, _⟩
      obtain ⟨found, recovered, isCandidate⟩ := bind_ok_iff.1 candidateFound
      obtain ⟨other, recoveredAlso, isHighWater⟩ := bind_ok_iff.1 highWaterFound
      have same : other = found := Except.ok.inj (recoveredAlso.symm.trans recovered)
      subst same
      rw [recovered, ← Except.ok.inj isCandidate, ← Except.ok.inj isHighWater]
    · intro recovered
      rw [recovered, ok_bind, ok_bind]
      exact ⟨rfl, rfl, v4_decodeCanonical read⟩
  · intro times instants ordinary
    obtain ⟨found, accepted, unexpired, timely, _⟩ := verified_of_verifyEnvelope verified
    have sameTimes : found = times := Except.ok.inj (accepted.authentic.instants.symm.trans instants)
    subst sameTimes
    obtain ⟨publishedWhole, normalizedWhole, stage4Whole⟩ := accepted.whole laws
    obtain ⟨_, _, _, _, _, binds⟩ := binds_of_prepares laws prepared
    have valid := recorded.unexpired
    rw [binds.validUntil] at valid
    obtain ⟨transportLimit, reaches, limits⟩ := accepted.limits
    obtain ⟨_, _, transport, anchored⟩ := limits boundAt valid
    have first := not_after_trans unexpired.trusted after
    rw [← isAnchor, isFrom] at first
    rw [← isAnchor, isUntil] at anchored
    have inRange : minSeconds ≤ boundAt.seconds ∧ boundAt.seconds < maxSeconds := by
      simp only [After, UInt32.lt_iff_toNat_lt] at first anchored
      unfold minSeconds maxSeconds
      omega
    rw [← timelyAt_iff_of_ordinary timely after reaches transport inRange.1 inRange.2 publishedWhole normalizedWhole
      stage4Whole ordinary]
    unfold EnvelopeTimely
    constructor
    · rintro ⟨other, read, isTimely⟩
      have same : other = found := Except.ok.inj (read.symm.trans instants)
      subst same
      exact isTimely
    · intro isTimely
      exact ⟨found, instants, isTimely⟩

end Recovery

section Sample

open Stage6.PlainCodec Stage6.PlainReconciliationCodec Stage6.PlainScheduleCodec
open Stage5e.PlainScheduleEnvelope LimitEvaluations

deriving instance LawfulBEq for Stage8bP1eRequestOrOrderBindingV1
deriving instance LawfulBEq for Stage6ScheduleM10IdentityV4
deriving instance LawfulBEq for Stage6JournalRecordBodyV4
deriving instance LawfulBEq for Stage6JournalRecordWireV4

/-- The plain codecs on the calendar of the day, which read the given schedule records back. -/
def dayCodec (bindings : List Stage6JournalRecordWireV4) : RecoveryCodec where
  toBindingCodec := { morningCodec with
    chrono := dayChrono
    recordV4FromSlice := fun bytes => bindings.find? fun wire => plainRecordV4 wire = bytes
    fromTimestampMillis := dayCalendar.fromTimestampMillis
    dayText := dayCalendar.dayText }
  envelopeJson := dayJson [dayEnvelope]

def dayBytes : List UInt8 :=
  plainEnvelope dayEnvelope

def dayContext : Stage8bP1eScheduleVerificationContextV1 where
  expectedInstrumentMapFingerprintSha256 := sampleHex 3
  expectedOperationalIdentitySha256 := sampleHex 4
  expectedRegistryIdentitySha256 := sampleHex 2
  expectedRegistryVersion := "v1"
  expectedRuntimeConfigFingerprintSha256 := sampleHex 5
  highWater := none
  trustedNow := daySecond 12 0 0

def dayM10 (opens : DateTimeUtc) : Stage8bP1eM10IdentityV1 where
  closeTsUtcMs := (opens.seconds + 600) * 1000
  openTsUtcMs := opens.seconds * 1000
  payloadSha256 := sampleHex 6
  redisId := toString ((opens.seconds + 600) * 1000) ++ "-0"
  semanticIdSha256 := sampleHex 7

/-- A working order is evaluated on its second bar, verified at noon and bound at the given instant. -/
structure Commitment (codec : RecoveryCodec) where
  source : Stage8bP1eAcceptedScheduleSource codec.envelopes
  candidate : ScheduleBindingCandidate
  record : Stage6JournalRecordV4 codec.toReconciliationCodec

def commit (codec : RecoveryCodec) (boundAt : DateTimeUtc) : Option (Commitment codec) := do
  let source ← (verifyStage8bP1eScheduleEnvelopeV3 codec.envelopes dayBytes dayContext).toOption
  let candidate ← (source.prepareWorkingLimitBinding (dayM10 (daySecond 11 30 0)) (dayM10 (daySecond 11 40 0)) "B-1"
    (sampleHex 8) "1-1").toOption
  let record ← (fromCandidate codec candidate (sampleSequence 1) { value := sampleHex 9, canonical := (sampleDigest 9).canonical } 1 boundAt).toOption
  some { source := source, candidate := candidate, record := record }

def dayBindings : List Stage6JournalRecordWireV4 :=
  [daySecond 12 0 0, daySecond 12 0 1].filterMap fun boundAt =>
    (commit (dayCodec []) boundAt).map (·.record.toStage6JournalRecordWireV4)

def committedCodec : RecoveryCodec :=
  dayCodec dayBindings

/-- The record reads back, and the schedule is at most a day old at the recorded instant, or else it is refused. -/
def Commitment.settles (commitment : Commitment committedCodec) (boundAt : DateTimeUtc) (fresh : Bool) : Bool :=
  let record := commitment.record
  committedCodec.recordV4FromSlice record.encodeCanonical == some record.toStage6JournalRecordWireV4 &&
    match evidenceTimes committedCodec.envelopes commitment.source.envelope with
    | .error _ => false
    | .ok times =>
        if fresh then
          AllOrdinary commitment.source times dayContext.trustedNow boundAt &&
            boundAt.truncMicros.numMillisecondsSince times.normalizedObserved ≤ normalizedMaxAgeMs
        else
          match recoverScheduleBindingCandidateV4 committedCodec record (sampleHex 5) (sampleHex 3) with
          | .error .stale => true
          | _ => false

theorem committedCodec_laws : ChronoLaws committedCodec.envelopes.calendar :=
  dayCalendar_laws

theorem commit_spec {codec : RecoveryCodec} {boundAt : DateTimeUtc} {commitment : Commitment codec}
    (committed : commit codec boundAt = some commitment) :
    verifyStage8bP1eScheduleEnvelopeV3 codec.envelopes dayBytes dayContext = .ok commitment.source ∧
      commitment.source.Prepares none commitment.candidate ∧
      fromCandidate codec commitment.candidate (sampleSequence 1)
        { value := sampleHex 9, canonical := (sampleDigest 9).canonical } 1 boundAt = .ok commitment.record := by
  unfold commit at committed
  simp only [Option.bind_eq_bind, Option.bind_eq_some_iff, toOption_eq_some_iff] at committed
  obtain ⟨source, verified, candidate, prepared, record, made, same⟩ := committed
  have isCommitment := Option.some.inj same
  subst isCommitment
  exact ⟨verified, .workingLimit prepared, made⟩

/-- At noon the sample is fresh, and a second later it is not. -/
theorem commitments_exist : ∀ bound ∈ [(daySecond 12 0 0, true), (daySecond 12 0 1, false)],
    ∃ commitment, commit committedCodec bound.1 = some commitment ∧ commitment.settles bound.1 bound.2 = true := by
  have noon : (commit committedCodec (daySecond 12 0 0)).any (fun commitment =>
      commitment.settles (daySecond 12 0 0) true) = true := by
    decide +kernel
  have later : (commit committedCodec (daySecond 12 0 1)).any (fun commitment =>
      commitment.settles (daySecond 12 0 1) false) = true := by
    decide +kernel
  intro bound member
  simp only [List.mem_cons, List.not_mem_nil, or_false] at member
  rcases member with rfl | rfl
  · exact (Option.any_eq_true ..).1 noon
  · exact (Option.any_eq_true ..).1 later

/-- Bound at noon, the sample comes back. -/
theorem noon_binding_recovers : ∃ source candidate record,
    verifyStage8bP1eScheduleEnvelopeV3 committedCodec.envelopes dayBytes dayContext = .ok source ∧
      source.Prepares none candidate ∧
      recoverScheduleBindingCandidateV4 committedCodec record (sampleHex 5) (sampleHex 3) = .ok candidate ∧
      recoverScheduleHighWaterV4 committedCodec record (sampleHex 5) (sampleHex 3) = .ok source.highWater ∧
      Stage6JournalRecordV4.decodeCanonical committedCodec.toReconciliationCodec record.encodeCanonical = .ok record := by
  obtain ⟨commitment, committed, settles⟩ := commitments_exist (daySecond 12 0 0, true) (by simp)
  obtain ⟨verified, prepared, made⟩ := commit_spec committed
  unfold Commitment.settles at settles
  dsimp only at settles
  rw [Bool.and_eq_true, beq_iff_eq] at settles
  obtain ⟨read, settles⟩ := settles
  have recovers := committed_binding_recovers_iff committedCodec_laws verified prepared
    (after_irrefl (daySecond 12 0 0)) (by simp) made read
  split at settles
  next => cases settles
  next times instants =>
    simp only [if_true, Bool.and_eq_true, decide_eq_true_eq] at settles
    obtain ⟨ordinary, young⟩ := settles
    exact ⟨_, _, _, verified, prepared, recovers.1.2 ((recovers.2 times instants ordinary).2 young)⟩

/-- Bound a second later, within its validity, the sample is refused as stale. -/
theorem late_binding_is_stale : ∃ source candidate record,
    ChronoLaws committedCodec.envelopes.calendar ∧
      verifyStage8bP1eScheduleEnvelopeV3 committedCodec.envelopes dayBytes dayContext = .ok source ∧
      source.Prepares none candidate ∧ ¬ dayContext.trustedNow.After (daySecond 12 0 1) ∧
      fromCandidate committedCodec candidate (sampleSequence 1)
        { value := sampleHex 9, canonical := (sampleDigest 9).canonical } 1 (daySecond 12 0 1) = .ok record ∧
      committedCodec.recordV4FromSlice record.encodeCanonical = some record.toStage6JournalRecordWireV4 ∧
      recoverScheduleBindingCandidateV4 committedCodec record dayContext.expectedRuntimeConfigFingerprintSha256
        dayContext.expectedInstrumentMapFingerprintSha256 = .error .stale := by
  obtain ⟨commitment, committed, settles⟩ := commitments_exist (daySecond 12 0 1, false) (by simp)
  obtain ⟨verified, prepared, made⟩ := commit_spec committed
  unfold Commitment.settles at settles
  dsimp only at settles
  rw [Bool.and_eq_true, beq_iff_eq] at settles
  obtain ⟨read, settles⟩ := settles
  have later : ¬ dayContext.trustedNow.After (daySecond 12 0 1) := by
    decide
  refine ⟨_, _, _, committedCodec_laws, verified, prepared, later, made, read, ?_⟩
  split at settles
  next => cases settles
  next times instants =>
    simp only [Bool.false_eq_true, if_false] at settles
    split at settles
    next refused => exact refused
    next => cases settles

end Sample

end TradingGateway.Stage8b.ScheduleRecovery
