import TradingGateway.Stage5e.ScheduleVerifier

/-! What the verifier accepts: the facts of an envelope that do not change, and those
that hold at an instant. -/

set_option autoImplicit false

namespace TradingGateway.Stage5e.ScheduleVerifier

open BrokerCore.Orders BrokerCore.Orders.DateTimeUtc Stage6.JournalRecord
open ScheduleSource ScheduleEnvelope
open Foundation.ExceptRun

/-- What the calendar library documents: a text of microseconds reads back as the instant cut to them,
instants of milliseconds keep their count, and the key is trusted from one midnight to another. -/
structure ChronoLaws (calendar : SourceCalendar) : Prop where
  text : ∀ time parsed, calendar.parseFromRfc3339 (calendar.toRfc3339Micros time) = some parsed →
    parsed = time.truncMicros
  millis : ∀ milliseconds time, calendar.fromTimestampMillis milliseconds = some time →
    time.truncMicros = time ∧ calendar.timestampMillis time = milliseconds
  trust : ∀ validFrom, calendar.parseFromRfc3339 scheduleKeyValidFromUtc = some validFrom →
    validFrom = { seconds := 1788048000, nanos := 0 }
  distrust : ∀ validUntil, calendar.parseFromRfc3339 scheduleKeyValidUntilUtc = some validUntil →
    validUntil = { seconds := 1819584000, nanos := 0 }

/-- An instant that was read off an exact text has whole microseconds. -/
theorem parseExactTimestamp_aligned {calendar : SourceCalendar} (laws : ChronoLaws calendar) {value : String}
    {time : DateTimeUtc} (parsed : parseExactTimestamp calendar value = .ok time) : time.truncMicros = time := by
  unfold parseExactTimestamp at parsed
  obtain ⟨found, read, parsed⟩ := bind_ok_iff.1 parsed
  obtain ⟨exact, kept⟩ := check_bind_ok_iff.1 parsed
  have same : found = time := Except.ok.inj kept
  subst same
  rw [rejectIf_ok_iff, not_not] at exact
  rw [orReject_ok_iff, ← exact] at read
  exact (laws.text found found read).symm

variable {codec : EnvelopeCodec} {anchor : TrustAnchor} {exactEnvelopeBytes : List UInt8}

structure Authentic (codec : EnvelopeCodec) (anchor : TrustAnchor) (exactEnvelopeBytes : List UInt8)
    (envelope : Stage8bP1eScheduleEnvelopeV3) (times : EvidenceTimes) (candidate : Stage8bP1eScheduleHighWaterV1) :
    Prop where
  read : codec.envelopeFromSlice exactEnvelopeBytes = some envelope
  canonical : codec.envelopeToVec envelope = exactEnvelopeBytes
  constants : validateEnvelopeConstants envelope = .ok ()
  hashes : validateEmbeddedHashes codec envelope = .ok ()
  signature : verifySignature codec anchor.publicKeyEd25519Hex envelope.signatureEd25519Hex
    (unsignedSignatureSha256 codec envelope) = .ok ()
  generation : envelope.sourceGeneration = sourceGenerationText
  instants : evidenceTimes codec envelope = .ok times
  normalizedOrder : ¬ times.normalizedObserved.After times.normalizedExpires
  stage4Order : ¬ times.stage4Observed.After times.stage4Expires
  skew : ¬ times.Skewed
  highWater : highWaterFromEnvelope codec envelope (sha256Hex codec exactEnvelopeBytes) = .ok candidate
  report : validateStage4Report codec envelope times.stage4Expires = .ok times.stage4Observed

/-- The limits that move with the clock: nothing from the future, nothing too old. -/
def TimelyAt (publishedAt : DateTimeUtc) (times : EvidenceTimes) (now : DateTimeUtc) : Prop :=
  (∃ horizon, now.plusMilliseconds futureSkewMs = some horizon ∧ ¬ publishedAt.After horizon ∧
    ¬ times.normalizedObserved.After horizon ∧ ¬ times.stage4Observed.After horizon) ∧
  now.numMillisecondsSince publishedAt ≤ transportMaxAgeMs ∧
  now.numMillisecondsSince times.normalizedObserved ≤ normalizedMaxAgeMs

structure Unexpired (anchor : TrustAnchor) (times : EvidenceTimes) (now : DateTimeUtc) : Prop where
  trusted : ¬ anchor.validFrom.After now
  anchor : ¬ now.After anchor.validUntil
  normalized : ¬ now.After times.normalizedExpires
  stage4 : ¬ now.After times.stage4Expires

theorem openEnvelope_ok_iff {now : DateTimeUtc} {envelope : Stage8bP1eScheduleEnvelopeV3} :
    openEnvelope codec anchor exactEnvelopeBytes now = .ok envelope ↔
      codec.envelopeFromSlice exactEnvelopeBytes = some envelope ∧ codec.envelopeToVec envelope = exactEnvelopeBytes ∧
      validateEnvelopeConstants envelope = .ok () ∧ validateEmbeddedHashes codec envelope = .ok () ∧
      (¬ anchor.validFrom.After now ∧ ¬ now.After anchor.validUntil) ∧
      verifySignature codec anchor.publicKeyEd25519Hex envelope.signatureEd25519Hex
        (unsignedSignatureSha256 codec envelope) = .ok () ∧
      envelope.sourceGeneration = sourceGenerationText := by
  unfold openEnvelope
  rw [bind_ok_iff]
  constructor
  · rintro ⟨found, read, opened⟩
    simp only [check_bind_ok_iff, rejectIf_ok_iff, not_not, not_or] at opened
    obtain ⟨canonical, constants, hashes, trusted, signature, generation, same⟩ := opened
    have here : found = envelope := Except.ok.inj same
    subst here
    exact ⟨(orReject_ok_iff ..).1 read, canonical, constants, hashes, trusted, signature, generation⟩
  · rintro ⟨read, canonical, constants, hashes, trusted, signature, generation⟩
    refine ⟨envelope, (orReject_ok_iff ..).2 read, ?_⟩
    simp only [check_bind_ok_iff, rejectIf_ok_iff, not_not, not_or]
    exact ⟨canonical, constants, hashes, trusted, signature, generation, trivial⟩

theorem highWaterFromEnvelope_published {envelope : Stage8bP1eScheduleEnvelopeV3} {envelopeSha256 : HexText}
    {candidate : Stage8bP1eScheduleHighWaterV1}
    (made : highWaterFromEnvelope codec envelope envelopeSha256 = .ok candidate) :
    parseExactTimestamp codec.calendar envelope.publishedAtUtc = .ok candidate.publishedAtUtc := by
  unfold highWaterFromEnvelope at made
  obtain ⟨_, _, made⟩ := bind_ok_iff.1 made
  obtain ⟨publishedAt, parsed, made⟩ := bind_ok_iff.1 made
  obtain ⟨_, _, made⟩ := bind_ok_iff.1 made
  obtain ⟨_, _, made⟩ := bind_ok_iff.1 made
  have same := Except.ok.inj made
  subst same
  exact parsed

/-- The verifier accepts authentic bytes of the expected identity where they are fresh and go on from the
high water. -/
theorem verifyEnvelope_ok_iff {context : Stage8bP1eScheduleVerificationContextV1}
    {accepted : Stage8bP1eAcceptedScheduleSource codec} :
    verifyEnvelope codec anchor exactEnvelopeBytes context = .ok accepted ↔
      ∃ envelope times candidate progression, Authentic codec anchor exactEnvelopeBytes envelope times candidate ∧
        Unexpired anchor times context.trustedNow ∧ TimelyAt candidate.publishedAtUtc times context.trustedNow ∧
        validateProgression context.highWater candidate = .ok progression ∧
        matchesIdentity envelope context = .ok () ∧
        acceptEnvelope codec anchor exactEnvelopeBytes envelope times candidate progression = .ok accepted := by
  unfold verifyEnvelope
  dsimp only
  constructor
  · intro verified
    obtain ⟨envelope, opened, verified⟩ := bind_ok_iff.1 verified
    obtain ⟨publishedAt, published, verified⟩ := bind_ok_iff.1 verified
    obtain ⟨horizon, reaches, verified⟩ := bind_ok_iff.1 verified
    obtain ⟨publishedPast, verified⟩ := check_bind_ok_iff.1 verified
    obtain ⟨transport, verified⟩ := check_bind_ok_iff.1 verified
    obtain ⟨times, parsed, verified⟩ := bind_ok_iff.1 verified
    obtain ⟨observedPast, verified⟩ := check_bind_ok_iff.1 verified
    obtain ⟨normalized, verified⟩ := check_bind_ok_iff.1 verified
    obtain ⟨stage4, verified⟩ := check_bind_ok_iff.1 verified
    obtain ⟨skew, verified⟩ := check_bind_ok_iff.1 verified
    obtain ⟨candidate, highWater, verified⟩ := bind_ok_iff.1 verified
    obtain ⟨progression, progresses, verified⟩ := bind_ok_iff.1 verified
    obtain ⟨identity, verified⟩ := check_bind_ok_iff.1 verified
    obtain ⟨reportObserved, reported, verified⟩ := bind_ok_iff.1 verified
    obtain ⟨observed, accepts⟩ := check_bind_ok_iff.1 verified
    simp only [rejectIf_ok_iff, not_or, not_not, not_lt] at publishedPast transport observedPast normalized stage4 skew observed
    rw [orReject_ok_iff] at reaches
    rw [mapError_ok_iff] at reported
    obtain ⟨read, canonical, constants, hashes, trusted, signature, generation⟩ := openEnvelope_ok_iff.1 opened
    have same : publishedAt = candidate.publishedAtUtc :=
      Except.ok.inj (published.symm.trans (highWaterFromEnvelope_published highWater))
    subst same
    subst observed
    exact ⟨envelope, times, candidate, progression,
      ⟨read, canonical, constants, hashes, signature, generation, parsed, normalized.1, stage4.1, skew, highWater, reported⟩,
      ⟨trusted.1, trusted.2, normalized.2.1, stage4.2⟩,
      ⟨⟨horizon, reaches, publishedPast, observedPast.1, observedPast.2⟩, transport, normalized.2.2⟩,
      progresses, identity, accepts⟩
  · rintro ⟨envelope, times, candidate, progression, authentic, unexpired,
      ⟨⟨horizon, reaches, publishedPast, normalizedPast, stage4Past⟩, transport, age⟩, progresses, identity, accepts⟩
    have opened := openEnvelope_ok_iff.2 ⟨authentic.read, authentic.canonical, authentic.constants, authentic.hashes,
      ⟨unexpired.trusted, unexpired.anchor⟩, authentic.signature, authentic.generation⟩
    rw [opened, ok_bind, highWaterFromEnvelope_published authentic.highWater, ok_bind, orReject_bind_of_some reaches,
      rejectIf_of_not _ publishedPast, ok_bind, rejectIf_of_not _ (not_lt.2 transport), ok_bind, authentic.instants, ok_bind,
      rejectIf_of_not _ (not_or.2 ⟨normalizedPast, stage4Past⟩), ok_bind,
      rejectIf_of_not _ (not_or.2 ⟨authentic.normalizedOrder, not_or.2 ⟨unexpired.normalized, not_lt.2 age⟩⟩), ok_bind,
      rejectIf_of_not _ (not_or.2 ⟨authentic.stage4Order, unexpired.stage4⟩), ok_bind,
      rejectIf_of_not _ authentic.skew, ok_bind, authentic.highWater, ok_bind, progresses, ok_bind, identity, ok_bind,
      (mapError_ok_iff ..).2 authentic.report, ok_bind, rejectIf_of_not _ (not_not.2 rfl), ok_bind]
    exact accepts

/-- What is accepted is the envelope with its facts, and until the first of its limits. -/
theorem acceptEnvelope_ok_iff {envelope : Stage8bP1eScheduleEnvelopeV3} {times : EvidenceTimes}
    {candidate : Stage8bP1eScheduleHighWaterV1} {progression : Stage8bP1eScheduleProgressionV1}
    {accepted : Stage8bP1eAcceptedScheduleSource codec} :
    acceptEnvelope codec anchor exactEnvelopeBytes envelope times candidate progression = .ok accepted ↔
      ∃ transportLimit, candidate.publishedAtUtc.plusMilliseconds transportMaxAgeMs = some transportLimit ∧
        ∃ sound : validatePayloadSemantics codec envelope = .ok (), accepted = {
          envelope := envelope
          envelopeSha256 := candidate.envelopeSha256
          exactEnvelopeBytes := exactEnvelopeBytes
          highWater := candidate
          progression := progression
          stage4ObservedAt := times.stage4Observed
          validUntil := earliest (earliest (earliest times.normalizedExpires times.stage4Expires) transportLimit)
            anchor.validUntil
          sound := sound } := by
  unfold acceptEnvelope
  split
  next error failed =>
    constructor
    · intro impossible
      cases impossible
    · rintro ⟨_, _, sound, _⟩
      cases sound.symm.trans failed
  next sound =>
    rw [bind_ok_iff]
    constructor
    · rintro ⟨limit, reaches, same⟩
      exact ⟨limit, (orReject_ok_iff ..).1 reaches, sound, (Except.ok.inj same).symm⟩
    · rintro ⟨limit, reaches, _, same⟩
      exact ⟨limit, (orReject_ok_iff ..).2 reaches, congrArg Except.ok same.symm⟩

theorem validateProgression_self (highWater : Stage8bP1eScheduleHighWaterV1) :
    validateProgression (some highWater) highWater = .ok .idempotent := by
  simp [validateProgression, after_irrefl, rejectIf]

section Ordinary

variable {published now later limit : DateTimeUtc} {times : EvidenceTimes}

/-- What is not from the future stays so. -/
theorem not_after_later_horizon {time horizon laterHorizon : DateTimeUtc} (whole : time.truncMicros = time)
    (ordinary : time.Ordinary) (nowOrdinary : now.Ordinary) (laterOrdinary : later.Ordinary) (after : ¬ now.After later)
    (reaches : now.plusMilliseconds futureSkewMs = some horizon) (past : ¬ time.After horizon)
    (reachesLater : later.truncMicros.plusMilliseconds futureSkewMs = some laterHorizon) :
    ¬ time.After laterHorizon := by
  obtain ⟨horizonClock, horizonOrdinary⟩ := clock_plusMilliseconds nowOrdinary reaches
  obtain ⟨laterClock, laterHorizonOrdinary⟩ := clock_plusMilliseconds (truncMicros_ordinary laterOrdinary) reachesLater
  have cut := clock_truncMicros time
  rw [whole] at cut
  rw [clock_truncMicros] at laterClock
  rw [after_iff_clock ordinary horizonOrdinary] at past
  rw [after_iff_clock nowOrdinary laterOrdinary] at after
  rw [after_iff_clock ordinary laterHorizonOrdinary]
  unfold futureSkewMs at *
  omega

/-- Outside leap seconds the limit of 24 hours on the normalized schedule is all that an accepted and
unexpired envelope can still break. -/
theorem timelyAt_iff_of_ordinary (timely : TimelyAt published times now) (after : ¬ now.After later)
    (reaches : published.plusMilliseconds transportMaxAgeMs = some limit) (fresh : ¬ later.After limit)
    (first : minSeconds ≤ later.seconds) (last : later.seconds < maxSeconds)
    (publishedWhole : published.truncMicros = published)
    (normalizedWhole : times.normalizedObserved.truncMicros = times.normalizedObserved)
    (stage4Whole : times.stage4Observed.truncMicros = times.stage4Observed)
    (ordinary : ∀ time ∈ [published, now, later, times.normalizedObserved, times.stage4Observed], time.Ordinary) :
    TimelyAt published times later.truncMicros ↔
      later.truncMicros.numMillisecondsSince times.normalizedObserved ≤ normalizedMaxAgeMs := by
  simp only [List.forall_mem_cons, List.not_mem_nil, false_implies, implies_true, and_true] at ordinary
  obtain ⟨publishedOrdinary, nowOrdinary, laterOrdinary, normalizedOrdinary, stage4Ordinary⟩ := ordinary
  obtain ⟨⟨horizon, horizonReached, publishedPast, normalizedPast, stage4Past⟩, _, _⟩ := timely
  have cutOrdinary := truncMicros_ordinary laterOrdinary
  have transport : later.truncMicros.numMillisecondsSince published ≤ transportMaxAgeMs := by
    obtain ⟨limitClock, limitOrdinary⟩ := clock_plusMilliseconds publishedOrdinary reaches
    rw [after_iff_clock laterOrdinary limitOrdinary] at fresh
    unfold numMillisecondsSince
    rw [nanosecondsSince_eq_clock cutOrdinary publishedOrdinary, clock_truncMicros]
    unfold transportMaxAgeMs at *
    have bounded : later.clock / 1000 * 1000 - published.clock ≤ 5000 * 1000000 := by omega
    have divided := Int.tdiv_le_tdiv (c := 1000000) (by decide) bounded
    rwa [Int.mul_tdiv_cancel _ (by decide)] at divided
  have skew : 0 ≤ futureSkewMs ∧ futureSkewMs < 1000 := by decide
  obtain ⟨laterHorizon, laterReached⟩ := exists_plusMilliseconds cutOrdinary skew.1 skew.2 first last
  have stays : ∀ time : DateTimeUtc, time.truncMicros = time → time.Ordinary → ¬ time.After horizon →
      ¬ time.After laterHorizon := by
    intro time whole timeOrdinary past
    exact not_after_later_horizon whole timeOrdinary nowOrdinary laterOrdinary after horizonReached past laterReached
  constructor
  · intro isTimely
    exact isTimely.2.2
  · intro age
    exact ⟨⟨laterHorizon, laterReached, stays _ publishedWhole publishedOrdinary publishedPast,
      stays _ normalizedWhole normalizedOrdinary normalizedPast, stays _ stage4Whole stage4Ordinary stage4Past⟩,
      transport, age⟩

end Ordinary

end TradingGateway.Stage5e.ScheduleVerifier
