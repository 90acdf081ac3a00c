import TradingGateway.Stage8b.ScheduleRecovery

/-! Which durable schedule bindings come back: those whose envelope is still timely at
the recorded instant. -/

set_option autoImplicit false

namespace TradingGateway.Stage8b.ScheduleRecovery

open BrokerCore.Orders BrokerCore.Orders.DateTimeUtc
open Stage5e.ScheduleSource Stage5e.ScheduleVerifier Stage5e.ScheduleRoutes
open Stage6.JournalRecord Stage6.VersionedRecord ScheduleBindings
open Foundation.Bytes Foundation.ExceptRun

variable {codec : RecoveryCodec}

section Texts

theorem hexDigitValue_hexDigit : ∀ half : Fin 16, hexDigitValue (hexDigit half) = half := by
  decide

theorem decodeHexPairs_hexString (bytes : List UInt8) : decodeHexPairs (hexString bytes) = bytes := by
  induction bytes with
  | nil => rfl
  | cons byte rest ih =>
      have whole : byte.toNat / 16 * 16 + byte.toNat % 16 = byte.toNat := by omega
      rw [hexString_cons]
      unfold hexByte
      rw [List.cons_append, List.cons_append, List.nil_append, decodeHexPairs, ih, hexDigitValue_hexDigit,
        hexDigitValue_hexDigit]
      dsimp only
      rw [whole, UInt8.ofNat_toNat]

theorem decodeLowerHexV4_hexString {bytes found : List UInt8}
    (decoded : decodeLowerHexV4 (hexString bytes) = .ok found) : found = bytes := by
  unfold decodeLowerHexV4 at decoded
  obtain ⟨_, kept⟩ := check_bind_ok_iff.1 decoded
  rw [← Except.ok.inj kept, decodeHexPairs_hexString]

/-- The text of an instant is read as the instant cut to microseconds, where it is read at all. -/
theorem parseExactTimestampV4_text (laws : ChronoLaws codec.envelopes.calendar) {time parsed : DateTimeUtc}
    (read : parseExactTimestampV4 codec.toReconciliationCodec (codec.chrono.toRfc3339Micros time) = .ok parsed) :
    parsed = time.truncMicros := by
  unfold parseExactTimestampV4 at read
  obtain ⟨found, isFound, read⟩ := bind_ok_iff.1 read
  obtain ⟨_, kept⟩ := check_bind_ok_iff.1 read
  rw [← Except.ok.inj kept]
  exact laws.text time found ((orReject_ok_iff ..).1 isFound)

end Texts

section Record

structure Recorded (codec : RecoveryCodec) (candidate : ScheduleBindingCandidate) (boundAt : DateTimeUtc)
    (record : Stage6JournalRecordV4 codec.toReconciliationCodec) : Prop where
  predecessor : scheduleM10 codec.toBindingCodec candidate.predecessorM10 = .ok record.predecessorM10
  bar : scheduleM10 codec.toBindingCodec candidate.candidateOrLastEligibleM10 = .ok record.candidateOrLastEligibleM10
  operationalIdentity : record.operationalIdentitySha256 = candidate.operationalIdentitySha256
  transitionKind : record.transitionKind = candidate.transitionKind
  authorityKind : record.authorityKind = candidate.authorityKind
  tradingDay : record.tradingDay = candidate.tradingDay
  binding : record.requestOrOrderBinding = candidate.requestOrOrderBinding
  redisStreamId : record.redisStreamId = candidate.redisStreamId
  sourceGeneration : record.sourceGeneration = toString candidate.sourceGeneration.toNat
  publicationSequence : record.publicationSequence = toString candidate.publicationSequence.toNat
  semanticRevision : record.semanticRevision = toString candidate.semanticRevision.toNat
  scheduleSemantic : record.scheduleSemanticSha256 = candidate.scheduleSemanticSha256
  exactEnvelope : record.exactEnvelopeHex = hexString candidate.exactEnvelopeBytes
  envelope : record.envelopeSha256 = candidate.envelopeSha256
  instant : record.boundAtUtc = codec.chrono.toRfc3339Micros boundAt
  unexpired : ¬ boundAt.After candidate.validUntil

variable {candidate : ScheduleBindingCandidate} {boundAt : DateTimeUtc}
  {record : Stage6JournalRecordV4 codec.toReconciliationCodec}

theorem recorded_of_fromCandidate {lifecycleSequence : Stage6LifecycleSequence}
    {previousRecordId : Stage6JournalRecordId} {priorCoveringSealGeneration : UInt64}
    (made : fromCandidate codec candidate lifecycleSequence previousRecordId priorCoveringSealGeneration boundAt =
      .ok record) : Recorded codec candidate boundAt record := by
  unfold fromCandidate fromStage8bP1eCandidate at made
  obtain ⟨_, _, made⟩ := bind_ok_iff.1 made
  obtain ⟨predecessor, predecessorMade, made⟩ := bind_ok_iff.1 made
  obtain ⟨bar, barMade, made⟩ := bind_ok_iff.1 made
  obtain ⟨_, _, made⟩ := bind_ok_iff.1 made
  obtain ⟨built, wired, made⟩ := bind_ok_iff.1 made
  obtain ⟨unexpired, kept⟩ := check_bind_ok_iff.1 made
  have same : built = record := Except.ok.inj kept
  subst same
  have wire := v4_ofWire_ok wired
  have body := congrArg Stage6JournalRecordWireV4.toStage6JournalRecordBodyV4 wire
  dsimp only at body
  exact {
    predecessor := predecessorMade.trans (congrArg (fun body => Except.ok body.predecessorM10) body).symm
    bar := barMade.trans (congrArg (fun body => Except.ok body.candidateOrLastEligibleM10) body).symm
    operationalIdentity := congrArg (·.operationalIdentitySha256) body
    transitionKind := congrArg (·.transitionKind) body
    authorityKind := congrArg (·.authorityKind) body
    tradingDay := congrArg (·.tradingDay) body
    binding := congrArg (·.requestOrOrderBinding) body
    redisStreamId := congrArg (·.redisStreamId) body
    sourceGeneration := congrArg (·.sourceGeneration) body
    publicationSequence := congrArg (·.publicationSequence) body
    semanticRevision := congrArg (·.semanticRevision) body
    scheduleSemantic := congrArg (·.scheduleSemanticSha256) body
    exactEnvelope := congrArg (·.exactEnvelopeHex) body
    envelope := congrArg (·.envelopeSha256) body
    instant := congrArg (·.boundAtUtc) body
    unexpired := (rejectIf_ok_iff ..).1 unexpired }

/-- The texts of a validated record can be read. -/
theorem validRecord_reads (record : Stage6JournalRecordV4 codec.toReconciliationCodec) :
    (∃ bound, parseExactTimestampV4 codec.toReconciliationCodec record.boundAtUtc = .ok bound) ∧
      validateV4M10 codec.toReconciliationCodec record.predecessorM10 record.tradingDay = .ok () ∧
      validateV4M10 codec.toReconciliationCodec record.candidateOrLastEligibleM10 record.tradingDay = .ok () ∧
      ∃ exact, decodeLowerHexV4 record.exactEnvelopeHex = .ok exact := by
  have valid := record.valid
  unfold Stage6JournalRecordWireV4.validate at valid
  obtain ⟨texts, valid⟩ := check_bind_ok_iff.1 valid
  obtain ⟨predecessor, valid⟩ := check_bind_ok_iff.1 valid
  obtain ⟨bar, valid⟩ := check_bind_ok_iff.1 valid
  obtain ⟨_, _, valid⟩ := bind_ok_iff.1 valid
  obtain ⟨_, _, valid⟩ := bind_ok_iff.1 valid
  obtain ⟨_, valid⟩ := check_bind_ok_iff.1 valid
  obtain ⟨exact, decoded, _⟩ := bind_ok_iff.1 valid
  unfold Stage6JournalRecordWireV4.validateEnvelope at texts
  obtain ⟨_, _, texts⟩ := bind_ok_iff.1 texts
  obtain ⟨_, _, texts⟩ := bind_ok_iff.1 texts
  obtain ⟨_, _, texts⟩ := bind_ok_iff.1 texts
  obtain ⟨_, _, texts⟩ := bind_ok_iff.1 texts
  obtain ⟨_, _, texts⟩ := bind_ok_iff.1 texts
  obtain ⟨_, _, texts⟩ := bind_ok_iff.1 texts
  obtain ⟨_, texts⟩ := check_bind_ok_iff.1 texts
  obtain ⟨_, texts⟩ := check_bind_ok_iff.1 texts
  obtain ⟨bounds, _⟩ := check_bind_ok_iff.1 texts
  simp only [rejectIf_ok_iff, not_or, Bool.not_eq_false] at bounds
  exact ⟨exists_ok_of_isOk bounds.2.1, predecessor, bar, exact, decoded⟩

theorem Recorded.reads_bound (laws : ChronoLaws codec.envelopes.calendar) (recorded : Recorded codec candidate boundAt record) :
    parseExactTimestampV4 codec.toReconciliationCodec record.boundAtUtc = .ok boundAt.truncMicros := by
  obtain ⟨⟨parsed, read⟩, _⟩ := validRecord_reads record
  have text := read
  rw [recorded.instant] at text
  rw [read, parseExactTimestampV4_text laws text]

theorem Recorded.reads_envelope (recorded : Recorded codec candidate boundAt record) :
    decodeLowerHexV4 record.exactEnvelopeHex = .ok candidate.exactEnvelopeBytes := by
  obtain ⟨_, _, _, exact, decoded⟩ := validRecord_reads record
  have text := decoded
  rw [recorded.exactEnvelope] at text
  rw [decoded, decodeLowerHexV4_hexString text]

/-- A bar comes back from its validated texts. -/
theorem toP1eIdentity_of_scheduleM10 (laws : ChronoLaws codec.envelopes.calendar) {bar : Stage8bP1eM10IdentityV1}
    {value : Stage6ScheduleM10IdentityV4} {tradingDay : String}
    (made : scheduleM10 codec.toBindingCodec bar = .ok value)
    (valid : validateV4M10 codec.toReconciliationCodec value tradingDay = .ok ()) :
    toP1eIdentity codec value = .ok bar := by
  unfold scheduleM10 at made
  obtain ⟨opened, openFound, made⟩ := bind_ok_iff.1 made
  obtain ⟨closed, closeFound, kept⟩ := bind_ok_iff.1 made
  rw [orReject_ok_iff] at openFound closeFound
  have same := Except.ok.inj kept
  subst same
  unfold validateV4M10 at valid
  obtain ⟨openRead, openParsed, valid⟩ := bind_ok_iff.1 valid
  obtain ⟨closeRead, closeParsed, _⟩ := bind_ok_iff.1 valid
  have openCut := parseExactTimestampV4_text laws openParsed
  have closeCut := parseExactTimestampV4_text laws closeParsed
  obtain ⟨openWhole, openMillis⟩ := laws.millis bar.openTsUtcMs opened openFound
  obtain ⟨closeWhole, closeMillis⟩ := laws.millis bar.closeTsUtcMs closed closeFound
  rw [openWhole] at openCut
  rw [closeWhole] at closeCut
  subst openCut
  subst closeCut
  have opens : codec.chrono.timestampMillis openRead = bar.openTsUtcMs := openMillis
  have closes : codec.chrono.timestampMillis closeRead = bar.closeTsUtcMs := closeMillis
  unfold toP1eIdentity
  rw [(mapError_ok_iff ..).2 closeParsed, ok_bind, (mapError_ok_iff ..).2 openParsed, ok_bind, opens, closes]

theorem Recorded.matches_candidate (recorded : Recorded codec candidate boundAt record) :
    matchesCandidate codec record candidate = true := by
  unfold matchesCandidate
  rw [recorded.predecessor, recorded.bar]
  simp [recorded.operationalIdentity, recorded.transitionKind, recorded.authorityKind, recorded.tradingDay,
    recorded.binding, recorded.redisStreamId, recorded.sourceGeneration, recorded.publicationSequence,
    recorded.semanticRevision, recorded.scheduleSemantic, recorded.exactEnvelope, recorded.envelope]

end Record

end TradingGateway.Stage8b.ScheduleRecovery
