import TradingGateway.Stage5e.TradableCloses
import TradingGateway.Stage6.VersionedRecord

/-! An accepted schedule source, and the bindings of a LIMIT order that are prepared from it. -/

set_option autoImplicit false

namespace TradingGateway.Stage5e.ScheduleSource

open BrokerCore.Orders Stage6.JournalRecord Stage6.VersionedRecord
open ScheduleGrid TradableCloses
open Foundation.ExceptRun

inductive Stage8bP1eScheduleSessionTypeV1 where
  | tradableOpen
  | breakOrClearing
  | maintenance
deriving DecidableEq

structure Stage8bP1eScheduleSessionV1 where
  startUtc : String
  endUtc : String
  sessionType : Stage8bP1eScheduleSessionTypeV1

inductive Stage8bP1eScheduleEvidenceKindV1 where
  | tradability
  | dayBoundary
deriving DecidableEq

inductive Stage8bP1eScheduleStateV1 where
  | «open»
  | closed
deriving DecidableEq

structure Stage8bP1eDayBoundaryProofV1 where
  boundaryTsUtc : String
  lastEligibleM10CloseTsUtc : String
  lastEligibleM10OpenTsUtc : String
  tradingDay : String

inductive Stage8bP1eScheduleSourceError where
  | nonCanonicalEnvelope
  | untrusted
  | identityMismatch
  | payloadConflict
  | stale
  | future
  | rollback
  | progressionConflict
  | stage4EvidenceBlocked
  | routeDenied
  | transitionMismatch
deriving DecidableEq

structure Stage8bP1eM10IdentityV1 where
  closeTsUtcMs : Int
  openTsUtcMs : Int
  payloadSha256 : HexText
  redisId : String
  semanticIdSha256 : HexText

def Stage8bP1eM10IdentityV1.closeTs (bar : Stage8bP1eM10IdentityV1) : Int :=
  bar.closeTsUtcMs / 1000

/-- What the routes of a source ask of the calendar. An absent instant is out of its range. -/
structure SourceCalendar extends Chrono where
  fromTimestampMillis : Int → Option DateTimeUtc
  dayText : NaiveDate → String

section Sessions

variable (calendar : SourceCalendar)

def parseExactDay (value : String) : Except Stage8bP1eScheduleSourceError NaiveDate := do
  let parsed ← orReject (calendar.parseDate value) .payloadConflict
  rejectIf (calendar.dayText parsed ≠ value) .payloadConflict
  .ok parsed

def parseExactTimestamp (value : String) : Except Stage8bP1eScheduleSourceError DateTimeUtc := do
  let parsed ← orReject (calendar.parseFromRfc3339 value) .payloadConflict
  rejectIf (calendar.toRfc3339Micros parsed ≠ value) .payloadConflict
  .ok parsed

def moscowDate (time : DateTimeUtc) : NaiveDate :=
  calendar.dateNaive { time with seconds := time.seconds + 3 * 60 * 60 }

structure PriorSession where
  start : DateTimeUtc
  finish : DateTimeUtc
  typeRank : Nat

def typeRank : Stage8bP1eScheduleSessionTypeV1 → Nat
  | .tradableOpen => 1
  | .breakOrClearing => 2
  | .maintenance => 3

def PriorSession.KeyBefore (left right : PriorSession) : Prop :=
  right.start.After left.start ∨
    (right.start = left.start ∧
      (right.finish.After left.finish ∨ (right.finish = left.finish ∧ left.typeRank < right.typeRank)))

instance (left right : PriorSession) : Decidable (left.KeyBefore right) :=
  inferInstanceAs (Decidable (_ ∨ _))

def validateSession (day : NaiveDate) (prior : Option PriorSession) (session : Stage8bP1eScheduleSessionV1) :
    Except Stage8bP1eScheduleSourceError PriorSession := do
  let start ← parseExactTimestamp calendar session.startUtc
  let finish ← parseExactTimestamp calendar session.endUtc
  rejectIf (¬ finish.After start ∨ moscowDate calendar start ≠ day ∨ moscowDate calendar finish ≠ day)
    .payloadConflict
  let current : PriorSession := { start := start, finish := finish, typeRank := typeRank session.sessionType }
  rejectIf (prior.any (fun prior => ¬ prior.KeyBefore current ∨ ¬ start.After prior.finish) = true) .payloadConflict
  .ok current

def validateSessionsFrom (day : NaiveDate) :
    Option PriorSession → List Stage8bP1eScheduleSessionV1 → Except Stage8bP1eScheduleSourceError Unit
  | _, [] => .ok ()
  | prior, session :: rest => do
      let current ← validateSession calendar day prior session
      validateSessionsFrom day (some current) rest

def validateSessions (sessions : List Stage8bP1eScheduleSessionV1) (tradingDay : String) :
    Except Stage8bP1eScheduleSourceError Unit := do
  let day ← parseExactDay calendar tradingDay
  validateSessionsFrom calendar day none sessions
  rejectIf (sessions.all (·.sessionType ≠ .tradableOpen) = true) .payloadConflict

def normalizedSession (session : Stage8bP1eScheduleSessionV1) :
    Except Stage8bP1eScheduleSourceError NormalizedScheduleSession := do
  let start ← parseExactTimestamp calendar session.startUtc
  let finish ← parseExactTimestamp calendar session.endUtc
  .ok {
    sessionType := match session.sessionType with
      | .tradableOpen => .tradableOpen
      | .breakOrClearing => .breakOrClearing
      | .maintenance => .maintenance
    start := start.seconds
    finish := finish.seconds }

def laterOf (left right : DateTimeUtc) : DateTimeUtc :=
  if left.After right then left else right

def lastTradableEnd (sessions : List Stage8bP1eScheduleSessionV1) :
    Except Stage8bP1eScheduleSourceError DateTimeUtc := do
  let ends ← (sessions.filter (·.sessionType = .tradableOpen)).mapM fun session =>
    parseExactTimestamp calendar session.endUtc
  match ends with
  | [] => .error .payloadConflict
  | first :: rest => .ok (rest.foldl laterOf first)

def validateM10 (day : NaiveDate) (item : Stage8bP1eM10IdentityV1) :
    Except Stage8bP1eScheduleSourceError Unit := do
  let close ← orReject (calendar.fromTimestampMillis item.closeTsUtcMs) .transitionMismatch
  rejectIf (item.redisId ≠ toString item.closeTsUtcMs ++ "-0" ∨
    isCanonicalSha256 item.semanticIdSha256 = false ∨ isCanonicalSha256 item.payloadSha256 = false ∨
    item.closeTsUtcMs - item.openTsUtcMs ≠ 600000 ∨ item.closeTsUtcMs % 600000 ≠ 0 ∨
    calendar.dateNaive close ≠ day) .transitionMismatch

def validateM10Pair (predecessor candidate : Stage8bP1eM10IdentityV1) (tradingDay : String) :
    Except Stage8bP1eScheduleSourceError Unit := do
  let day ← parseExactDay calendar tradingDay
  validateM10 calendar day predecessor
  validateM10 calendar day candidate
  rejectIf (candidate.closeTsUtcMs ≤ predecessor.closeTsUtcMs) .transitionMismatch

end Sessions

/-- The route of a prepared binding; those of markets and of expired days are left out. -/
structure ScheduleStepRoute where
  initialOnly : Bool
  cancelOnly : Bool
  lastEligibleM10RedisId : String

structure Stage8bP1eScheduleBindingCandidateV1 where
  authorityKind : Stage8bP1eScheduleAuthorityKindV1
  envelopeSha256 : HexText
  exactEnvelopeBytes : List UInt8
  operationalIdentitySha256 : HexText
  predecessorM10 : Stage8bP1eM10IdentityV1
  candidateOrLastEligibleM10 : Stage8bP1eM10IdentityV1
  publicationSequence : UInt64
  redisStreamId : String
  requestOrOrderBinding : Stage8bP1eRequestOrOrderBindingV1
  route : ScheduleStepRoute
  scheduleSemanticSha256 : HexText
  semanticRevision : UInt64
  sourceGeneration : UInt64
  tradingDay : String
  transitionKind : Stage8bP1eScheduleTransitionKindV1
  validUntil : DateTimeUtc

/-- A source whose sessions passed their check, with what the routes read of its envelope and of its
high water. -/
structure Stage8bP1eAcceptedScheduleSourceV1 (calendar : SourceCalendar) where
  operationalIdentitySha256 : HexText
  tradingDay : String
  sessions : List Stage8bP1eScheduleSessionV1
  evidenceKind : Stage8bP1eScheduleEvidenceKindV1
  scheduleState : Stage8bP1eScheduleStateV1
  boundaryProof : Option Stage8bP1eDayBoundaryProofV1
  envelopeSha256 : HexText
  exactEnvelopeBytes : List UInt8
  publicationSequence : UInt64
  scheduleSemanticSha256 : HexText
  semanticRevision : UInt64
  sourceGeneration : UInt64
  validUntil : DateTimeUtc
  sessionsValid : validateSessions calendar sessions tradingDay = .ok ()

/-- A text that is not empty and at most 256 bytes long. -/
def validIdentifier (value : String) : Bool :=
  value ≠ "" && value.utf8ByteSize ≤ 256

def validRequestOrOrderBinding (transitionKind : Stage8bP1eScheduleTransitionKindV1)
    (binding : Stage8bP1eRequestOrOrderBindingV1) : Bool :=
  match transitionKind with
  | .marketExecution =>
      binding.strategyRequestId.any validIdentifier && binding.canonicalCommandSha256.any isCanonicalSha256 &&
        binding.activeBrokerOrderId.isNone && binding.workingBookTransitionSha256.isNone &&
        (match binding.publicationSealGeneration, binding.publicationSealCommitmentSha256 with
          | none, none => true
          | some generation, some commitment => 0 < generation && isCanonicalSha256 commitment
          | _, _ => false)
  | .initialLimitEvaluation =>
      binding.strategyRequestId.any validIdentifier && binding.canonicalCommandSha256.any isCanonicalSha256 &&
        binding.activeBrokerOrderId.isNone && binding.workingBookTransitionSha256.isNone &&
        binding.publicationSealGeneration.any (fun generation => 0 < generation) &&
        binding.publicationSealCommitmentSha256.any isCanonicalSha256
  | .cancelStep =>
      binding.strategyRequestId.any validIdentifier && binding.canonicalCommandSha256.any isCanonicalSha256 &&
        binding.activeBrokerOrderId.any validIdentifier &&
        binding.workingBookTransitionSha256.any isCanonicalSha256 &&
        binding.publicationSealGeneration.any (fun generation => 0 < generation) &&
        binding.publicationSealCommitmentSha256.any isCanonicalSha256
  | .workingLimitEvaluation | .dayExpiry =>
      binding.strategyRequestId.isNone && binding.canonicalCommandSha256.isNone &&
        binding.activeBrokerOrderId.any validIdentifier &&
        binding.workingBookTransitionSha256.any isCanonicalSha256 &&
        binding.publicationSealGeneration.isNone && binding.publicationSealCommitmentSha256.isNone

namespace Stage8bP1eAcceptedScheduleSourceV1

variable {calendar : SourceCalendar} (source : Stage8bP1eAcceptedScheduleSourceV1 calendar)

def normalizedSessions : Except Stage8bP1eScheduleSourceError (List NormalizedScheduleSession) :=
  source.sessions.mapM (normalizedSession calendar)

def requireOpenRoute : Except Stage8bP1eScheduleSourceError Unit :=
  rejectIf (¬ (source.evidenceKind = .tradability ∧ source.scheduleState = .open ∧ source.boundaryProof.isNone = true))
    .routeDenied

def lastEligibleM10RedisId : Except Stage8bP1eScheduleSourceError String := do
  let close ← lastTradableEnd calendar source.sessions
  .ok (toString (calendar.timestampMillis close) ++ "-0")

/-- `prepare_binding`, for the transitions that take one step of the schedule. -/
def prepareBinding (transitionKind : Stage8bP1eScheduleTransitionKindV1)
    (predecessor candidate : Stage8bP1eM10IdentityV1) (binding : Stage8bP1eRequestOrOrderBindingV1)
    (redisStreamId : String) (route : ScheduleStepRoute) :
    Except Stage8bP1eScheduleSourceError Stage8bP1eScheduleBindingCandidateV1 := do
  rejectIf (validRedisId redisStreamId.toList = false ∨ validRequestOrOrderBinding transitionKind binding = false)
    .transitionMismatch
  .ok {
    authorityKind := .scheduleStep
    envelopeSha256 := source.envelopeSha256
    exactEnvelopeBytes := source.exactEnvelopeBytes
    operationalIdentitySha256 := source.operationalIdentitySha256
    predecessorM10 := predecessor
    candidateOrLastEligibleM10 := candidate
    publicationSequence := source.publicationSequence
    redisStreamId := redisStreamId
    requestOrOrderBinding := binding
    route := route
    scheduleSemanticSha256 := source.scheduleSemanticSha256
    semanticRevision := source.semanticRevision
    sourceGeneration := source.sourceGeneration
    tradingDay := source.tradingDay
    transitionKind := transitionKind
    validUntil := source.validUntil }

section Routes

variable (predecessor candidate : Stage8bP1eM10IdentityV1)

def prepareWorkingLimitBinding (activeBrokerOrderId : String) (workingBookTransitionSha256 : HexText)
    (redisStreamId : String) : Except Stage8bP1eScheduleSourceError Stage8bP1eScheduleBindingCandidateV1 := do
  source.requireOpenRoute
  validateM10Pair calendar predecessor candidate source.tradingDay
  let lastEligible ← source.lastEligibleM10RedisId
  source.prepareBinding .workingLimitEvaluation predecessor candidate {
      strategyRequestId := none
      canonicalCommandSha256 := none
      activeBrokerOrderId := some activeBrokerOrderId
      workingBookTransitionSha256 := some workingBookTransitionSha256
      publicationSealGeneration := none
      publicationSealCommitmentSha256 := none }
    redisStreamId { initialOnly := false, cancelOnly := false, lastEligibleM10RedisId := lastEligible }

def prepareInitialLimitBinding (strategyRequestId : String) (canonicalCommandSha256 : HexText)
    (publicationSeal : UInt64 × HexText) (redisStreamId : String) :
    Except Stage8bP1eScheduleSourceError Stage8bP1eScheduleBindingCandidateV1 := do
  source.requireOpenRoute
  validateM10Pair calendar predecessor candidate source.tradingDay
  let lastEligible ← source.lastEligibleM10RedisId
  source.prepareBinding .initialLimitEvaluation predecessor candidate {
      strategyRequestId := some strategyRequestId
      canonicalCommandSha256 := some canonicalCommandSha256
      activeBrokerOrderId := none
      workingBookTransitionSha256 := none
      publicationSealGeneration := some publicationSeal.1
      publicationSealCommitmentSha256 := some publicationSeal.2 }
    redisStreamId { initialOnly := true, cancelOnly := false, lastEligibleM10RedisId := lastEligible }

/-- Unlike its siblings it does not ask for an open route. -/
def prepareCancelBinding (strategyRequestId : String) (canonicalCommandSha256 : HexText)
    (publicationSeal : UInt64 × HexText) (activeBrokerOrderId : String) (workingBookTransitionSha256 : HexText)
    (redisStreamId : String) : Except Stage8bP1eScheduleSourceError Stage8bP1eScheduleBindingCandidateV1 := do
  validateM10Pair calendar predecessor candidate source.tradingDay
  let lastEligible ← source.lastEligibleM10RedisId
  source.prepareBinding .cancelStep predecessor candidate {
      strategyRequestId := some strategyRequestId
      canonicalCommandSha256 := some canonicalCommandSha256
      activeBrokerOrderId := some activeBrokerOrderId
      workingBookTransitionSha256 := some workingBookTransitionSha256
      publicationSealGeneration := some publicationSeal.1
      publicationSealCommitmentSha256 := some publicationSeal.2 }
    redisStreamId { initialOnly := false, cancelOnly := true, lastEligibleM10RedisId := lastEligible }

end Routes

end Stage8bP1eAcceptedScheduleSourceV1

section Properties

variable {calendar : SourceCalendar}

/-- A checked session is read the same again, and lies behind the one before. -/
theorem validateSession_spec {day : NaiveDate} {prior : Option PriorSession} {session : Stage8bP1eScheduleSessionV1}
    {current : PriorSession} (checked : validateSession calendar day prior session = .ok current) :
    (∃ normalized, normalizedSession calendar session = .ok normalized ∧
      normalized.start = current.start.seconds ∧ normalized.finish = current.finish.seconds) ∧
    current.start.seconds ≤ current.finish.seconds ∧
    ∀ before ∈ prior, before.finish.seconds ≤ current.start.seconds := by
  unfold validateSession at checked
  obtain ⟨start, startParsed, checked⟩ := bind_ok_iff.1 checked
  obtain ⟨finish, finishParsed, checked⟩ := bind_ok_iff.1 checked
  obtain ⟨forward, checked⟩ := check_bind_ok_iff.1 checked
  obtain ⟨behind, checked⟩ := check_bind_ok_iff.1 checked
  cases checked
  simp only [rejectIf_ok_iff, not_or, not_not] at forward
  simp only [rejectIf_ok_iff, Option.any_eq_true, decide_eq_true_eq, not_exists, not_and, not_or, not_not] at behind
  have read : ∃ normalized, normalizedSession calendar session = .ok normalized ∧
      normalized.start = start.seconds ∧ normalized.finish = finish.seconds := by
    unfold normalizedSession
    rw [startParsed, finishParsed]
    exact ⟨_, rfl, rfl, rfl⟩
  refine ⟨read, ?_, ?_⟩
  · have ordered := forward.1
    unfold DateTimeUtc.After at ordered
    dsimp only
    omega
  · intro before known
    have later := (behind before known).2
    unfold DateTimeUtc.After at later
    dsimp only
    omega

/-- Checked sessions are read in their order. -/
theorem normalizedSessions_ordered {day : NaiveDate} {prior : Option PriorSession}
    {sessions : List Stage8bP1eScheduleSessionV1} (checked : validateSessionsFrom calendar day prior sessions = .ok ()) :
    ∃ normalized, sessions.mapM (normalizedSession calendar) = .ok normalized ∧ Ordered normalized ∧
      ∀ before ∈ prior, ∀ session ∈ normalized, before.finish.seconds ≤ session.start := by
  induction sessions generalizing prior with
  | nil => exact ⟨[], rfl, List.Pairwise.nil, by simp⟩
  | cons session rest ih =>
      unfold validateSessionsFrom at checked
      obtain ⟨current, first, checked⟩ := bind_ok_iff.1 checked
      obtain ⟨⟨head, read, starts, finishes⟩, forward, behind⟩ := validateSession_spec first
      obtain ⟨tail, tailRead, ordered, tailBehind⟩ := ih checked
      refine ⟨head :: tail, ?_, List.pairwise_cons.2 ⟨?_, ordered⟩, ?_⟩
      · rw [List.mapM_cons, read, tailRead]
        rfl
      · intro later member
        rw [finishes]
        exact tailBehind current rfl later member
      · intro before known later member
        have first := behind before known
        rcases List.mem_cons.1 member with rfl | member
        · rw [starts]
          exact first
        · exact first.trans (forward.trans (tailBehind current rfl later member))

/-- The sessions of an accepted source are read in their order. -/
theorem Stage8bP1eAcceptedScheduleSourceV1.exists_sessions (source : Stage8bP1eAcceptedScheduleSourceV1 calendar) :
    ∃ sessions, source.normalizedSessions = .ok sessions ∧ Ordered sessions := by
  have checked := source.sessionsValid
  unfold validateSessions at checked
  obtain ⟨_, _, checked⟩ := bind_ok_iff.1 checked
  obtain ⟨checked, _⟩ := check_bind_ok_iff.1 checked
  obtain ⟨sessions, read, ordered, _⟩ := normalizedSessions_ordered checked
  exact ⟨sessions, read, ordered⟩

structure M10Pair (predecessor candidate : Stage8bP1eM10IdentityV1) : Prop where
  predecessorAligned : predecessor.closeTsUtcMs % 600000 = 0
  candidateAligned : candidate.closeTsUtcMs % 600000 = 0
  candidateRedisId : candidate.redisId = toString candidate.closeTsUtcMs ++ "-0"
  candidateSpan : candidate.closeTsUtcMs - candidate.openTsUtcMs = 600000
  later : predecessor.closeTsUtcMs < candidate.closeTsUtcMs

theorem validateM10_spec {day : NaiveDate} {item : Stage8bP1eM10IdentityV1}
    (checked : validateM10 calendar day item = .ok ()) :
    item.redisId = toString item.closeTsUtcMs ++ "-0" ∧ item.closeTsUtcMs - item.openTsUtcMs = 600000 ∧
      item.closeTsUtcMs % 600000 = 0 := by
  unfold validateM10 at checked
  obtain ⟨close, _, checked⟩ := bind_ok_iff.1 checked
  simp only [rejectIf_ok_iff, not_or, not_not] at checked
  obtain ⟨redisId, _, _, span, aligned, _⟩ := checked
  exact ⟨redisId, span, aligned⟩

theorem m10Pair_of_validate {predecessor candidate : Stage8bP1eM10IdentityV1} {tradingDay : String}
    (checked : validateM10Pair calendar predecessor candidate tradingDay = .ok ()) :
    M10Pair predecessor candidate := by
  unfold validateM10Pair at checked
  obtain ⟨day, _, checked⟩ := bind_ok_iff.1 checked
  obtain ⟨first, checked⟩ := check_bind_ok_iff.1 checked
  obtain ⟨second, later⟩ := check_bind_ok_iff.1 checked
  obtain ⟨_, _, predecessorAligned⟩ := validateM10_spec first
  obtain ⟨candidateRedisId, candidateSpan, candidateAligned⟩ := validateM10_spec second
  exact {
    predecessorAligned := predecessorAligned
    candidateAligned := candidateAligned
    candidateRedisId := candidateRedisId
    candidateSpan := candidateSpan
    later := not_le.1 ((rejectIf_ok_iff ..).1 later) }

/-- Closes on the ten-minute grid are whole seconds, in the same order. -/
theorem M10Pair.seconds {predecessor candidate : Stage8bP1eM10IdentityV1} (pair : M10Pair predecessor candidate) :
    predecessor.closeTs % m10Seconds = 0 ∧ candidate.closeTs % m10Seconds = 0 ∧
      predecessor.closeTs < candidate.closeTs := by
  have first := pair.predecessorAligned
  have second := pair.candidateAligned
  have later := pair.later
  unfold Stage8bP1eM10IdentityV1.closeTs m10Seconds
  omega

/-- What a route prepares: a candidate of its kind, for the pair and the source it was asked about. -/
structure Prepared (source : Stage8bP1eAcceptedScheduleSourceV1 calendar)
    (transitionKind : Stage8bP1eScheduleTransitionKindV1) (predecessor candidate : Stage8bP1eM10IdentityV1)
    (prepared : Stage8bP1eScheduleBindingCandidateV1) : Prop where
  pair : M10Pair predecessor candidate
  predecessorM10 : prepared.predecessorM10 = predecessor
  candidateM10 : prepared.candidateOrLastEligibleM10 = candidate
  transitionKind : prepared.transitionKind = transitionKind

theorem prepared_of_binding {source : Stage8bP1eAcceptedScheduleSourceV1 calendar}
    {transitionKind : Stage8bP1eScheduleTransitionKindV1} {predecessor candidate : Stage8bP1eM10IdentityV1}
    {binding : Stage8bP1eRequestOrOrderBindingV1} {redisStreamId : String} {route : ScheduleStepRoute}
    {prepared : Stage8bP1eScheduleBindingCandidateV1} (pair : M10Pair predecessor candidate)
    (made : source.prepareBinding transitionKind predecessor candidate binding redisStreamId route = .ok prepared) :
    Prepared source transitionKind predecessor candidate prepared := by
  unfold Stage8bP1eAcceptedScheduleSourceV1.prepareBinding at made
  obtain ⟨_, made⟩ := check_bind_ok_iff.1 made
  cases made
  exact { pair := pair, predecessorM10 := rfl, candidateM10 := rfl, transitionKind := rfl }

end Properties

end TradingGateway.Stage5e.ScheduleSource
