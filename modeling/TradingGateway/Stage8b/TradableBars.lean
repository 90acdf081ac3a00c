import TradingGateway.Stage5e.PlainScheduleEnvelope
import TradingGateway.Stage5e.ScheduleRoutes
import TradingGateway.Stage5e.TimedSessions
import TradingGateway.Stage8b.MarketProvider

/-! The bar a market order may be filled on, by a signed schedule: the projection of an accepted
source and the bridge that classifies the bar, against the instants that the envelope spells. -/

set_option autoImplicit false

namespace TradingGateway.Stage8b.TradableBars

open BrokerCore.Orders BrokerCore.Orders.DateTimeUtc Stage6.JournalRecord
open Stage5e.ScheduleGrid Stage5e.ScheduleSource Stage5e.ScheduleEnvelope Stage5e.ScheduleVerifier
open Stage5e.ScheduleRoutes Stage5e.TimedSessions MarketProvider
open Foundation.ExceptRun

/-- What the calendar library documents of milliseconds: their instant lies on the day of their second. -/
structure CloseDays (calendar : SourceCalendar) : Prop where
  day : ∀ milliseconds time, calendar.fromTimestampMillis milliseconds = some time →
    utcDay (milliseconds / 1000) = some (calendar.dateNaive time)

section Reading

variable {calendar : SourceCalendar}

def kindOf : Stage8bP1eScheduleSessionTypeV1 → NormalizedSessionType
  | .tradableOpen => .tradableOpen
  | .breakOrClearing => .breakOrClearing
  | .maintenance => .maintenance

def timedSession (calendar : SourceCalendar) (session : Stage8bP1eScheduleSessionV1) :
    Except Stage8bP1eScheduleSourceError TimedSession := do
  let start ← parseExactTimestamp calendar session.startUtc
  let finish ← parseExactTimestamp calendar session.endUtc
  .ok { sessionType := kindOf session.sessionType, start := start, finish := finish }

theorem normalizedSession_of_timed {session : Stage8bP1eScheduleSessionV1} {timed : TimedSession}
    (read : timedSession calendar session = .ok timed) :
    normalizedSession calendar session = .ok timed.inSeconds := by
  unfold timedSession at read
  obtain ⟨start, startRead, read⟩ := bind_ok_iff.1 read
  obtain ⟨finish, finishRead, read⟩ := bind_ok_iff.1 read
  cases Except.ok.inj read
  unfold normalizedSession
  rw [startRead, finishRead]
  cases session with
  | mk _ _ kind => cases kind <;> rfl

theorem normalizedSessions_of_timed {sessions : List Stage8bP1eScheduleSessionV1} {timed : List TimedSession}
    (read : sessions.mapM (timedSession calendar) = .ok timed) :
    sessions.mapM (normalizedSession calendar) = .ok (timed.map TimedSession.inSeconds) := by
  rw [mapM_ok_iff] at read ⊢
  rw [List.forall₂_map_right_iff]
  exact List.Forall₂.imp (fun _ _ => normalizedSession_of_timed) read

theorem validateSession_timed {day : NaiveDate} {prior : Option PriorSession} {session : Stage8bP1eScheduleSessionV1}
    {current : PriorSession} (checked : validateSession calendar day prior session = .ok current) :
    timedSession calendar session =
        .ok { sessionType := kindOf session.sessionType, start := current.start, finish := current.finish } ∧
      current.finish.After current.start ∧ ∀ before ∈ prior, current.start.After before.finish := by
  unfold validateSession at checked
  obtain ⟨start, startParsed, checked⟩ := bind_ok_iff.1 checked
  obtain ⟨finish, finishParsed, checked⟩ := bind_ok_iff.1 checked
  obtain ⟨forward, checked⟩ := check_bind_ok_iff.1 checked
  obtain ⟨behind, checked⟩ := check_bind_ok_iff.1 checked
  cases checked
  simp only [rejectIf_ok_iff, not_or, not_not] at forward
  simp only [rejectIf_ok_iff, Option.any_eq_true, decide_eq_true_eq, not_exists, not_and, not_or, not_not] at behind
  refine ⟨?_, forward.1, fun before known => (behind before known).2⟩
  unfold timedSession
  rw [startParsed, finishParsed]
  rfl

/-- Checked sessions are read with their instants, apart and in their order. -/
theorem timedSessions_of_validate {day : NaiveDate} {prior : Option PriorSession}
    {sessions : List Stage8bP1eScheduleSessionV1} (checked : validateSessionsFrom calendar day prior sessions = .ok ()) :
    ∃ timed, sessions.mapM (timedSession calendar) = .ok timed ∧ Checked timed ∧
      ∀ before ∈ prior, ∀ session ∈ timed, session.start.After before.finish := by
  induction sessions generalizing prior with
  | nil => exact ⟨[], rfl, ⟨List.Pairwise.nil, by simp⟩, by simp⟩
  | cons session rest ih =>
      unfold validateSessionsFrom at checked
      obtain ⟨current, first, checked⟩ := bind_ok_iff.1 checked
      obtain ⟨read, forward, behind⟩ := validateSession_timed first
      obtain ⟨tail, tailRead, tailChecked, tailBehind⟩ := ih checked
      let head : TimedSession :=
        { sessionType := kindOf session.sessionType, start := current.start, finish := current.finish }
      refine ⟨head :: tail, ?_, ⟨List.pairwise_cons.2 ⟨?_, tailChecked.apart⟩, ?_⟩, ?_⟩
      · rw [List.mapM_cons, read, tailRead]
        rfl
      · exact fun later member => tailBehind current rfl later member
      · exact List.forall_mem_cons.2 ⟨forward, tailChecked.forward⟩
      · intro before known
        have here := behind before known
        refine List.forall_mem_cons.2 ⟨here, fun later member => ?_⟩
        exact (tailBehind current rfl later member).trans (forward.trans here)

theorem validateM10_day {day : NaiveDate} {item : Stage8bP1eM10IdentityV1}
    (checked : validateM10 calendar day item = .ok ()) :
    ∃ close, calendar.fromTimestampMillis item.closeTsUtcMs = some close ∧ calendar.dateNaive close = day := by
  unfold validateM10 at checked
  obtain ⟨close, found, checked⟩ := bind_ok_iff.1 checked
  simp only [rejectIf_ok_iff, not_or, not_not] at checked
  exact ⟨close, (orReject_ok_iff ..).1 found, checked.2.2.2.2.2⟩

/-- Both bars of a pair close on the trading day. -/
theorem m10Pair_days (days : CloseDays calendar) {predecessor candidate : Stage8bP1eM10IdentityV1} {tradingDay : String}
    {day : NaiveDate} (dayRead : parseExactDay calendar tradingDay = .ok day)
    (checked : validateM10Pair calendar predecessor candidate tradingDay = .ok ()) :
    utcDay predecessor.closeTs = some day ∧ utcDay candidate.closeTs = some day := by
  unfold validateM10Pair at checked
  rw [dayRead, ok_bind] at checked
  obtain ⟨first, checked⟩ := check_bind_ok_iff.1 checked
  obtain ⟨second, _⟩ := check_bind_ok_iff.1 checked
  obtain ⟨firstClose, firstFound, firstDay⟩ := validateM10_day first
  obtain ⟨secondClose, secondFound, secondDay⟩ := validateM10_day second
  rw [← firstDay] at *
  exact ⟨days.day _ _ firstFound, secondDay ▸ days.day _ _ secondFound⟩

theorem decodeDigest_of_canonical {value : HexText} (canonical : isCanonicalSha256 value = true) :
    ∃ bytes, decodeDigest value = .ok bytes := by
  unfold isCanonicalSha256 at canonical
  simp only [Bool.and_eq_true, beq_iff_eq] at canonical
  have lower : validLowerHex value 64 = true := by
    unfold validLowerHex
    simp [canonical.1.1, canonical.2]
  exact ⟨_, check_bind_ok_iff.2 ⟨(rejectIf_ok_iff ..).2 (by simp [lower]), rfl⟩⟩

end Reading

section Source

variable {codec : EnvelopeCodec} {source : Stage8bP1eAcceptedScheduleSource codec}

structure SourceReads (source : Stage8bP1eAcceptedScheduleSource codec) (timed : List TimedSession) (day : NaiveDate)
    (observed : DateTimeUtc) : Prop where
  sessions : source.envelope.payload.normalizedSchedule.sessions.mapM (timedSession codec.calendar) = .ok timed
  checked : Checked timed
  day : parseExactDay codec.calendar source.envelope.payload.tradingDay = .ok day
  observed : parseExactTimestamp codec.calendar source.envelope.payload.normalizedSchedule.sourceObservedAtUtc =
    .ok observed
  semantic : ∃ bytes, decodeDigest source.envelope.scheduleSemanticSha256 = .ok bytes
  report : ∃ bytes, decodeDigest source.envelope.payload.stage4Evidence.reportSha256 = .ok bytes

/-- Of an accepted source everything is read. -/
theorem exists_sourceReads {exactEnvelopeBytes : List UInt8} {context : Stage8bP1eScheduleVerificationContextV1}
    (accepted : verifyStage8bP1eScheduleEnvelopeV3 codec exactEnvelopeBytes context = .ok source) :
    ∃ timed day observed, SourceReads source timed day observed := by
  unfold verifyStage8bP1eScheduleEnvelopeV3 at accepted
  obtain ⟨anchor, _, accepted⟩ := bind_ok_iff.1 accepted
  obtain ⟨envelope, times, candidate, progression, authentic, _, _, _, _, accepts⟩ := verifyEnvelope_ok_iff.1 accepted
  obtain ⟨_, _, sound, same⟩ := acceptEnvelope_ok_iff.1 accepts
  have isEnvelope : source.envelope = envelope := by rw [same]
  have valid := source.sessions_valid
  unfold validateSessions at valid
  obtain ⟨day, dayRead, valid⟩ := bind_ok_iff.1 valid
  obtain ⟨valid, _⟩ := check_bind_ok_iff.1 valid
  obtain ⟨timed, read, checked, _⟩ := timedSessions_of_validate valid
  have instants := authentic.instants
  unfold evidenceTimes at instants
  obtain ⟨observed, observedRead, _⟩ := bind_ok_iff.1 instants
  have constants := authentic.constants
  unfold validateEnvelopeConstants at constants
  rw [rejectIf_ok_iff] at constants
  simp only [not_or, Bool.not_eq_false] at constants
  have hashes := authentic.hashes
  unfold validateEmbeddedHashes at hashes
  obtain ⟨hashes, _⟩ := check_bind_ok_iff.1 hashes
  rw [rejectIf_ok_iff] at hashes
  simp only [not_or, Bool.not_eq_false] at hashes
  have semantic : isCanonicalSha256 envelope.scheduleSemanticSha256 = true := constants.2.2.2.2.2.2.2.2.2.2.1
  exact ⟨timed, day, observed, {
    sessions := read
    checked := checked
    day := dayRead
    observed := isEnvelope ▸ observedRead
    semantic := isEnvelope ▸ decodeDigest_of_canonical semantic
    report := isEnvelope ▸ decodeDigest_of_canonical hashes.2.1 }⟩

variable {timed : List TimedSession} {day : NaiveDate} {observed : DateTimeUtc}
  {predecessor candidate : Stage8bP1eM10IdentityV1}

structure ProjectedWindow (source : Stage8bP1eAcceptedScheduleSource codec) (timed : List TimedSession) (day : NaiveDate)
    (observed : DateTimeUtc) (window : Stage5eScheduleWindowEvidence) : Prop where
  instrument : window.instrument = instrumentId
  tradingDay : window.tradingDay = day
  effectiveObservedAt : window.effectiveObservedAt = latest observed source.stage4ObservedAt
  expiresAt : window.expiresAt = source.validUntil
  sessions : window.normalizedSessions = timed.map TimedSession.inSeconds

theorem openProjection_spec (reads : SourceReads source timed day observed) {projection : VerifiedSourceProjection}
    (projected : source.openProjection predecessor candidate = .ok projection) :
    validateM10Pair codec.calendar predecessor candidate source.envelope.payload.tradingDay = .ok () ∧
      ProjectedWindow source timed day observed projection.toStage5eScheduleWindowEvidence := by
  unfold Stage8bP1eAcceptedScheduleSource.openProjection at projected
  obtain ⟨pair, projected⟩ := check_bind_ok_iff.1 projected
  obtain ⟨sessions, read, projected⟩ := bind_ok_iff.1 projected
  obtain ⟨_, _, projected⟩ := bind_ok_iff.1 projected
  obtain ⟨_, _, projected⟩ := bind_ok_iff.1 projected
  obtain ⟨found, dayRead, projected⟩ := bind_ok_iff.1 projected
  obtain ⟨seen, observedRead, projected⟩ := bind_ok_iff.1 projected
  obtain ⟨_, _, projected⟩ := bind_ok_iff.1 projected
  have isSessions : sessions = timed.map TimedSession.inSeconds :=
    Except.ok.inj (read.symm.trans (normalizedSessions_of_timed reads.sessions))
  have isDay : found = day := Except.ok.inj (dayRead.symm.trans reads.day)
  have isObserved : seen = observed := Except.ok.inj (observedRead.symm.trans reads.observed)
  cases Except.ok.inj projected
  exact ⟨pair, {
    instrument := rfl
    tradingDay := isDay
    effectiveObservedAt := by rw [← isObserved]
    expiresAt := rfl
    sessions := isSessions }⟩

/-- A pair has a projection where the candidate closes in a trading session, in whole seconds. -/
theorem exists_openProjection (reads : SourceReads source timed day observed)
    (pair : validateM10Pair codec.calendar predecessor candidate source.envelope.payload.tradingDay = .ok ())
    (selected : ∃ session ∈ timed, session.sessionType = .tradableOpen ∧ session.inSeconds.Covers candidate.closeTs) :
    ∃ projection, source.openProjection predecessor candidate = .ok projection := by
  obtain ⟨session, member, isOpen, covers⟩ := selected
  have finds : ((timed.map TimedSession.inSeconds).find? fun session => session.sessionType = .tradableOpen ∧
      session.Covers candidate.closeTs).isSome = true := by
    rw [List.find?_isSome]
    exact ⟨session.inSeconds, List.mem_map_of_mem member, by simpa using ⟨isOpen, covers⟩⟩
  obtain ⟨found, isFound⟩ := Option.isSome_iff_exists.1 finds
  obtain ⟨semantic, semanticRead⟩ := reads.semantic
  obtain ⟨report, reportRead⟩ := reads.report
  have sessions : source.steps.normalizedSessions = .ok (timed.map TimedSession.inSeconds) :=
    normalizedSessions_of_timed reads.sessions
  unfold Stage8bP1eAcceptedScheduleSource.openProjection
  rw [pair, ok_bind, sessions, ok_bind, orReject_bind_of_some isFound, semanticRead, ok_bind, reads.day, ok_bind,
    reads.observed, ok_bind, reportRead, ok_bind]
  exact ⟨_, rfl⟩

/-- The projection of a pair and the bridge approve the candidate as the bar to trade on. -/
def Approves (market : MarketCodec) (source : Stage8bP1eAcceptedScheduleSource codec)
    (predecessor candidate : Stage8bP1eM10IdentityV1) (observedAt : DateTimeUtc) : Prop :=
  ∃ projection approved, source.openProjection predecessor candidate = .ok projection ∧
    classifyStage8bP1d1ExecutionBar market projection.toStage5eScheduleWindowEvidence instrumentId predecessor.closeTs
      candidate.closeTs observedAt = .ok approved

/-- An instant at which a bar may be observed: both sources were observed, the source is valid and the bar closed. -/
structure ObservedInTime (source : Stage8bP1eAcceptedScheduleSource codec) (candidate : Stage8bP1eM10IdentityV1)
    (observedAt : DateTimeUtc) : Prop where
  observed : ∀ seen, parseExactTimestamp codec.calendar
    source.envelope.payload.normalizedSchedule.sourceObservedAtUtc = .ok seen →
      ¬ (latest seen source.stage4ObservedAt).After observedAt
  valid : ¬ observedAt.After source.validUntil
  closed : ¬ (wholeSecond candidate.closeTs).After observedAt

/-- By the instants of the envelope the candidate is the next bar to trade behind its predecessor. -/
def IsNextTradable (source : Stage8bP1eAcceptedScheduleSource codec) (predecessor candidate : Stage8bP1eM10IdentityV1) :
    Prop :=
  ∃ timed, source.envelope.payload.normalizedSchedule.sessions.mapM (timedSession codec.calendar) = .ok timed ∧
    NextByInstants timed 600 predecessor.closeTs candidate.closeTs

/-- From one close to the other no session of the envelope starts within the second of a close of the grid. -/
def SessionsOnSeconds (source : Stage8bP1eAcceptedScheduleSource codec)
    (predecessor candidate : Stage8bP1eM10IdentityV1) : Prop :=
  ∀ timed, source.envelope.payload.normalizedSchedule.sessions.mapM (timedSession codec.calendar) = .ok timed →
    StartsOnSeconds timed 600 predecessor.closeTs candidate.closeTs

variable {market : MarketCodec} {window : Stage5eScheduleWindowEvidence} {observedAt : DateTimeUtc}

theorem classify_ok_iff :
    (∃ approved, classifyStage8bP1d1ExecutionBar market window instrumentId predecessor.closeTs candidate.closeTs
        observedAt = .ok approved) ↔
      schedulePreflight window instrumentId candidate.closeTs observedAt = .ok () ∧
        NextOnGrid window predecessor.closeTs candidate.closeTs 600 := by
  rw [← @classifyExpectedCloseGrid_isOk_iff market.toScheduleCodec]
  unfold classifyStage8bP1d1ExecutionBar
  constructor
  · rintro ⟨approved, classified⟩
    obtain ⟨preflight, classified⟩ := check_bind_ok_iff.1 classified
    obtain ⟨classification, walked, _⟩ := bind_ok_iff.1 classified
    exact ⟨preflight, classification, (mapError_ok_iff ..).1 walked⟩
  · rintro ⟨preflight, classification, walked⟩
    rw [preflight, ok_bind, (mapError_ok_iff ..).2 walked, ok_bind]
    exact ⟨_, rfl⟩

/-- The walk reads a window's sessions and its day only. -/
theorem nextOnGrid_of_same {other : Stage5eScheduleWindowEvidence} {predecessorCloseTs candidateCloseTs : Int}
    {timeframeSec : UInt32} (sessions : window.normalizedSessions = other.normalizedSessions)
    (day : window.tradingDay = other.tradingDay)
    (next : NextOnGrid window predecessorCloseTs candidateCloseTs timeframeSec) :
    NextOnGrid other predecessorCloseTs candidateCloseTs timeframeSec := by
  have same : sessionAt window = sessionAt other := by
    funext closeTs
    unfold sessionAt
    rw [sessions]
  exact { next with
    sameDay := day ▸ next.sameDay
    predecessorOpen := same ▸ next.predecessorOpen
    currentOpen := same ▸ next.currentOpen
    between := same ▸ next.between }

theorem preflight_of_inTime (reads : SourceReads source timed day observed)
    (projected : ProjectedWindow source timed day observed window) (inTime : ObservedInTime source candidate observedAt) :
    schedulePreflight window instrumentId candidate.closeTs observedAt = .ok () := by
  have seen := inTime.observed observed reads.observed
  have closed := inTime.closed
  have notLater : ¬ observedAt.seconds < candidate.closeTs := by
    intro later
    exact closed (.inl later)
  unfold schedulePreflight
  rw [projected.instrument, projected.effectiveObservedAt, projected.expiresAt, rejectIf_of_not _ (by simp), ok_bind,
    rejectIf_of_not _ seen, ok_bind, rejectIf_of_not _ inTime.valid, ok_bind, rejectIf_of_not _ notLater]

/-- What is approved is the next bar on the grid of its window. -/
theorem Approves.next (reads : SourceReads source timed day observed)
    (approves : Approves market source predecessor candidate observedAt) :
    M10Pair predecessor candidate ∧ ∃ window, ProjectedWindow source timed day observed window ∧
      NextOnGrid window predecessor.closeTs candidate.closeTs 600 := by
  obtain ⟨projection, approved, projected, classified⟩ := approves
  obtain ⟨pair, isWindow⟩ := openProjection_spec reads projected
  obtain ⟨_, next⟩ := classify_ok_iff.1 ⟨approved, classified⟩
  exact ⟨m10Pair_of_validate pair, _, isWindow, next⟩

theorem approves_of_next (reads : SourceReads source timed day observed)
    (pair : validateM10Pair codec.calendar predecessor candidate source.envelope.payload.tradingDay = .ok ())
    (inTime : ObservedInTime source candidate observedAt) (projected : ProjectedWindow source timed day observed window)
    (next : NextOnGrid window predecessor.closeTs candidate.closeTs 600) :
    Approves market source predecessor candidate observedAt := by
  obtain ⟨found, walked, isOpen⟩ := next.currentOpen
  obtain ⟨session, member, same, covers, _⟩ := alone_of_sessionAt projected.sessions walked
  subst same
  obtain ⟨projection, made⟩ := exists_openProjection reads pair ⟨session, member, isOpen, covers⟩
  obtain ⟨_, isWindow⟩ := openProjection_spec reads made
  have sessions := projected.sessions.trans isWindow.sessions.symm
  have tradingDay := projected.tradingDay.trans isWindow.tradingDay.symm
  obtain ⟨approved, classified⟩ := classify_ok_iff.2
    ⟨preflight_of_inTime reads isWindow inTime, nextOnGrid_of_same sessions tradingDay next⟩
  exact ⟨projection, approved, made, classified⟩

/-- A window that a projection of the source has. -/
theorem exists_projectedWindow (source : Stage8bP1eAcceptedScheduleSource codec) (timed : List TimedSession)
    (day : NaiveDate) (observed : DateTimeUtc) : ∃ window, ProjectedWindow source timed day observed window :=
  ⟨{ instrument := instrumentId
     tradingDay := day
     effectiveObservedAt := latest observed source.stage4ObservedAt
     expiresAt := source.validUntil
     fingerprint := []
     normalizedSessions := timed.map TimedSession.inSeconds
     normalizedSessionsFingerprint := []
     normalizedSnapshotIdentityFingerprint := [] }, rfl, rfl, rfl, rfl, rfl⟩

theorem isNextTradable_iff (reads : SourceReads source timed day observed) :
    IsNextTradable source predecessor candidate ↔ NextByInstants timed 600 predecessor.closeTs candidate.closeTs := by
  constructor
  · rintro ⟨other, read, next⟩
    have same : other = timed := Except.ok.inj (read.symm.trans reads.sessions)
    exact same ▸ next
  · intro next
    exact ⟨timed, reads.sessions, next⟩

theorem sessionsOnSeconds_iff (reads : SourceReads source timed day observed) :
    SessionsOnSeconds source predecessor candidate ↔
      StartsOnSeconds timed 600 predecessor.closeTs candidate.closeTs := by
  constructor
  · exact fun onSeconds => onSeconds timed reads.sessions
  · intro onSeconds other read
    have same : other = timed := Except.ok.inj (read.symm.trans reads.sessions)
    exact same ▸ onSeconds

/-- Where sessions start on whole seconds, the next bar to trade is approved and no other one. -/
theorem approves_iff (days : CloseDays codec.calendar) (reads : SourceReads source timed day observed)
    (pair : validateM10Pair codec.calendar predecessor candidate source.envelope.payload.tradingDay = .ok ())
    (inTime : ObservedInTime source candidate observedAt) (onSeconds : SessionsOnSeconds source predecessor candidate) :
    Approves market source predecessor candidate observedAt ↔ IsNextTradable source predecessor candidate := by
  rw [isNextTradable_iff reads]
  rw [sessionsOnSeconds_iff reads] at onSeconds
  obtain ⟨aligned, candidateAligned, later⟩ := (m10Pair_of_validate pair).seconds
  have sameDay := m10Pair_days days reads.day pair
  have onGrid : ∀ {window}, ProjectedWindow source timed day observed window →
      (NextOnGrid window predecessor.closeTs candidate.closeTs 600 ↔
        NextByInstants timed 600 predecessor.closeTs candidate.closeTs) := by
    intro window projected
    refine nextOnGrid_iff projected.sessions reads.checked (by decide) later ⟨aligned, candidateAligned⟩ ?_ onSeconds
    rw [projected.tradingDay]
    exact sameDay
  constructor
  · intro approves
    obtain ⟨_, window, projected, next⟩ := approves.next reads
    exact (onGrid projected).1 next
  · intro next
    obtain ⟨window, projected⟩ := exists_projectedWindow source timed day observed
    exact approves_of_next reads pair inTime projected ((onGrid projected).2 next)

/-- Two consecutive closes inside one trading session have nothing between them. -/
theorem nextByInstants_of_consecutive {session : TimedSession} {predecessorCloseTs : Int} (member : session ∈ timed)
    (isOpen : session.sessionType = .tradableOpen) (first : session.CoversExactly predecessorCloseTs)
    (second : session.CoversExactly (predecessorCloseTs + 600)) (aligned : predecessorCloseTs % 600 = 0) :
    NextByInstants timed 600 predecessorCloseTs (predecessorCloseTs + 600) where
  predecessor := ⟨session, member, isOpen, first⟩
  candidate := ⟨session, member, isOpen, second⟩
  between := by
    intro closeTs behind before onGrid
    have grid : closeTs % 600 = 0 := onGrid
    omega

/-- Two bars that close together, by the second and on the grid, close in the same millisecond. -/
theorem closeTsUtcMs_eq {left right : Stage8bP1eM10IdentityV1} (leftAligned : left.closeTsUtcMs % 600000 = 0)
    (rightAligned : right.closeTsUtcMs % 600000 = 0) (same : left.closeTs = right.closeTs) :
    left.closeTsUtcMs = right.closeTsUtcMs := by
  unfold Stage8bP1eM10IdentityV1.closeTs at same
  omega

/-- The walks of two approved pairs read the same sessions. -/
theorem Approves.one_candidate (reads : SourceReads source timed day observed)
    (approves : Approves market source predecessor candidate observedAt) {other : Stage8bP1eM10IdentityV1}
    {otherObservedAt : DateTimeUtc} (approvesOther : Approves market source predecessor other otherObservedAt) :
    candidate.closeTsUtcMs = other.closeTsUtcMs := by
  obtain ⟨pair, window, projected, next⟩ := approves.next reads
  obtain ⟨otherPair, otherWindow, otherProjected, otherNext⟩ := approvesOther.next reads
  have here := nextOnGrid_of_same (otherProjected.sessions.trans projected.sessions.symm)
    (otherProjected.tradingDay.trans projected.tradingDay.symm) otherNext
  have first := NextOnGrid.not_before next here.later here.aligned.2 here.currentOpen
  have second := NextOnGrid.not_before here next.later next.aligned.2 next.currentOpen
  exact closeTsUtcMs_eq pair.candidateAligned otherPair.candidateAligned (le_antisymm first second)

theorem Approves.one_predecessor (reads : SourceReads source timed day observed)
    (approves : Approves market source predecessor candidate observedAt) {other : Stage8bP1eM10IdentityV1}
    {otherObservedAt : DateTimeUtc} (approvesOther : Approves market source other candidate otherObservedAt) :
    predecessor.closeTsUtcMs = other.closeTsUtcMs := by
  obtain ⟨pair, window, projected, next⟩ := approves.next reads
  obtain ⟨otherPair, otherWindow, otherProjected, otherNext⟩ := approvesOther.next reads
  have here := nextOnGrid_of_same (otherProjected.sessions.trans projected.sessions.symm)
    (otherProjected.tradingDay.trans projected.tradingDay.symm) otherNext
  refine closeTsUtcMs_eq pair.predecessorAligned otherPair.predecessorAligned ?_
  rcases lt_trichotomy predecessor.closeTs other.closeTs with before | same | behind
  · have notBefore := NextOnGrid.not_before next before here.aligned.1 here.predecessorOpen
    have later := here.later
    omega
  · exact same
  · have notBefore := NextOnGrid.not_before here behind next.aligned.1 next.predecessorOpen
    have later := next.later
    omega

end Source

/-- An accepted source approves the next bar to trade, and only that one, unless a session starts within the second
of a close of the grid; one of two approved bars behind the same predecessor, or before the same candidate, is the other. -/
theorem next_tradable_bar {codec : EnvelopeCodec} {market : MarketCodec} (days : CloseDays codec.calendar)
    {exactEnvelopeBytes : List UInt8} {context : Stage8bP1eScheduleVerificationContextV1}
    {source : Stage8bP1eAcceptedScheduleSource codec}
    (accepted : verifyStage8bP1eScheduleEnvelopeV3 codec exactEnvelopeBytes context = .ok source)
    {predecessor candidate : Stage8bP1eM10IdentityV1}
    (pair : validateM10Pair codec.calendar predecessor candidate source.envelope.payload.tradingDay = .ok ())
    {observedAt : DateTimeUtc} (inTime : ObservedInTime source candidate observedAt) :
    (SessionsOnSeconds source predecessor candidate →
      (Approves market source predecessor candidate observedAt ↔ IsNextTradable source predecessor candidate)) ∧
    (Approves market source predecessor candidate observedAt ∨ IsNextTradable source predecessor candidate →
      ((Approves market source predecessor candidate observedAt ↔ IsNextTradable source predecessor candidate) ↔
        SessionsOnSeconds source predecessor candidate)) ∧
    (∀ timed, source.envelope.payload.normalizedSchedule.sessions.mapM (timedSession codec.calendar) = .ok timed →
      ∀ session ∈ timed, session.sessionType = .tradableOpen → session.CoversExactly predecessor.closeTs →
        session.CoversExactly candidate.closeTs → candidate.closeTs = predecessor.closeTs + 600 →
        (Approves market source predecessor candidate observedAt ↔ SessionsOnSeconds source predecessor candidate)) ∧
    (∀ other otherObservedAt, Approves market source predecessor candidate observedAt →
      Approves market source predecessor other otherObservedAt → candidate.closeTsUtcMs = other.closeTsUtcMs) ∧
    ∀ other otherObservedAt, Approves market source predecessor candidate observedAt →
      Approves market source other candidate otherObservedAt → predecessor.closeTsUtcMs = other.closeTsUtcMs := by
  obtain ⟨timed, day, observed, reads⟩ := exists_sourceReads accepted
  have equal : SessionsOnSeconds source predecessor candidate →
      (Approves market source predecessor candidate observedAt ↔ IsNextTradable source predecessor candidate) :=
    approves_iff days reads pair inTime
  have both : Approves market source predecessor candidate observedAt → IsNextTradable source predecessor candidate →
      SessionsOnSeconds source predecessor candidate := by
    intro approves isNext
    obtain ⟨_, window, projected, walked⟩ := approves.next reads
    rw [isNextTradable_iff reads] at isNext
    rw [sessionsOnSeconds_iff reads]
    exact startsOnSeconds_of_both projected.sessions reads.checked walked isNext
  refine ⟨equal, ?_, ?_, ?_, ?_⟩
  · intro either
    refine ⟨fun same => ?_, equal⟩
    rcases either with approves | isNext
    · exact both approves (same.1 approves)
    · exact both (same.2 isNext) isNext
  · intro other read session member isOpen first second consecutive
    obtain ⟨aligned, _, _⟩ := (m10Pair_of_validate pair).seconds
    rw [consecutive] at second
    have isNext : IsNextTradable source predecessor candidate :=
      ⟨other, read, consecutive ▸ nextByInstants_of_consecutive member isOpen first second aligned⟩
    exact ⟨fun approves => both approves isNext, fun onSeconds => (equal onSeconds).2 isNext⟩
  · exact fun other otherObservedAt approves approvesOther => approves.one_candidate reads approvesOther
  · exact fun other otherObservedAt approves approvesOther => approves.one_predecessor reads approvesOther

section Samples

open Stage5e.PlainScheduleEnvelope Stage6.PlainCodec Stage6.PlainScheduleCodec

/-- The instants of the day, and two within the second of a close. -/
def splitInstants : List (String × DateTimeUtc) :=
  dayInstants ++ [("2026-09-01T11:50:00.200000Z", { daySecond 11 50 0 with nanos := 200000000 }),
    ("2026-09-01T11:50:00.500000Z", { daySecond 11 50 0 with nanos := 500000000 })]

def splitCalendar : SourceCalendar :=
  { dayCalendar with
    parseFromRfc3339 := fun text => ((splitInstants ++ keyInstants).find? fun known => known.1 = text).map Prod.snd
    toRfc3339Micros := fun time => ((splitInstants.find? fun known => known.2 = time.truncMicros).map Prod.fst).getD ""
    fromTimestampMillis := fromTimestampMillis }

theorem splitCalendar_days : CloseDays splitCalendar := by
  constructor
  intro milliseconds time made
  have isTime : fromTimestampMillis milliseconds = some time := made
  unfold fromTimestampMillis at isTime
  obtain ⟨second, inRange, same⟩ := Option.map_eq_some_iff.1 isTime
  unfold utcDay
  rw [inRange, ← same]
  rfl

/-- Two trading sessions, the second of which starts within the second the first one ends in. -/
def splitSessions : List Stage8bP1eScheduleSessionV1 :=
  [{ startUtc := "2026-09-01T07:00:00.000000Z"
     endUtc := "2026-09-01T11:50:00.200000Z"
     sessionType := .tradableOpen },
    { startUtc := "2026-09-01T11:50:00.500000Z"
      endUtc := "2026-09-01T15:00:00.000000Z"
      sessionType := .tradableOpen }]

def firstSession : TimedSession where
  sessionType := .tradableOpen
  start := daySecond 7 0 0
  finish := { daySecond 11 50 0 with nanos := 200000000 }

def secondSession : TimedSession where
  sessionType := .tradableOpen
  start := { daySecond 11 50 0 with nanos := 500000000 }
  finish := daySecond 15 0 0

def payloadWith (sessions : List Stage8bP1eScheduleSessionV1) : Stage8bP1eSchedulePayloadV2 :=
  { dayPayload with
    normalizedSchedule := { dayPayload.normalizedSchedule with
      sessions := sessions
      normalizedPayloadSha256 := (plainHash (sessions.flatMap plainSession)).hex } }

def envelopeWith (sessions : List Stage8bP1eScheduleSessionV1) : Stage8bP1eScheduleEnvelopeV3 :=
  { dayEnvelope with
    payload := payloadWith sessions
    payloadSha256 := (plainHash (plainPayload (payloadWith sessions))).hex
    scheduleSemanticSha256 := (plainHash (semanticHashDomain.toUTF8.toList ++ 0 ::
      plainSemanticIdentity (semanticIdentityOf (payloadWith sessions)))).hex
    semanticIdentity := semanticIdentityOf (payloadWith sessions) }

def splitCodec : EnvelopeCodec :=
  { dayJson [dayEnvelope, envelopeWith splitSessions] with
    calendar := splitCalendar
    sha256 := plainHash }

def noonContext : Stage8bP1eScheduleVerificationContextV1 where
  expectedInstrumentMapFingerprintSha256 := sampleHex 3
  expectedOperationalIdentitySha256 := sampleHex 4
  expectedRegistryIdentitySha256 := sampleHex 2
  expectedRegistryVersion := "v1"
  expectedRuntimeConfigFingerprintSha256 := sampleHex 5
  highWater := none
  trustedNow := daySecond 12 0 0

def barClosing (close : DateTimeUtc) : Stage8bP1eM10IdentityV1 where
  closeTsUtcMs := close.seconds * 1000
  openTsUtcMs := (close.seconds - 600) * 1000
  payloadSha256 := sampleHex 6
  redisId := toString (close.seconds * 1000) ++ "-0"
  semanticIdSha256 := sampleHex 7

def plainMarket : MarketCodec where
  sha256 := plainHash
  dayToString := fun date => toString date.day
  brokerCommandToVec := fun _ => []

def approvesBar (source : Stage8bP1eAcceptedScheduleSource splitCodec) (predecessor candidate : Stage8bP1eM10IdentityV1)
    (observedAt : DateTimeUtc) : Bool :=
  match source.openProjection predecessor candidate with
  | .error _ => false
  | .ok projection => (classifyStage8bP1d1ExecutionBar plainMarket projection.toStage5eScheduleWindowEvidence instrumentId
      predecessor.closeTs candidate.closeTs observedAt).isOk

/-- The verified source of an envelope is on the open route, the pair passes its check and is observed in time. -/
def AskedInTime (envelope : Stage8bP1eScheduleEnvelopeV3) (source : Stage8bP1eAcceptedScheduleSource splitCodec)
    (predecessor candidate : Stage8bP1eM10IdentityV1) (observedAt : DateTimeUtc) : Prop :=
  source.envelope.payload.normalizedSchedule.sessions = envelope.payload.normalizedSchedule.sessions ∧
    source.steps.requireOpenRoute = .ok () ∧
    validateM10Pair splitCalendar predecessor candidate source.envelope.payload.tradingDay = .ok () ∧
    parseExactTimestamp splitCalendar source.envelope.payload.normalizedSchedule.sourceObservedAtUtc =
      .ok { seconds := 1788177600, nanos := 0 } ∧
    ¬ (latest { seconds := 1788177600, nanos := 0 } source.stage4ObservedAt).After observedAt ∧
    ¬ observedAt.After source.validUntil ∧ ¬ (wholeSecond candidate.closeTs).After observedAt

instance (envelope : Stage8bP1eScheduleEnvelopeV3) (source : Stage8bP1eAcceptedScheduleSource splitCodec)
    (predecessor candidate : Stage8bP1eM10IdentityV1) (observedAt : DateTimeUtc) :
    Decidable (AskedInTime envelope source predecessor candidate observedAt) :=
  inferInstanceAs (Decidable (_ ∧ _))

theorem AskedInTime.inTime {envelope : Stage8bP1eScheduleEnvelopeV3} {source : Stage8bP1eAcceptedScheduleSource splitCodec}
    {predecessor candidate : Stage8bP1eM10IdentityV1} {observedAt : DateTimeUtc}
    (asked : AskedInTime envelope source predecessor candidate observedAt) : ObservedInTime source candidate observedAt := by
  obtain ⟨_, _, _, read, observed, valid, closed⟩ := asked
  refine ⟨fun seen isSeen => ?_, valid, closed⟩
  cases Except.ok.inj (isSeen.symm.trans read)
  exact observed

theorem approvesBar_iff {source : Stage8bP1eAcceptedScheduleSource splitCodec}
    {predecessor candidate : Stage8bP1eM10IdentityV1} {observedAt : DateTimeUtc} :
    approvesBar source predecessor candidate observedAt = true ↔
      Approves plainMarket source predecessor candidate observedAt := by
  unfold approvesBar Approves
  constructor
  · intro approves
    split at approves
    next => cases approves
    next projection made =>
      obtain ⟨approved, classified⟩ := exists_ok_of_isOk approves
      exact ⟨projection, approved, made, classified⟩
  · rintro ⟨projection, approved, made, classified⟩
    rw [made]
    dsimp only
    rw [classified]
    rfl

/-- The bars that close at 11:40 and 11:50, asked for a second after noon. -/
theorem asked_after_noon : ∀ bound ∈ [(dayEnvelope, true), (envelopeWith splitSessions, false)], ∃ source,
    verifyStage8bP1eScheduleEnvelopeV3 splitCodec (plainEnvelope bound.1) noonContext = .ok source ∧
      AskedInTime bound.1 source (barClosing (daySecond 11 40 0)) (barClosing (daySecond 11 50 0)) (daySecond 12 0 1) ∧
      approvesBar source (barClosing (daySecond 11 40 0)) (barClosing (daySecond 11 50 0)) (daySecond 12 0 1) = bound.2 := by
  have computed : ∀ bound ∈ [(dayEnvelope, true), (envelopeWith splitSessions, false)],
      (verifyStage8bP1eScheduleEnvelopeV3 splitCodec (plainEnvelope bound.1) noonContext).toOption.any (fun source =>
        AskedInTime bound.1 source (barClosing (daySecond 11 40 0)) (barClosing (daySecond 11 50 0)) (daySecond 12 0 1) ∧
        approvesBar source (barClosing (daySecond 11 40 0)) (barClosing (daySecond 11 50 0)) (daySecond 12 0 1) = bound.2) =
      true := by
    decide +kernel
  intro bound member
  obtain ⟨source, verified, asked⟩ := (Option.any_eq_true ..).1 (computed bound member)
  exact ⟨source, toOption_eq_some_iff.1 verified, of_decide_eq_true asked⟩

/-- Both closes lie in the first session, which ends 0.2 seconds behind the second one; the next session starts 0.5
seconds behind it, and in whole seconds the close lies in both. -/
theorem split_second_refuses_next_bar : ∃ source,
    verifyStage8bP1eScheduleEnvelopeV3 splitCodec (plainEnvelope (envelopeWith splitSessions)) noonContext = .ok source ∧
      AskedInTime (envelopeWith splitSessions) source (barClosing (daySecond 11 40 0)) (barClosing (daySecond 11 50 0))
        (daySecond 12 0 1) ∧
      IsNextTradable source (barClosing (daySecond 11 40 0)) (barClosing (daySecond 11 50 0)) ∧
      ¬ Approves plainMarket source (barClosing (daySecond 11 40 0)) (barClosing (daySecond 11 50 0))
        (daySecond 12 0 1) := by
  obtain ⟨source, verified, asked, refused⟩ := asked_after_noon (envelopeWith splitSessions, false) (by simp)
  refine ⟨source, verified, asked, ?_, ?_⟩
  · have sessions : source.envelope.payload.normalizedSchedule.sessions = splitSessions := asked.1
    have read : source.envelope.payload.normalizedSchedule.sessions.mapM (timedSession splitCalendar) =
        .ok [firstSession, secondSession] := by
      rw [sessions]
      rfl
    have first : firstSession.CoversExactly (daySecond 11 40 0).seconds := ⟨by decide, by decide⟩
    have second : firstSession.CoversExactly ((daySecond 11 40 0).seconds + 600) := ⟨by decide, by decide⟩
    exact ⟨_, read, nextByInstants_of_consecutive List.mem_cons_self rfl first second (by decide)⟩
  · intro approves
    rw [← approvesBar_iff, refused] at approves
    cases approves

/-- On the plain day, with one session, the two consecutive bars are approved. -/
theorem next_tradable_bar_plain : ∃ source,
    verifyStage8bP1eScheduleEnvelopeV3 splitCodec (plainEnvelope dayEnvelope) noonContext = .ok source ∧
      IsNextTradable source (barClosing (daySecond 11 40 0)) (barClosing (daySecond 11 50 0)) := by
  obtain ⟨source, verified, asked, approves⟩ := asked_after_noon (dayEnvelope, true) (by simp)
  have facts := @next_tradable_bar _ plainMarket splitCalendar_days _ _ _ verified _ _ asked.2.2.1 _ asked.inTime
  have onSeconds : SessionsOnSeconds source (barClosing (daySecond 11 40 0)) (barClosing (daySecond 11 50 0)) := by
    have sessions : source.envelope.payload.normalizedSchedule.sessions = daySessions := asked.1
    have read : source.envelope.payload.normalizedSchedule.sessions.mapM (timedSession splitCalendar) =
        .ok [{ sessionType := .tradableOpen, start := daySecond 7 0 0, finish := daySecond 15 0 0 }] := by
      rw [sessions]
      rfl
    intro timed isTimed closeTs _ _ _ session member
    have same := Except.ok.inj (isTimed.symm.trans read)
    rw [same, List.mem_singleton] at member
    rw [member]
    exact fun behind => behind.2 rfl
  exact ⟨source, verified, (facts.1 onSeconds).1 (approvesBar_iff.1 approves)⟩

end Samples

end TradingGateway.Stage8b.TradableBars
