import Std.Data.String.ToInt
import TradingGateway.Stage6d.PlainLiveCoreCodec
import TradingGateway.Stage8b.MarketProvider
import TradingGateway.Stage8b.ScheduleBindings
import TradingGateway.Stage8b.WorkingLimitRuns

/-! Runs of evaluations of a working LIMIT order, each on the bar of a schedule binding:
when no tradable bar is stepped over. -/

set_option autoImplicit false

namespace TradingGateway.Stage8b.LimitEvaluations

open BrokerCore.Orders Stage6.JournalRecord Stage6.VersionedRecord
open Stage5e.ScheduleGrid Stage5e.ScheduleSource Stage5e.TradableCloses
open ScheduleBindings WorkingLimitBook WorkingLimitBuilders WorkingLimitEvidence WorkingLimitInputs
open WorkingLimitRuns
open WorkingLimitBook.Stage8bP1d3WorkingBookProjectionV1
open Foundation.ExceptRun Foundation.Runs

variable {codec : BindingCodec}

def tradingSessions (source : Stage8bP1eAcceptedScheduleSourceV1 codec.calendar) : List NormalizedScheduleSession :=
  match source.normalizedSessions with
  | .ok sessions => sessions
  | .error _ => []

theorem tradingSessions_ordered (source : Stage8bP1eAcceptedScheduleSourceV1 codec.calendar) :
    Ordered (tradingSessions source) := by
  obtain ⟨sessions, read, ordered⟩ := source.exists_sessions
  unfold tradingSessions
  rw [read]
  exact ordered

inductive LimitRoute (source : Stage8bP1eAcceptedScheduleSourceV1 codec.calendar)
    (predecessor candidate : Stage8bP1eM10IdentityV1) (prepared : Stage8bP1eScheduleBindingCandidateV1) : Prop where
  | initial {requestId redisStreamId : String} {commandSha256 : HexText} {publicationSeal : UInt64 × HexText}
      (made : source.prepareInitialLimitBinding predecessor candidate requestId commandSha256 publicationSeal
        redisStreamId = .ok prepared)
  | working {orderId redisStreamId : String} {transitionSha256 : HexText}
      (made : source.prepareWorkingLimitBinding predecessor candidate orderId transitionSha256 redisStreamId =
        .ok prepared)
  | cancel {requestId orderId redisStreamId : String} {commandSha256 transitionSha256 : HexText}
      {publicationSeal : UInt64 × HexText}
      (made : source.prepareCancelBinding predecessor candidate requestId commandSha256 publicationSeal orderId
        transitionSha256 redisStreamId = .ok prepared)

/-- The candidate is the bar to evaluate next. An initial binding is for the bar right behind its
predecessor in any case. -/
def NextToEvaluate (transitionKind : Stage8bP1eScheduleTransitionKindV1) (sessions : List NormalizedScheduleSession)
    (predecessorCloseTs candidateCloseTs : Int) : Prop :=
  match transitionKind with
  | .initialLimitEvaluation => Tradable sessions candidateCloseTs
  | _ => nextTradableClose sessions predecessorCloseTs = some candidateCloseTs

section Bindings

variable {source : Stage8bP1eAcceptedScheduleSourceV1 codec.calendar}
  {predecessor candidate : Stage8bP1eM10IdentityV1} {prepared : Stage8bP1eScheduleBindingCandidateV1}

theorem prepared_working {orderId redisStreamId : String} {transitionSha256 : HexText}
    (made : source.prepareWorkingLimitBinding predecessor candidate orderId transitionSha256 redisStreamId =
      .ok prepared) : Prepared source .workingLimitEvaluation predecessor candidate prepared := by
  unfold Stage8bP1eAcceptedScheduleSourceV1.prepareWorkingLimitBinding at made
  obtain ⟨_, made⟩ := check_bind_ok_iff.1 made
  obtain ⟨checked, made⟩ := check_bind_ok_iff.1 made
  obtain ⟨_, _, made⟩ := bind_ok_iff.1 made
  exact prepared_of_binding (m10Pair_of_validate checked) made

theorem LimitRoute.prepares (route : LimitRoute source predecessor candidate prepared) :
    Prepared source prepared.transitionKind predecessor candidate prepared := by
  cases route with
  | initial made =>
      unfold Stage8bP1eAcceptedScheduleSourceV1.prepareInitialLimitBinding at made
      obtain ⟨_, made⟩ := check_bind_ok_iff.1 made
      obtain ⟨checked, made⟩ := check_bind_ok_iff.1 made
      obtain ⟨_, _, made⟩ := bind_ok_iff.1 made
      have prepares := prepared_of_binding (m10Pair_of_validate checked) made
      rw [prepares.transitionKind]
      exact prepares
  | working made =>
      have prepares := prepared_working made
      rw [prepares.transitionKind]
      exact prepares
  | cancel made =>
      unfold Stage8bP1eAcceptedScheduleSourceV1.prepareCancelBinding at made
      obtain ⟨checked, made⟩ := check_bind_ok_iff.1 made
      obtain ⟨_, _, made⟩ := bind_ok_iff.1 made
      have prepares := prepared_of_binding (m10Pair_of_validate checked) made
      rw [prepares.transitionKind]
      exact prepares

/-- The check of the runtime that stands before an append. -/
theorem matches_of_record {runtime : ScheduleRuntime codec} {generation : UInt64} {boundAt : DateTimeUtc}
    {record : Stage6JournalRecordV4 codec.toReconciliationCodec}
    (appended : scheduleBindingRecord codec runtime prepared generation boundAt = .ok record) :
    candidateMatchesRuntime codec runtime prepared runtime.authenticatedCheckpoint.checkpointSha256 = .ok true := by
  unfold scheduleBindingRecord at appended
  obtain ⟨_, appended⟩ := check_bind_ok_iff.1 appended
  obtain ⟨isMatch, found, appended⟩ := bind_ok_iff.1 appended
  obtain ⟨matching, _⟩ := check_bind_ok_iff.1 appended
  rw [found]
  congr 1
  simpa using matching

/-- An initial binding is for the bar right behind its predecessor. -/
theorem initial_contiguous {runtime : ScheduleRuntime codec} {checkpoint : HexText}
    (found : initialLimitCandidateMatchesRuntime codec runtime prepared checkpoint = true) :
    prepared.candidateOrLastEligibleM10.openTsUtcMs = prepared.predecessorM10.closeTsUtcMs := by
  unfold initialLimitCandidateMatchesRuntime at found
  split at found
  · split at found
    · simp only [Bool.and_eq_true, decide_eq_true_eq] at found
      exact found.1.1.2
    · cases found
  · cases found

/-- An appended binding steps over nothing exactly when its candidate is the next bar to evaluate. -/
theorem binding_stepsOverNothing_iff {runtime : ScheduleRuntime codec} {generation : UInt64} {boundAt : DateTimeUtc}
    {record : Stage6JournalRecordV4 codec.toReconciliationCodec}
    (route : LimitRoute source predecessor candidate prepared)
    (appended : scheduleBindingRecord codec runtime prepared generation boundAt = .ok record) :
    StepsOverNothing (tradingSessions source) predecessor.closeTs candidate.closeTs ↔
      NextToEvaluate prepared.transitionKind (tradingSessions source) predecessor.closeTs candidate.closeTs := by
  have prepares := route.prepares
  obtain ⟨predecessorAligned, candidateAligned, later⟩ := prepares.pair.seconds
  have byGrid := stepsOverNothing_iff (tradingSessions_ordered source) later candidateAligned
  unfold NextToEvaluate
  split
  case h_1 isInitial =>
    have found := matches_of_record appended
    unfold candidateMatchesRuntime at found
    rw [isInitial] at found
    have contiguous := initial_contiguous (Except.ok.inj found)
    rw [prepares.predecessorM10, prepares.candidateM10] at contiguous
    refine stepsOverNothing_contiguous predecessorAligned ?_
    have span := prepares.pair.candidateSpan
    unfold Stage8bP1eM10IdentityV1.closeTs m10Seconds
    omega
  case h_2 => exact byGrid

/-- The walk of the Market route over the sessions of the source approves the candidate exactly where it steps
over nothing and each close on the way is charted. -/
theorem LimitRoute.walk_iff (route : LimitRoute source predecessor candidate prepared) {schedule : ScheduleCodec}
    {window : Stage5eScheduleWindowEvidence} (sameSessions : window.normalizedSessions = tradingSessions source) :
    (∃ classification, classifyExpectedCloseGrid schedule window predecessor.closeTs candidate.closeTs 600 =
      .ok classification) ↔ Charted window predecessor.closeTs candidate.closeTs ∧
        StepsOverNothing (tradingSessions source) predecessor.closeTs candidate.closeTs := by
  obtain ⟨predecessorAligned, candidateAligned, later⟩ := route.prepares.pair.seconds
  rw [classifyExpectedCloseGrid_iff_stepsOverNothing predecessorAligned candidateAligned later, sameSessions]

end Bindings

section Authority

variable (codec)

/-- `exact_m10_redis_id_ms`. -/
def exactM10RedisIdMs (value : String) : Except Stage8bP1d3Error Int :=
  match value.toList.span (· != '-') with
  | (milliseconds, ['-', '0']) => do
      let timestampMs ← orReject (MarketProvider.parseI64 milliseconds) .identityMismatch
      rejectIf (timestampMs ≤ 0 ∨ timestampMs % 600000 ≠ 0 ∨ toString timestampMs ++ "-0" ≠ value ∨
        (exactTimestamp codec.toWorkingLimitCodec timestampMs).isOk = false) .identityMismatch
      .ok timestampMs
  | _ => .error .identityMismatch

/-- `issue_schedule_step_authority`, for the binding of a working order. -/
def issueScheduleStepAuthority (prepared : Stage8bP1eScheduleBindingCandidateV1) :
    Except Stage8bP1d3Error Stage8bP1d3ScheduleStepAuthority := do
  rejectIf (prepared.transitionKind ≠ .workingLimitEvaluation ∨ prepared.route.initialOnly = true ∨
    prepared.route.cancelOnly = true) .identityMismatch
  let predecessorMs ← exactM10RedisIdMs codec prepared.predecessorM10.redisId
  let candidateMs ← exactM10RedisIdMs codec prepared.candidateOrLastEligibleM10.redisId
  let lastEligibleMs ← exactM10RedisIdMs codec prepared.route.lastEligibleM10RedisId
  let day ← tradingDay codec.toWorkingLimitCodec candidateMs
  rejectIf (isCanonicalSha256 prepared.scheduleSemanticSha256 = false ∨ candidateMs ≤ predecessorMs ∨
    lastEligibleMs < candidateMs ∨ day ≠ prepared.tradingDay) .identityMismatch
  .ok {
    scheduleFingerprintSha256 := prepared.scheduleSemanticSha256
    tradingDayIdentity := prepared.tradingDay
    lastEligibleM10RedisId := prepared.route.lastEligibleM10RedisId
    predecessorRedisId := prepared.predecessorM10.redisId
    candidateRedisId := prepared.candidateOrLastEligibleM10.redisId
    route := .working }

end Authority

/-- An evaluation of the working order: the binding that is asked for, the runtime it is held
against but for the book, and the bar. -/
structure LimitEvaluation (codec : BindingCodec) where
  source : Stage8bP1eAcceptedScheduleSourceV1 codec.calendar
  predecessor : Stage8bP1eM10IdentityV1
  candidate : Stage8bP1eM10IdentityV1
  activeBrokerOrderId : String
  workingBookTransitionSha256 : HexText
  redisStreamId : String
  runtime : ScheduleRuntime codec
  priorCoveringSealGeneration : UInt64
  boundAtUtc : DateTimeUtc
  input : Stage8bP1d3AutonomousInput
  bar : Stage8bP1d3CanonicalM10Evidence

def ScheduleRuntime.withBook (runtime : ScheduleRuntime codec) (book : Stage8bP1d3WorkingBookProjectionV1) :
    ScheduleRuntime codec :=
  { runtime with
    replacement := runtime.replacement.map fun replacement => { replacement with workingBook := book } }

def LimitEvaluation.run (evaluation : LimitEvaluation codec) (book : Stage8bP1d3WorkingBookProjectionV1) :
    Option Stage8bP1d3LaterEvaluationPlan := do
  let prepared ← (evaluation.source.prepareWorkingLimitBinding evaluation.predecessor evaluation.candidate
    evaluation.activeBrokerOrderId evaluation.workingBookTransitionSha256 evaluation.redisStreamId).toOption
  let _ ← (scheduleBindingRecord codec (ScheduleRuntime.withBook evaluation.runtime book) prepared
    evaluation.priorCoveringSealGeneration evaluation.boundAtUtc).toOption
  let step ← (issueScheduleStepAuthority codec prepared).toOption
  (buildLaterLimitTransition codec.toWorkingLimitCodec book evaluation.input (some evaluation.bar) (some step)
    none).toOption

/-- A bar a working order was evaluated on, with the sessions of the schedule it was bound under. -/
structure Evaluated where
  sessions : List NormalizedScheduleSession
  bar : Stage8bP1d3CanonicalM10Evidence

def Evaluated.closeTs (evaluated : Evaluated) : Int :=
  evaluated.bar.closeTsUtcMs / 1000

structure LimitWatch where
  book : Stage8bP1d3WorkingBookProjectionV1
  evaluated : List Evaluated

/-- An evaluation that is refused, or was made before, leaves all as it is. -/
def LimitWatch.advance (watch : LimitWatch) (evaluation : LimitEvaluation codec) : LimitWatch :=
  match evaluation.run watch.book with
  | none | some (.alreadyEvaluated _) => watch
  | some plan =>
      { book := (StepResult.ofLater plan).postBook
        evaluated := watch.evaluated ++ [{ sessions := tradingSessions evaluation.source, bar := evaluation.bar }] }

section Step

variable {book : Stage8bP1d3WorkingBookProjectionV1} {evaluation : LimitEvaluation codec}
  {plan : Stage8bP1d3LaterEvaluationPlan}

def Untouched (codec : BindingCodec) (record : Stage8bP1d3OrderRecordV1) (bar : Stage8bP1d3CanonicalM10Evidence) : Prop :=
  ∃ limit fill, record.limitPrice codec.toWorkingLimitCodec = .ok limit ∧
    decideLimit record.side limit bar = .ok (.working, fill)

theorem close_of_redisId {first second : Int} (same : toString first ++ "-0" = toString second ++ "-0") :
    first = second := by
  have digits : toString first = toString second := by simpa using same
  exact Int.repr_injective digits

/-- What an accepted evaluation has done: the bar is the candidate of its binding, the predecessor was the
bar before it, and an order that works on was left alone by it. -/
structure Accepted (evaluation : LimitEvaluation codec) (book after : Stage8bP1d3WorkingBookProjectionV1)
    (record : Stage8bP1d3OrderRecordV1) : Prop where
  pair : M10Pair evaluation.predecessor evaluation.candidate
  bar : evaluation.bar.closeTsUtcMs = evaluation.candidate.closeTsUtcMs
  active : book.activeRecord = some record
  last : record.lastEvaluatedCloseTsUtcMs = some evaluation.predecessor.closeTsUtcMs
  worksOn : ∀ next, after.activeRecord = some next →
    next.lastEvaluatedCloseTsUtcMs = some evaluation.bar.closeTsUtcMs ∧ next.side = record.side ∧
      next.limitPriceDecimalBytes = record.limitPriceDecimalBytes ∧ Untouched codec record evaluation.bar

theorem workingMatch_active {runtime : ScheduleRuntime codec} {prepared : Stage8bP1eScheduleBindingCandidateV1}
    {checkpoint : HexText} (isWorking : prepared.transitionKind = .workingLimitEvaluation)
    (found : candidateMatchesRuntime codec (ScheduleRuntime.withBook runtime book) prepared checkpoint = .ok true) :
    ∃ record, book.activeRecord = some record ∧
      record.lastEvaluatedCloseTsUtcMs = some prepared.predecessorM10.closeTsUtcMs := by
  unfold candidateMatchesRuntime at found
  rw [isWorking] at found
  dsimp only at found
  unfold replacementMatches ScheduleRuntime.withBook at found
  cases held : runtime.replacement with
  | none =>
      rw [held] at found
      cases found
  | some replacement =>
      rw [held] at found
      dsimp only [Option.map_some] at found
      split at found
      · cases found
      · rw [mapError_ok_iff] at found
        unfold matchesScheduleCandidate at found
        obtain ⟨_, found⟩ := check_bind_ok_iff.1 found
        dsimp only at found
        split at found
        · cases found
        · cases active : book.activeRecord with
          | none =>
              rw [active] at found
              cases found
          | some record =>
              rw [active, isWorking] at found
              dsimp only at found
              split at found
              · cases found
              · have last := Except.ok.inj found
                simp only [decide_eq_true_eq] at last
                exact ⟨record, rfl, last.2.2.2.1⟩

/-- What evaluating a candidate has checked of its bar, whatever it decided. -/
theorem evaluateCandidate_spec {input : Stage8bP1d3AutonomousInput} {record : Stage8bP1d3OrderRecordV1}
    {bar : Stage8bP1d3CanonicalM10Evidence} {step : Stage8bP1d3ScheduleStepAuthority}
    (built : evaluateCandidate codec.toWorkingLimitCodec book input record bar step = .ok plan) :
    step.candidateRedisId = bar.redisId ∧
      ((∃ plan', plan = .outcome plan' ∧ ∃ cause, buildAutonomousOutcome codec.toWorkingLimitCodec book input record
          cause = .ok plan') ∨
        (Untouched codec record bar ∧ buildUntouchedEvaluation codec.toWorkingLimitCodec book record bar step
          input.sequenceAllocationFrontier input.previousOutcomeEvidenceSha256 = .ok plan)) := by
  unfold evaluateCandidate at built
  obtain ⟨predecessor, _, built⟩ := bind_ok_iff.1 built
  obtain ⟨stepped, built⟩ := check_bind_ok_iff.1 built
  obtain ⟨limit, price, built⟩ := bind_ok_iff.1 built
  obtain ⟨⟨decision, fill⟩, decided, built⟩ := bind_ok_iff.1 built
  constructor
  · unfold validateWorkingStep validateStepOn at stepped
    obtain ⟨_, stepped⟩ := check_bind_ok_iff.1 stepped
    unfold validateStepIdentity at stepped
    obtain ⟨identity, _⟩ := check_bind_ok_iff.1 stepped
    simp only [rejectIf_ok_iff, not_or, not_not] at identity
    exact identity.2.2.1
  · cases decision with
    | working => exact .inr ⟨⟨limit, fill, price, decided⟩, built⟩
    | filled =>
        obtain ⟨outcome, made, rfl⟩ := (map_ok_iff ..).1 built
        exact .inl ⟨outcome, rfl, _, made⟩

theorem run_spec (ran : evaluation.run book = some plan) (isNew : ∀ replayed, plan ≠ .alreadyEvaluated replayed) :
    ∃ record, Accepted evaluation book (StepResult.ofLater plan).postBook record := by
  unfold LimitEvaluation.run at ran
  simp only [Option.bind_eq_bind, Option.bind_eq_some_iff, toOption_eq_some_iff] at ran
  obtain ⟨prepared, made, binding, appended, step, issued, built⟩ := ran
  have prepares := prepared_working made
  obtain ⟨record, active, last⟩ := workingMatch_active prepares.transitionKind (matches_of_record appended)
  rw [prepares.predecessorM10] at last
  have candidateId : step.candidateRedisId = evaluation.candidate.redisId := by
    unfold issueScheduleStepAuthority at issued
    obtain ⟨_, issued⟩ := check_bind_ok_iff.1 issued
    obtain ⟨_, _, issued⟩ := bind_ok_iff.1 issued
    obtain ⟨_, _, issued⟩ := bind_ok_iff.1 issued
    obtain ⟨_, _, issued⟩ := bind_ok_iff.1 issued
    obtain ⟨_, _, issued⟩ := bind_ok_iff.1 issued
    obtain ⟨_, issued⟩ := check_bind_ok_iff.1 issued
    cases issued
    rw [prepares.candidateM10]
  unfold buildLaterLimitTransition at built
  obtain ⟨valid, built⟩ := check_bind_ok_iff.1 built
  obtain ⟨_, built⟩ := check_bind_ok_iff.1 built
  obtain ⟨found, isFound, built⟩ := bind_ok_iff.1 built
  rw [orReject_ok_iff, active] at isFound
  cases isFound
  dsimp only at built
  obtain ⟨barScoped, built⟩ := check_bind_ok_iff.1 built
  split at built
  · unfold alreadyEvaluated at built
    obtain ⟨_, built⟩ := check_bind_ok_iff.1 built
    cases built
    exact absurd rfl (isNew _)
  · have facts := registry_of_validate valid
    obtain ⟨member, isActive⟩ := facts.activeRecord active
    obtain ⟨sameId, decided⟩ := evaluateCandidate_spec built
    rw [candidateId, prepares.pair.candidateRedisId, validateScopedBar_redisId barScoped] at sameId
    refine ⟨record, {
      pair := prepares.pair
      bar := (close_of_redisId sameId).symm
      active := active
      last := last
      worksOn := ?_ }⟩
    intro next worksOn
    rcases decided with ⟨outcome, rfl, cause, ended⟩ | ⟨untouched, evaluated⟩
    · exact absurd worksOn (outcome_inactive facts member isActive ended)
    · obtain ⟨ordinal, inserted, evidence, bytes, post, rfl, insertion, advanced⟩ := buildUntouchedEvaluation_ok evaluated
      have written : Written codec.toWorkingLimitCodec book _ _ post := written_of_advance insertion advanced
      obtain ⟨rfl, _⟩ := written.active_eq facts member isActive rfl worksOn
      exact ⟨rfl, rfl, rfl, untouched⟩

end Step

section Watch

structure Follows (before after : Evaluated) : Prop where
  later : before.closeTs < after.closeTs
  nothing : StepsOverNothing after.sessions before.closeTs after.closeTs

/-- The order works on the last bar of an unbroken row of bars, and those behind the first left it alone. -/
structure Unbroken (codec : BindingCodec) (watch : LimitWatch) : Prop where
  row : watch.evaluated.IsChain Follows
  last : ∀ record, watch.book.activeRecord = some record →
    ∃ last, watch.evaluated.getLast? = some last ∧ record.lastEvaluatedCloseTsUtcMs = some last.bar.closeTsUtcMs
  untouched : ∀ record, watch.book.activeRecord = some record →
    ∀ evaluated ∈ watch.evaluated.tail, Untouched codec record evaluated.bar

def EvaluatesNext (watch : LimitWatch) (evaluation : LimitEvaluation codec) : Prop :=
  evaluation.run watch.book ≠ none →
    nextTradableClose (tradingSessions evaluation.source) evaluation.predecessor.closeTs =
      some evaluation.candidate.closeTs

instance (watch : LimitWatch) (evaluation : LimitEvaluation codec) : Decidable (EvaluatesNext watch evaluation) :=
  inferInstanceAs (Decidable (_ → _))

/-- Every bar behind the first one and up to the last that trades by the schedule of the evaluation
that reached it was evaluated, and left an order that works on alone. -/
structure MissesNothing (codec : BindingCodec) (watch : LimitWatch) : Prop where
  evaluated : ∀ first last, watch.evaluated.head? = some first → watch.evaluated.getLast? = some last →
    ∀ closeTs, first.closeTs < closeTs → closeTs ≤ last.closeTs → closeTs % m10Seconds = 0 →
      ∃ before reached, [before, reached] <:+: watch.evaluated ∧ before.closeTs < closeTs ∧ closeTs ≤ reached.closeTs ∧
        (Tradable reached.sessions closeTs → reached.closeTs = closeTs)
  untouched : ∀ record, watch.book.activeRecord = some record →
    ∀ evaluated ∈ watch.evaluated.tail, Untouched codec record evaluated.bar

variable {watch : LimitWatch} {evaluation : LimitEvaluation codec}

theorem Untouched.congr {record next : Stage8bP1d3OrderRecordV1} {bar : Stage8bP1d3CanonicalM10Evidence}
    (untouched : Untouched codec record bar) (side : next.side = record.side)
    (price : next.limitPriceDecimalBytes = record.limitPriceDecimalBytes) : Untouched codec next bar := by
  obtain ⟨limit, fill, priced, decided⟩ := untouched
  refine ⟨limit, fill, ?_, ?_⟩
  · unfold Stage8bP1d3OrderRecordV1.limitPrice at *
    rw [price]
    exact priced
  · rw [side]
    exact decided

theorem mem_tail_concat {Value : Type} {values : List Value} {last value : Value} (nonempty : values ≠ [])
    (member : value ∈ (values ++ [last]).tail) : value ∈ values.tail ∨ value = last := by
  cases values with
  | nil => exact absurd rfl nonempty
  | cons head tail => simpa using member

/-- One accepted evaluation of the next bar keeps the row unbroken. -/
theorem Unbroken.next (unbroken : Unbroken codec watch) (next : EvaluatesNext watch evaluation) :
    Unbroken codec (watch.advance evaluation) := by
  unfold LimitWatch.advance
  cases ran : evaluation.run watch.book with
  | none => exact unbroken
  | some plan =>
      have kept : ∀ plan', plan' = plan → (∀ replayed, plan ≠ .alreadyEvaluated replayed) →
          Unbroken codec {
            book := (StepResult.ofLater plan').postBook
            evaluated := watch.evaluated ++
              [{ sessions := tradingSessions evaluation.source, bar := evaluation.bar }] } := by
        rintro _ rfl isNew
        obtain ⟨record, accepted⟩ := run_spec ran isNew
        obtain ⟨last, isLast, lastClose⟩ := unbroken.last record accepted.active
        rw [accepted.last, Option.some.injEq] at lastClose
        have isNext := next (by simp [ran])
        obtain ⟨_, aligned, later⟩ := accepted.pair.seconds
        have fromLast : last.closeTs = evaluation.predecessor.closeTs := by
          unfold Evaluated.closeTs Stage8bP1eM10IdentityV1.closeTs
          rw [lastClose]
        have toBar : evaluation.bar.closeTsUtcMs / 1000 = evaluation.candidate.closeTs := by
          unfold Stage8bP1eM10IdentityV1.closeTs
          rw [accepted.bar]
        constructor
        · rw [List.isChain_append]
          refine ⟨unbroken.row, List.isChain_singleton _, ?_⟩
          intro before isBefore after isAfter
          cases isLast.symm.trans isBefore
          cases isAfter
          refine ⟨?_, ?_⟩
          · unfold Evaluated.closeTs at fromLast ⊢
            rw [fromLast, toBar]
            exact later
          · unfold Evaluated.closeTs at fromLast ⊢
            dsimp only
            rw [fromLast, toBar]
            exact (stepsOverNothing_iff (tradingSessions_ordered evaluation.source) later aligned).2 isNext
        · intro working active
          exact ⟨_, List.getLast?_concat, (accepted.worksOn working active).1⟩
        · intro working active evaluated member
          obtain ⟨_, side, price, untouched⟩ := accepted.worksOn working active
          have nonempty : watch.evaluated ≠ [] := by
            intro empty
            rw [empty] at isLast
            cases isLast
          rcases mem_tail_concat nonempty member with before | rfl
          · exact (unbroken.untouched record accepted.active evaluated before).congr side price
          · exact untouched.congr side price
      cases plan with
      | alreadyEvaluated => exact unbroken
      | untouched => exact kept _ rfl (by simp)
      | outcome => exact kept _ rfl (by simp)

/-- In a row of bars each time lies behind one bar and not behind the next. -/
theorem exists_reached {evaluated : List Evaluated} (row : evaluated.IsChain Follows) {first last : Evaluated}
    (isFirst : evaluated.head? = some first) (isLast : evaluated.getLast? = some last) {closeTs : Int}
    (behind : first.closeTs < closeTs) (upTo : closeTs ≤ last.closeTs) :
    ∃ before reached, [before, reached] <:+: evaluated ∧ Follows before reached ∧ before.closeTs < closeTs ∧
      closeTs ≤ reached.closeTs := by
  induction evaluated generalizing first with
  | nil => cases isFirst
  | cons head rest ih =>
      cases isFirst
      cases rest with
      | nil =>
          rw [List.getLast?_singleton, Option.some.injEq] at isLast
          rw [← isLast] at upTo
          omega
      | cons second rest =>
          rw [List.isChain_cons_cons] at row
          by_cases reaches : closeTs ≤ second.closeTs
          · exact ⟨head, second, ⟨[], rest, rfl⟩, row.1, behind, reaches⟩
          · rw [List.getLast?_cons_cons] at isLast
            obtain ⟨before, reached, consecutive, follows, isBehind, isReached⟩ := ih row.2 rfl isLast (not_le.1 reaches)
            exact ⟨before, reached, consecutive.trans (List.suffix_cons head _).isInfix, follows, isBehind, isReached⟩

theorem Unbroken.missesNothing (unbroken : Unbroken codec watch) : MissesNothing codec watch := by
  refine ⟨?_, unbroken.untouched⟩
  intro first last isFirst isLast closeTs behind upTo aligned
  obtain ⟨before, reached, consecutive, follows, isBehind, isReached⟩ :=
    exists_reached unbroken.row isFirst isLast behind upTo
  refine ⟨before, reached, consecutive, isBehind, isReached, fun tradable => ?_⟩
  rcases lt_or_eq_of_le isReached with between | same
  · exact absurd tradable (follows.nothing.between closeTs isBehind between aligned)
  · exact same.symm

theorem Unbroken.run {evaluations : List (LimitEvaluation codec)} (unbroken : Unbroken codec watch)
    (all : EveryStep LimitWatch.advance EvaluatesNext watch evaluations) :
    Unbroken codec (evaluations.foldl LimitWatch.advance watch) := by
  induction evaluations generalizing watch with
  | nil => exact unbroken
  | cons evaluation rest ih =>
      obtain ⟨first, others⟩ := all
      exact ih (unbroken.next first) others

end Watch

def Starts (watch : LimitWatch) (first : Evaluated) : Prop :=
  watch.evaluated = [first] ∧ ∀ record, watch.book.activeRecord = some record →
    record.lastEvaluatedCloseTsUtcMs = some first.bar.closeTsUtcMs

theorem Starts.unbroken {watch : LimitWatch} {first : Evaluated} (starts : Starts watch first) :
    Unbroken codec watch := by
  obtain ⟨evaluated, last⟩ := starts
  constructor
  · rw [evaluated]
    exact List.isChain_singleton first
  · intro record active
    rw [evaluated]
    exact ⟨first, rfl, last record active⟩
  · rw [evaluated]
    intro record _ other member
    cases member

section Sample

open BrokerCore.FixedPoint BrokerCore.HybridAttribution
open Stage6.MemoryJournal Stage6.PlainCodec Stage6.PlainReconciliationCodec
open PlainWorkingLimitCodec

def morningClose (index : Nat) : Int :=
  36000 + 600 * index

def morningInstants : List (String × Int) :=
  [("1970-01-01T10:00:00.000000Z", morningClose 0), ("1970-01-01T10:10:00.000000Z", morningClose 1),
    ("1970-01-01T10:20:00.000000Z", morningClose 2), ("1970-01-01T10:30:00.000000Z", morningClose 3),
    ("1970-01-01T12:00:00.000000Z", morningClose 12)]

/-- A calendar that knows these instants and their day. -/
def morningChrono : Chrono where
  parseFromRfc3339 := fun text =>
    (morningInstants.find? fun known => known.1 = text).map fun known => { seconds := known.2, nanos := 0 }
  toRfc3339Micros := fun time =>
    ((morningInstants.find? fun known => known.2 = time.seconds).map Prod.fst).getD ""
  parseDate := fun text => if text = "1970-01-01" then some { day := 0 } else none
  dateNaive := fun time => { day := time.seconds / 86400 }
  timestampMillis := fun time => time.seconds * 1000 + time.nanos.toNat / 1000000
  nanosecondsSince := fun later earlier =>
    (later.seconds - earlier.seconds) * 10 ^ 9 + (later.nanos.toNat - earlier.nanos.toNat)

/-- The plain codecs of the journal and of the working book, on the clock of the morning. -/
def morningCodec : BindingCodec where
  toCheckpointCodec := {
    Stage6.PlainScheduleCodec.scheduleCodec [] [] with
    chrono := morningChrono
    evidenceToVec := (plainWorkingLimitCodec []).evidenceToVec
    evidenceFromSlice := (plainWorkingLimitCodec []).evidenceFromSlice
    decimalDeserialize := decimalOfBytes
    decimalSerialize := decimalBytes }
  bookToVec := (plainWorkingLimitCodec []).bookToVec
  postBookStateToVec := (plainWorkingLimitCodec []).postBookStateToVec
  orderToVec := (plainWorkingLimitCodec []).orderToVec
  evaluationToVec := (plainWorkingLimitCodec []).evaluationToVec
  finalizationToVec := (plainWorkingLimitCodec []).finalizationToVec
  timestampMillisOpt := (plainWorkingLimitCodec []).timestampMillisOpt
  dateNaiveText := (plainWorkingLimitCodec []).dateNaiveText
  addNanosecond := (plainWorkingLimitCodec []).addNanosecond
  decimalDiv := (plainWorkingLimitCodec []).decimalDiv
  decimalRoundNearestEven := (plainWorkingLimitCodec []).decimalRoundNearestEven
  decimalRescale := (plainWorkingLimitCodec []).decimalRescale
  fromTimestampMillis := (plainWorkingLimitCodec []).timestampMillisOpt
  dayText := fun date => plainDate date.day
  brokerCommandToVec := Stage6d.PlainLiveCoreCodec.plainBrokerCommand

def morningId (index : Nat) : String :=
  toString (morningClose index * 1000) ++ "-0"

def morningBar (index : Nat) : Stage8bP1d3CanonicalM10Evidence :=
  { sampleBar index (Decimal.ofNat 101 priceAbove_fits) with
    redisId := morningId index
    openTsUtcMs := morningClose index * 1000 - 600000
    closeTsUtcMs := morningClose index * 1000 }

def morningM10 (index : Nat) : Stage8bP1eM10IdentityV1 where
  closeTsUtcMs := morningClose index * 1000
  openTsUtcMs := morningClose index * 1000 - 600000
  payloadSha256 := sampleHex (UInt8.ofNat index)
  redisId := morningId index
  semanticIdSha256 := sampleHex (UInt8.ofNat index)

/-- Trading without a break from ten to twelve. -/
def morningSource : Stage8bP1eAcceptedScheduleSourceV1 morningCodec.calendar where
  operationalIdentitySha256 := sampleHex 0
  tradingDay := "1970-01-01"
  sessions := [{
    startUtc := "1970-01-01T10:00:00.000000Z"
    endUtc := "1970-01-01T12:00:00.000000Z"
    sessionType := .tradableOpen }]
  evidenceKind := .tradability
  scheduleState := .open
  boundaryProof := none
  envelopeSha256 := (plainHash [0]).hex
  exactEnvelopeBytes := [0]
  publicationSequence := 1
  scheduleSemanticSha256 := sampleHex 0
  semanticRevision := 1
  sourceGeneration := 1
  validUntil := { seconds := morningClose 12, nanos := 0 }
  sessionsValid := by decide

/-- The sessions of the morning, as the walk over the grid reads them. -/
def morningWindow : Stage5eScheduleWindowEvidence where
  instrument := sampleInstrument
  tradingDay := { day := 0 }
  effectiveObservedAt := { seconds := 0, nanos := 0 }
  expiresAt := { seconds := morningClose 12, nanos := 0 }
  fingerprint := []
  normalizedSessions := [{ sessionType := .tradableOpen, start := morningClose 0, finish := morningClose 12 }]
  normalizedSessionsFingerprint := []
  normalizedSnapshotIdentityFingerprint := []

def morningSchedule : ScheduleCodec where
  sha256 := plainHash
  dayToString := fun date => plainDate date.day

/-- The order of the sample, decided on the bar that closes at ten. -/
def morningOrder (attribution : HybridRuntimeAttribution) : Stage8bP1d3InitialLimitInput :=
  { sampleLimitOrder 1 attribution 10 with
    decisionM10RedisId := morningId 0
    decisionM10OpenTsUtcMs := morningClose 0 * 1000 - 600000
    decisionM10CloseTsUtcMs := morningClose 0 * 1000 }

def morningStep (predecessor candidate : Nat) : Stage8bP1d3ScheduleStepAuthority :=
  { sampleStep predecessor candidate with
    tradingDayIdentity := "1970-01-01"
    lastEligibleM10RedisId := morningId 12
    predecessorRedisId := morningId predecessor
    candidateRedisId := morningId candidate }

/-- The accepted request of the sample journal, and its order, which works on behind its first bar. -/
structure MorningSample where
  accepted : BindingRecord morningCodec
  plan : Stage8bP1d3TransitionPlan

def morningSample : Option MorningSample := do
  let sample ← rejectedPlace
  let accepted ← (Stage6JournalRecordV1.ofWire sample.accepted.toStage6JournalRecordWireV1).toOption
  let attribution ← sampleAttribution "ENTRY"
  let genesis ← (migrateFromP1d2 morningCodec.toWorkingLimitCodec (sampleHex 0) (sampleHex 0) 1 { value := "A-1" }
    sampleInstrument attribution 10).toOption
  let plan ← (buildInitialLimitTransition morningCodec.toWorkingLimitCodec genesis (morningOrder attribution)
    (some (morningBar 1)) (some (morningStep 0 1)) none).toOption
  some { accepted := .v1 accepted, plan := plan }

section Watched

variable (sample : MorningSample)

def MorningSample.runtime : ScheduleRuntime morningCodec where
  versionedRecords := [sample.accepted]
  authenticatedCheckpoint := checkpointOf morningCodec.toCheckpointCodec [sample.accepted]
  operationalIdentitySha256 := some (sampleHex 0)
  semanticCommit := none
  replacement := some {
    schemaVersion := 1
    phase := .working
    workingBook := sample.plan.postBook
    latestOutcomeEvidence := some sample.plan.evidence
    latestOutcomeEvidenceSha256 := some sample.plan.evidenceSha256
    latestEvaluationEvidence := none
    latestEvaluationEvidenceSha256 := none
    outcomeChainHeadSha256 := sample.plan.evidenceSha256
    latestStage6ReservationSha256 := sample.plan.evidence.stage6ReservedCheckpointSha256
    authenticatedStage6CheckpointSha256 :=
      (checkpointOf morningCodec.toCheckpointCodec [sample.accepted]).checkpointSha256 }

/-- The order, evaluated on the given bar behind its first one. -/
def MorningSample.evaluation (candidate : Nat) : LimitEvaluation morningCodec where
  source := morningSource
  predecessor := morningM10 1
  candidate := morningM10 candidate
  activeBrokerOrderId := sample.plan.evidence.brokerOrderId.value
  workingBookTransitionSha256 := sample.plan.postBook.latestTransitionSha256
  redisStreamId := "1-1"
  runtime := sample.runtime
  priorCoveringSealGeneration := 1
  boundAtUtc := { seconds := morningClose 3, nanos := 0 }
  input := {
    operationalIdentitySha256 := sampleHex 0
    packageGeneration := 1
    accountId := { value := "A-1" }
    instrument := sampleInstrument
    attribution := sample.plan.postBook.attribution
    prePositionQty := Decimal.zero
    prePositionAvgPrice := none
    sequenceAllocationFrontier := sample.plan.postBook.totalSequenceFrontier
    stage6PredecessorFrontierSha256 := sampleHex 0
    stage6ReservedCheckpointSha256 := sampleHex 0
    previousOutcomeEvidenceSha256 := sample.plan.evidenceSha256 }
  bar := morningBar candidate

def MorningSample.watch : LimitWatch where
  book := sample.plan.postBook
  evaluated := [{ sessions := [], bar := morningBar 1 }]

def MorningSample.prepared (candidate : Nat) :
    Except Stage8bP1eScheduleSourceError Stage8bP1eScheduleBindingCandidateV1 :=
  morningSource.prepareWorkingLimitBinding (morningM10 1) (morningM10 candidate)
    sample.plan.evidence.brokerOrderId.value sample.plan.postBook.latestTransitionSha256 "1-1"

def MorningSample.appends (candidate : Nat) : Bool :=
  match sample.prepared candidate with
  | .ok prepared =>
      (scheduleBindingRecord morningCodec sample.runtime prepared 1 { seconds := morningClose 3, nanos := 0 }).isOk
  | .error _ => false

def MorningSample.evaluates (candidate : Nat) : Bool :=
  match (sample.evaluation candidate).run sample.watch.book with
  | none | some (.alreadyEvaluated _) => false
  | some _ => true

end Watched

/-- The second bar and the third one are bound and evaluated alike behind the first. -/
theorem morningSample_exists : ∃ sample, morningSample = some sample ∧
    Starts sample.watch { sessions := [], bar := morningBar 1 } ∧
    (sample.appends 2 = true ∧ EveryStep LimitWatch.advance EvaluatesNext sample.watch [sample.evaluation 2]) ∧
    sample.appends 3 = true ∧ sample.evaluates 3 = true := by
  have starts : morningSample.any (fun sample => sample.plan.postBook.activeRecord.all fun record =>
      record.lastEvaluatedCloseTsUtcMs = some (morningBar 1).closeTsUtcMs) = true := by
    decide +kernel
  have bound : morningSample.any (fun sample => sample.appends 2 && sample.appends 3) = true := by
    decide +kernel
  have evaluated : morningSample.any (fun sample =>
      decide (EveryStep LimitWatch.advance EvaluatesNext sample.watch [sample.evaluation 2]) &&
        sample.evaluates 3) = true := by
    decide +kernel
  obtain ⟨sample, isSample, last⟩ := (Option.any_eq_true _ _).1 starts
  rw [isSample, Option.any_some, Bool.and_eq_true] at bound evaluated
  refine ⟨sample, isSample, ⟨rfl, fun record active => ?_⟩, ⟨bound.1, of_decide_eq_true evaluated.1⟩, bound.2,
    evaluated.2⟩
  unfold MorningSample.watch at active
  rw [active] at last
  simpa using last

theorem MorningSample.exists_record {sample : MorningSample} {candidate : Nat}
    (appends : sample.appends candidate = true) :
    ∃ prepared record, sample.prepared candidate = .ok prepared ∧
      scheduleBindingRecord morningCodec sample.runtime prepared 1 { seconds := morningClose 3, nanos := 0 } =
        .ok record := by
  unfold MorningSample.appends at appends
  split at appends
  · rename_i prepared made
    obtain ⟨record, bound⟩ := exists_ok_of_isOk appends
    exact ⟨prepared, record, made, bound⟩
  · cases appends

end Sample

/-- An appended binding of a LIMIT order steps over no tradable bar exactly when its candidate is the next bar
to evaluate, which on charted closes is what the walk of the Market route finds, and in every run whose
evaluations are of the next bar nothing is missed. -/
theorem limit_steps_over_nothing (codec : BindingCodec) :
    (∀ (source : Stage8bP1eAcceptedScheduleSourceV1 codec.calendar) (predecessor candidate : Stage8bP1eM10IdentityV1)
        (prepared : Stage8bP1eScheduleBindingCandidateV1) (runtime : ScheduleRuntime codec) (generation : UInt64)
        (boundAt : DateTimeUtc) (record : Stage6JournalRecordV4 codec.toReconciliationCodec),
      LimitRoute source predecessor candidate prepared →
      scheduleBindingRecord codec runtime prepared generation boundAt = .ok record →
      (StepsOverNothing (tradingSessions source) predecessor.closeTs candidate.closeTs ↔
        NextToEvaluate prepared.transitionKind (tradingSessions source) predecessor.closeTs candidate.closeTs) ∧
      ∀ (schedule : ScheduleCodec) (window : Stage5eScheduleWindowEvidence),
        window.normalizedSessions = tradingSessions source →
        ((∃ classification, classifyExpectedCloseGrid schedule window predecessor.closeTs candidate.closeTs 600 =
            .ok classification) ↔
          Charted window predecessor.closeTs candidate.closeTs ∧
            StepsOverNothing (tradingSessions source) predecessor.closeTs candidate.closeTs)) ∧
    ∀ (watch : LimitWatch) (first : Evaluated) (evaluations : List (LimitEvaluation codec)), Starts watch first →
      EveryStep LimitWatch.advance EvaluatesNext watch evaluations →
        MissesNothing codec (evaluations.foldl LimitWatch.advance watch) := by
  constructor
  · intro source predecessor candidate prepared runtime generation boundAt record route appended
    exact ⟨binding_stepsOverNothing_iff route appended, fun schedule window => route.walk_iff⟩
  · intro watch first evaluations starts all
    exact (starts.unbroken.run all).missesNothing

/-- The second bar, which the walk approves, is evaluated behind the first, and nothing is missed. -/
theorem limit_steps_over_nothing_second :
    ∃ sample, morningSample = some sample ∧
      NextToEvaluate .workingLimitEvaluation (tradingSessions morningSource) (morningM10 1).closeTs
        (morningM10 2).closeTs ∧
      Charted morningWindow (morningM10 1).closeTs (morningM10 2).closeTs ∧
      StepsOverNothing (tradingSessions morningSource) (morningM10 1).closeTs (morningM10 2).closeTs ∧
      MissesNothing morningCodec ([sample.evaluation 2].foldl LimitWatch.advance sample.watch) := by
  obtain ⟨sample, isSample, starts, ⟨appends, next⟩, _⟩ := morningSample_exists
  obtain ⟨prepared, record, made, appended⟩ := sample.exists_record appends
  obtain ⟨bindings, runs⟩ := limit_steps_over_nothing morningCodec
  obtain ⟨byNext, byWalk⟩ := bindings _ _ _ _ _ _ _ _ (.working made) appended
  rw [(prepared_working made).transitionKind] at byNext
  have approved : classifyExpectedCloseGrid morningSchedule morningWindow (morningM10 1).closeTs
      (morningM10 2).closeTs 600 = .ok .contiguous := by
    decide
  obtain ⟨charted, nothing⟩ := (byWalk morningSchedule morningWindow (by decide)).1 ⟨_, approved⟩
  exact ⟨sample, isSample, byNext.1 nothing, charted, nothing, runs _ _ _ starts next⟩

/-- The third bar is bound behind the first and evaluated, and the second one, which trades, is missed. -/
theorem limit_steps_over_second :
    ∃ sample prepared record, morningSample = some sample ∧ sample.prepared 3 = .ok prepared ∧
      scheduleBindingRecord morningCodec sample.runtime prepared 1 { seconds := morningClose 3, nanos := 0 } =
        .ok record ∧
      ¬ StepsOverNothing (tradingSessions morningSource) (morningM10 1).closeTs (morningM10 3).closeTs ∧
      ¬ MissesNothing morningCodec (sample.watch.advance (sample.evaluation 3)) := by
  obtain ⟨sample, isSample, _, _, appends, evaluates⟩ := morningSample_exists
  obtain ⟨prepared, record, made, appended⟩ := sample.exists_record appends
  have second : Tradable (tradingSessions morningSource) (morningClose 2) := by decide
  refine ⟨sample, prepared, record, isSample, made, appended, ?_, ?_⟩
  · intro nothing
    exact nothing.between (morningClose 2) (by decide) (by decide) (by decide) second
  · intro misses
    have row : (sample.watch.advance (sample.evaluation 3)).evaluated =
        [{ sessions := [], bar := morningBar 1 }, { sessions := tradingSessions morningSource, bar := morningBar 3 }] := by
      unfold MorningSample.evaluates at evaluates
      unfold LimitWatch.advance
      cases ran : (sample.evaluation 3).run sample.watch.book with
      | none =>
          rw [ran] at evaluates
          cases evaluates
      | some plan =>
          rw [ran] at evaluates
          cases plan with
          | alreadyEvaluated => cases evaluates
          | untouched => rfl
          | outcome => rfl
    have between := misses.evaluated { sessions := [], bar := morningBar 1 }
      { sessions := tradingSessions morningSource, bar := morningBar 3 } (by rw [row]; rfl) (by rw [row]; rfl)
      (morningClose 2) (by decide) (by decide) (by decide)
    obtain ⟨before, reached, consecutive, behind, _, evaluated⟩ := between
    rw [row] at consecutive
    have isThird : reached = { sessions := tradingSessions morningSource, bar := morningBar 3 } := by
      have pair := consecutive.eq_of_length rfl
      simp only [List.cons.injEq, and_true] at pair
      exact pair.2
    rw [isThird] at evaluated
    exact absurd (evaluated second) (by decide)

end TradingGateway.Stage8b.LimitEvaluations
