import TradingGateway.Stage6d.PlainLiveCoreCodec
import TradingGateway.Stage8b.MarketProvider

/-! A market fill after a crash: which fills of the provider the rebuild gives again. -/

set_option autoImplicit false

namespace TradingGateway.Stage8b.MarketRecovery

open BrokerCore.Commands BrokerCore.FixedPoint BrokerCore.Orders
open Stage5e.ScheduleGrid Stage6.DurableIdentity Stage6.JournalRecord Stage6.PlainCodec
open Stage6d.PaperCommands Stage6d.PlainLiveCoreCodec MarketProvider
open Foundation.ExceptRun

section Eligible

variable {codec : MarketCodec} {decision : Stage8bP1d1CommandDecisionBinding}
variable {authority : Stage8bP1d1ExecutionScheduleAuthority} {evidence : Stage8bP1d1CanonicalM10Evidence}
variable {capability : Stage8bP1d1ExecutionEligible}

structure EligibleOn (codec : MarketCodec) (decision : Stage8bP1d1CommandDecisionBinding)
    (authority : Stage8bP1d1ExecutionScheduleAuthority) (evidence : Stage8bP1d1CanonicalM10Evidence)
    (capability : Stage8bP1d1ExecutionEligible) : Prop where
  decided : capability.decision = decision
  bar : capability.executionBar = canonicalExecutionCandidate decision evidence
  checked : validateExecutionCandidate decision (canonicalExecutionCandidate decision evidence) = .ok ()
  onGrid : NextOnGrid authority.projection (decision.predecessorCloseTsUtcMs / 1000) (evidence.closeTsUtcMs / 1000) 600

theorem observeCandidates_eligible {awaiting : Stage8bP1d1AwaitingExecutionBar}
    {candidate : Stage8bP1d1CanonicalExecutionAuthority} {observedAt : DateTimeUtc}
    (observed : awaiting.observeCandidates codec [candidate] observedAt = .eligible capability) :
    capability.decision = awaiting.decision ∧ capability.executionBar = candidate ∧
      validateExecutionCandidate awaiting.decision candidate = .ok () ∧
      NextOnGrid awaiting.scheduleProjection (awaiting.decision.predecessorCloseTsUtcMs / 1000)
        (candidate.closeTsUtcMs / 1000) 600 := by
  unfold Stage8bP1d1AwaitingExecutionBar.observeCandidates at observed
  cases checked : validateExecutionCandidate awaiting.decision candidate with
  | error reason => simp [checked] at observed
  | ok passed =>
      cases classified : classifyStage8bP1d1ExecutionBar codec awaiting.scheduleProjection candidate.instrument
        (awaiting.decision.predecessorCloseTsUtcMs / 1000) (candidate.closeTsUtcMs / 1000) observedAt with
      | error reason => simp [checked, classified] at observed
      | ok approval =>
          simp only [checked, classified, Stage8bP1d1ExecutionObservation.eligible.injEq] at observed
          subst observed
          unfold classifyStage8bP1d1ExecutionBar at classified
          simp only [bind_ok_iff, mapError_ok_iff] at classified
          obtain ⟨_, _, classification, walked, _⟩ := classified
          exact ⟨rfl, rfl, rfl, classifyExpectedCloseGrid_isOk_iff.1 ⟨classification, walked⟩⟩

theorem beginStage8bP1d1MarketWait_ok {window : Stage5eScheduleWindowEvidence}
    {awaiting : Stage8bP1d1AwaitingExecutionBar}
    (waits : beginStage8bP1d1MarketWait codec window decision = .ok awaiting) :
    awaiting = { scheduleProjection := window, decision := decision } := by
  unfold beginStage8bP1d1MarketWait at waits
  cases kind : decision.command with
  | cancelOrder cancel => simp [kind] at waits
  | placeOrder place =>
      simp only [kind, bind_ok_iff, Except.ok.injEq] at waits
      obtain ⟨_, _, _, _, _, _, _, _, _, _, same⟩ := waits
      exact same.symm

theorem eligible_spec
    (eligible : stage8bP1d1EligibleFromCanonicalM10 codec decision authority evidence = .ok capability) :
    EligibleOn codec decision authority evidence capability := by
  unfold stage8bP1d1EligibleFromCanonicalM10 at eligible
  simp only [bind_ok_iff, mapError_ok_iff] at eligible
  obtain ⟨observedAt, _, awaiting, waits, observed⟩ := eligible
  obtain rfl := beginStage8bP1d1MarketWait_ok waits
  cases outcome : Stage8bP1d1AwaitingExecutionBar.observeCandidates codec
    { scheduleProjection := authority.projection, decision := decision }
    [canonicalExecutionCandidate decision evidence] observedAt with
  | noInput awaiting => simp [outcome] at observed
  | blocked reason awaiting => simp [outcome] at observed
  | eligible found =>
      simp only [outcome, Except.ok.injEq] at observed
      subst observed
      obtain ⟨decided, bar, checked, onGrid⟩ := observeCandidates_eligible outcome
      exact { decided := decided, bar := bar, checked := checked, onGrid := onGrid }

/-- Only a placed order passes the checks of a candidate. -/
theorem placeOrder_of_checked {candidate : Stage8bP1d1CanonicalExecutionAuthority}
    (checked : validateExecutionCandidate decision candidate = .ok ()) :
    ∃ place, decision.command = .placeOrder place := by
  unfold validateExecutionCandidate at checked
  cases kind : decision.command with
  | cancelOrder cancel => simp [kind] at checked
  | placeOrder place => exact ⟨place, rfl⟩

/-- The provider fills whatever was let through. -/
theorem EligibleOn.executes (eligible : EligibleOn codec decision authority evidence capability)
    (receipt : Stage6dPaperDispatchReceipt) :
    ∃ bundle, Stage8bP1d1MarketDispatchReady.execute codec
        { eligibility := capability, dispatchReceipt := receipt } = some bundle ∧
      deterministicMarketOutcomeEvidence codec decision (canonicalExecutionCandidate decision evidence) =
        some bundle.toStage8bP1d1MarketOutcomeEvidence := by
  obtain ⟨place, placed⟩ := placeOrder_of_checked eligible.checked
  unfold Stage8bP1d1MarketDispatchReady.execute
  simp only [eligible.decided, eligible.bar]
  simp only [deterministicMarketOutcomeEvidence, placed, Option.bind_eq_bind, Option.bind_some]
  exact ⟨_, rfl, rfl⟩

/-- An instant there is lies far inside its 64 bits. -/
theorem EligibleOn.close_lt (eligible : EligibleOn codec decision authority evidence capability) :
    evidence.closeTsUtcMs < 2 ^ 63 := by
  have day := eligible.onGrid.sameDay.2
  unfold utcDay DateTimeUtc.timestampOpt at day
  split at day
  · rename_i inside
    have latest := inside.2
    simp only [DateTimeUtc.maxSeconds] at latest
    omega
  · simp at day

/-- A filled market order is recovered if and only if its bar closes one timeframe behind the
decision bar; a bar behind a break is filled and not recovered. -/
theorem market_fill_reconstructed
    (eligible : stage8bP1d1EligibleFromCanonicalM10 codec decision authority evidence = .ok capability)
    (receipt : Stage6dPaperDispatchReceipt) :
    (∃ bundle, Stage8bP1d1MarketDispatchReady.execute codec
        { eligibility := capability, dispatchReceipt := receipt } = some bundle ∧
      reconstructStage8bP1d1MarketOutcomeEvidence codec decision evidence =
        .ok (some bundle.toStage8bP1d1MarketOutcomeEvidence)) ↔
      evidence.closeTsUtcMs = decision.predecessorCloseTsUtcMs + m10Millis := by
  have through := eligible_spec eligible
  obtain ⟨bundle, executed, filled⟩ := through.executes receipt
  constructor
  · rintro ⟨_, _, rebuilt⟩
    unfold reconstructStage8bP1d1MarketOutcomeEvidence at rebuilt
    simp only [bind_ok_iff, rejectIf_ok_iff, not_not] at rebuilt
    obtain ⟨_, _, _, _, _, contiguous, _⟩ := rebuilt
    exact contiguous
  · intro contiguous
    refine ⟨bundle, executed, ?_⟩
    unfold reconstructStage8bP1d1MarketOutcomeEvidence
    simp only [bind_ok_iff, mapError_ok_iff, rejectIf_ok_iff, not_not]
    have inside := through.close_lt
    exact ⟨(), through.checked, (), by omega, (), contiguous, by rw [filled]⟩

end Eligible

section Sample

def sampleCodec : MarketCodec where
  sha256 := plainHash
  dayToString := fun date => toString date.day
  brokerCommandToVec := plainBrokerCommand

def sampleDigest (digit : Char) : HexText :=
  List.replicate 64 digit

/-- The sample order, decided on the bar that closes at 20 minutes. -/
def sampleDecision : Option Stage8bP1d1CommandDecisionBinding := do
  let attribution ← sampleAttribution "ENTRY"
  let identity ← (Stage6DurableRequestIdentityV1.fromPlace (samplePlaceOrder 1) attribution).toOption
  let snapshot ← (Stage6DurableCommandSnapshotV1.fromPlace identity (samplePlaceOrder 1)).toOption
  let accepted ← (Stage6Sha256Digest.parse (sampleDigest 'a')).toOption
  let command := BrokerCommand.placeOrder (samplePlaceOrder 1)
  (stage8bP1d1CommandDecisionBindingFromSource sampleCodec command identity snapshot accepted (sampleDigest '1')
    (sha256Hex sampleCodec (plainBrokerCommand command)) "1200000-0" (sampleDigest '2') (sampleDigest '7')).toOption

/-- Trading up to the decision bar, a break of three closes, and trading again. -/
def sampleAuthority : Stage8bP1d1ExecutionScheduleAuthority where
  projection := {
    instrument := sampleInstrument
    tradingDay := { day := 0 }
    effectiveObservedAt := { seconds := 0, nanos := 0 }
    expiresAt := { seconds := 9000, nanos := 0 }
    fingerprint := []
    normalizedSessions := [
      { sessionType := .tradableOpen, start := 600, finish := 1200 },
      { sessionType := .breakOrClearing, start := 1800, finish := 2400 },
      { sessionType := .maintenance, start := 3000, finish := 3000 },
      { sessionType := .tradableOpen, start := 3600, finish := 6000 }]
    normalizedSessionsFingerprint := []
    normalizedSnapshotIdentityFingerprint := [] }
  boundAtUtc := some { seconds := 3600, nanos := 0 }

def unbrokenAuthority : Stage8bP1d1ExecutionScheduleAuthority :=
  { sampleAuthority with
    projection := { sampleAuthority.projection with
      normalizedSessions := [{ sessionType := .tradableOpen, start := 600, finish := 6000 }] } }

def sampleEvidence (closeTsUtcMs : Int) : Stage8bP1d1CanonicalM10Evidence where
  sourceRedisId := toString closeTsUtcMs ++ "-0"
  sourceCanonicalBytesSha256 := sampleDigest '8'
  operationalIdentitySha256 := sampleDigest '1'
  instrument := sampleInstrument
  semanticIdSha256 := sampleDigest '3'
  payloadSha256 := sampleDigest '4'
  openTsUtcMs := closeTsUtcMs - m10Millis
  closeTsUtcMs := closeTsUtcMs
  opened := Decimal.ofNat 2175 (by decide)

def sampleReceipt (decision : Stage8bP1d1CommandDecisionBinding) : Stage6dPaperDispatchReceipt where
  identity := decision.durableIdentity
  commandSnapshot := decision.durableCommandSnapshot
  acceptedCommandPayloadSha256 := decision.acceptedCommandPayloadSha256
  dispatchRecordId := { value := sampleDigest 'c', canonical := by decide }
  dispatchSequence := sampleSequence 1
  durableFrontierSha256 := sampleDigest 'd'

theorem market_fill_reconstructed_unbroken :
    ∃ decision capability bundle, sampleDecision = some decision ∧
      stage8bP1d1EligibleFromCanonicalM10 sampleCodec decision unbrokenAuthority (sampleEvidence 1800000) =
        .ok capability ∧
      Stage8bP1d1MarketDispatchReady.execute sampleCodec
        { eligibility := capability, dispatchReceipt := sampleReceipt decision } = some bundle ∧
      reconstructStage8bP1d1MarketOutcomeEvidence sampleCodec decision (sampleEvidence 1800000) =
        .ok (some bundle.toStage8bP1d1MarketOutcomeEvidence) := by
  have runs : sampleDecision.any (fun decision => decision.predecessorCloseTsUtcMs = 1200000 &&
      (stage8bP1d1EligibleFromCanonicalM10 sampleCodec decision unbrokenAuthority (sampleEvidence 1800000)).isOk) =
      true := by
    decide +kernel
  obtain ⟨decision, decided, holds⟩ := (Option.any_eq_true ..).1 runs
  simp only [Bool.and_eq_true, decide_eq_true_eq] at holds
  obtain ⟨capability, eligible⟩ := exists_ok_of_isOk holds.2
  obtain ⟨bundle, executed, rebuilt⟩ := (market_fill_reconstructed eligible (sampleReceipt decision)).2 (by
    rw [holds.1]
    decide)
  exact ⟨decision, capability, bundle, decided, eligible, executed, rebuilt⟩

/-- The first bar behind the break is let through and filled, and a crash loses its fill. -/
theorem fill_behind_break_is_lost :
    ∃ decision capability bundle, sampleDecision = some decision ∧
      stage8bP1d1EligibleFromCanonicalM10 sampleCodec decision sampleAuthority (sampleEvidence 3600000) =
        .ok capability ∧
      Stage8bP1d1MarketDispatchReady.execute sampleCodec
        { eligibility := capability, dispatchReceipt := sampleReceipt decision } = some bundle ∧
      reconstructStage8bP1d1MarketOutcomeEvidence sampleCodec decision (sampleEvidence 3600000) =
        .error .commandBindingMismatch := by
  have runs : sampleDecision.any (fun decision =>
      (stage8bP1d1EligibleFromCanonicalM10 sampleCodec decision sampleAuthority (sampleEvidence 3600000)).isOk &&
        (match reconstructStage8bP1d1MarketOutcomeEvidence sampleCodec decision (sampleEvidence 3600000) with
          | .error error => decide (error = .commandBindingMismatch)
          | .ok _ => false)) = true := by
    decide +kernel
  obtain ⟨decision, decided, holds⟩ := (Option.any_eq_true ..).1 runs
  simp only [Bool.and_eq_true] at holds
  obtain ⟨capability, eligible⟩ := exists_ok_of_isOk holds.1
  obtain ⟨bundle, executed, _⟩ := (eligible_spec eligible).executes (sampleReceipt decision)
  refine ⟨decision, capability, bundle, decided, eligible, executed, ?_⟩
  cases rebuilt : reconstructStage8bP1d1MarketOutcomeEvidence sampleCodec decision (sampleEvidence 3600000) with
  | error error => simpa [rebuilt] using holds.2
  | ok outcome => simp [rebuilt] at holds

end Sample

end TradingGateway.Stage8b.MarketRecovery
