import TradingGateway.BrokerCore.Timestamps

/-! Recovery of market data after a reconnect: what the replayed bars and the first live bar have to show
before the data is taken for complete. -/

set_option autoImplicit false

namespace TradingGateway.BrokerCore.MarketDataRecovery

open Orders

inductive MarketDataRecoveryMode where
  | cold
  | warm
deriving DecidableEq

inductive MarketDataRecoveryPhase where
  | loadingHistory
  | syncingGap
  | liveSubscribing
  | liveReady
  | degraded
deriving DecidableEq

inductive MarketDataRecoveryBlocker where
  | invalidTimeframe
  | replayWindowMissing
  | replayWindowDoesNotCoverWatermark
  | replayMissing
  | replayNotContiguousToWatermark
  | replayGapDetected
  | transportDisconnected
  | liveSubscriptionMissing
  | firstLiveFinalBarMissing
  | firstLiveFinalBeforeReplayEnd
  | gapAbsenceNotProven
deriving DecidableEq

/-- The report gives the input back as it is, so it is kept whole here. -/
structure MarketDataRecoveryInput where
  mode : MarketDataRecoveryMode
  timeframeSec : UInt32
  generation : UInt64
  lastFinalBarCloseTs : Option DateTimeUtc
  replayFromTs : Option DateTimeUtc
  replayToTs : Option DateTimeUtc
  replayBarCount : UInt64
  replayFirstBarCloseTs : Option DateTimeUtc
  replayLastBarCloseTs : Option DateTimeUtc
  overlapDedupBarCount : UInt64
  replayGapDetected : Bool
  transportConnected : Bool
  liveSubscriptionSent : Bool
  liveSubscriptionConfirmed : Bool
  firstLiveFinalBarCloseTs : Option DateTimeUtc
  checkedTs : DateTimeUtc

structure MarketDataRecoveryReport where
  phase : MarketDataRecoveryPhase
  blockers : List MarketDataRecoveryBlocker
  input : MarketDataRecoveryInput
  gapAbsenceProven : Bool

def replayWindowCoversWatermark (replayFromTs replayToTs lastFinalBarCloseTs : Option DateTimeUtc) : Bool :=
  match lastFinalBarCloseTs with
  | none => true
  | some watermark =>
      match replayFromTs, replayToTs with
      | some first, some last => ¬ first.After watermark ∧ ¬ watermark.After last
      | _, _ => false

def replayIsContiguousToWatermark (timeframeSec : UInt32)
    (lastFinalBarCloseTs replayFirstBarCloseTs replayLastBarCloseTs : Option DateTimeUtc) : Option Bool :=
  match lastFinalBarCloseTs with
  | none => some true
  | some watermark =>
      if timeframeSec = 0 then some false
      else
        match replayFirstBarCloseTs, replayLastBarCloseTs with
        | some first, some last =>
            if first.After watermark then some false
            else (watermark.plusSeconds timeframeSec.toNat).map fun next => decide (¬ next.After last)
        | _, _ => some false

def firstLiveBeforeReplayEnd (firstLiveFinalBarCloseTs replayLastBarCloseTs : Option DateTimeUtc) : Bool :=
  match firstLiveFinalBarCloseTs, replayLastBarCloseTs with
  | some firstLive, some replayLast => replayLast.After firstLive
  | _, _ => false

def leavesGap : MarketDataRecoveryBlocker → Bool
  | .invalidTimeframe | .replayWindowMissing | .replayWindowDoesNotCoverWatermark | .replayMissing
  | .replayNotContiguousToWatermark | .replayGapDetected | .firstLiveFinalBeforeReplayEnd => true
  | _ => false

def degrades : MarketDataRecoveryBlocker → Bool
  | .invalidTimeframe | .replayWindowMissing | .replayWindowDoesNotCoverWatermark | .replayGapDetected
  | .transportDisconnected | .firstLiveFinalBeforeReplayEnd => true
  | _ => false

def recoveryPhase (input : MarketDataRecoveryInput) (blockers : List MarketDataRecoveryBlocker)
    (gapAbsenceProven : Bool) : MarketDataRecoveryPhase :=
  if blockers.any degrades then .degraded
  else if gapAbsenceProven ∧ input.liveSubscriptionSent ∧ input.liveSubscriptionConfirmed ∧
      input.firstLiveFinalBarCloseTs.isSome then .liveReady
  else if 0 < input.replayBarCount ∨ input.mode = .warm then .syncingGap
  else if input.mode = .cold then .loadingHistory
  else .liveSubscribing

def pushIf (condition : Bool) (blocker : MarketDataRecoveryBlocker) : List MarketDataRecoveryBlocker :=
  if condition then [blocker] else []

def recoveryBlockers (input : MarketDataRecoveryInput) (contiguous : Bool) : List MarketDataRecoveryBlocker :=
  pushIf (input.timeframeSec = 0) .invalidTimeframe ++
  pushIf (input.replayFromTs.isNone || input.replayToTs.isNone) .replayWindowMissing ++
  pushIf (!replayWindowCoversWatermark input.replayFromTs input.replayToTs input.lastFinalBarCloseTs)
    .replayWindowDoesNotCoverWatermark ++
  pushIf (input.mode = .warm ∧ input.replayBarCount = 0) .replayMissing ++
  pushIf (!contiguous) .replayNotContiguousToWatermark ++
  pushIf input.replayGapDetected .replayGapDetected ++
  pushIf (!input.transportConnected) .transportDisconnected ++
  pushIf (!input.liveSubscriptionSent || !input.liveSubscriptionConfirmed) .liveSubscriptionMissing ++
  pushIf input.firstLiveFinalBarCloseTs.isNone .firstLiveFinalBarMissing ++
  pushIf (firstLiveBeforeReplayEnd input.firstLiveFinalBarCloseTs input.replayLastBarCloseTs)
    .firstLiveFinalBeforeReplayEnd

/-- The report, once the replay is known to reach the watermark or not. -/
def recoveryReport (input : MarketDataRecoveryInput) (contiguous : Bool) : MarketDataRecoveryReport :=
  let found := recoveryBlockers input contiguous
  let gapAbsenceProven := found.all fun blocker => !leavesGap blocker
  let blockers := found ++ pushIf (!gapAbsenceProven) .gapAbsenceNotProven
  { phase := recoveryPhase input blockers gapAbsenceProven
    blockers := blockers
    input := input
    gapAbsenceProven := gapAbsenceProven }

/-- `none` is the abort of a close one timeframe behind the watermark that is no instant. -/
def evaluateMarketDataRecovery (input : MarketDataRecoveryInput) : Option MarketDataRecoveryReport :=
  (replayIsContiguousToWatermark input.timeframeSec input.lastFinalBarCloseTs input.replayFirstBarCloseTs
    input.replayLastBarCloseTs).map (recoveryReport input)

/-! ### What a clean report says -/

section Blockers

theorem all_pushIf {condition : Bool} {blocker : MarketDataRecoveryBlocker}
    {holds : MarketDataRecoveryBlocker → Bool} :
    (pushIf condition blocker).all holds = true ↔ (condition = true → holds blocker = true) := by
  unfold pushIf
  cases condition with
  | true => simp
  | false => simp

variable {input : MarketDataRecoveryInput} {contiguous : Bool}

structure RulesGapOut (input : MarketDataRecoveryInput) (contiguous : Bool) : Prop where
  timeframe : input.timeframeSec ≠ 0
  window : (input.replayFromTs.isNone || input.replayToTs.isNone) = false
  covered : replayWindowCoversWatermark input.replayFromTs input.replayToTs input.lastFinalBarCloseTs = true
  replayed : ¬ (input.mode = .warm ∧ input.replayBarCount = 0)
  contiguous : contiguous = true
  gapless : input.replayGapDetected = false
  liveBehind : firstLiveBeforeReplayEnd input.firstLiveFinalBarCloseTs input.replayLastBarCloseTs = false

theorem leavesNoGap_iff :
    (recoveryBlockers input contiguous).all (fun blocker => !leavesGap blocker) = true ↔
      RulesGapOut input contiguous := by
  unfold recoveryBlockers
  simp only [List.all_append, Bool.and_eq_true, all_pushIf]
  constructor
  · rintro ⟨⟨⟨⟨⟨⟨⟨⟨⟨timeframe, window⟩, covered⟩, replayed⟩, contiguous⟩, gapless⟩, -⟩, -⟩, -⟩, liveBehind⟩
    have blocked {condition : Bool} (clear : condition = true → false = true) : condition = false :=
      Bool.eq_false_of_not_eq_true fun holds => Bool.false_ne_true (clear holds)
    exact {
      timeframe := of_decide_eq_false (blocked timeframe)
      window := blocked window
      covered := by simpa using blocked covered
      replayed := of_decide_eq_false (blocked replayed)
      contiguous := by simpa using blocked contiguous
      gapless := blocked gapless
      liveBehind := blocked liveBehind }
  · intro rules
    have refuted {condition : Bool} {holds : Prop} (clear : condition = false) (found : condition = true) : holds := by
      rw [clear] at found
      cases found
    refine ⟨⟨⟨⟨⟨⟨⟨⟨⟨?_, refuted rules.window⟩, ?_⟩, ?_⟩, ?_⟩, refuted rules.gapless⟩, fun _ => rfl⟩, fun _ => rfl⟩,
      fun _ => rfl⟩, refuted rules.liveBehind⟩
    · exact refuted (decide_eq_false rules.timeframe)
    · exact refuted (by rw [rules.covered]; rfl)
    · exact refuted (decide_eq_false rules.replayed)
    · exact refuted (by rw [rules.contiguous]; rfl)

/-- Where a gap is ruled out, only the transport and the live side can still be found wanting. -/
theorem recoveryBlockers_of_rules (rules : RulesGapOut input contiguous) :
    recoveryBlockers input contiguous =
      pushIf (!input.transportConnected) .transportDisconnected ++
      pushIf (!input.liveSubscriptionSent || !input.liveSubscriptionConfirmed) .liveSubscriptionMissing ++
      pushIf input.firstLiveFinalBarCloseTs.isNone .firstLiveFinalBarMissing := by
  have empty {condition : Bool} (clear : condition = false) (blocker : MarketDataRecoveryBlocker) :
      pushIf condition blocker = [] := by
    rw [clear]
    rfl
  unfold recoveryBlockers
  rw [empty (decide_eq_false rules.timeframe), empty rules.window, empty (by rw [rules.covered]; rfl),
    empty (decide_eq_false rules.replayed), empty (by rw [rules.contiguous]; rfl), empty rules.gapless,
    empty rules.liveBehind, List.append_nil]
  rfl

theorem degraded_of_rules (rules : RulesGapOut input contiguous) :
    (recoveryBlockers input contiguous).any degrades = !input.transportConnected := by
  rw [recoveryBlockers_of_rules rules]
  unfold pushIf
  cases input.transportConnected <;> cases (!input.liveSubscriptionSent || !input.liveSubscriptionConfirmed) <;>
    cases input.firstLiveFinalBarCloseTs.isNone <;> rfl

end Blockers

section Reports

variable {input : MarketDataRecoveryInput}

/-- Nothing blocks: a gap is ruled out, and the live side is connected, subscribed and has shown a bar. -/
structure CleanRecovery (input : MarketDataRecoveryInput) : Prop where
  contiguous : replayIsContiguousToWatermark input.timeframeSec input.lastFinalBarCloseTs
    input.replayFirstBarCloseTs input.replayLastBarCloseTs = some true
  rules : RulesGapOut input true
  connected : input.transportConnected = true
  sent : input.liveSubscriptionSent = true
  confirmed : input.liveSubscriptionConfirmed = true
  shown : input.firstLiveFinalBarCloseTs.isSome = true

def ReportsReady (input : MarketDataRecoveryInput) : Prop :=
  ∃ report, evaluateMarketDataRecovery input = some report ∧ report.gapAbsenceProven = true ∧
    report.phase = .liveReady

theorem recoveryPhase_liveReady_iff {blockers : List MarketDataRecoveryBlocker} {gapAbsenceProven : Bool} :
    recoveryPhase input blockers gapAbsenceProven = .liveReady ↔
      blockers.any degrades = false ∧ gapAbsenceProven = true ∧ input.liveSubscriptionSent = true ∧
        input.liveSubscriptionConfirmed = true ∧ input.firstLiveFinalBarCloseTs.isSome = true := by
  unfold recoveryPhase
  constructor
  · intro ready
    split at ready
    case isTrue => cases ready
    case isFalse notDegraded =>
      split at ready
      case isTrue live => exact ⟨Bool.eq_false_of_not_eq_true notDegraded, live⟩
      case isFalse =>
        split at ready
        case isTrue => cases ready
        case isFalse =>
          split at ready
          case isTrue => cases ready
          case isFalse => cases ready
  · rintro ⟨notDegraded, live⟩
    rw [notDegraded, if_neg Bool.false_ne_true, if_pos live]

theorem recoveryReport_ready_iff {contiguous : Bool} :
    ((recoveryReport input contiguous).gapAbsenceProven = true ∧
        (recoveryReport input contiguous).phase = .liveReady) ↔
      RulesGapOut input contiguous ∧ input.transportConnected = true ∧ input.liveSubscriptionSent = true ∧
        input.liveSubscriptionConfirmed = true ∧ input.firstLiveFinalBarCloseTs.isSome = true := by
  unfold recoveryReport
  dsimp only
  rw [recoveryPhase_liveReady_iff, leavesNoGap_iff]
  constructor
  · rintro ⟨rules, notDegraded, -, live⟩
    rw [List.any_append, Bool.or_eq_false_iff, degraded_of_rules rules] at notDegraded
    exact ⟨rules, by simpa using notDegraded.1, live⟩
  · rintro ⟨rules, connected, live⟩
    refine ⟨rules, ?_, rules, live⟩
    rw [leavesNoGap_iff.2 rules, List.any_append, degraded_of_rules rules, connected]
    rfl

/-- The data is taken for ready exactly where nothing blocks. -/
theorem reportsReady_iff : ReportsReady input ↔ CleanRecovery input := by
  unfold ReportsReady evaluateMarketDataRecovery
  constructor
  · rintro ⟨report, evaluated, ready⟩
    obtain ⟨contiguous, checked, same⟩ := Option.map_eq_some_iff.1 evaluated
    subst same
    obtain ⟨rules, connected, sent, confirmed, shown⟩ := recoveryReport_ready_iff.1 ready
    have reaches : contiguous = true := rules.contiguous
    subst reaches
    exact {
      contiguous := checked
      rules := rules
      connected := connected
      sent := sent
      confirmed := confirmed
      shown := shown }
  · intro clean
    refine ⟨recoveryReport input true, Option.map_eq_some_iff.2 ⟨true, clean.contiguous, rfl⟩, ?_⟩
    exact recoveryReport_ready_iff.2 ⟨clean.rules, clean.connected, clean.sent, clean.confirmed, clean.shown⟩

/-- The first live bar closes one timeframe behind the replay at the latest. A sum that is no instant lies
behind every instant. -/
def LiveWithinTimeframe (input : MarketDataRecoveryInput) : Prop :=
  ∀ firstLive ∈ input.firstLiveFinalBarCloseTs, ∀ replayLast ∈ input.replayLastBarCloseTs,
    ∀ next ∈ replayLast.plusSeconds input.timeframeSec.toNat, ¬ firstLive.After next

instance (input : MarketDataRecoveryInput) : Decidable (LiveWithinTimeframe input) :=
  inferInstanceAs (Decidable (∀ firstLive ∈ input.firstLiveFinalBarCloseTs, ∀ replayLast ∈ input.replayLastBarCloseTs,
    ∀ next ∈ replayLast.plusSeconds input.timeframeSec.toNat, ¬ firstLive.After next))

structure CoveredFrom (input : MarketDataRecoveryInput) (watermark : DateTimeUtc) : Prop where
  replayStarts : ∃ first ∈ input.replayFirstBarCloseTs, ¬ first.After watermark
  replayReaches : ∃ last ∈ input.replayLastBarCloseTs,
    ∃ next ∈ watermark.plusSeconds input.timeframeSec.toNat, ¬ next.After last
  gapless : input.replayGapDetected = false
  live : input.firstLiveFinalBarCloseTs.isSome = true
  seam : LiveWithinTimeframe input

/-- What the check of contiguity says. -/
theorem contiguous_of_watermark {watermark : DateTimeUtc} (timeframe : input.timeframeSec ≠ 0)
    (contiguous : replayIsContiguousToWatermark input.timeframeSec (some watermark) input.replayFirstBarCloseTs
      input.replayLastBarCloseTs = some true) :
    (∃ first ∈ input.replayFirstBarCloseTs, ¬ first.After watermark) ∧
      ∃ last ∈ input.replayLastBarCloseTs,
        ∃ next ∈ watermark.plusSeconds input.timeframeSec.toNat, ¬ next.After last := by
  unfold replayIsContiguousToWatermark at contiguous
  dsimp only at contiguous
  rw [if_neg timeframe] at contiguous
  cases replayFirst : input.replayFirstBarCloseTs with
  | none => simp [replayFirst] at contiguous
  | some first =>
      cases replayLast : input.replayLastBarCloseTs with
      | none => simp [replayFirst, replayLast] at contiguous
      | some last =>
          rw [replayFirst, replayLast] at contiguous
          dsimp only at contiguous
          split at contiguous
          case isTrue => cases contiguous
          case isFalse starts =>
            obtain ⟨next, sum, reaches⟩ := Option.map_eq_some_iff.1 contiguous
            exact ⟨⟨first, rfl, starts⟩, last, rfl, next, sum, of_decide_eq_true reaches⟩

/-- Data that is reported ready behind a watermark is complete exactly where the first live bar follows the
replay within a timeframe. -/
theorem ready_data_is_complete (input : MarketDataRecoveryInput) (watermark : DateTimeUtc)
    (marked : input.lastFinalBarCloseTs = some watermark) :
    (ReportsReady input → CoveredFrom input watermark) ↔ (CleanRecovery input → LiveWithinTimeframe input) := by
  rw [reportsReady_iff]
  constructor
  · intro covered clean
    exact (covered clean).seam
  · intro within clean
    have contiguous := clean.contiguous
    rw [marked] at contiguous
    obtain ⟨starts, reaches⟩ := contiguous_of_watermark clean.rules.timeframe contiguous
    exact {
      replayStarts := starts
      replayReaches := reaches
      gapless := clean.rules.gapless
      live := clean.shown
      seam := within clean }

/-- `warm_input()`, with the first live bar closing at a minute. -/
def warmInput (firstLiveMinute : Int) : MarketDataRecoveryInput :=
  let ts (minute : Int) : DateTimeUtc := { seconds := 1783242000 + minute * 60, nanos := 0 }
  { mode := .warm
    timeframeSec := 60
    generation := 2
    lastFinalBarCloseTs := some (ts 10)
    replayFromTs := some (ts 8)
    replayToTs := some (ts 13)
    replayBarCount := 4
    replayFirstBarCloseTs := some (ts 9)
    replayLastBarCloseTs := some (ts 12)
    overlapDedupBarCount := 2
    replayGapDetected := false
    transportConnected := true
    liveSubscriptionSent := true
    liveSubscriptionConfirmed := true
    firstLiveFinalBarCloseTs := some (ts firstLiveMinute)
    checkedTs := ts 13 }

/-- A first live bar one minute behind the replay is covered; one five minutes behind is reported ready
and is not. -/
theorem ready_data_is_complete_warm :
    CoveredFrom (warmInput 13) { seconds := 1783242600, nanos := 0 } ∧
      ¬ (ReportsReady (warmInput 17) → CoveredFrom (warmInput 17) { seconds := 1783242600, nanos := 0 }) := by
  have near := ready_data_is_complete (warmInput 13) { seconds := 1783242600, nanos := 0 } rfl
  have far := ready_data_is_complete (warmInput 17) { seconds := 1783242600, nanos := 0 } rfl
  constructor
  · exact near.2 (fun _ => by decide) ⟨_, rfl, by decide, by decide⟩
  · rw [far]
    intro within
    have clean : CleanRecovery (warmInput 17) := reportsReady_iff.1 ⟨_, rfl, by decide, by decide⟩
    exact absurd (within clean) (by decide)

/-- A first live bar five minutes behind the replay is taken for the next one. -/
theorem late_live_bar_leaves_gap :
    ¬ ∀ (input : MarketDataRecoveryInput) (watermark : DateTimeUtc), input.lastFinalBarCloseTs = some watermark →
      ReportsReady input → CoveredFrom input watermark := by
  intro all
  have ready : ReportsReady (warmInput 17) := ⟨_, rfl, by decide, by decide⟩
  have covered := all (warmInput 17) { seconds := 1783242600, nanos := 0 } rfl ready
  exact absurd covered.seam (by decide)

end Reports

end TradingGateway.BrokerCore.MarketDataRecovery
