import TradingGateway.Foundation.SessionMemory
import TradingGateway.HybridIntraday.WarmUp

/-! A warm-up from the last sessions of a history against the warm-up from all of it: what a strategy keeps
of the days before the last two is nothing. -/

set_option autoImplicit false

namespace TradingGateway.HybridIntraday

open BrokerCore.Orders Foundation.MachineNumbers Foundation.SessionMemory

namespace IntradayBreakoutEngine

variable {Value : Type}

def today (engine : IntradayBreakoutEngine Value) : IntradayBreakoutEngine Value :=
  { engine with yesterdayClose := none, yesterdayRange := none, yesterdayReturn := none, dayBeforeClose := none }

/-- One more thing is known of the past with each day: the current day, the day before it, and the return of
that day. -/
structure Agrees (degree : Nat) (full short : IntradayBreakoutEngine Value) : Prop where
  sameToday : 1 ≤ degree → full.today = short.today ∧ full.curDayDate ≠ none
  sameYesterday : 2 ≤ degree → full.yesterdayClose = short.yesterdayClose ∧
    full.yesterdayRange = short.yesterdayRange ∧ full.dayBeforeClose = short.dayBeforeClose
  sameReturn : 3 ≤ degree → full.yesterdayReturn = short.yesterdayReturn

theorem Agrees.eq {degree : Nat} {full short : IntradayBreakoutEngine Value} (agrees : Agrees degree full short) (enough : 3 ≤ degree) : full = short := by
  obtain ⟨sameToday, _⟩ := agrees.sameToday (by omega)
  obtain ⟨sameClose, sameRange, sameBefore⟩ := agrees.sameYesterday (by omega)
  have sameReturn := agrees.sameReturn enough
  cases full
  cases short
  simp only [today, mk.injEq] at sameToday sameClose sameRange sameBefore sameReturn ⊢
  tauto

variable [F64 Value]

theorem onBar_counted {engine : IntradayBreakoutEngine Value} {dt : NaiveDateTime} (opened high low close : Value)
    (counted : countsDay engine.config dt.date) :
    engine.onBar dt opened high low close =
      (match engine.curDayDate with
        | none => engine.initNewDay dt opened
        | some day => if dt.date ≠ day then engine.onDayClose.initNewDay dt opened else engine).updateCurDay high low
          close := by
  unfold onBar
  exact if_neg counted

/-- A bar that opens a day, after another day or as the first one. -/
theorem onBar_opens {engine : IntradayBreakoutEngine Value} {dt : NaiveDateTime} (opened high low close : Value)
    (counted : countsDay engine.config dt.date) (elsewhere : engine.curDayDate ≠ some dt.date) :
    engine.onBar dt opened high low close =
      ((if engine.curDayDate = none then engine else engine.onDayClose).initNewDay dt opened).updateCurDay high low
        close := by
  rw [onBar_counted opened high low close counted]
  cases current : engine.curDayDate with
  | none => rw [if_pos rfl]
  | some day =>
      rw [if_neg (Option.some_ne_none day)]
      dsimp only
      rw [if_pos fun same => elsewhere (by rw [current, same])]

theorem onBar_within {engine : IntradayBreakoutEngine Value} {dt : NaiveDateTime} (opened high low close : Value)
    (counted : countsDay engine.config dt.date) (onDay : engine.curDayDate = some dt.date) :
    engine.onBar dt opened high low close = engine.updateCurDay high low close := by
  rw [onBar_counted opened high low close counted, onDay]
  dsimp only
  rw [if_neg (not_not.2 rfl)]

theorem today_updateCurDay (engine : IntradayBreakoutEngine Value) (high low close : Value) :
    (engine.updateCurDay high low close).today = engine.today.updateCurDay high low close :=
  rfl

theorem Agrees.updateCurDay {degree : Nat} {full short : IntradayBreakoutEngine Value}
    (agrees : Agrees degree full short) (high low close : Value) :
    Agrees degree (full.updateCurDay high low close) (short.updateCurDay high low close) := by
  refine ⟨fun begun => ?_, agrees.sameYesterday, agrees.sameReturn⟩
  obtain ⟨sameToday, onDay⟩ := agrees.sameToday begun
  refine ⟨?_, onDay⟩
  rw [today_updateCurDay, today_updateCurDay, sameToday]

omit [F64 Value] in
theorem today_initNewDay (engine : IntradayBreakoutEngine Value) (dt : NaiveDateTime) (opened : Value) :
    (engine.initNewDay dt opened).today = ((new engine.config).initNewDay dt opened) :=
  rfl

/-- What a closed day leaves is read from the day and from the close before it. -/
theorem onDayClose_congr {full short : IntradayBreakoutEngine Value} (sameToday : full.today = short.today) :
    full.onDayClose.yesterdayClose = short.onDayClose.yesterdayClose ∧
      full.onDayClose.yesterdayRange = short.onDayClose.yesterdayRange ∧
      full.onDayClose.dayBeforeClose = short.onDayClose.dayBeforeClose ∧
      (full.dayBeforeClose = short.dayBeforeClose →
        full.onDayClose.yesterdayReturn = short.onDayClose.yesterdayReturn) := by
  have sameClose : full.curDayClose = short.curDayClose := congrArg (·.curDayClose) sameToday
  have sameHigh : full.curDayHigh = short.curDayHigh := congrArg (·.curDayHigh) sameToday
  have sameLow : full.curDayLow = short.curDayLow := congrArg (·.curDayLow) sameToday
  unfold onDayClose
  dsimp only
  rw [sameClose, sameHigh, sameLow]
  refine ⟨rfl, rfl, rfl, fun sameBefore => ?_⟩
  rw [sameBefore]

/-- The engine forgets what lies before the day before yesterday. -/
theorem forgetting (config : IntradayBreakoutConfig Value) :
    Forgetting (fun engine (row : LocalBar Value) =>
        engine.onBar row.dt row.bar.o row.bar.h row.bar.l row.bar.close)
      LocalBar.date (·.curDayDate) (·.config = config) (fun row => countsDay config row.date) Agrees where
  keeps := by
    intro state row valid _
    exact (onBar_config _ _ _ _ _ _).trans valid
  onDay := by
    intro state row valid counted
    rw [onBar_day, if_pos (valid ▸ counted)]
    rfl
  within := by
    intro degree full short row fullValid shortValid counted agrees fullDay shortDay
    rw [onBar_within _ _ _ _ (fullValid ▸ counted) fullDay, onBar_within _ _ _ _ (shortValid ▸ counted) shortDay]
    exact agrees.updateCurDay _ _ _
  opening := by
    intro degree full short row fullValid shortValid counted agrees fullDay shortDay
    rw [onBar_opens _ _ _ _ (fullValid ▸ counted) fullDay, onBar_opens _ _ _ _ (shortValid ▸ counted) shortDay]
    apply Agrees.updateCurDay
    constructor
    · intro _
      refine ⟨?_, Option.some_ne_none _⟩
      rw [today_initNewDay, today_initNewDay]
      have fullConfig : (if full.curDayDate = none then full else full.onDayClose).config = config := by
        split <;> exact fullValid
      have shortConfig : (if short.curDayDate = none then short else short.onDayClose).config = config := by
        split <;> exact shortValid
      rw [fullConfig, shortConfig]
    · intro later
      obtain ⟨sameToday, opened⟩ := agrees.sameToday (by omega)
      have sameDay : full.curDayDate = short.curDayDate := congrArg (·.curDayDate) sameToday
      rw [if_neg opened, if_neg (sameDay ▸ opened)]
      obtain ⟨sameClose, sameRange, sameBefore, _⟩ := onDayClose_congr sameToday
      exact ⟨sameClose, sameRange, sameBefore⟩
    · intro later
      obtain ⟨sameToday, opened⟩ := agrees.sameToday (by omega)
      have sameDay : full.curDayDate = short.curDayDate := congrArg (·.curDayDate) sameToday
      rw [if_neg opened, if_neg (sameDay ▸ opened)]
      exact (onDayClose_congr sameToday).2.2.2 (agrees.sameYesterday (by omega)).2.2

end IntradayBreakoutEngine

namespace High180MrEngine

variable {Value : Type} [F64 Value]

/-- The engine keeps nothing but its day. -/
theorem forgetting (config : High180MrConfig Value) :
    Forgetting (fun (engine : High180MrEngine Value) (row : LocalBar Value) => engine.onBar row.dt row.bar.h row.bar.l)
      LocalBar.date
      (·.currentDay) (·.config = config) (fun _ => True) (fun degree full short => 1 ≤ degree → full = short) where
  keeps := by
    intro state row valid _
    unfold onBar
    split <;> exact valid
  onDay := by
    intro state row _ _
    unfold onBar
    split
    case isTrue => rfl
    case isFalse onDay => exact not_not.1 onDay
  within := by
    intro degree full short row _ _ _ agrees _ _ begun
    rw [agrees begun]
  opening := by
    intro degree full short row fullValid shortValid _ _ fullDay shortDay _
    have fullOther : full.currentDay ≠ some row.dt.date := fullDay
    have shortOther : short.currentDay ≠ some row.dt.date := shortDay
    unfold onBar
    rw [if_pos fullOther, if_pos shortOther, fullValid, shortValid]

end High180MrEngine

namespace HybridIntradayRuntimeStrategy

open LocalBar

variable {Value : Type} [F64 Value]

def warmUpRow (warmup : HybridIntradayRuntimeStrategy Value) (row : LocalBar Value) :
    HybridIntradayRuntimeStrategy Value :=
  let aggregated := warmup.updateDayAggregates row.dt row.bar.h row.bar.l
  let warmed :=
    if aggregated.usesHigh180Mr then
      { aggregated with
        high180Mr := aggregated.high180Mr.onBar row.dt row.bar.h row.bar.l
        riskGateShadowMr := aggregated.riskGateShadowMr.onBar row.dt row.bar.h row.bar.l }
    else aggregated
  { warmed with
    orchestrator := { warmed.orchestrator with
      intradayBreakout :=
        warmed.orchestrator.intradayBreakout.onBar row.dt row.bar.o row.bar.h row.bar.l row.bar.close }
    lastBarClose := some row.bar.close
    lastProcessedBarTs := some row.bar.closeTimeUtc }

section Row

variable (warmup : HybridIntradayRuntimeStrategy Value) (row : LocalBar Value)

/-- What neither the days nor the engines of the mean reversion touch, a row changes in the breakout alone. -/
theorem warmUpRow_read {Read : Type} (read : HybridIntradayRuntimeStrategy Value → Read)
    (blindDays : ∀ state day high low close range ready, read { state with
      lastDayLocal := day
      currentDayHigh := high
      currentDayLow := low
      prevDayClose := close
      prevDayRange := range
      entryReady := ready } = read state)
    (blind : ∀ state high180 shadow engine close last, read { state with
      high180Mr := high180
      riskGateShadowMr := shadow
      orchestrator := { state.orchestrator with intradayBreakout := engine }
      lastBarClose := close
      lastProcessedBarTs := last } = read state) : read (warmUpRow warmup row) = read warmup := by
  have aggregated := @updateDayAggregates_read Value _ warmup Read read blindDays row.dt row.bar.h row.bar.l
  unfold warmUpRow
  dsimp only
  rw [← aggregated]
  split
  case isTrue => exact blind (warmup.updateDayAggregates row.dt row.bar.h row.bar.l) _ _ _ _ _
  case isFalse =>
    exact blind (warmup.updateDayAggregates row.dt row.bar.h row.bar.l)
      (warmup.updateDayAggregates row.dt row.bar.h row.bar.l).high180Mr
      (warmup.updateDayAggregates row.dt row.bar.h row.bar.l).riskGateShadowMr _ _ _

@[simp] theorem warmUpRow_config : (warmUpRow warmup row).config = warmup.config :=
  warmUpRow_read warmup row (·.config) (fun _ _ _ _ _ _ _ => rfl) (fun _ _ _ _ _ _ => rfl)

theorem warmUpRow_days :
    (warmUpRow warmup row).days = (warmup.updateDayAggregates row.dt row.bar.h row.bar.l).days := by
  unfold warmUpRow
  dsimp only
  split <;> rfl

theorem warmUpRow_engine : (warmUpRow warmup row).orchestrator.intradayBreakout =
    warmup.orchestrator.intradayBreakout.onBar row.dt row.bar.o row.bar.h row.bar.l row.bar.close := by
  have same : (warmup.updateDayAggregates row.dt row.bar.h row.bar.l).orchestrator = warmup.orchestrator :=
    updateDayAggregates_read (·.orchestrator) (fun _ _ _ _ _ _ _ => rfl) row.dt row.bar.h row.bar.l
  unfold warmUpRow
  dsimp only
  split
  case isTrue => rw [same]
  case isFalse => rw [same]

theorem warmUpRow_high180Mr : (warmUpRow warmup row).high180Mr =
    if warmup.usesHigh180Mr then warmup.high180Mr.onBar row.dt row.bar.h row.bar.l else warmup.high180Mr := by
  have same : (warmup.updateDayAggregates row.dt row.bar.h row.bar.l).high180Mr = warmup.high180Mr :=
    updateDayAggregates_read (·.high180Mr) (fun _ _ _ _ _ _ _ => rfl) row.dt row.bar.h row.bar.l
  have uses : (warmup.updateDayAggregates row.dt row.bar.h row.bar.l).usesHigh180Mr = warmup.usesHigh180Mr :=
    updateDayAggregates_read (·.usesHigh180Mr) (fun _ _ _ _ _ _ _ => rfl) row.dt row.bar.h row.bar.l
  unfold warmUpRow
  dsimp only
  rw [uses]
  split
  case isTrue => rw [same]
  case isFalse => exact same

theorem warmUpRow_riskGateShadowMr : (warmUpRow warmup row).riskGateShadowMr =
    if warmup.usesHigh180Mr then warmup.riskGateShadowMr.onBar row.dt row.bar.h row.bar.l
    else warmup.riskGateShadowMr := by
  have same : (warmup.updateDayAggregates row.dt row.bar.h row.bar.l).riskGateShadowMr = warmup.riskGateShadowMr :=
    updateDayAggregates_read (·.riskGateShadowMr) (fun _ _ _ _ _ _ _ => rfl) row.dt row.bar.h row.bar.l
  have uses : (warmup.updateDayAggregates row.dt row.bar.h row.bar.l).usesHigh180Mr = warmup.usesHigh180Mr :=
    updateDayAggregates_read (·.usesHigh180Mr) (fun _ _ _ _ _ _ _ => rfl) row.dt row.bar.h row.bar.l
  unfold warmUpRow
  dsimp only
  rw [uses]
  split
  case isTrue => rw [same]
  case isFalse => exact same

end Row

section DayMemory

variable {full short : HybridIntradayRuntimeStrategy Value} {row : LocalBar Value}

structure DaysAgree (degree : Nat) (full short : HybridIntradayRuntimeStrategy Value) : Prop where
  sameToday : 1 ≤ degree → full.lastDayLocal = short.lastDayLocal ∧ full.currentDayHigh = short.currentDayHigh ∧
    full.currentDayLow = short.currentDayLow ∧ full.lastBarClose = short.lastBarClose
  opened : 1 ≤ degree →
    full.lastDayLocal ≠ none ∧ ∃ high low, full.currentDayHigh = some high ∧ full.currentDayLow = some low
  sameYesterday : 2 ≤ degree → full.prevDayClose = short.prevDayClose ∧ full.prevDayRange = short.prevDayRange

theorem warmUpRow_days_within (onDay : full.lastDayLocal = some row.date) :
    (warmUpRow full row).days = { full.days with
      currentDayHigh := some (F64.maxOf (full.currentDayHigh.getD row.bar.h) row.bar.h)
      currentDayLow := some (F64.minOf (full.currentDayLow.getD row.bar.l) row.bar.l) } := by
  have today : row.date = row.dt.date := rfl
  rw [warmUpRow_days]
  unfold updateDayAggregates
  rw [onDay]
  dsimp only
  rw [if_pos today]
  unfold days
  rw [onDay]

theorem warmUpRow_days_opening (elsewhere : full.lastDayLocal ≠ some row.date) :
    (warmUpRow full row).days = {
      lastDayLocal := some row.date
      currentDayHigh := some row.bar.h
      currentDayLow := some row.bar.l
      prevDayClose := if full.lastDayLocal = none then full.prevDayClose else full.lastBarClose
      prevDayRange :=
        if full.lastDayLocal = none then full.prevDayRange
        else
          match full.currentDayHigh, full.currentDayLow with
          | some dayHigh, some dayLow => some (F64.maxOf (dayHigh - dayLow) F64.zero)
          | _, _ => full.prevDayRange } := by
  rw [warmUpRow_days]
  unfold updateDayAggregates
  cases current : full.lastDayLocal with
  | none =>
      rw [if_pos rfl, if_pos rfl]
      rfl
  | some day =>
      dsimp only
      rw [if_neg fun same => elsewhere (by rw [current, same]; rfl), if_neg (Option.some_ne_none day),
        if_neg (Option.some_ne_none day)]
      rfl

theorem days_forgetting :
    Forgetting (@warmUpRow Value _) LocalBar.date (·.lastDayLocal) (fun _ => True) (fun _ => True)
      DaysAgree where
  keeps := fun _ _ => trivial
  onDay := by
    intro state row _ _
    have days : (warmUpRow state row).days.lastDayLocal = some row.date := by
      by_cases onDay : state.lastDayLocal = some row.date
      · rw [warmUpRow_days_within onDay]
        exact onDay
      · rw [warmUpRow_days_opening onDay]
    exact days
  within := by
    intro degree full short row _ _ _ agrees fullDay shortDay
    have fullDays := warmUpRow_days_within fullDay
    have shortDays := warmUpRow_days_within shortDay
    refine ⟨fun begun => ?_, fun _ => ?_, fun later => ?_⟩
    · obtain ⟨sameDay, sameHigh, sameLow, _⟩ := agrees.sameToday begun
      refine ⟨?_, ?_, ?_, rfl⟩
      · exact (congrArg Days.lastDayLocal fullDays).trans (sameDay.trans (congrArg Days.lastDayLocal shortDays).symm)
      · refine (congrArg Days.currentDayHigh fullDays).trans (.trans ?_ (congrArg Days.currentDayHigh shortDays).symm)
        dsimp only
        rw [sameHigh]
      · refine (congrArg Days.currentDayLow fullDays).trans (.trans ?_ (congrArg Days.currentDayLow shortDays).symm)
        dsimp only
        rw [sameLow]
    · refine ⟨?_, _, _, congrArg Days.currentDayHigh fullDays, congrArg Days.currentDayLow fullDays⟩
      have onDay : (warmUpRow full row).lastDayLocal = full.lastDayLocal := congrArg Days.lastDayLocal fullDays
      rw [onDay, fullDay]
      exact Option.some_ne_none _
    · obtain ⟨sameClose, sameRange⟩ := agrees.sameYesterday later
      exact ⟨(congrArg Days.prevDayClose fullDays).trans (sameClose.trans (congrArg Days.prevDayClose shortDays).symm),
        (congrArg Days.prevDayRange fullDays).trans (sameRange.trans (congrArg Days.prevDayRange shortDays).symm)⟩
  opening := by
    intro degree full short row _ _ _ agrees fullDay shortDay
    have fullDays := warmUpRow_days_opening fullDay
    have shortDays := warmUpRow_days_opening shortDay
    refine ⟨fun _ => ?_, fun _ => ?_, fun later => ?_⟩
    · exact ⟨(congrArg Days.lastDayLocal fullDays).trans (congrArg Days.lastDayLocal shortDays).symm,
        (congrArg Days.currentDayHigh fullDays).trans (congrArg Days.currentDayHigh shortDays).symm,
        (congrArg Days.currentDayLow fullDays).trans (congrArg Days.currentDayLow shortDays).symm, rfl⟩
    · refine ⟨?_, _, _, congrArg Days.currentDayHigh fullDays, congrArg Days.currentDayLow fullDays⟩
      have onDay : (warmUpRow full row).lastDayLocal = some row.date := congrArg Days.lastDayLocal fullDays
      rw [onDay]
      exact Option.some_ne_none _
    · have begun : 1 ≤ degree := by omega
      obtain ⟨sameDay, sameHigh, sameLow, sameClose⟩ := agrees.sameToday begun
      obtain ⟨opened, high, low, isHigh, isLow⟩ := agrees.opened begun
      have closed : (warmUpRow full row).prevDayClose = full.lastBarClose := by
        refine (congrArg Days.prevDayClose fullDays).trans ?_
        exact if_neg opened
      have shortClosed : (warmUpRow short row).prevDayClose = short.lastBarClose := by
        refine (congrArg Days.prevDayClose shortDays).trans ?_
        exact if_neg (sameDay ▸ opened)
      have ranged : (warmUpRow full row).prevDayRange = some (F64.maxOf (high - low) F64.zero) := by
        refine (congrArg Days.prevDayRange fullDays).trans ?_
        dsimp only
        rw [if_neg opened, isHigh, isLow]
      have shortRanged : (warmUpRow short row).prevDayRange = some (F64.maxOf (high - low) F64.zero) := by
        refine (congrArg Days.prevDayRange shortDays).trans ?_
        dsimp only
        rw [if_neg (sameDay ▸ opened), ← sameHigh, ← sameLow, isHigh, isLow]
      exact ⟨closed.trans (sameClose.trans shortClosed.symm), ranged.trans shortRanged.symm⟩

end DayMemory

section History

variable {config : HybridIntradayRuntimeConfig Value} {warmup : HybridIntradayRuntimeStrategy Value}
variable {bar : BarEvent Value} {processed : Nat}

theorem historyBar_eq (warmup : HybridIntradayRuntimeStrategy Value) (bar : BarEvent Value) :
    historyBar warmup.config bar =
      if bar.symbol ≠ warmup.config.symbol then none
      else
        match warmup.utcToLocalNaive bar.closeTimeUtc with
        | none => none
        | some dt =>
            if warmup.suppressWeekendSignalGeneration dt ∨ warmup.suppressNonModelSessionBar dt then none
            else some { dt := dt, bar := bar } := by
  have localTime : (new warmup.config).utcToLocalNaive bar.closeTimeUtc = warmup.utcToLocalNaive bar.closeTimeUtc :=
    utcToLocalNaive_congr rfl _
  unfold historyBar sessionBar
  rw [localTime]
  cases warmup.utcToLocalNaive bar.closeTimeUtc with
  | none => rfl
  | some dt => rfl

/-- A bar is passed over, or it is a row that is learnt from. -/
theorem warmUpBar_eq (warmup : HybridIntradayRuntimeStrategy Value) (processed : Nat) (bar : BarEvent Value) :
    (historyBar warmup.config bar = none ∧
        ∃ last, warmUpBar (warmup, processed) bar = ({ warmup with lastProcessedBarTs := last }, processed)) ∨
      ∃ row, historyBar warmup.config bar = some row ∧
        warmUpBar (warmup, processed) bar = (warmUpRow warmup row, processed + 1) := by
  rw [historyBar_eq]
  unfold warmUpBar
  dsimp only
  by_cases other : bar.symbol ≠ warmup.config.symbol
  · rw [if_pos other, if_pos other]
    exact .inl ⟨rfl, warmup.lastProcessedBarTs, rfl⟩
  · rw [if_neg other, if_neg other]
    cases warmup.utcToLocalNaive bar.closeTimeUtc with
    | none => exact .inl ⟨rfl, warmup.lastProcessedBarTs, rfl⟩
    | some dt =>
        dsimp only
        by_cases suppressed : warmup.suppressWeekendSignalGeneration dt ∨ warmup.suppressNonModelSessionBar dt
        · rw [if_pos suppressed, if_pos suppressed]
          exact .inl ⟨rfl, some bar.closeTimeUtc, rfl⟩
        · rw [if_neg suppressed, if_neg suppressed]
          exact .inr ⟨{ dt := dt, bar := bar }, rfl, rfl⟩

theorem warmUpRow_lastProcessedBarTs (last : Option Int) (row : LocalBar Value) :
    warmUpRow { warmup with lastProcessedBarTs := last } row = warmUpRow warmup row := by
  have aggregated : updateDayAggregates { warmup with lastProcessedBarTs := last } row.dt row.bar.h row.bar.l =
      { warmup.updateDayAggregates row.dt row.bar.h row.bar.l with lastProcessedBarTs := last } := by
    unfold updateDayAggregates
    cases warmup.lastDayLocal with
    | none => rfl
    | some day =>
        dsimp only
        split <;> rfl
  unfold warmUpRow
  rw [aggregated]
  generalize warmup.updateDayAggregates row.dt row.bar.h row.bar.l = known
  have sameUse : usesHigh180Mr { known with lastProcessedBarTs := last } = known.usesHigh180Mr := rfl
  dsimp only
  rw [sameUse]
  split <;> rfl

theorem warmUpRow_foldl_config (rows : List (LocalBar Value)) (start : HybridIntradayRuntimeStrategy Value) :
    (rows.foldl warmUpRow start).config = start.config := by
  induction rows generalizing start with
  | nil => rfl
  | cons row rest ih =>
      rw [List.foldl_cons, ih, warmUpRow_config]

/-- The bars of a history are learnt from as their rows. -/
theorem foldl_warmUpBar (bars : List (BarEvent Value)) (start : HybridIntradayRuntimeStrategy Value) :
    ∃ last, bars.foldl warmUpBar (start, 0) =
      ({ (bars.filterMap (historyBar start.config)).foldl warmUpRow start with lastProcessedBarTs := last },
        (bars.filterMap (historyBar start.config)).length) := by
  induction bars using List.reverseRecOn with
  | nil => exact ⟨start.lastProcessedBarTs, rfl⟩
  | append_singleton bars bar ih =>
      obtain ⟨last, walked⟩ := ih
      rw [List.foldl_concat, walked, List.filterMap_append]
      rcases warmUpBar_eq { (bars.filterMap (historyBar start.config)).foldl warmUpRow start with
        lastProcessedBarTs := last } (bars.filterMap (historyBar start.config)).length bar with
        ⟨idle, last, passed⟩ | ⟨row, learnt, passed⟩
      · have idle' : historyBar start.config bar = none := by
          rw [← idle]
          exact congrArg (historyBar · bar) (warmUpRow_foldl_config _ start).symm
        refine ⟨last, passed.trans ?_⟩
        rw [List.filterMap_cons_none idle', List.filterMap_nil, List.append_nil]
      · have learnt' : historyBar start.config bar = some row := by
          rw [← learnt]
          exact congrArg (historyBar · bar) (warmUpRow_foldl_config _ start).symm
        refine ⟨some row.bar.closeTimeUtc, passed.trans ?_⟩
        rw [List.filterMap_cons_some learnt', List.filterMap_nil, List.foldl_concat, List.length_append,
          warmUpRow_lastProcessedBarTs]
        rfl

/-! ### The warmed strategies -/

def behind (config : HybridIntradayRuntimeConfig Value) (rows : List (LocalBar Value)) :
    HybridIntradayRuntimeStrategy Value :=
  rows.foldl warmUpRow (new config)

theorem behind_engine (rows : List (LocalBar Value)) : (behind config rows).orchestrator.intradayBreakout =
    rows.foldl (fun engine row => engine.onBar row.dt row.bar.o row.bar.h row.bar.l row.bar.close)
      (.new config.breakoutConfig) :=
  (List.foldl_hom (fun state : HybridIntradayRuntimeStrategy Value => state.orchestrator.intradayBreakout)
    fun state row => (warmUpRow_engine state row).symm).symm

def onRow (config : HybridIntradayRuntimeConfig Value) (engine : High180MrEngine Value) (row : LocalBar Value) :
    High180MrEngine Value :=
  if (new config).usesHigh180Mr then engine.onBar row.dt row.bar.h row.bar.l else engine

theorem foldl_high180 (rows : List (LocalBar Value)) {start : HybridIntradayRuntimeStrategy Value}
    (sameConfig : start.config = config) :
    (rows.foldl warmUpRow start).high180Mr = rows.foldl (onRow config) start.high180Mr ∧
      (rows.foldl warmUpRow start).riskGateShadowMr = rows.foldl (onRow config) start.riskGateShadowMr := by
  induction rows generalizing start with
  | nil => exact ⟨rfl, rfl⟩
  | cons row rest ih =>
      have sameUse : start.usesHigh180Mr = (new config).usesHigh180Mr := by
        unfold usesHigh180Mr
        rw [sameConfig]
        rfl
      have next := ih ((warmUpRow_config start row).trans sameConfig)
      rw [warmUpRow_high180Mr, warmUpRow_riskGateShadowMr, sameUse] at next
      exact next

section Rows

variable {before rows : List (LocalBar Value)}

theorem high180_forgotten (apart : ∀ earlier ∈ before, ∀ later ∈ rows, earlier.date ≠ later.date)
    (enough : 3 ≤ dayCount LocalBar.date rows) (engine : High180MrEngine Value) (unopened : engine.currentDay = none) :
    (before ++ rows).foldl (onRow config) engine = rows.foldl (onRow config) engine := by
  unfold onRow
  cases uses : (new config).usesHigh180Mr with
  | false =>
      simp only [Bool.false_eq_true, if_false, List.foldl_const]
      have keeps : ∀ count, (fun engine : High180MrEngine Value => engine)^[count] engine = engine :=
        fun count => Function.iterate_fixed rfl count
      rw [keeps, keeps]
  | true =>
      simp only [if_true]
      obtain ⟨degree, days, agreed⟩ := foldl_append_agrees (High180MrEngine.forgetting engine.config)
        (fun _ _ => trivial) (fun _ _ => trivial) rfl unopened apart (fun begun => absurd begun (by omega))
      exact agreed (by omega)

theorem engine_forgotten (apart : ∀ earlier ∈ before, ∀ later ∈ rows, earlier.date ≠ later.date)
    (enough : 3 ≤ dayCount LocalBar.date rows)
    (counted : ∀ row ∈ before ++ rows, IntradayBreakoutEngine.countsDay config.breakoutConfig row.date) :
    (behind config (before ++ rows)).orchestrator.intradayBreakout =
      (behind config rows).orchestrator.intradayBreakout := by
  rw [behind_engine, behind_engine]
  obtain ⟨degree, days, agreed⟩ := foldl_append_agrees (IntradayBreakoutEngine.forgetting config.breakoutConfig)
    (fun row member => counted row (List.mem_append_left _ member))
    (fun row member => counted row (List.mem_append_right _ member))
    (rfl : (IntradayBreakoutEngine.new config.breakoutConfig).config = config.breakoutConfig) rfl apart
    ⟨fun begun => absurd begun (by omega), fun begun => absurd begun (by omega),
      fun begun => absurd begun (by omega)⟩
  exact agreed.eq (by omega)

theorem days_forgotten (apart : ∀ earlier ∈ before, ∀ later ∈ rows, earlier.date ≠ later.date)
    (enough : 3 ≤ dayCount LocalBar.date rows) :
    (behind config (before ++ rows)).days = (behind config rows).days ∧
      (behind config (before ++ rows)).lastBarClose = (behind config rows).lastBarClose := by
  obtain ⟨degree, count, agreed⟩ := foldl_append_agrees days_forgetting (fun _ _ => trivial) (fun _ _ => trivial)
    trivial (rfl : (new config).lastDayLocal = none) apart
    ⟨fun begun => absurd begun (by omega), fun begun => absurd begun (by omega), fun begun => absurd begun (by omega)⟩
  obtain ⟨sameDay, sameHigh, sameLow, sameClose⟩ := agreed.sameToday (by omega)
  obtain ⟨samePrevClose, samePrevRange⟩ := agreed.sameYesterday (by omega)
  refine ⟨?_, sameClose⟩
  unfold days
  rw [Days.mk.injEq]
  exact ⟨sameDay, sameHigh, sameLow, samePrevClose, samePrevRange⟩

end Rows

end History

def sessionDay (config : HybridIntradayRuntimeConfig Value) (bar : BarEvent Value) : Option NaiveDate :=
  if bar.symbol ≠ config.symbol then none else ((new config).utcToLocalNaive bar.closeTimeUtc).map (·.date)

/-- The working days with a bar of the model session, but for the last day that is present. -/
def completeSessions (config : HybridIntradayRuntimeConfig Value) (bars : List (BarEvent Value)) : List NaiveDate :=
  ((bars.filterMap (historyBar config)).map LocalBar.date).dedup.filter fun day =>
    isWeekend day = false ∧ (bars.filterMap (sessionDay config)).getLast? ≠ some day

def answers (ids : RequestIds) : HybridIntradayRuntimeStrategy Value → List (Callback Value) →
    List (List (Intent Value))
  | _, [] => []
  | strategy, callback :: rest => strategy.returned ids callback :: answers ids (strategy.after ids callback) rest

section Warmed

variable {config : HybridIntradayRuntimeConfig Value}

/-- A row is of the symbol, has its local time, and is no weekend's where weekends are off. -/
theorem historyBar_some {bar : BarEvent Value} {row : LocalBar Value} (learnt : historyBar config bar = some row) :
    bar.symbol = config.symbol ∧ (new config).utcToLocalNaive bar.closeTimeUtc = some row.dt ∧
      (config.weekendsOff = true → isWeekend row.date = false) := by
  have known : some row = _ := learnt.symm.trans (historyBar_eq (new config) bar)
  split at known
  case isTrue => cases known
  case isFalse ours =>
    split at known
    case h_1 => cases known
    case h_2 dt localTime =>
      split at known
      case isTrue => cases known
      case isFalse kept =>
        have sameRow := Option.some.inj known
        subst sameRow
        refine ⟨not_not.1 ours, localTime, fun off => ?_⟩
        have working := Bool.eq_false_of_not_eq_true fun suppressed => kept (.inl suppressed)
        change (config.weekendsOff && isWeekend dt.date) = false at working
        rw [off, Bool.true_and] at working
        exact working

theorem historyBar_sessionDay {bar : BarEvent Value} {row : LocalBar Value} (learnt : historyBar config bar = some row) :
    sessionDay config bar = some row.date := by
  obtain ⟨ours, localTime, _⟩ := historyBar_some learnt
  unfold sessionDay
  rw [if_neg (not_not.2 ours), localTime]
  rfl

theorem historyBar_counted {bar : BarEvent Value} {row : LocalBar Value}
    (sameWeekends : config.weekendsOff = config.breakoutConfig.excludeWeekends)
    (learnt : historyBar config bar = some row) :
    IntradayBreakoutEngine.countsDay config.breakoutConfig row.date := by
  rintro ⟨excluded, weekend⟩
  have working := (historyBar_some learnt).2.2 (sameWeekends.trans excluded)
  exact absurd (working.symm.trans weekend) Bool.false_ne_true

theorem dayCount_le {bars : List (BarEvent Value)} :
    (completeSessions config bars).length ≤ dayCount LocalBar.date (bars.filterMap (historyBar config)) :=
  List.length_filter_le _ _

/-- The warm-up, told by the state behind the rows of the history. -/
theorem warmupFromHistory_eq (strategy : HybridIntradayRuntimeStrategy Value) (bars : List (BarEvent Value))
    (learns : bars.filterMap (historyBar strategy.config) ≠ []) :
    (strategy.warmupFromHistory bars).1 =
      let warmup := behind strategy.config (bars.filterMap (historyBar strategy.config))
      let warmed := { strategy with
        lastBarClose := warmup.lastBarClose
        prevDayClose := warmup.days.prevDayClose
        lastDayLocal := warmup.days.lastDayLocal
        currentDayHigh := warmup.days.currentDayHigh
        currentDayLow := warmup.days.currentDayLow
        prevDayRange := warmup.days.prevDayRange
        high180Mr := warmup.high180Mr
        riskGateShadowMr := warmup.riskGateShadowMr
        orchestrator := { strategy.orchestrator with
          intradayBreakout := strategy.orchestrator.intradayBreakout.restoreSnapshot
            warmup.orchestrator.intradayBreakout.snapshot } }
      { warmed with entryReady := warmed.signalsWarmed } := by
  obtain ⟨last, walked⟩ := foldl_warmUpBar bars (new strategy.config)
  have some : (bars.filterMap (historyBar (new strategy.config).config)).length ≠ 0 :=
    fun none => learns (List.length_eq_zero_iff.1 none)
  unfold warmupFromHistory
  rw [walked]
  dsimp only
  rw [if_neg some]
  rfl

/-- From the sessions behind a cut a strategy learns all that it keeps of the whole history. -/
theorem warmupFromHistory_forgets (strategy : HybridIntradayRuntimeStrategy Value) {before suffix : List (BarEvent Value)}
    (sameWeekends : strategy.config.weekendsOff = strategy.config.breakoutConfig.excludeWeekends)
    (atBoundary : ∀ earlier ∈ before, ∀ later ∈ suffix, ∀ day,
      sessionDay strategy.config earlier = some day → sessionDay strategy.config later ≠ some day)
    (enough : 3 ≤ (completeSessions strategy.config suffix).length) :
    (strategy.warmupFromHistory suffix).1 = (strategy.warmupFromHistory (before ++ suffix)).1 := by
  have days : 3 ≤ dayCount LocalBar.date (suffix.filterMap (historyBar strategy.config)) := enough.trans dayCount_le
  have learns : suffix.filterMap (historyBar strategy.config) ≠ [] := by
    intro none
    rw [none] at days
    exact absurd days (by simp [dayCount])
  have apart : ∀ earlier ∈ before.filterMap (historyBar strategy.config),
      ∀ later ∈ suffix.filterMap (historyBar strategy.config), earlier.date ≠ later.date := by
    intro earlier earlierIn later laterIn same
    obtain ⟨earlierBar, earlierBarIn, earlierLearnt⟩ := List.mem_filterMap.1 earlierIn
    obtain ⟨laterBar, laterBarIn, laterLearnt⟩ := List.mem_filterMap.1 laterIn
    exact atBoundary earlierBar earlierBarIn laterBar laterBarIn earlier.date (historyBar_sessionDay earlierLearnt)
      (same ▸ historyBar_sessionDay laterLearnt)
  have counted : ∀ row ∈ before.filterMap (historyBar strategy.config) ++ suffix.filterMap (historyBar strategy.config),
      IntradayBreakoutEngine.countsDay strategy.config.breakoutConfig row.date := by
    intro row member
    rw [← List.filterMap_append] at member
    obtain ⟨bar, _, learnt⟩ := List.mem_filterMap.1 member
    exact historyBar_counted sameWeekends learnt
  have joined : (before ++ suffix).filterMap (historyBar strategy.config) =
      before.filterMap (historyBar strategy.config) ++ suffix.filterMap (historyBar strategy.config) :=
    List.filterMap_append
  have learnsAll : (before ++ suffix).filterMap (historyBar strategy.config) ≠ [] := by
    rw [joined]
    exact List.append_ne_nil_of_right_ne_nil _ learns
  have sameEngine := engine_forgotten apart days counted
  obtain ⟨sameDays, sameClose⟩ := @days_forgotten _ _ strategy.config _ _ apart days
  have sameHigh180 : (behind strategy.config (before.filterMap (historyBar strategy.config) ++
      suffix.filterMap (historyBar strategy.config))).high180Mr =
      (behind strategy.config (suffix.filterMap (historyBar strategy.config))).high180Mr :=
    (foldl_high180 _ rfl).1.trans ((high180_forgotten apart days _ rfl).trans (foldl_high180 _ rfl).1.symm)
  have sameShadow : (behind strategy.config (before.filterMap (historyBar strategy.config) ++
      suffix.filterMap (historyBar strategy.config))).riskGateShadowMr =
      (behind strategy.config (suffix.filterMap (historyBar strategy.config))).riskGateShadowMr :=
    (foldl_high180 _ rfl).2.trans ((high180_forgotten apart days _ rfl).trans (foldl_high180 _ rfl).2.symm)
  rw [warmupFromHistory_eq strategy suffix learns, warmupFromHistory_eq strategy _ learnsAll, joined]
  dsimp only
  rw [sameEngine, sameDays, sameClose, sameHigh180, sameShadow]

end Warmed

/-- A short warm-up is as good as the full one: the strategies know the same, and answer the same from then on. -/
theorem short_warm_up (ids : RequestIds) (strategy : HybridIntradayRuntimeStrategy Value)
    (before suffix : List (BarEvent Value))
    (sameWeekends : strategy.config.weekendsOff = strategy.config.breakoutConfig.excludeWeekends)
    (atBoundary : ∀ earlier ∈ before, ∀ later ∈ suffix, ∀ day,
      sessionDay strategy.config earlier = some day → sessionDay strategy.config later ≠ some day)
    (enough : 3 ≤ (completeSessions strategy.config suffix).length) :
    let short := (strategy.warmupFromHistory suffix).1
    let full := (strategy.warmupFromHistory (before ++ suffix)).1
    short.orchestrator.intradayBreakout.snapshot = full.orchestrator.intradayBreakout.snapshot ∧
      short.prevDayClose = full.prevDayClose ∧ short.prevDayRange = full.prevDayRange ∧
      short.lastDayLocal = full.lastDayLocal ∧ short.currentDayHigh = full.currentDayHigh ∧
      short.currentDayLow = full.currentDayLow ∧ short.entryReady = full.entryReady ∧
      ∀ callbacks, answers ids short callbacks = answers ids full callbacks := by
  intro short full
  have same : short = full := warmupFromHistory_forgets strategy sameWeekends atBoundary enough
  rw [same]
  exact ⟨rfl, rfl, rfl, rfl, rfl, rfl, rfl, fun _ => rfl⟩

def breakoutOnlyConfig : HybridIntradayRuntimeConfig Float :=
  { sampleConfig Float with liveMrEntriesEnabled := false }

def weekBar (day : Int) : BarEvent Float :=
  flatBar 100.0 (day * 86400 + 36000)

theorem weekBar_apart : ∀ later ∈ [weekBar 5, weekBar 6, weekBar 7, weekBar 8],
    sessionDay breakoutOnlyConfig (weekBar 4) ≠ sessionDay breakoutOnlyConfig later := by
  decide

/-- Of the five days of a week the last four are enough. -/
theorem short_warm_up_week :
    answers sampleIds ((new breakoutOnlyConfig).warmupFromHistory [weekBar 5, weekBar 6, weekBar 7, weekBar 8]).1
        [.bar (sampleCtx .paper none 813600) (weekBar 11)] =
      answers sampleIds ((new breakoutOnlyConfig).warmupFromHistory
          ([weekBar 4] ++ [weekBar 5, weekBar 6, weekBar 7, weekBar 8])).1
        [.bar (sampleCtx .paper none 813600) (weekBar 11)] :=
  (short_warm_up sampleIds (new breakoutOnlyConfig) [weekBar 4] [weekBar 5, weekBar 6, weekBar 7, weekBar 8] rfl
    (by
      intro earlier earlierIn later laterIn day earlierDay laterDay
      have same := earlierDay.trans laterDay.symm
      rw [List.mem_singleton.1 earlierIn] at same
      exact weekBar_apart later laterIn same) (by decide)).2.2.2.2.2.2.2 _

end HybridIntradayRuntimeStrategy

end TradingGateway.HybridIntraday
