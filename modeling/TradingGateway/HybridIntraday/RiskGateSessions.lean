import TradingGateway.HybridIntraday.RiskGateHistory
import TradingGateway.HybridIntraday.SampleStrategy

/-! The sessions of the risk gate: one for each working day on which a bar was learnt from, with the profit
and the trades of a shadow that starts anew on that day. -/

set_option autoImplicit false

namespace TradingGateway.HybridIntraday

open BrokerCore.Orders Foundation.ExceptRun Foundation.MachineNumbers

structure LocalBar (Value : Type) where
  dt : NaiveDateTime
  bar : BarEvent Value

theorem date_ext {first second : NaiveDate} (same : first.day = second.day) : first = second := by
  cases first
  cases second
  exact congrArg NaiveDate.mk same

namespace LocalBar

variable {Value : Type}

def date (row : LocalBar Value) : NaiveDate := row.dt.date

section Days

variable (rows : List (LocalBar Value)) (day : NaiveDate)

def barsOn : List (LocalBar Value) := rows.filter fun row => row.date = day

def barsBefore : List (LocalBar Value) := rows.filter fun row => row.date.day < day.day

def closeBefore : Option Value := (barsBefore rows day).getLast?.map (·.bar.close)

variable [F64 Value]

def highest : List (LocalBar Value) → Option Value
  | [] => none
  | first :: rest => some (rest.foldl (fun high row => F64.maxOf high row.bar.h) first.bar.h)

def lowest : List (LocalBar Value) → Option Value
  | [] => none
  | first :: rest => some (rest.foldl (fun low row => F64.minOf low row.bar.l) first.bar.l)

def range : Option Value := do
  some (F64.maxOf ((← highest rows) - (← lowest rows)) F64.zero)

def rangeBefore : Option Value :=
  (barsBefore rows day).getLast?.bind fun last => range (barsOn rows last.date)

end Days

variable {rows : List (LocalBar Value)} {row last : LocalBar Value} {day later : NaiveDate}

theorem barsOn_concat_same : barsOn (rows ++ [row]) row.date = barsOn rows row.date ++ [row] := by
  simp [barsOn]

theorem barsOn_concat_other (other : row.date ≠ day) : barsOn (rows ++ [row]) day = barsOn rows day := by
  simp [barsOn, other]

theorem barsBefore_concat (notBefore : day.day ≤ row.date.day) : barsBefore (rows ++ [row]) day = barsBefore rows day := by
  have kept : ¬ row.date.day < day.day := by omega
  simp [barsBefore, kept]

/-- All bars lie before a day behind all of them. -/
theorem barsBefore_all (before : ∀ row ∈ rows, row.date.day < day.day) : barsBefore rows day = rows := by
  refine List.filter_eq_self.2 ?_
  intro row member
  exact decide_eq_true (before row member)

theorem barsOn_nil_of_before (before : ∀ row ∈ rows, row.date.day < day.day) : barsOn rows day = [] := by
  refine List.filter_eq_nil_iff.2 ?_
  intro row member
  rw [decide_eq_true_eq]
  intro same
  exact absurd (same ▸ before row member) (by omega)

theorem mem_barsBefore : row ∈ barsBefore rows day ↔ row ∈ rows ∧ row.date.day < day.day := by
  simp [barsBefore]

theorem barsOn_barsBefore (earlier : day.day < later.day) : barsOn (barsBefore rows later) day = barsOn rows day := by
  unfold barsOn barsBefore
  rw [List.filter_filter]
  refine List.filter_congr ?_
  intro row _
  by_cases same : row.date = day
  · simp [same, earlier]
  · simp [same]

theorem barsBefore_barsBefore (earlier : day.day ≤ later.day) :
    barsBefore (barsBefore rows later) day = barsBefore rows day := by
  unfold barsBefore
  rw [List.filter_filter]
  refine List.filter_congr ?_
  intro row _
  by_cases before : row.date.day < day.day
  · simp [before, show row.date.day < later.day by omega]
  · simp [before]

theorem closeBefore_barsBefore (earlier : day.day ≤ later.day) :
    closeBefore (barsBefore rows later) day = closeBefore rows day := by
  rw [closeBefore, closeBefore, barsBefore_barsBefore earlier]

theorem closeBefore_concat (notBefore : day.day ≤ row.date.day) : closeBefore (rows ++ [row]) day = closeBefore rows day := by
  rw [closeBefore, closeBefore, barsBefore_concat notBefore]

variable [F64 Value]

theorem rangeBefore_barsBefore (earlier : day.day ≤ later.day) :
    rangeBefore (barsBefore rows later) day = rangeBefore rows day := by
  rw [rangeBefore, rangeBefore, barsBefore_barsBefore earlier]
  refine Option.bind_congr ?_
  intro last found
  have before := (mem_barsBefore.1 (List.mem_of_getLast? found)).2
  rw [barsOn_barsBefore (by omega)]

theorem rangeBefore_concat (notBefore : day.day ≤ row.date.day) : rangeBefore (rows ++ [row]) day = rangeBefore rows day := by
  rw [rangeBefore, rangeBefore, barsBefore_concat notBefore]
  refine Option.bind_congr ?_
  intro last found
  have before := (mem_barsBefore.1 (List.mem_of_getLast? found)).2
  rw [barsOn_concat_other]
  intro same
  rw [same] at notBefore
  omega

theorem highest_concat {high : Value} (known : highest rows = some high) :
    highest (rows ++ [row]) = some (F64.maxOf high row.bar.h) := by
  cases rows with
  | nil => cases known
  | cons first rest =>
      cases known
      simp [highest]

theorem lowest_concat {low : Value} (known : lowest rows = some low) :
    lowest (rows ++ [row]) = some (F64.minOf low row.bar.l) := by
  cases rows with
  | nil => cases known
  | cons first rest =>
      cases known
      simp [lowest]

theorem exists_highest (nonempty : rows ≠ []) : ∃ high, highest rows = some high := by
  cases rows with
  | nil => exact absurd rfl nonempty
  | cons first rest => exact ⟨_, rfl⟩

theorem exists_lowest (nonempty : rows ≠ []) : ∃ low, lowest rows = some low := by
  cases rows with
  | nil => exact absurd rfl nonempty
  | cons first rest => exact ⟨_, rfl⟩

end LocalBar

namespace HybridIntradayRuntimeStrategy

open LocalBar

variable {Value : Type} [F64 Value]

def sessionBar (strategy : HybridIntradayRuntimeStrategy Value) (bar : BarEvent Value) : Option (LocalBar Value) := do
  let dt ← strategy.utcToLocalNaive bar.closeTimeUtc
  if strategy.suppressWeekendSignalGeneration dt ∨ strategy.suppressNonModelSessionBar dt then none
  else some { dt := dt, bar := bar }

def playShadow (closePrev dayRangePrev : Option Value) (shadow : HybridIntradayRuntimeStrategy Value)
    (row : LocalBar Value) : HybridIntradayRuntimeStrategy Value :=
  shadow.updateRiskGateShadow row.dt row.bar.closeTimeUtc row.bar.h row.bar.l row.bar.close
    (closePrev.getD row.bar.close) (dayRangePrev.getD F64.zero)

section Sessions

variable (config : HybridIntradayRuntimeConfig Value) (rows : List (LocalBar Value))

/-- The shadow that starts anew on a day and plays the bars of that day only. -/
def sessionShadow (day : NaiveDate) : HybridIntradayRuntimeStrategy Value :=
  (barsOn rows day).foldl (playShadow (closeBefore rows day) (rangeBefore rows day)) (new config)

def sessionFinalization (day : NaiveDate) : RiskGateSessionFinalization Value :=
  let shadow := sessionShadow config rows day
  { sessionDate := day
    shadowPnlPoints := shadow.riskGateShadowPnlPoints
    shadowTradeCount := shadow.riskGateShadowTradeCount }

/-- The working days that have a bar, each once and in their order, with their own accounts. -/
structure OnePerSession (finalizations : List (RiskGateSessionFinalization Value)) : Prop where
  inOrder : (finalizations.map (·.sessionDate)).Pairwise (·.day < ·.day)
  complete : ∀ day, day ∈ finalizations.map (·.sessionDate) ↔
    isWeekend day = false ∧ ∃ row ∈ rows, row.date = day
  accounted : ∀ finalization ∈ finalizations, finalization = sessionFinalization config rows finalization.sessionDate

end Sessions

section Parts

variable (strategy : HybridIntradayRuntimeStrategy Value)

def shadowAccount : HybridIntradayRuntimeStrategy Value :=
  { new strategy.config with
    riskGateShadowMr := strategy.riskGateShadowMr
    riskGateShadowSessionDate := strategy.riskGateShadowSessionDate
    riskGateShadowPnlPoints := strategy.riskGateShadowPnlPoints
    riskGateShadowTradeCount := strategy.riskGateShadowTradeCount
    riskGateShadowPosition := strategy.riskGateShadowPosition
    riskGateShadowOpen := strategy.riskGateShadowOpen }

def warmShadow (dt : NaiveDateTime) (high low : Value) : HybridIntradayRuntimeStrategy Value :=
  let rolled := strategy.rollRiskGateShadowSession dt.date
  { rolled with riskGateShadowMr := rolled.riskGateShadowMr.onBar dt high low }

variable {strategy}

theorem updateRiskGateShadow_eq (enabled : strategy.riskGateShadowEnabled = true) {close : Value}
    (priced : F64.equal close F64.zero = false) (dt : NaiveDateTime) (tsUtc : Int)
    (high low closePrev dayRangePrev : Value) :
    strategy.updateRiskGateShadow dt tsUtc high low close closePrev dayRangePrev =
      (strategy.warmShadow dt high low).tradeShadow dt tsUtc close closePrev dayRangePrev := by
  unfold updateRiskGateShadow
  rw [if_neg (by simp [enabled, priced])]
  rfl

variable (strategy)

theorem tradeShadow_shadowAccount (dt : NaiveDateTime) (tsUtc : Int) (close closePrev dayRangePrev : Value) :
    (strategy.tradeShadow dt tsUtc close closePrev dayRangePrev).shadowAccount =
      (strategy.shadowAccount.tradeShadow dt tsUtc close closePrev dayRangePrev).shadowAccount := by
  rw [tradeShadow, tradeShadow]
  have sameExit : strategy.shadowAccount.shadowExitPrice dt close = strategy.shadowExitPrice dt close := rfl
  have samePosition : strategy.shadowAccount.riskGateShadowPosition = strategy.riskGateShadowPosition := rfl
  have sameEngine : strategy.shadowAccount.riskGateShadowMr = strategy.riskGateShadowMr := rfl
  rw [sameExit, samePosition]
  split
  case h_1 => rfl
  case h_2 =>
    rw [openShadowPosition, openShadowPosition, samePosition, sameEngine]
    split <;> rfl

/-- What the accounts of a shadow do not show, its trades leave alone. -/
theorem tradeShadow_read {Read : Type} (read : HybridIntradayRuntimeStrategy Value → Read)
    (blind : ∀ state pnl count position held, read { state with
      riskGateShadowPnlPoints := pnl
      riskGateShadowTradeCount := count
      riskGateShadowPosition := position
      riskGateShadowOpen := held } = read state)
    (dt : NaiveDateTime) (tsUtc : Int) (close closePrev dayRangePrev : Value) :
    read (strategy.tradeShadow dt tsUtc close closePrev dayRangePrev) = read strategy := by
  unfold tradeShadow
  split
  case h_1 => exact blind strategy _ _ _ _
  case h_2 =>
    unfold openShadowPosition
    split
    case h_1 => exact blind strategy strategy.riskGateShadowPnlPoints strategy.riskGateShadowTradeCount _ _
    case h_2 => rfl

end Parts

/-! ### The days behind the bars -/

structure Days (Value : Type) where
  lastDayLocal : Option NaiveDate
  currentDayHigh : Option Value
  currentDayLow : Option Value
  prevDayClose : Option Value
  prevDayRange : Option Value

def days (strategy : HybridIntradayRuntimeStrategy Value) : Days Value :=
  { lastDayLocal := strategy.lastDayLocal
    currentDayHigh := strategy.currentDayHigh
    currentDayLow := strategy.currentDayLow
    prevDayClose := strategy.prevDayClose
    prevDayRange := strategy.prevDayRange }

def daysBehind (rows : List (LocalBar Value)) (last : LocalBar Value) : Days Value :=
  { lastDayLocal := some last.date
    currentDayHigh := highest (barsOn rows last.date)
    currentDayLow := lowest (barsOn rows last.date)
    prevDayClose := closeBefore rows last.date
    prevDayRange := rangeBefore rows last.date }

section DaySteps

variable {rows : List (LocalBar Value)} {row last : LocalBar Value} {strategy : HybridIntradayRuntimeStrategy Value}

theorem updateDayAggregates_days_first (fresh : strategy.days = (new strategy.config).days) :
    (strategy.updateDayAggregates row.dt row.bar.h row.bar.l).days = daysBehind [row] row := by
  have noDay : strategy.lastDayLocal = none := congrArg Days.lastDayLocal fresh
  have noClose : strategy.prevDayClose = none := congrArg Days.prevDayClose fresh
  have noRange : strategy.prevDayRange = none := congrArg Days.prevDayRange fresh
  unfold updateDayAggregates
  rw [noDay]
  simp [days, daysBehind, noClose, noRange, barsOn, highest, lowest, closeBefore, rangeBefore, barsBefore, date]

theorem updateDayAggregates_days_same (kept : strategy.days = daysBehind rows last) (member : last ∈ rows)
    (same : row.date = last.date) :
    (strategy.updateDayAggregates row.dt row.bar.h row.bar.l).days = daysBehind (rows ++ [row]) row := by
  have lastDay : strategy.lastDayLocal = some last.date := congrArg Days.lastDayLocal kept
  have oldClose : strategy.prevDayClose = closeBefore rows last.date := congrArg Days.prevDayClose kept
  have oldRange : strategy.prevDayRange = rangeBefore rows last.date := congrArg Days.prevDayRange kept
  have onDay : barsOn rows last.date ≠ [] :=
    List.ne_nil_of_mem (List.mem_filter.2 ⟨member, decide_eq_true rfl⟩)
  obtain ⟨high, highKnown⟩ := exists_highest onDay
  obtain ⟨low, lowKnown⟩ := exists_lowest onDay
  have oldHigh : strategy.currentDayHigh = some high := (congrArg Days.currentDayHigh kept).trans highKnown
  have oldLow : strategy.currentDayLow = some low := (congrArg Days.currentDayLow kept).trans lowKnown
  have day : last.date = row.dt.date := same.symm
  have grown : barsOn (rows ++ [row]) row.date = barsOn rows last.date ++ [row] := by rw [barsOn_concat_same, same]
  unfold updateDayAggregates
  rw [lastDay]
  dsimp only
  rw [if_pos day]
  unfold days daysBehind
  rw [grown, highest_concat highKnown, lowest_concat lowKnown, closeBefore_concat le_rfl, rangeBefore_concat le_rfl, same,
    ← oldClose, ← oldRange, ← lastDay, oldHigh, oldLow]
  rfl

theorem updateDayAggregates_days_next (kept : strategy.days = daysBehind rows last)
    (closed : strategy.lastBarClose = some last.bar.close) (isLast : rows.getLast? = some last)
    (ordered : ∀ other ∈ rows, other.date.day ≤ last.date.day) (later : last.date.day < row.date.day) :
    (strategy.updateDayAggregates row.dt row.bar.h row.bar.l).days = daysBehind (rows ++ [row]) row := by
  have lastDay : strategy.lastDayLocal = some last.date := congrArg Days.lastDayLocal kept
  have member : last ∈ rows := List.mem_of_getLast? isLast
  have onDay : barsOn rows last.date ≠ [] :=
    List.ne_nil_of_mem (List.mem_filter.2 ⟨member, decide_eq_true rfl⟩)
  obtain ⟨high, highKnown⟩ := exists_highest onDay
  obtain ⟨low, lowKnown⟩ := exists_lowest onDay
  have oldHigh : strategy.currentDayHigh = some high := (congrArg Days.currentDayHigh kept).trans highKnown
  have oldLow : strategy.currentDayLow = some low := (congrArg Days.currentDayLow kept).trans lowKnown
  have otherDay : ¬ last.date = row.dt.date := by
    intro same
    have equal : last.date.day = row.date.day := congrArg NaiveDate.day same
    omega
  have allBefore : ∀ other ∈ rows, other.date.day < row.date.day := by
    intro other present
    have := ordered other present
    omega
  have before : barsBefore (rows ++ [row]) row.date = rows := by
    rw [barsBefore_concat le_rfl, barsBefore_all allBefore]
  have opened : barsOn (rows ++ [row]) row.date = [row] := by
    rw [barsOn_concat_same, barsOn_nil_of_before allBefore, List.nil_append]
  have oldDay : barsOn (rows ++ [row]) last.date = barsOn rows last.date :=
    barsOn_concat_other fun same => otherDay same.symm
  have ranged : rangeBefore (rows ++ [row]) row.date = some (F64.maxOf (high - low) F64.zero) := by
    rw [rangeBefore, before, isLast, Option.bind_some, oldDay, range, highKnown, lowKnown]
    rfl
  have closedAt : closeBefore (rows ++ [row]) row.date = some last.bar.close := by
    rw [closeBefore, before, isLast]
    rfl
  unfold updateDayAggregates
  rw [lastDay]
  dsimp only
  rw [if_neg otherDay]
  unfold days daysBehind
  rw [opened, ranged, closedAt, closed, oldHigh, oldLow]
  rfl

/-- What is not about days, the aggregates of the day leave alone. -/
theorem updateDayAggregates_read {Read : Type} (read : HybridIntradayRuntimeStrategy Value → Read)
    (blind : ∀ state day high low close range ready, read { state with
      lastDayLocal := day
      currentDayHigh := high
      currentDayLow := low
      prevDayClose := close
      prevDayRange := range
      entryReady := ready } = read state) (dt : NaiveDateTime) (high low : Value) :
    read (strategy.updateDayAggregates dt high low) = read strategy := by
  unfold updateDayAggregates
  cases strategy.lastDayLocal with
  | none => exact blind strategy _ _ _ _ _ _
  | some day =>
      dsimp only
      split
      case isTrue => exact blind strategy _ _ _ _ _ _
      case isFalse => exact blind strategy _ _ _ _ _ _

end DaySteps

/-! ### The session that is open -/

section Shadows

variable (strategy : HybridIntradayRuntimeStrategy Value)

theorem finalizeRiskGateShadowSession_shadowAccount (sessionDate : NaiveDate) :
    (strategy.finalizeRiskGateShadowSession sessionDate).shadowAccount = strategy.shadowAccount := by
  unfold finalizeRiskGateShadowSession
  split <;> rfl

theorem rollRiskGateShadowSession_shadowAccount (sessionDate : NaiveDate) :
    (strategy.rollRiskGateShadowSession sessionDate).shadowAccount =
      (strategy.shadowAccount.rollRiskGateShadowSession sessionDate).shadowAccount := by
  rw [rollRiskGateShadowSession, rollRiskGateShadowSession]
  have sameSession : strategy.shadowAccount.riskGateShadowSessionDate = strategy.riskGateShadowSessionDate := rfl
  rw [sameSession]
  cases strategy.riskGateShadowSessionDate with
  | none => rfl
  | some day =>
      dsimp only
      split
      case isTrue => rfl
      case isFalse =>
        have closed := strategy.finalizeRiskGateShadowSession_shadowAccount day
        have reclosed := strategy.shadowAccount.finalizeRiskGateShadowSession_shadowAccount day
        exact congrArg (fun state => { state with
          riskGateShadowSessionDate := some sessionDate
          riskGateShadowPnlPoints := F64.zero
          riskGateShadowTradeCount := 0
          riskGateShadowPosition := none
          riskGateShadowOpen := none }) (closed.trans reclosed.symm)

theorem warmShadow_shadowAccount (dt : NaiveDateTime) (high low : Value) :
    (strategy.warmShadow dt high low).shadowAccount = (strategy.shadowAccount.warmShadow dt high low).shadowAccount := by
  have rolled := strategy.rollRiskGateShadowSession_shadowAccount dt.date
  exact congrArg (fun state => { state with
    riskGateShadowMr := state.riskGateShadowMr.onBar dt high low }) rolled

variable {strategy} {row : LocalBar Value} {closePrev dayRangePrev : Option Value}

theorem playShadow_eq (enabled : strategy.riskGateShadowEnabled = true)
    (priced : F64.equal row.bar.close F64.zero = false) :
    playShadow closePrev dayRangePrev strategy row =
      (strategy.warmShadow row.dt row.bar.h row.bar.l).tradeShadow row.dt row.bar.closeTimeUtc row.bar.close
        (closePrev.getD row.bar.close) (dayRangePrev.getD F64.zero) :=
  updateRiskGateShadow_eq enabled priced row.dt row.bar.closeTimeUtc row.bar.h row.bar.l _ _

/-- The account behind a bar depends on the account before it alone. -/
theorem playShadow_shadowAccount {other : HybridIntradayRuntimeStrategy Value}
    (enabled : strategy.riskGateShadowEnabled = true) (priced : F64.equal row.bar.close F64.zero = false)
    (same : strategy.shadowAccount = other.shadowAccount) :
    (playShadow closePrev dayRangePrev strategy row).shadowAccount =
      (playShadow closePrev dayRangePrev other row).shadowAccount := by
  have otherEnabled : other.riskGateShadowEnabled = true := by
    have switch := congrArg riskGateShadowEnabled same
    exact switch.symm.trans enabled
  rw [playShadow_eq enabled priced, playShadow_eq otherEnabled priced, tradeShadow_shadowAccount,
    warmShadow_shadowAccount, same, ← warmShadow_shadowAccount, ← tradeShadow_shadowAccount]

/-- On a day behind its session, a shadow starts anew. -/
theorem playShadow_opens {prevDate : NaiveDate} (enabled : strategy.riskGateShadowEnabled = true)
    (priced : F64.equal row.bar.close F64.zero = false)
    (session : strategy.riskGateShadowSessionDate = some prevDate) (later : prevDate ≠ row.date)
    (engineDay : strategy.riskGateShadowMr.currentDay = some prevDate)
    (frozen : strategy.riskGateShadowMr.config = .frozen Value) :
    (playShadow closePrev dayRangePrev strategy row).shadowAccount =
      (playShadow closePrev dayRangePrev (new strategy.config) row).shadowAccount := by
  have opened : (strategy.warmShadow row.dt row.bar.h row.bar.l).shadowAccount =
      ((new strategy.config).warmShadow row.dt row.bar.h row.bar.l).shadowAccount := by
    have otherDay : strategy.riskGateShadowMr.currentDay ≠ some row.dt.date := by
      rw [engineDay]
      exact fun same => later (Option.some.inj same)
    have restarted : strategy.riskGateShadowMr.onBar row.dt row.bar.h row.bar.l =
        (High180MrEngine.new (.frozen Value)).onBar row.dt row.bar.h row.bar.l := by
      unfold High180MrEngine.onBar
      rw [if_pos otherDay, if_pos (fun same => nomatch same), frozen]
      rfl
    have differs : ¬ prevDate = row.dt.date := later
    unfold warmShadow rollRiskGateShadowSession
    rw [session]
    dsimp only
    rw [if_neg differs]
    have closed := strategy.finalizeRiskGateShadowSession_shadowAccount prevDate
    have config : (strategy.finalizeRiskGateShadowSession prevDate).config = strategy.config :=
      congrArg (·.config) closed
    have engine : (strategy.finalizeRiskGateShadowSession prevDate).riskGateShadowMr = strategy.riskGateShadowMr :=
      congrArg (·.riskGateShadowMr) closed
    unfold shadowAccount
    dsimp only
    rw [config, engine, restarted]
    rfl
  have freshEnabled : (new strategy.config).riskGateShadowEnabled = true := enabled
  rw [playShadow_eq enabled priced, playShadow_eq freshEnabled priced, tradeShadow_shadowAccount, opened,
    ← tradeShadow_shadowAccount]

theorem playShadow_session (enabled : strategy.riskGateShadowEnabled = true)
    (priced : F64.equal row.bar.close F64.zero = false) :
    (playShadow closePrev dayRangePrev strategy row).riskGateShadowSessionDate = some row.date := by
  rw [playShadow_eq enabled priced, tradeShadow_read _ (·.riskGateShadowSessionDate) (fun _ _ _ _ _ => rfl)]
  unfold warmShadow rollRiskGateShadowSession
  cases session : strategy.riskGateShadowSessionDate with
  | none => rfl
  | some day =>
      dsimp only
      split
      case isTrue same => rw [session, same]; rfl
      case isFalse => rfl

theorem playShadow_engine (enabled : strategy.riskGateShadowEnabled = true)
    (priced : F64.equal row.bar.close F64.zero = false) :
    (playShadow closePrev dayRangePrev strategy row).riskGateShadowMr =
      strategy.riskGateShadowMr.onBar row.dt row.bar.h row.bar.l := by
  rw [playShadow_eq enabled priced, tradeShadow_read _ (·.riskGateShadowMr) (fun _ _ _ _ _ => rfl)]
  unfold warmShadow rollRiskGateShadowSession
  cases session : strategy.riskGateShadowSessionDate with
  | none => rfl
  | some day =>
      dsimp only
      split
      case isTrue => rfl
      case isFalse =>
        have closed := congrArg (·.riskGateShadowMr) (strategy.finalizeRiskGateShadowSession_shadowAccount day)
        exact congrArg (fun engine => engine.onBar row.dt row.bar.h row.bar.l) closed

theorem playShadow_pending (enabled : strategy.riskGateShadowEnabled = true)
    (priced : F64.equal row.bar.close F64.zero = false) :
    (playShadow closePrev dayRangePrev strategy row).pendingRiskGateFinalizations =
      (strategy.rollRiskGateShadowSession row.date).pendingRiskGateFinalizations := by
  rw [playShadow_eq enabled priced, tradeShadow_read _ (·.pendingRiskGateFinalizations) (fun _ _ _ _ _ => rfl)]
  rfl

/-- What is not about the shadow, it leaves alone. -/
theorem updateRiskGateShadow_read {Read : Type} (read : HybridIntradayRuntimeStrategy Value → Read)
    (blind : ∀ state engine session pnl count position held pending, read { state with
      riskGateShadowMr := engine
      riskGateShadowSessionDate := session
      riskGateShadowPnlPoints := pnl
      riskGateShadowTradeCount := count
      riskGateShadowPosition := position
      riskGateShadowOpen := held
      pendingRiskGateFinalizations := pending } = read state)
    (enabled : strategy.riskGateShadowEnabled = true) {close : Value} (priced : F64.equal close F64.zero = false)
    (dt : NaiveDateTime) (tsUtc : Int) (high low previous ranged : Value) :
    read (strategy.updateRiskGateShadow dt tsUtc high low close previous ranged) = read strategy := by
  have traded := tradeShadow_read (strategy.warmShadow dt high low) read
    (fun state pnl count position held => blind state state.riskGateShadowMr state.riskGateShadowSessionDate pnl count
      position held state.pendingRiskGateFinalizations) dt tsUtc close previous ranged
  rw [updateRiskGateShadow_eq enabled priced, traded]
  unfold warmShadow rollRiskGateShadowSession
  cases strategy.riskGateShadowSessionDate with
  | none => exact blind strategy _ _ _ _ _ _ strategy.pendingRiskGateFinalizations
  | some day =>
      dsimp only
      split
      case isTrue =>
        exact blind strategy _ _ _ _ _ _ strategy.pendingRiskGateFinalizations
      case isFalse =>
        unfold finalizeRiskGateShadowSession
        split
        case isTrue => exact blind strategy _ _ _ _ _ _ strategy.pendingRiskGateFinalizations
        case isFalse => exact blind strategy _ _ _ _ _ _ _

theorem High180MrEngine.onBar_day (engine : High180MrEngine Value) (dt : NaiveDateTime) (high low : Value) :
    (engine.onBar dt high low).currentDay = some dt.date ∧ (engine.onBar dt high low).config = engine.config := by
  unfold High180MrEngine.onBar
  split
  case isTrue => exact ⟨rfl, rfl⟩
  case isFalse same => exact ⟨not_not.1 same, rfl⟩

end Shadows

/-! ### The sessions behind the bars -/

structure SessionMemory (config : HybridIntradayRuntimeConfig Value) (rows : List (LocalBar Value))
    (last : LocalBar Value) (strategy : HybridIntradayRuntimeStrategy Value) : Prop where
  session : strategy.riskGateShadowSessionDate = some last.date
  engineDay : strategy.riskGateShadowMr.currentDay = some last.date
  frozen : strategy.riskGateShadowMr.config = .frozen Value
  account : strategy.shadowAccount = (sessionShadow config rows last.date).shadowAccount
  finalized : OnePerSession config (barsBefore rows last.date) strategy.pendingRiskGateFinalizations

section Memory

variable {config : HybridIntradayRuntimeConfig Value} {rows : List (LocalBar Value)} {row last : LocalBar Value}
variable {strategy : HybridIntradayRuntimeStrategy Value}

theorem onePerSession_nil : OnePerSession config ([] : List (LocalBar Value)) [] where
  inOrder := .nil
  complete := by simp
  accounted := by simp

theorem sessionFinalization_barsBefore {day later : NaiveDate} (earlier : day.day < later.day) :
    sessionFinalization config (barsBefore rows later) day = sessionFinalization config rows day := by
  unfold sessionFinalization sessionShadow
  rw [barsOn_barsBefore earlier, closeBefore_barsBefore (by omega), rangeBefore_barsBefore (by omega)]

/-- Finalizing the session of the last day completes the sessions. -/
theorem SessionMemory.finalize (memory : SessionMemory config rows last strategy) (member : last ∈ rows)
    (ordered : ∀ other ∈ rows, other.date.day ≤ last.date.day) :
    OnePerSession config rows
      (strategy.finalizeRiskGateShadowSession last.date).pendingRiskGateFinalizations := by
  obtain ⟨inOrder, complete, accounted⟩ := memory.finalized
  have before : ∀ finalization ∈ strategy.pendingRiskGateFinalizations,
      finalization.sessionDate.day < last.date.day := by
    intro finalization present
    obtain ⟨-, other, among, day⟩ := (complete _).1 (List.mem_map_of_mem present)
    exact day ▸ (mem_barsBefore.1 among).2
  have retold : ∀ finalization ∈ strategy.pendingRiskGateFinalizations,
      finalization = sessionFinalization config rows finalization.sessionDate := by
    intro finalization present
    rw [← sessionFinalization_barsBefore (before finalization present)]
    exact accounted finalization present
  have earlierDays : ∀ day, day ∈ strategy.pendingRiskGateFinalizations.map (·.sessionDate) ↔
      isWeekend day = false ∧ day ≠ last.date ∧ ∃ row ∈ rows, row.date = day := by
    intro day
    rw [complete day]
    constructor
    · rintro ⟨working, other, among, rfl⟩
      obtain ⟨inRows, earlier⟩ := mem_barsBefore.1 among
      refine ⟨working, ?_, other, inRows, rfl⟩
      intro same
      rw [same] at earlier
      exact absurd earlier (by omega)
    · rintro ⟨working, differs, other, inRows, rfl⟩
      refine ⟨working, other, mem_barsBefore.2 ⟨inRows, ?_⟩, rfl⟩
      have notLater := ordered other inRows
      have unequal : other.date.day ≠ last.date.day := fun same => differs (date_ext same)
      omega
  have unknown : ¬ ∃ finalization ∈ strategy.pendingRiskGateFinalizations, finalization.sessionDate = last.date := by
    rintro ⟨finalization, present, same⟩
    have earlier := before finalization present
    rw [same] at earlier
    exact absurd earlier (by omega)
  unfold finalizeRiskGateShadowSession
  cases weekend : isWeekend last.date with
  | true =>
      rw [if_pos (.inl rfl)]
      refine ⟨inOrder, ?_, retold⟩
      intro day
      rw [earlierDays day]
      constructor
      · rintro ⟨working, -, present⟩
        exact ⟨working, present⟩
      · rintro ⟨working, present⟩
        refine ⟨working, ?_, present⟩
        rintro rfl
        rw [weekend] at working
        cases working
  | false =>
      rw [if_neg fun done => done.elim (fun free => nomatch free) unknown]
      refine ⟨?_, ?_, ?_⟩
      · rw [List.map_append, List.pairwise_append]
        refine ⟨inOrder, List.pairwise_singleton _ _, ?_⟩
        intro day present other single
        obtain ⟨finalization, among, rfl⟩ := List.mem_map.1 present
        cases List.mem_singleton.1 single
        exact before finalization among
      · intro day
        rw [List.map_append, List.mem_append, earlierDays day, List.map_singleton, List.mem_singleton]
        constructor
        · rintro (⟨working, -, present⟩ | rfl)
          · exact ⟨working, present⟩
          · exact ⟨weekend, last, member, rfl⟩
        · rintro ⟨working, present⟩
          by_cases same : day = last.date
          · exact .inr same
          · exact .inl ⟨working, same, present⟩
      · intro finalization present
        rcases List.mem_append.1 present with old | new
        · exact retold finalization old
        · cases List.mem_singleton.1 new
          have points := congrArg (·.riskGateShadowPnlPoints) memory.account
          have trades := congrArg (·.riskGateShadowTradeCount) memory.account
          unfold sessionFinalization
          exact congrArg₂ (RiskGateSessionFinalization.mk last.date) points trades

theorem sessionShadow_concat_same (same : row.date = last.date) :
    sessionShadow config (rows ++ [row]) row.date =
      playShadow (closeBefore rows last.date) (rangeBefore rows last.date) (sessionShadow config rows last.date) row := by
  unfold sessionShadow
  rw [barsOn_concat_same, closeBefore_concat le_rfl, rangeBefore_concat le_rfl, List.foldl_concat, same]

theorem sessionShadow_concat_next (ordered : ∀ other ∈ rows, other.date.day < row.date.day) :
    sessionShadow config (rows ++ [row]) row.date =
      playShadow (closeBefore (rows ++ [row]) row.date) (rangeBefore (rows ++ [row]) row.date) (new config) row := by
  unfold sessionShadow
  rw [barsOn_concat_same, barsOn_nil_of_before ordered]
  rfl

/-- The first bar opens the first session. -/
theorem sessionMemory_first (fresh : strategy.shadowAccount = (new config).shadowAccount)
    (nothing : strategy.pendingRiskGateFinalizations = []) (enabled : strategy.riskGateShadowEnabled = true)
    (priced : F64.equal row.bar.close F64.zero = false) :
    SessionMemory config [row] row (playShadow (closeBefore [row] row.date) (rangeBefore [row] row.date) strategy row) := by
  have engine : strategy.riskGateShadowMr = .new (.frozen Value) := congrArg (·.riskGateShadowMr) fresh
  have noSession : strategy.riskGateShadowSessionDate = none := congrArg (·.riskGateShadowSessionDate) fresh
  obtain ⟨day, frozen⟩ := High180MrEngine.onBar_day strategy.riskGateShadowMr row.dt row.bar.h row.bar.l
  have unopened : barsBefore [row] row.date = [] := by simp [barsBefore]
  refine ⟨playShadow_session enabled priced, ?_, ?_, ?_, ?_⟩
  · rw [playShadow_engine enabled priced]
    exact day
  · rw [playShadow_engine enabled priced, frozen, engine]
    rfl
  · have opened := @sessionShadow_concat_next Value _ config [] row (by simp)
    rw [List.nil_append] at opened
    rw [opened]
    exact playShadow_shadowAccount enabled priced fresh
  · rw [playShadow_pending enabled priced, unopened, rollRiskGateShadowSession, noSession]
    dsimp only
    rw [nothing]
    exact onePerSession_nil

/-- A bar of the same day goes on with its session. -/
theorem SessionMemory.same (memory : SessionMemory config rows last strategy) (today : row.date = last.date)
    (enabled : strategy.riskGateShadowEnabled = true) (priced : F64.equal row.bar.close F64.zero = false) :
    SessionMemory config (rows ++ [row]) row
      (playShadow (closeBefore (rows ++ [row]) row.date) (rangeBefore (rows ++ [row]) row.date) strategy row) := by
  obtain ⟨day, frozen⟩ := High180MrEngine.onBar_day strategy.riskGateShadowMr row.dt row.bar.h row.bar.l
  refine ⟨playShadow_session enabled priced, ?_, ?_, ?_, ?_⟩
  · rw [playShadow_engine enabled priced]
    exact day
  · rw [playShadow_engine enabled priced, frozen]
    exact memory.frozen
  · rw [sessionShadow_concat_same today, closeBefore_concat le_rfl, rangeBefore_concat le_rfl, today]
    exact playShadow_shadowAccount enabled priced memory.account
  · rw [playShadow_pending enabled priced, barsBefore_concat le_rfl, rollRiskGateShadowSession, memory.session]
    dsimp only
    rw [if_pos today.symm, today]
    exact memory.finalized

/-- A bar of a later day finalizes the session, and opens its own. -/
theorem SessionMemory.next (memory : SessionMemory config rows last strategy) (member : last ∈ rows)
    (ordered : ∀ other ∈ rows, other.date.day ≤ last.date.day) (later : last.date.day < row.date.day)
    (same : strategy.config = config) (enabled : strategy.riskGateShadowEnabled = true)
    (priced : F64.equal row.bar.close F64.zero = false) :
    SessionMemory config (rows ++ [row]) row
      (playShadow (closeBefore (rows ++ [row]) row.date) (rangeBefore (rows ++ [row]) row.date) strategy row) := by
  obtain ⟨day, frozen⟩ := High180MrEngine.onBar_day strategy.riskGateShadowMr row.dt row.bar.h row.bar.l
  have allBefore : ∀ other ∈ rows, other.date.day < row.date.day := by
    intro other present
    have := ordered other present
    omega
  have otherDay : last.date ≠ row.date := by
    intro equal
    rw [equal] at later
    exact absurd later (by omega)
  refine ⟨playShadow_session enabled priced, ?_, ?_, ?_, ?_⟩
  · rw [playShadow_engine enabled priced]
    exact day
  · rw [playShadow_engine enabled priced, frozen]
    exact memory.frozen
  · rw [sessionShadow_concat_next allBefore, playShadow_opens enabled priced memory.session otherDay memory.engineDay
      memory.frozen, same]
  · rw [playShadow_pending enabled priced, barsBefore_concat le_rfl, barsBefore_all allBefore, rollRiskGateShadowSession,
      memory.session]
    dsimp only
    rw [if_neg otherDay]
    exact memory.finalize member ordered

end Memory

/-! ### The rebuild, session by session -/

theorem learnFromBar_eq {strategy : HybridIntradayRuntimeStrategy Value} (enabled : strategy.riskGateShadowEnabled = true)
    (dt : NaiveDateTime) (bar : BarEvent Value) :
    strategy.learnFromBar dt bar =
      let aggregated := strategy.updateDayAggregates dt bar.h bar.l
      playShadow aggregated.prevDayClose aggregated.prevDayRange
        { aggregated with high180Mr := aggregated.high180Mr.onBar dt bar.h bar.l } { dt := dt, bar := bar } := by
  have config : (strategy.updateDayAggregates dt bar.h bar.l).config = strategy.config :=
    updateDayAggregates_read (·.config) (fun _ _ _ _ _ _ _ => rfl) dt bar.h bar.l
  have variant : (strategy.updateDayAggregates dt bar.h bar.l).usesHigh180Mr = true := by
    unfold usesHigh180Mr
    rw [config]
    exact (of_decide_eq_true enabled).1
  unfold learnFromBar
  dsimp only
  rw [if_pos variant]
  rfl

inductive Remembers (config : HybridIntradayRuntimeConfig Value) (strategy : HybridIntradayRuntimeStrategy Value) :
    List (LocalBar Value) → Prop where
  | nothing (fresh : strategy.shadowAccount = (new config).shadowAccount)
      (freshDays : strategy.days = (new config).days) (none : strategy.pendingRiskGateFinalizations = []) :
      Remembers config strategy []
  | behind {rows : List (LocalBar Value)} (last : LocalBar Value) (isLast : rows.getLast? = some last)
      (ordered : ∀ other ∈ rows, other.date.day ≤ last.date.day)
      (closed : strategy.lastBarClose = some last.bar.close)
      (timed : strategy.utcToLocalNaive last.bar.closeTimeUtc = some last.dt)
      (stamped : ∃ ts ∈ strategy.lastProcessedBarTs, last.bar.closeTimeUtc ≤ ts)
      (kept : strategy.days = daysBehind rows last) (memory : SessionMemory config rows last strategy) :
      Remembers config strategy rows

section Rebuild

variable {config : HybridIntradayRuntimeConfig Value} {rows : List (LocalBar Value)}
variable {oracle : HybridIntradayRuntimeStrategy Value} {dt : NaiveDateTime} {bar : BarEvent Value}

omit [F64 Value] in
theorem utcToLocalNaive_le {strategy : HybridIntradayRuntimeStrategy Value} {first second : Int}
    {firstLocal secondLocal : NaiveDateTime} (firstTime : strategy.utcToLocalNaive first = some firstLocal)
    (secondTime : strategy.utcToLocalNaive second = some secondLocal) (before : first ≤ second) :
    firstLocal.date.day ≤ secondLocal.date.day := by
  have local_eq {ts : Int} {localTime : NaiveDateTime} (found : strategy.utcToLocalNaive ts = some localTime) :
      localTime.seconds = ts + strategy.offsetSeconds := by
    unfold utcToLocalNaive DateTimeUtc.timestampOpt at found
    split at found
    case isTrue =>
      split at found
      case isTrue =>
        cases found
        rfl
      case isFalse => cases found
    case isFalse => cases found
  have firstSeconds := local_eq firstTime
  have secondSeconds := local_eq secondTime
  unfold NaiveDateTime.date
  dsimp only
  omega

/-- The oracle remembers a bar that it learns from. -/
theorem Remembers.behindBar (remembers : Remembers config oracle rows) (same : oracle.config = config)
    (enabled : oracle.riskGateShadowEnabled = true) (accepts : oracle.AcceptsBar bar dt)
    (priced : F64.equal bar.close F64.zero = false) :
    Remembers config (oracle.behindBar dt bar) (rows ++ [{ dt := dt, bar := bar }]) := by
  let row : LocalBar Value := { dt := dt, bar := bar }
  let aggregated := oracle.updateDayAggregates dt bar.h bar.l
  let warmed := { aggregated with high180Mr := aggregated.high180Mr.onBar dt bar.h bar.l }
  have config_eq : aggregated.config = oracle.config :=
    updateDayAggregates_read (·.config) (fun _ _ _ _ _ _ _ => rfl) dt bar.h bar.l
  have account : warmed.shadowAccount = oracle.shadowAccount :=
    updateDayAggregates_read shadowAccount (fun _ _ _ _ _ _ _ => rfl) dt bar.h bar.l
  have pending : warmed.pendingRiskGateFinalizations = oracle.pendingRiskGateFinalizations :=
    updateDayAggregates_read (·.pendingRiskGateFinalizations) (fun _ _ _ _ _ _ _ => rfl) dt bar.h bar.l
  have warmedEnabled : warmed.riskGateShadowEnabled = true := by
    have switch := congrArg riskGateShadowEnabled account
    exact switch.trans enabled
  have warmedDays : warmed.days = (oracle.updateDayAggregates dt bar.h bar.l).days := rfl
  have shadowed : oracle.learnFromBar dt bar =
      playShadow warmed.prevDayClose warmed.prevDayRange warmed row := learnFromBar_eq enabled dt bar
  have keptDays : (oracle.learnFromBar dt bar).days = warmed.days := by
    rw [shadowed]
    exact updateRiskGateShadow_read days (fun _ _ _ _ _ _ _ _ => rfl) warmedEnabled priced _ _ _ _ _ _
  have keptConfig : (oracle.learnFromBar dt bar).config = oracle.config :=
    congrArg (·.config) (oracle.learnFromBar_marketless dt bar)
  have conclude (rows' : List (LocalBar Value)) (isLast : rows'.getLast? = some row)
      (ordered : ∀ other ∈ rows', other.date.day ≤ row.date.day) (current : warmed.days = daysBehind rows' row)
      (memory : SessionMemory config rows' row
        (playShadow (closeBefore rows' row.date) (rangeBefore rows' row.date) warmed row)) :
      Remembers config (oracle.behindBar dt bar) rows' := by
    have closePrev : warmed.prevDayClose = closeBefore rows' row.date := congrArg Days.prevDayClose current
    have rangePrev : warmed.prevDayRange = rangeBefore rows' row.date := congrArg Days.prevDayRange current
    rw [← closePrev, ← rangePrev, ← shadowed] at memory
    refine .behind row isLast ordered rfl ?_ ⟨_, rfl, le_rfl⟩ (keptDays.trans current) ?_
    · exact (utcToLocalNaive_congr keptConfig _).trans accepts.2.2.1
    · exact { memory with }
  cases remembers with
  | nothing fresh freshDays none =>
      refine conclude [row] rfl ?_ ?_ ?_
      · intro other present
        rw [List.mem_singleton.1 present]
      · exact warmedDays.trans (@updateDayAggregates_days_first _ _ row _ (same ▸ freshDays))
      · exact sessionMemory_first (account.trans fresh) (pending.trans none) warmedEnabled priced
  | behind last isLast ordered closed timed stamped kept memory =>
      have member : last ∈ rows := List.mem_of_getLast? isLast
      have warmedMemory : SessionMemory config rows last warmed := by
        refine ⟨?_, ?_, ?_, account.trans memory.account, pending ▸ memory.finalized⟩
        · exact (congrArg (·.riskGateShadowSessionDate) account).trans memory.session
        · exact (congrArg (fun state => state.riskGateShadowMr.currentDay) account).trans memory.engineDay
        · exact (congrArg (fun state => state.riskGateShadowMr.config) account).trans memory.frozen
      have notEarlier : last.date.day ≤ row.date.day := by
        obtain ⟨ts, processed, lastTs⟩ := stamped
        have newer := accepts.2.1 ts processed
        exact utcToLocalNaive_le timed accepts.2.2.1 (by omega)
      have orderedNow : ∀ other ∈ rows ++ [row], other.date.day ≤ row.date.day := by
        intro other present
        rcases List.mem_append.1 present with old | new
        · exact (ordered other old).trans notEarlier
        · rw [List.mem_singleton.1 new]
      have isLastNow : (rows ++ [row]).getLast? = some row := List.getLast?_concat
      by_cases today : row.date = last.date
      · exact conclude (rows ++ [row]) isLastNow orderedNow
          (warmedDays.trans (updateDayAggregates_days_same kept member today))
          (warmedMemory.same today warmedEnabled priced)
      · have later : last.date.day < row.date.day := by
          have unequal : row.date.day ≠ last.date.day := fun equal => today (date_ext equal)
          omega
        exact conclude (rows ++ [row]) isLastNow orderedNow
          (warmedDays.trans (updateDayAggregates_days_next kept closed isLast ordered later))
          (warmedMemory.next member ordered later (config_eq.trans same) warmedEnabled priced)

/-- The oracle behind the bars of a history, and how many of them it has learnt from. -/
structure Rebuilt (config : HybridIntradayRuntimeConfig Value) (bars : List (BarEvent Value))
    (state : HybridIntradayRuntimeStrategy Value × Nat) : Prop where
  sameConfig : state.1.config = config
  counted : state.2 = (bars.filterMap (new config).sessionBar).length
  remembers : Remembers config state.1 (bars.filterMap (new config).sessionBar)

theorem Rebuilt.step {bars : List (BarEvent Value)} {processed : Nat}
    {after : HybridIntradayRuntimeStrategy Value × Nat} (rebuilt : Rebuilt config bars (oracle, processed))
    (enabled : (new config).riskGateShadowEnabled = true) (priced : F64.equal bar.close F64.zero = false)
    (stepped : rebuildRiskgateBar (oracle, processed) bar = .ok after) : Rebuilt config (bars ++ [bar]) after := by
  obtain ⟨same, counted, remembers⟩ := rebuilt
  dsimp only at same counted remembers
  have localTimes : ∀ ts, (new config).utcToLocalNaive ts = oracle.utcToLocalNaive ts :=
    utcToLocalNaive_congr same.symm
  cases rebuildRiskgateBar_replayed stepped with
  | passedOver dt formed localTime suppressed =>
      have idle : (new config).sessionBar bar = none := by
        unfold sessionBar
        rw [localTimes, localTime]
        subst same
        exact if_pos suppressed
      have unchanged : (bars ++ [bar]).filterMap (new config).sessionBar = bars.filterMap (new config).sessionBar := by
        rw [List.filterMap_append, List.filterMap_cons_none idle, List.filterMap_nil, List.append_nil]
      refine ⟨same, ?_, ?_⟩
      · rw [unchanged]
        exact counted
      · rw [unchanged]
        dsimp only
        generalize bars.filterMap (new config).sessionBar = rows at remembers
        cases remembers with
        | nothing fresh freshDays none => exact .nothing fresh freshDays none
        | behind last isLast ordered closed timed stamped kept memory =>
            obtain ⟨ts, processed, lastTs⟩ := stamped
            have newer : ts < bar.closeTimeUtc := by
              by_contra late
              exact formed (.inr (.inr (.inr (.inr (.inr (.inr (.inr ⟨ts, processed, by omega⟩)))))))
            exact .behind last isLast ordered closed timed ⟨_, rfl, by omega⟩ kept { memory with }
  | learnt dt formed accepts =>
      have learnt : (new config).sessionBar bar = some { dt := dt, bar := bar } := by
        unfold sessionBar
        rw [localTimes, accepts.2.2.1]
        have working := accepts.2.2.2.1
        have inSession := accepts.2.2.2.2
        subst same
        refine if_neg ?_
        rintro (weekend | outside)
        · exact absurd (working.symm.trans weekend) Bool.false_ne_true
        · exact absurd (inSession.symm.trans outside) Bool.false_ne_true
      have grown : (bars ++ [bar]).filterMap (new config).sessionBar =
          bars.filterMap (new config).sessionBar ++ [{ dt := dt, bar := bar }] := by
        rw [List.filterMap_append, List.filterMap_cons_some learnt, List.filterMap_nil]
      have enabledNow : oracle.riskGateShadowEnabled = true := by
        subst same
        exact enabled
      have remembered := remembers.behindBar same enabledNow accepts priced
      refine ⟨?_, ?_, ?_⟩
      · exact (congrArg (·.config) (oracle.learnFromBar_marketless dt bar)).trans same
      · rw [grown, List.length_append, ← counted]
        rfl
      · rw [grown]
        exact remembered


/-- The sessions of the oracle, once the last one is closed. -/
theorem Rebuilt.onePerSession {bars : List (BarEvent Value)} {processed : Nat}
    (rebuilt : Rebuilt config bars (oracle, processed)) :
    OnePerSession config (bars.filterMap (new config).sessionBar)
      oracle.closeRiskGateShadow.pendingRiskGateFinalizations := by
  obtain ⟨-, -, remembers⟩ := rebuilt
  dsimp only at remembers
  generalize bars.filterMap (new config).sessionBar = rows at remembers
  unfold closeRiskGateShadow
  cases remembers with
  | nothing fresh freshDays none =>
      have noSession : oracle.riskGateShadowSessionDate = .none := congrArg (·.riskGateShadowSessionDate) fresh
      rw [noSession]
      dsimp only
      rw [none]
      exact onePerSession_nil
  | behind last isLast ordered closed timed stamped kept memory =>
      rw [memory.session]
      exact memory.finalize (List.mem_of_getLast? isLast) ordered

theorem rebuilt_of_foldlM {bars : List (BarEvent Value)} {last : HybridIntradayRuntimeStrategy Value × Nat}
    (enabled : (new config).riskGateShadowEnabled = true)
    (priced : ∀ bar ∈ bars, F64.equal bar.close F64.zero = false)
    (replayed : bars.foldlM rebuildRiskgateBar (new config, 0) = .ok last) : Rebuilt config bars last := by
  refine foldlM_induction (fun history state =>
    (∀ bar ∈ history, F64.equal bar.close F64.zero = false) → Rebuilt config history state) ?_ ?_ replayed priced
  · intro _
    exact ⟨rfl, rfl, .nothing rfl rfl rfl⟩
  · intro history state bar updated before stepped all
    exact (before fun other member => all other (List.mem_append_left _ member)).step enabled
      (all bar (List.mem_append_right _ List.mem_cons_self)) stepped

end Rebuild

variable {strategy : HybridIntradayRuntimeStrategy Value}

/-- The rebuilt sessions are those of a strategy that received the bars, in whatever contexts and from
whatever origins, and whose last session is closed. They are one for each working day with a bar. -/
theorem riskgate_rebuild_matches_live (ids : RequestIds) (enabled : strategy.riskGateShadowEnabled = true)
    {feed : List (BarDelivery Value)} {finalizations : List (RiskGateSessionFinalization Value)}
    (rebuilt : strategy.stage8bP1RebuildRiskgateHistory (feed.map (·.bar)) = .ok finalizations)
    (priced : ∀ delivery ∈ feed, F64.equal delivery.bar.close F64.zero = false) :
    finalizations =
        (afterBars ids (new strategy.config) feed).closeRiskGateShadow.pendingRiskGateFinalizations ∧
      OnePerSession strategy.config ((feed.map (·.bar)).filterMap (new strategy.config).sessionBar) finalizations := by
  unfold stage8bP1RebuildRiskgateHistory at rebuilt
  obtain ⟨⟨oracle, processed⟩, replayed, closed⟩ := bind_ok_iff.1 rebuilt
  dsimp only at closed
  split at closed
  case isTrue => cases closed
  case isFalse =>
    cases closed
    refine ⟨?_, ?_⟩
    · have same := afterBars_taught_of_rebuild ids replayed rfl
      have sameClosed : (afterBars ids (new strategy.config) feed).closeRiskGateShadow.taught =
          oracle.closeRiskGateShadow.taught := by
        rw [closeRiskGateShadow_taught, same, ← closeRiskGateShadow_taught]
      exact (congrArg (·.pendingRiskGateFinalizations) sameClosed).symm
    · refine (@rebuilt_of_foldlM _ _ strategy.config _ _ enabled ?_ replayed).onePerSession
      intro bar member
      obtain ⟨delivery, present, rfl⟩ := List.mem_map.1 member
      exact priced delivery present

/-- `risk_gate_test_config()`. -/
def riskGateSampleConfig : HybridIntradayRuntimeConfig Float :=
  { sampleConfig Float with mrVariant := .high180, mrGatePolicy := .shadowPnlLb120Positive, riskGateMode := .normalAppend }

/-- A bar on each of three working days, live and from the history. -/
def riskGateSampleFeed : List (BarDelivery Float) :=
  [{ ctx := sampleCtx .live (some 0) 1767596400, origin := .live, bar := flatBar 100 1767596400 },
    { ctx := sampleCtx .paper none 1767682800, origin := .history, bar := flatBar 110 1767682800 },
    { ctx := sampleCtx .live (some 1) 1767769200, origin := .live, bar := flatBar 120 1767769200 }]

theorem riskgate_rebuild_matches_live_on_three_days :
    ∃ finalizations,
      (new riskGateSampleConfig).stage8bP1RebuildRiskgateHistory (riskGateSampleFeed.map (·.bar)) = .ok finalizations ∧
        finalizations = (afterBars sampleIds (new riskGateSampleConfig)
          riskGateSampleFeed).closeRiskGateShadow.pendingRiskGateFinalizations ∧
        OnePerSession riskGateSampleConfig
          ((riskGateSampleFeed.map (·.bar)).filterMap (new riskGateSampleConfig).sessionBar) finalizations := by
  have accepted : ((new riskGateSampleConfig).stage8bP1RebuildRiskgateHistory
      (riskGateSampleFeed.map (·.bar))).isOk = true := by decide
  obtain ⟨finalizations, rebuilt⟩ := exists_ok_of_isOk accepted
  have enabled : (new riskGateSampleConfig).riskGateShadowEnabled = true := by decide
  have priced : ∀ delivery ∈ riskGateSampleFeed, F64.equal delivery.bar.close F64.zero = false := by decide
  exact ⟨finalizations, rebuilt, riskgate_rebuild_matches_live sampleIds enabled rebuilt priced⟩

end HybridIntradayRuntimeStrategy

end TradingGateway.HybridIntraday
