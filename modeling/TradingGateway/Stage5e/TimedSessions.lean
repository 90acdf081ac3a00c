import TradingGateway.Stage5e.ScheduleSource

/-! Sessions with their exact instants, against the whole seconds that the walk over the grid reads. -/

set_option autoImplicit false

namespace TradingGateway.Stage5e.TimedSessions

open BrokerCore.Orders BrokerCore.Orders.DateTimeUtc
open ScheduleGrid

structure TimedSession where
  sessionType : NormalizedSessionType
  start : DateTimeUtc
  finish : DateTimeUtc

def TimedSession.inSeconds (session : TimedSession) : NormalizedScheduleSession where
  sessionType := session.sessionType
  start := session.start.seconds
  finish := session.finish.seconds

def wholeSecond (seconds : Int) : DateTimeUtc where
  seconds := seconds
  nanos := 0

/-- A close lies in a session by the exact instants, both ends included. -/
def TimedSession.CoversExactly (session : TimedSession) (closeTs : Int) : Prop :=
  ¬ session.start.After (wholeSecond closeTs) ∧ ¬ (wholeSecond closeTs).After session.finish

def TimedSession.StartsBehind (session : TimedSession) (closeTs : Int) : Prop :=
  session.start.seconds = closeTs ∧ session.start.nanos ≠ 0

def Apart (sessions : List TimedSession) : Prop :=
  sessions.Pairwise fun earlier later => later.start.After earlier.finish

section Session

variable {session : TimedSession} {closeTs : Int}

theorem coversExactly_iff : session.CoversExactly closeTs ↔
    (session.start.seconds < closeTs ∨ (session.start.seconds = closeTs ∧ session.start.nanos = 0)) ∧
      closeTs ≤ session.finish.seconds := by
  unfold TimedSession.CoversExactly wholeSecond After
  simp only [UInt32.lt_iff_toNat_lt, ← UInt32.toNat_inj]
  have zero : (0 : UInt32).toNat = 0 := rfl
  rw [zero]
  omega

theorem inSeconds_covers_iff : session.inSeconds.Covers closeTs ↔
    session.start.seconds ≤ closeTs ∧ closeTs ≤ session.finish.seconds :=
  Iff.rfl

/-- In whole seconds a session covers no close less. -/
theorem TimedSession.CoversExactly.inSeconds (covers : session.CoversExactly closeTs) :
    session.inSeconds.Covers closeTs := by
  rw [coversExactly_iff] at covers
  rw [inSeconds_covers_iff]
  omega

/-- It covers another one only where it starts within its second. -/
theorem coversExactly_of_inSeconds (covers : session.inSeconds.Covers closeTs)
    (notBehind : ¬ session.StartsBehind closeTs) : session.CoversExactly closeTs := by
  obtain ⟨notBefore, notAfter⟩ := inSeconds_covers_iff.1 covers
  refine coversExactly_iff.2 ⟨?_, notAfter⟩
  rcases lt_or_eq_of_le notBefore with before | same
  · exact .inl before
  · refine .inr ⟨same, ?_⟩
    by_contra nanos
    exact notBehind ⟨same, nanos⟩

theorem TimedSession.StartsBehind.not_coversExactly (behind : session.StartsBehind closeTs) :
    ¬ session.CoversExactly closeTs := by
  rw [coversExactly_iff]
  obtain ⟨same, nanos⟩ := behind
  rintro ⟨before | ⟨_, whole⟩, _⟩
  · omega
  · exact nanos whole

/-- A session that starts within the second of a close covers it in whole seconds. -/
theorem TimedSession.StartsBehind.inSeconds (behind : session.StartsBehind closeTs)
    (forward : session.finish.After session.start) : session.inSeconds.Covers closeTs := by
  obtain ⟨same, _⟩ := behind
  unfold After at forward
  rw [inSeconds_covers_iff]
  omega

end Session

structure Checked (sessions : List TimedSession) : Prop where
  apart : Apart sessions
  forward : ∀ session ∈ sessions, session.finish.After session.start

section Sessions

variable {sessions : List TimedSession} {closeTs : Int} {window : Stage5eScheduleWindowEvidence}

/-- No close lies in two sessions. -/
theorem Apart.filter_coversExactly (apart : Apart sessions) {covered : List TimedSession}
    (sublist : covered.Sublist sessions) (covers : ∀ session ∈ covered, session.CoversExactly closeTs) :
    covered.length ≤ 1 := by
  match covered with
  | [] => simp
  | [_] => simp
  | first :: second :: rest =>
      have pair := (List.pairwise_cons.1 (List.Pairwise.sublist sublist apart)).1 second List.mem_cons_self
      obtain ⟨_, firstNotAfter⟩ := coversExactly_iff.1 (covers first (by simp))
      obtain ⟨secondStarts, _⟩ := coversExactly_iff.1 (covers second (by simp))
      rcases pair with before | ⟨same, nanos⟩
      · omega
      · rcases secondStarts with before | ⟨_, whole⟩
        · omega
        · rw [whole] at nanos
          exact absurd nanos UInt32.not_lt_zero

theorem filter_inSeconds : (sessions.map TimedSession.inSeconds).filter (fun session => decide (session.Covers closeTs)) =
    (sessions.filter fun session => decide (session.inSeconds.Covers closeTs)).map TimedSession.inSeconds := by
  rw [List.filter_map]
  rfl

/-- The session the walk finds is the only one that covers the close in whole seconds. -/
theorem sessionAt_ok_iff (normalized : window.normalizedSessions = sessions.map TimedSession.inSeconds)
    {found : NormalizedScheduleSession} :
    sessionAt window closeTs = .ok found ↔
      ∃ session, (sessions.filter fun session => decide (session.inSeconds.Covers closeTs)) = [session] ∧
        session.inSeconds = found := by
  unfold sessionAt
  rw [normalized, filter_inSeconds]
  cases sessions.filter fun session => decide (session.inSeconds.Covers closeTs) with
  | nil => simp
  | cons first rest =>
      cases rest with
      | nil => simp
      | cons second rest => simp

/-- What the walk finds is alone on its second. -/
theorem alone_of_sessionAt (normalized : window.normalizedSessions = sessions.map TimedSession.inSeconds)
    {found : NormalizedScheduleSession} (walked : sessionAt window closeTs = .ok found) :
    ∃ session ∈ sessions, session.inSeconds = found ∧ session.inSeconds.Covers closeTs ∧
      ∀ other ∈ sessions, other.inSeconds.Covers closeTs → other = session := by
  obtain ⟨session, alone, same⟩ := (sessionAt_ok_iff normalized).1 walked
  have member : session ∈ sessions.filter fun session => decide (session.inSeconds.Covers closeTs) := by
    rw [alone]
    exact List.mem_singleton_self session
  obtain ⟨inSessions, covers⟩ := List.mem_filter.1 member
  refine ⟨session, inSessions, same, of_decide_eq_true covers, fun other inOthers otherCovers => ?_⟩
  have otherMember : other ∈ sessions.filter fun session => decide (session.inSeconds.Covers closeTs) :=
    List.mem_filter.2 ⟨inOthers, decide_eq_true otherCovers⟩
  rw [alone] at otherMember
  exact List.mem_singleton.1 otherMember

/-- Where no session starts within the second of a close, the walk finds the session the close lies in. -/
theorem sessionAt_iff (normalized : window.normalizedSessions = sessions.map TimedSession.inSeconds)
    (checked : Checked sessions) (notBehind : ∀ session ∈ sessions, ¬ session.StartsBehind closeTs)
    {found : NormalizedScheduleSession} :
    sessionAt window closeTs = .ok found ↔
      ∃ session ∈ sessions, session.CoversExactly closeTs ∧ session.inSeconds = found := by
  constructor
  · intro walked
    obtain ⟨session, member, same, covers, _⟩ := alone_of_sessionAt normalized walked
    exact ⟨session, member, coversExactly_of_inSeconds covers (notBehind session member), same⟩
  · rintro ⟨session, member, covers, same⟩
    rw [sessionAt_ok_iff normalized]
    have inFilter : session ∈ sessions.filter fun session => decide (session.inSeconds.Covers closeTs) :=
      List.mem_filter.2 ⟨member, decide_eq_true covers.inSeconds⟩
    have short : (sessions.filter fun session => decide (session.inSeconds.Covers closeTs)).length ≤ 1 := by
      have sublist : (sessions.filter fun session => decide (session.inSeconds.Covers closeTs)).Sublist sessions :=
        List.filter_sublist
      have exactly : ∀ other ∈ sessions.filter fun session => decide (session.inSeconds.Covers closeTs),
          other.CoversExactly closeTs := by
        intro other otherMember
        obtain ⟨inOthers, otherCovers⟩ := List.mem_filter.1 otherMember
        exact coversExactly_of_inSeconds (of_decide_eq_true otherCovers) (notBehind other inOthers)
      exact checked.apart.filter_coversExactly sublist exactly
    generalize (sessions.filter fun session => decide (session.inSeconds.Covers closeTs)) = covered at inFilter short
    cases covered with
    | nil => cases inFilter
    | cons first rest =>
        cases rest with
        | nil => exact ⟨first, rfl, (List.mem_singleton.1 inFilter) ▸ same⟩
        | cons second rest => exact absurd short (by simp)

/-- A close that lies in a session and is found by the walk has no session that starts within its second. -/
theorem not_startsBehind_of_both (normalized : window.normalizedSessions = sessions.map TimedSession.inSeconds)
    (checked : Checked sessions) {found : NormalizedScheduleSession} (walked : sessionAt window closeTs = .ok found)
    {inside : TimedSession} (insideMember : inside ∈ sessions) (covers : inside.CoversExactly closeTs) :
    ∀ session ∈ sessions, ¬ session.StartsBehind closeTs := by
  intro session member behind
  obtain ⟨_, _, _, _, alone⟩ := alone_of_sessionAt normalized walked
  have first := alone inside insideMember covers.inSeconds
  have second := alone session member (behind.inSeconds (checked.forward session member))
  rw [second.trans first.symm] at behind
  exact behind.not_coversExactly covers

end Sessions

section Grid

def LiesIn (sessions : List TimedSession) (asked : NormalizedSessionType → Prop) (closeTs : Int) : Prop :=
  ∃ session ∈ sessions, asked session.sessionType ∧ session.CoversExactly closeTs

/-- The next bar to trade, by the exact instants: both bars close in trading sessions, and every close of the
grid between them lies in a break. -/
structure NextByInstants (sessions : List TimedSession) (timeframeSec : Nat) (predecessorCloseTs candidateCloseTs : Int) :
    Prop where
  predecessor : LiesIn sessions (· = .tradableOpen) predecessorCloseTs
  candidate : LiesIn sessions (· = .tradableOpen) candidateCloseTs
  between : ∀ closeTs, predecessorCloseTs < closeTs → closeTs < candidateCloseTs → closeTs % timeframeSec = 0 →
    LiesIn sessions (fun kind => kind = .breakOrClearing ∨ kind = .maintenance) closeTs

def StartsOnSeconds (sessions : List TimedSession) (timeframeSec : Nat) (predecessorCloseTs candidateCloseTs : Int) : Prop :=
  ∀ closeTs, predecessorCloseTs ≤ closeTs → closeTs ≤ candidateCloseTs → closeTs % timeframeSec = 0 →
    ∀ session ∈ sessions, ¬ session.StartsBehind closeTs

variable {sessions : List TimedSession} {window : Stage5eScheduleWindowEvidence} {timeframeSec : UInt32}
  {predecessorCloseTs candidateCloseTs closeTs : Int}

theorem checkInterior_ok_iff {session : NormalizedScheduleSession} :
    checkInterior session = .ok () ↔ session.sessionType = .breakOrClearing ∨ session.sessionType = .maintenance := by
  unfold checkInterior
  cases session.sessionType <;> simp

/-- The walk finds a session of a kind exactly where the close lies in one. -/
theorem exists_sessionAt_iff (normalized : window.normalizedSessions = sessions.map TimedSession.inSeconds)
    (checked : Checked sessions) (notBehind : ∀ session ∈ sessions, ¬ session.StartsBehind closeTs)
    (asked : NormalizedSessionType → Prop) :
    (∃ found, sessionAt window closeTs = .ok found ∧ asked found.sessionType) ↔ LiesIn sessions asked closeTs := by
  constructor
  · rintro ⟨found, walked, isAsked⟩
    obtain ⟨session, member, covers, same⟩ := (sessionAt_iff normalized checked notBehind).1 walked
    subst same
    exact ⟨session, member, isAsked, covers⟩
  · rintro ⟨session, member, isAsked, covers⟩
    exact ⟨session.inSeconds, (sessionAt_iff normalized checked notBehind).2 ⟨session, member, covers, rfl⟩, isAsked⟩

/-- Where sessions start on whole seconds, the walk approves the next bar by the exact instants. -/
theorem nextOnGrid_iff (normalized : window.normalizedSessions = sessions.map TimedSession.inSeconds)
    (checked : Checked sessions) (positive : 0 < timeframeSec.toNat) (later : predecessorCloseTs < candidateCloseTs)
    (aligned : predecessorCloseTs % timeframeSec.toNat = 0 ∧ candidateCloseTs % timeframeSec.toNat = 0)
    (sameDay : utcDay predecessorCloseTs = some window.tradingDay ∧ utcDay candidateCloseTs = some window.tradingDay)
    (onSeconds : StartsOnSeconds sessions timeframeSec.toNat predecessorCloseTs candidateCloseTs) :
    NextOnGrid window predecessorCloseTs candidateCloseTs timeframeSec ↔
      NextByInstants sessions timeframeSec.toNat predecessorCloseTs candidateCloseTs := by
  have first := exists_sessionAt_iff normalized checked (onSeconds predecessorCloseTs le_rfl later.le aligned.1)
    (· = .tradableOpen)
  have last := exists_sessionAt_iff normalized checked (onSeconds candidateCloseTs later.le le_rfl aligned.2)
    (· = .tradableOpen)
  have middle : ∀ closeTs, predecessorCloseTs < closeTs → closeTs < candidateCloseTs → closeTs % timeframeSec.toNat = 0 →
      ((∃ found, sessionAt window closeTs = .ok found ∧ checkInterior found = .ok ()) ↔
        LiesIn sessions (fun kind => kind = .breakOrClearing ∨ kind = .maintenance) closeTs) := by
    intro closeTs behind before onGrid
    have found := exists_sessionAt_iff normalized checked (onSeconds closeTs behind.le before.le onGrid)
      (fun kind => kind = .breakOrClearing ∨ kind = .maintenance)
    simp only [checkInterior_ok_iff]
    exact found
  constructor
  · intro next
    exact {
      predecessor := first.1 next.predecessorOpen
      candidate := last.1 next.currentOpen
      between := fun closeTs behind before onGrid =>
        (middle closeTs behind before onGrid).1 (next.between closeTs behind before onGrid) }
  · intro next
    exact {
      positive := positive
      later := later
      aligned := aligned
      sameDay := sameDay
      predecessorOpen := first.2 next.predecessor
      currentOpen := last.2 next.candidate
      between := fun closeTs behind before onGrid =>
        (middle closeTs behind before onGrid).2 (next.between closeTs behind before onGrid) }

/-- What both the walk and the exact instants approve starts on whole seconds. -/
theorem startsOnSeconds_of_both (normalized : window.normalizedSessions = sessions.map TimedSession.inSeconds)
    (checked : Checked sessions) (walked : NextOnGrid window predecessorCloseTs candidateCloseTs timeframeSec)
    (next : NextByInstants sessions timeframeSec.toNat predecessorCloseTs candidateCloseTs) :
    StartsOnSeconds sessions timeframeSec.toNat predecessorCloseTs candidateCloseTs := by
  intro closeTs notBefore notAfter onGrid
  have both : (∃ found, sessionAt window closeTs = .ok found) ∧ ∃ session ∈ sessions, session.CoversExactly closeTs := by
    rcases eq_or_lt_of_le notBefore with same | behind
    · obtain ⟨found, isFound, _⟩ := walked.predecessorOpen
      obtain ⟨session, member, _, covers⟩ := next.predecessor
      rw [← same]
      exact ⟨⟨found, isFound⟩, session, member, covers⟩
    · rcases eq_or_lt_of_le notAfter with same | before
      · obtain ⟨found, isFound, _⟩ := walked.currentOpen
        obtain ⟨session, member, _, covers⟩ := next.candidate
        rw [same]
        exact ⟨⟨found, isFound⟩, session, member, covers⟩
      · obtain ⟨found, isFound, _⟩ := walked.between closeTs behind before onGrid
        obtain ⟨session, member, _, covers⟩ := next.between closeTs behind before onGrid
        exact ⟨⟨found, isFound⟩, session, member, covers⟩
  obtain ⟨⟨found, isFound⟩, session, member, covers⟩ := both
  exact not_startsBehind_of_both normalized checked isFound member covers

/-- No bar to trade lies between a bar and the next one: of two next ones neither is earlier. -/
theorem NextOnGrid.not_before {otherCloseTs : Int}
    (next : NextOnGrid window predecessorCloseTs candidateCloseTs timeframeSec)
    (behind : predecessorCloseTs < otherCloseTs) (aligned : otherCloseTs % timeframeSec.toNat = 0)
    (tradable : ∃ session, sessionAt window otherCloseTs = .ok session ∧ session.sessionType = .tradableOpen) :
    candidateCloseTs ≤ otherCloseTs := by
  by_contra before
  obtain ⟨session, found, isOpen⟩ := tradable
  obtain ⟨other, otherFound, isBreak⟩ := next.between otherCloseTs behind (by omega) aligned
  have same : session = other := Except.ok.inj (found.symm.trans otherFound)
  rw [checkInterior_ok_iff, ← same, isOpen] at isBreak
  rcases isBreak with impossible | impossible
  · cases impossible
  · cases impossible

end Grid

end TradingGateway.Stage5e.TimedSessions
