import TradingGateway.Stage5e.ScheduleGrid

/-! Which ten-minute bar is the next one to trade, read off the sessions of a day. -/

set_option autoImplicit false

namespace TradingGateway.Stage5e.TradableCloses

open ScheduleGrid

def m10Seconds : Int := 600

/-- A bar that closes then closes inside a trading session. -/
def Tradable (sessions : List NormalizedScheduleSession) (closeTs : Int) : Prop :=
  ∃ session ∈ sessions, session.sessionType = .tradableOpen ∧ session.Covers closeTs

instance (sessions : List NormalizedScheduleSession) (closeTs : Int) : Decidable (Tradable sessions closeTs) :=
  inferInstanceAs (Decidable (∃ session ∈ sessions, _))

/-- Between the closes of two bars no bar closes in a trading session, and the second bar does. -/
structure StepsOverNothing (sessions : List NormalizedScheduleSession) (predecessorCloseTs candidateCloseTs : Int) :
    Prop where
  between : ∀ closeTs, predecessorCloseTs < closeTs → closeTs < candidateCloseTs → closeTs % m10Seconds = 0 →
    ¬ Tradable sessions closeTs
  candidate : Tradable sessions candidateCloseTs

def firstCloseFrom (seconds : Int) : Int :=
  -(-seconds / m10Seconds * m10Seconds)

def closeBehind (closeTs : Int) (session : NormalizedScheduleSession) : Option Int :=
  let first := firstCloseFrom (max session.start (closeTs + 1))
  if session.sessionType = .tradableOpen ∧ first ≤ session.finish then some first else none

def nextTradableClose (sessions : List NormalizedScheduleSession) (closeTs : Int) : Option Int :=
  sessions.findSome? (closeBehind closeTs)

def Ordered (sessions : List NormalizedScheduleSession) : Prop :=
  sessions.Pairwise fun earlier later => earlier.finish ≤ later.start

theorem firstCloseFrom_aligned (seconds : Int) : firstCloseFrom seconds % m10Seconds = 0 := by
  unfold firstCloseFrom
  rw [← Int.neg_mul]
  exact Int.mul_emod_left _ _

theorem le_firstCloseFrom (seconds : Int) : seconds ≤ firstCloseFrom seconds := by
  unfold firstCloseFrom m10Seconds
  omega

theorem firstCloseFrom_le {seconds closeTs : Int} (notBefore : seconds ≤ closeTs)
    (aligned : closeTs % m10Seconds = 0) : firstCloseFrom seconds ≤ closeTs := by
  unfold firstCloseFrom
  unfold m10Seconds at *
  omega

section Session

variable {session : NormalizedScheduleSession} {closeTs next : Int}

theorem closeBehind_spec (found : closeBehind closeTs session = some next) :
    session.sessionType = .tradableOpen ∧ session.Covers next ∧ closeTs < next ∧ next % m10Seconds = 0 := by
  unfold closeBehind at found
  dsimp only at found
  split at found
  case isTrue trades =>
    cases found
    have notBefore := le_firstCloseFrom (max session.start (closeTs + 1))
    exact ⟨trades.1, ⟨by omega, trades.2⟩, by omega, firstCloseFrom_aligned _⟩
  case isFalse => cases found

/-- No other close of the session is nearer. -/
theorem closeBehind_nearest {other : Int} (trades : session.sessionType = .tradableOpen) (covers : session.Covers other)
    (later : closeTs < other) (aligned : other % m10Seconds = 0) :
    ∃ next, closeBehind closeTs session = some next ∧ next ≤ other := by
  have nearest : firstCloseFrom (max session.start (closeTs + 1)) ≤ other :=
    firstCloseFrom_le (max_le covers.1 later) aligned
  refine ⟨_, ?_, nearest⟩
  unfold closeBehind
  exact if_pos ⟨trades, nearest.trans covers.2⟩

end Session

section Sessions

variable {sessions : List NormalizedScheduleSession} {closeTs next : Int}

theorem nextTradableClose_spec (found : nextTradableClose sessions closeTs = some next) :
    Tradable sessions next ∧ closeTs < next ∧ next % m10Seconds = 0 := by
  obtain ⟨session, member, found⟩ := List.exists_of_findSome?_eq_some found
  obtain ⟨trades, covers, later, aligned⟩ := closeBehind_spec found
  exact ⟨⟨session, member, trades, covers⟩, later, aligned⟩

/-- In ordered sessions no other tradable close is nearer. -/
theorem nextTradableClose_nearest (ordered : Ordered sessions) {other : Int} (tradable : Tradable sessions other)
    (later : closeTs < other) (aligned : other % m10Seconds = 0) :
    ∃ next, nextTradableClose sessions closeTs = some next ∧ next ≤ other := by
  induction sessions with
  | nil =>
      obtain ⟨_, member, _⟩ := tradable
      cases member
  | cons first rest ih =>
      obtain ⟨session, member, trades, covers⟩ := tradable
      obtain ⟨firstBefore, apart⟩ := List.pairwise_cons.1 ordered
      unfold nextTradableClose
      rw [List.findSome?_cons]
      cases found : closeBehind closeTs first with
      | some next =>
          refine ⟨next, rfl, ?_⟩
          obtain ⟨firstTrades, firstCovers, _⟩ := closeBehind_spec found
          rcases List.mem_cons.1 member with rfl | member
          · obtain ⟨nearest, same, isNearest⟩ := closeBehind_nearest trades covers later aligned
            cases found.symm.trans same
            exact isNearest
          · exact firstCovers.2.trans ((firstBefore session member).trans covers.1)
      | none =>
          rcases List.mem_cons.1 member with rfl | member
          · obtain ⟨nearest, same, _⟩ := closeBehind_nearest trades covers later aligned
            cases found.symm.trans same
          · exact ih apart ⟨session, member, trades, covers⟩

/-- A bar steps over nothing exactly when it closes at the next tradable close. -/
theorem stepsOverNothing_iff (ordered : Ordered sessions) {candidateCloseTs : Int} (later : closeTs < candidateCloseTs)
    (aligned : candidateCloseTs % m10Seconds = 0) :
    StepsOverNothing sessions closeTs candidateCloseTs ↔ nextTradableClose sessions closeTs = some candidateCloseTs := by
  constructor
  · intro nothing
    obtain ⟨next, found, nearest⟩ := nextTradableClose_nearest ordered nothing.candidate later aligned
    obtain ⟨tradable, behind, nextAligned⟩ := nextTradableClose_spec found
    rcases lt_or_eq_of_le nearest with before | same
    · exact absurd tradable (nothing.between next behind before nextAligned)
    · rw [found, same]
  · intro found
    obtain ⟨tradable, _, _⟩ := nextTradableClose_spec found
    refine ⟨fun other behind before otherAligned otherTradable => ?_, tradable⟩
    obtain ⟨next, same, nearest⟩ := nextTradableClose_nearest ordered otherTradable behind otherAligned
    cases found.symm.trans same
    omega

/-- No close of the grid lies between two bars that follow each other. -/
theorem stepsOverNothing_contiguous {candidateCloseTs : Int} (aligned : closeTs % m10Seconds = 0)
    (contiguous : candidateCloseTs = closeTs + m10Seconds) :
    StepsOverNothing sessions closeTs candidateCloseTs ↔ Tradable sessions candidateCloseTs := by
  constructor
  · exact fun nothing => nothing.candidate
  · intro tradable
    refine ⟨fun other behind before otherAligned _ => ?_, tradable⟩
    unfold m10Seconds at *
    omega

end Sessions

section Grid

variable {codec : ScheduleCodec} {window : Stage5eScheduleWindowEvidence} {closeTs candidateCloseTs : Int}

/-- The session that the grid walk finds at a close decides whether that close is tradable. -/
theorem tradable_iff_of_sessionAt {session : NormalizedScheduleSession} (found : sessionAt window closeTs = .ok session) :
    Tradable window.normalizedSessions closeTs ↔ session.sessionType = .tradableOpen := by
  unfold sessionAt at found
  split at found
  · cases found
  · rename_i only alone
    cases found
    have alone : ∀ other, (other ∈ window.normalizedSessions ∧ other.Covers closeTs) ↔ other = session := by
      intro other
      have listed : other ∈ window.normalizedSessions.filter (·.Covers closeTs) ↔ other ∈ [session] := by rw [alone]
      simpa using listed
    constructor
    · rintro ⟨other, member, trades, covers⟩
      rwa [← (alone other).1 ⟨member, covers⟩]
    · intro trades
      obtain ⟨member, covers⟩ := (alone session).2 rfl
      exact ⟨session, member, trades, covers⟩
  · cases found

/-- The day of a window tells of each close from one bar to another in which session it lies: in one
alone, of a known kind, the first of them in a trading session. -/
structure Charted (window : Stage5eScheduleWindowEvidence) (closeTs candidateCloseTs : Int) : Prop where
  sameDay : utcDay closeTs = some window.tradingDay ∧ utcDay candidateCloseTs = some window.tradingDay
  predecessorOpen : ∃ session, sessionAt window closeTs = .ok session ∧ session.sessionType = .tradableOpen
  known : ∀ other, closeTs < other → other ≤ candidateCloseTs → other % m10Seconds = 0 →
    ∃ session, sessionAt window other = .ok session ∧ session.sessionType ≠ .unknown

/-- The walk over the grid of a charted window approves a bar exactly where nothing tradable is stepped over. -/
theorem classifyExpectedCloseGrid_iff_stepsOverNothing (aligned : closeTs % m10Seconds = 0)
    (candidateAligned : candidateCloseTs % m10Seconds = 0) (later : closeTs < candidateCloseTs) :
    (∃ classification, classifyExpectedCloseGrid codec window closeTs candidateCloseTs 600 = .ok classification) ↔
      Charted window closeTs candidateCloseTs ∧ StepsOverNothing window.normalizedSessions closeTs candidateCloseTs := by
  rw [classifyExpectedCloseGrid_isOk_iff]
  constructor
  · intro next
    obtain ⟨last, lastFound, lastOpen⟩ := next.currentOpen
    refine ⟨⟨next.sameDay, next.predecessorOpen, ?_⟩, ⟨?_, (tradable_iff_of_sessionAt lastFound).2 lastOpen⟩⟩
    · intro other behind upTo otherAligned
      rcases lt_or_eq_of_le upTo with before | rfl
      · obtain ⟨session, found, passes⟩ := next.between other behind before otherAligned
        refine ⟨session, found, fun unknown => ?_⟩
        rw [checkInterior, unknown] at passes
        cases passes
      · exact ⟨last, lastFound, by rw [lastOpen]; decide⟩
    · intro other behind before otherAligned tradable
      obtain ⟨session, found, passes⟩ := next.between other behind before otherAligned
      rw [checkInterior, (tradable_iff_of_sessionAt found).1 tradable] at passes
      cases passes
  · rintro ⟨charted, nothing⟩
    refine {
      positive := by decide
      later := later
      aligned := ⟨aligned, candidateAligned⟩
      sameDay := charted.sameDay
      predecessorOpen := charted.predecessorOpen
      currentOpen := ?_
      between := ?_ }
    · obtain ⟨session, found, _⟩ := charted.known candidateCloseTs later le_rfl candidateAligned
      exact ⟨session, found, (tradable_iff_of_sessionAt found).1 nothing.candidate⟩
    · intro other behind before otherAligned
      obtain ⟨session, found, isKnown⟩ := charted.known other behind before.le otherAligned
      have closed := nothing.between other behind before otherAligned
      rw [tradable_iff_of_sessionAt found] at closed
      refine ⟨session, found, ?_⟩
      unfold checkInterior
      cases kind : session.sessionType with
      | breakOrClearing => rfl
      | maintenance => rfl
      | tradableOpen => exact absurd kind closed
      | unknown => exact absurd kind isKnown

end Grid

/-- A break of a bar between two sessions is stepped over, a bar of the second session is not. -/
example : nextTradableClose
    [{ sessionType := .tradableOpen, start := 600, finish := 1200 },
      { sessionType := .breakOrClearing, start := 1300, finish := 1900 },
      { sessionType := .tradableOpen, start := 2000, finish := 6000 }] 1200 = some 2400 := by
  decide

end TradingGateway.Stage5e.TradableCloses
