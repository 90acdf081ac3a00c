import TradingGateway.BrokerCore.InstantMillis
import TradingGateway.FinamGateway.PlainStage8a4Codec

/-! What an admitted trade history covers, and how far its sources lie apart. -/

set_option autoImplicit false

namespace TradingGateway.FinamGateway.TradeCoverage

open BrokerCore.Orders BrokerCore.Orders.DateTimeUtc BrokerCore.OperationalSnapshot Foundation.ExceptRun
open Stage6.PlainCodec Stage8a4Reconciliation PlainStage8a4Codec

def Within (start finish time : DateTimeUtc) : Prop :=
  ¬ start.After time ∧ finish.After time

variable {codec : Stage8a4Codec} {context : Stage8a4DurableRequestContext} {policy : Stage8a4ReconciliationPolicy}

def validateCrossSourceSkew (codec : Stage8a4Codec) (policy : Stage8a4ReconciliationPolicy)
    (evidence : Stage8a4SourceEvidence) : Except AdmissionFailure Unit :=
  rejectIf (exceedsSkew codec policy (receivedTimes evidence) = true) stale

structure Admitted (codec : Stage8a4Codec) (context : Stage8a4DurableRequestContext)
    (policy : Stage8a4ReconciliationPolicy) (interval : Stage8a4TradeIntervalProof) : Prop where
  complete : interval.returnedCount < interval.requestedLimit
  requested : ¬ context.possibleEffectAt.After interval.requestStartedAt
  received : ¬ interval.responseReceivedAt.After policy.trustedNow
  fresh : codec.nanosecondsSince policy.trustedNow interval.responseReceivedAt ≤ policy.maxSourceAge

theorem laterOf_after {left right time : DateTimeUtc} (after : (laterOf left right).After time) :
    left.After time ∨ right.After time := by
  unfold laterOf at after
  split_ifs at after
  · exact Or.inl after
  · exact Or.inr after

theorem not_after_laterOf_left (left right : DateTimeUtc) : ¬ left.After (laterOf left right) := by
  unfold laterOf
  split_ifs with later
  · exact after_irrefl left
  · exact later

theorem not_after_laterOf_right (left right : DateTimeUtc) : ¬ right.After (laterOf left right) := by
  unfold laterOf
  split_ifs with later
  · exact later.asymm
  · exact after_irrefl right

theorem coverInterval_ok {coveredEnd next : DateTimeUtc} {interval : Stage8a4TradeIntervalProof}
    (covers : coverInterval codec context policy coveredEnd interval = .ok next) :
    Admitted codec context policy interval ∧ ¬ interval.startInclusive.After coveredEnd ∧
      next = laterOf coveredEnd interval.endExclusive := by
  unfold coverInterval at covers
  rw [check_bind_ok_iff, check_bind_ok_iff, rejectIf_ok_iff, rejectIf_ok_iff] at covers
  obtain ⟨accepted, unsaturated, isNext⟩ := covers
  simp only [not_or, NotFresh, not_lt] at accepted
  obtain ⟨-, -, starts, requested, -, ⟨received, fresh⟩, -⟩ := accepted
  cases isNext
  exact ⟨⟨not_le.1 unsaturated, requested, received, fresh⟩, starts, rfl⟩

/-- The sweep so far: every interval is admitted and ends by `coveredEnd`, and no instant from the first on is
left out before it. -/
structure Swept (codec : Stage8a4Codec) (context : Stage8a4DurableRequestContext)
    (policy : Stage8a4ReconciliationPolicy) (first : DateTimeUtc) (intervals : List Stage8a4TradeIntervalProof)
    (coveredEnd : DateTimeUtc) : Prop where
  admitted : ∀ interval ∈ intervals, Admitted codec context policy interval
  ends : ∀ interval ∈ intervals, ¬ interval.endExclusive.After coveredEnd
  covers : ∀ time, Within first coveredEnd time →
    ∃ interval ∈ intervals, Within interval.startInclusive interval.endExclusive time

theorem Swept.coverInterval {first coveredEnd next : DateTimeUtc} {intervals : List Stage8a4TradeIntervalProof}
    {interval : Stage8a4TradeIntervalProof} (swept : Swept codec context policy first intervals coveredEnd)
    (covered : coverInterval codec context policy coveredEnd interval = .ok next) :
    Swept codec context policy first (intervals ++ [interval]) next := by
  obtain ⟨isAdmitted, starts, rfl⟩ := coverInterval_ok covered
  have last : interval ∈ intervals ++ [interval] := List.mem_append_right _ (List.mem_singleton.2 rfl)
  refine ⟨?_, ?_, ?_⟩
  · intro other member
    obtain earlier | isLast := List.mem_append.1 member
    · exact swept.admitted other earlier
    · exact List.mem_singleton.1 isLast ▸ isAdmitted
  · intro other member
    obtain earlier | isLast := List.mem_append.1 member
    · exact not_after_trans (swept.ends other earlier) (not_after_laterOf_left _ _)
    · exact List.mem_singleton.1 isLast ▸ not_after_laterOf_right _ _
  · intro time within
    by_cases before : coveredEnd.After time
    · obtain ⟨other, member, inside⟩ := swept.covers time ⟨within.1, before⟩
      exact ⟨other, List.mem_append_left _ member, inside⟩
    · have ends := (laterOf_after within.2).resolve_left before
      exact ⟨interval, last, not_after_trans starts before, ends⟩

theorem swept_of_run {first coveredEnd : DateTimeUtc} {intervals : List Stage8a4TradeIntervalProof}
    (ran : intervals.foldlM (coverInterval codec context policy) first = .ok coveredEnd) :
    Swept codec context policy first intervals coveredEnd := by
  refine foldlM_induction (Swept codec context policy first) ?_ ?_ ran
  · refine ⟨(fun _ absent => nomatch absent), (fun _ absent => nomatch absent), ?_⟩
    rintro time ⟨starts, before⟩
    exact absurd before starts
  · intro intervals coveredEnd interval next swept covered
    exact swept.coverInterval covered

/-- The history is admitted interval by interval, and leaves no instant of the event window out. -/
theorem validateTradeIntervals_ok {trades : Stage8a4BoundedTradeHistoryComplete}
    (valid : validateTradeIntervals codec context policy trades = .ok ()) :
    (∀ interval ∈ trades.intervals, Admitted codec context policy interval) ∧
      ∀ time, Within context.eventStart context.eventEnd time →
        ∃ interval ∈ trades.intervals, Within interval.startInclusive interval.endExclusive time := by
  unfold validateTradeIntervals at valid
  dsimp only at valid
  have sorted : ∀ interval, interval ∈ trades.intervals.insertionSort StartsBefore ↔ interval ∈ trades.intervals :=
    fun interval => (List.perm_insertionSort StartsBefore trades.intervals).mem_iff
  generalize trades.intervals.insertionSort StartsBefore = intervals at valid sorted
  rw [check_bind_ok_iff, bind_ok_iff] at valid
  obtain ⟨-, first, isFirst, valid⟩ := valid
  rw [check_bind_ok_iff, bind_ok_iff, rejectIf_ok_iff, not_or, not_or] at valid
  obtain ⟨⟨-, starts, ends⟩, coveredEnd, ran, -⟩ := valid
  rw [orReject_ok_iff] at isFirst
  have swept := swept_of_run ran
  refine ⟨fun interval member => swept.admitted interval ((sorted interval).2 member), ?_⟩
  rintro time ⟨since, before⟩
  obtain ⟨last, isLast⟩ : ∃ last, intervals.getLast? = some last := by
    cases intervals with
    | nil => cases isFirst
    | cons head rest => exact ⟨_, List.getLast?_eq_some_getLast (List.cons_ne_nil head rest)⟩
  have reachesEnd : ¬ context.eventEnd.After coveredEnd :=
    not_after_trans (fun later => ends ⟨last, isLast, later⟩) (swept.ends last (List.mem_of_getLast? isLast))
  have beforeEnd : coveredEnd.After time := by
    by_contra past
    exact not_after_trans reachesEnd past before
  obtain ⟨interval, member, inside⟩ := swept.covers time ⟨not_after_trans starts since, beforeEnd⟩
  exact ⟨interval, (sorted interval).1 member, inside⟩

/-- Choosing one of two again and again gives an item that is at least as good as every one. -/
theorem foldl_choice {Item : Type} {choose : Item → Item → Item} {beats : Item → Item → Prop}
    (refl : ∀ item, beats item item) (trans : ∀ {first second third}, beats first second → beats second third → beats first third)
    (either : ∀ left right, choose left right = left ∨ choose left right = right)
    (beatsLeft : ∀ left right, beats (choose left right) left)
    (beatsRight : ∀ left right, beats (choose left right) right) (first : Item) (rest : List Item) :
    rest.foldl choose first ∈ first :: rest ∧ ∀ item ∈ first :: rest, beats (rest.foldl choose first) item := by
  induction rest generalizing first with
  | nil =>
      refine ⟨List.mem_cons_self, fun item member => ?_⟩
      rw [List.mem_singleton.1 member]
      exact refl first
  | cons next rest ih =>
      obtain ⟨chosen, best⟩ := ih (choose first next)
      rw [List.foldl_cons]
      refine ⟨?_, ?_⟩
      · obtain isChoice | later := List.mem_cons.1 chosen
        · rw [isChoice]
          obtain isFirst | isNext := either first next
          · rw [isFirst]
            exact List.mem_cons_self
          · rw [isNext]
            exact List.mem_cons_of_mem _ List.mem_cons_self
        · exact List.mem_cons_of_mem _ (List.mem_cons_of_mem _ later)
      · intro item member
        obtain rfl | later := List.mem_cons.1 member
        · exact trans (best _ List.mem_cons_self) (beatsLeft item next)
        · obtain rfl | later := List.mem_cons.1 later
          · exact trans (best _ List.mem_cons_self) (beatsRight first item)
          · exact best item (List.mem_cons_of_mem _ later)

theorem foldl_laterOf (first : DateTimeUtc) (rest : List DateTimeUtc) :
    rest.foldl laterOf first ∈ first :: rest ∧ ∀ time ∈ first :: rest, ¬ time.After (rest.foldl laterOf first) := by
  refine @foldl_choice _ laterOf (fun later time => ¬ time.After later) after_irrefl
    (fun later latest => not_after_trans latest later) ?_ not_after_laterOf_left not_after_laterOf_right first rest
  intro left right
  unfold laterOf
  split_ifs
  · exact Or.inl rfl
  · exact Or.inr rfl

theorem foldl_earlierOf (first : DateTimeUtc) (rest : List DateTimeUtc) :
    rest.foldl earlierOf first ∈ first :: rest ∧ ∀ time ∈ first :: rest, ¬ (rest.foldl earlierOf first).After time := by
  refine @foldl_choice _ earlierOf (fun earlier time => ¬ earlier.After time) after_irrefl not_after_trans
    ?_ ?_ ?_ first rest
  · intro left right
    unfold earlierOf
    split_ifs
    · exact Or.inr rfl
    · exact Or.inl rfl
  · intro left right
    unfold earlierOf
    split_ifs with later
    · exact later.asymm
    · exact after_irrefl left
  · intro left right
    unfold earlierOf
    split_ifs with later
    · exact after_irrefl right
    · exact later

/-- Instants that differ by an amount of time, as long as there is such an instant. -/
def InRange (clock : Int) : Prop :=
  minSeconds * 1000000000 ≤ clock ∧ clock < (maxSeconds + 1) * 1000000000

instance (clock : Int) : Decidable (InRange clock) :=
  inferInstanceAs (Decidable (_ ∧ _))

structure CalendarArithmetic (codec : Stage8a4Codec) : Prop where
  since : ∀ later earlier : DateTimeUtc, codec.nanosecondsSince later earlier = later.nanosecondsSince earlier
  add : ∀ (time : DateTimeUtc) (nanoseconds : Int), time.Ordinary → InRange (time.clock + nanoseconds) →
    (codec.addDuration time nanoseconds).Ordinary ∧ (codec.addDuration time nanoseconds).clock = time.clock + nanoseconds

theorem not_after_iff_clock {left right : DateTimeUtc} (leftOrdinary : left.Ordinary) (rightOrdinary : right.Ordinary) :
    ¬ left.After right ↔ left.clock ≤ right.clock := by
  rw [after_iff_clock leftOrdinary rightOrdinary, not_lt]

/-- Two of the responses lie no further apart than the last and the first. -/
theorem since_le_of_not_exceedsSkew (calendar : CalendarArithmetic codec) {received : List DateTimeUtc}
    (ordinary : ∀ time ∈ received, time.Ordinary) (kept : exceedsSkew codec policy received = false)
    {left right : DateTimeUtc} (leftMember : left ∈ received) (rightMember : right ∈ received) :
    codec.nanosecondsSince left right ≤ policy.maxCrossSourceSkew := by
  cases received with
  | nil => cases leftMember
  | cons first rest =>
      have within := not_lt.1 (of_decide_eq_false kept)
      obtain ⟨lastMember, last⟩ := foldl_laterOf first rest
      obtain ⟨firstMember, earliest⟩ := foldl_earlierOf first rest
      have lastOrdinary := ordinary _ lastMember
      have firstOrdinary := ordinary _ firstMember
      have leftOrdinary := ordinary left leftMember
      have rightOrdinary := ordinary right rightMember
      have notLater := (not_after_iff_clock leftOrdinary lastOrdinary).1 (last left leftMember)
      have notEarlier := (not_after_iff_clock firstOrdinary rightOrdinary).1 (earliest right rightMember)
      rw [calendar.since, nanosecondsSince_eq_clock lastOrdinary firstOrdinary] at within
      rw [calendar.since, nanosecondsSince_eq_clock leftOrdinary rightOrdinary]
      linarith

/-- Up to the end of its validity the admission rests on sources that are fresh enough. -/
theorem fresh_until (calendar : CalendarArithmetic codec) {evidence : Stage8a4SourceEvidence}
    (ordinary : ∀ time ∈ receivedTimes evidence, time.Ordinary)
    (reaches : ∀ received ∈ receivedTimes evidence, InRange (received.clock + policy.maxSourceAge))
    {time : DateTimeUtc} (timeOrdinary : time.Ordinary)
    (valid : ¬ time.After (stage8a4WriterEntryValidUntil codec policy evidence)) {received : DateTimeUtc}
    (member : received ∈ receivedTimes evidence) : codec.nanosecondsSince time received ≤ policy.maxSourceAge := by
  have listed : evidence.orders.timing.responseReceivedAt :: receivedTimes evidence ⊆ receivedTimes evidence := by
    intro other otherMember
    obtain rfl | again := List.mem_cons.1 otherMember
    · exact List.mem_cons_self
    · exact again
  obtain ⟨oldestMember, oldest⟩ := foldl_earlierOf evidence.orders.timing.responseReceivedAt (receivedTimes evidence)
  unfold stage8a4WriterEntryValidUntil at valid
  generalize (receivedTimes evidence).foldl earlierOf evidence.orders.timing.responseReceivedAt = first at *
  have firstOrdinary := ordinary first (listed oldestMember)
  have receivedOrdinary := ordinary received member
  obtain ⟨untilOrdinary, untilClock⟩ := calendar.add first policy.maxSourceAge firstOrdinary
    (reaches first (listed oldestMember))
  have notLater := (not_after_iff_clock timeOrdinary untilOrdinary).1 valid
  have notEarlier := (not_after_iff_clock firstOrdinary receivedOrdinary).1
    (oldest received (List.mem_cons_of_mem _ member))
  rw [calendar.since, nanosecondsSince_eq_clock timeOrdinary receivedOrdinary]
  linarith

/-- An admitted trade history leaves no instant of the event window out, no interval of it is saturated, early or
late; and unless an answer came within a leap second, the sources agree in time now and until the entry expires. -/
theorem admitted_history_covers (calendar : CalendarArithmetic codec) {evidence : Stage8a4SourceEvidence}
    (intervals : validateTradeIntervals codec context policy evidence.trades = .ok ())
    (skew : validateCrossSourceSkew codec policy evidence = .ok ()) :
    (∀ time, Within context.eventStart context.eventEnd time →
      ∃ interval ∈ evidence.trades.intervals, Within interval.startInclusive interval.endExclusive time ∧
        interval.returnedCount < interval.requestedLimit) ∧
    (∀ interval ∈ evidence.trades.intervals, ¬ context.possibleEffectAt.After interval.requestStartedAt ∧
      ¬ interval.responseReceivedAt.After policy.trustedNow ∧
      codec.nanosecondsSince policy.trustedNow interval.responseReceivedAt ≤ policy.maxSourceAge) ∧
    ((∀ time ∈ receivedTimes evidence, time.Ordinary) →
      (∀ left ∈ receivedTimes evidence, ∀ right ∈ receivedTimes evidence,
        codec.nanosecondsSince left right ≤ policy.maxCrossSourceSkew) ∧
      ((∀ received ∈ receivedTimes evidence, InRange (received.clock + policy.maxSourceAge)) →
        ∀ time : DateTimeUtc, time.Ordinary → ¬ time.After (stage8a4WriterEntryValidUntil codec policy evidence) →
          ∀ received ∈ receivedTimes evidence, codec.nanosecondsSince time received ≤ policy.maxSourceAge)) := by
  obtain ⟨admitted, covers⟩ := validateTradeIntervals_ok intervals
  have kept : exceedsSkew codec policy (receivedTimes evidence) = false := by
    unfold validateCrossSourceSkew at skew
    simpa using (rejectIf_ok_iff _ _ _).1 skew
  refine ⟨?_, ?_, ?_⟩
  · intro time within
    obtain ⟨interval, member, inside⟩ := covers time within
    exact ⟨interval, member, inside, (admitted interval member).complete⟩
  · intro interval member
    have isAdmitted := admitted interval member
    exact ⟨isAdmitted.requested, isAdmitted.received, isAdmitted.fresh⟩
  · intro ordinary
    refine ⟨?_, ?_⟩
    · intro left leftMember right rightMember
      exact since_le_of_not_exceedsSkew calendar ordinary kept leftMember rightMember
    · intro reaches time timeOrdinary valid received member
      exact fresh_until calendar ordinary reaches timeOrdinary valid member

def calendarCodec : Stage8a4Codec :=
  { plainStage8a4Codec with nanosecondsSince := fun later earlier => later.nanosecondsSince earlier }

theorem calendarCodec_arithmetic : CalendarArithmetic calendarCodec where
  since := fun _ _ => rfl
  add := by
    intro time nanoseconds _ _
    have sum : nanosecondsOf time = time.clock := rfl
    have shown : calendarCodec.addDuration time nanoseconds =
        { seconds := (time.clock + nanoseconds) / 10 ^ 9
          nanos := UInt32.ofNat ((time.clock + nanoseconds) % 10 ^ 9).toNat } := rfl
    have fraction : (UInt32.ofNat ((time.clock + nanoseconds) % 10 ^ 9).toNat).toNat =
        ((time.clock + nanoseconds) % 10 ^ 9).toNat := by
      rw [UInt32.toNat_ofNat', Nat.mod_eq_of_lt]
      omega
    rw [shown]
    refine ⟨?_, ?_⟩
    · unfold Ordinary
      rw [fraction]
      omega
    · have remainder := Int.emod_add_mul_ediv (time.clock + nanoseconds) (10 ^ 9)
      have bound := Int.emod_nonneg (time.clock + nanoseconds) (by decide : (10 ^ 9 : Int) ≠ 0)
      generalize time.clock + nanoseconds = total at *
      unfold clock
      rw [fraction]
      dsimp only
      omega

def samplePolicyAt (second : Nat) : Stage8a4ReconciliationPolicy :=
  issueStage8a4PolicyFromFrozenConfig calendarCodec (atSecond second)

def sampleCoverage : Stage8a4DurableRequestContext :=
  sampleContext ((sampleAttribution "ENTRY").get (by decide))

def sampleInterval (start finish : Nat) (received : DateTimeUtc) : Stage8a4TradeIntervalProof :=
  { startInclusive := atSecond start
    endExclusive := atSecond finish
    requestedLimit := 10
    returnedCount := 1
    requestStartedAt := atSecond 3
    responseReceivedAt := received
    splitDepth := 0 }

/-- The given intervals of trades, and the three snapshots answered at the given instants. -/
def sampleSources (intervals : List Stage8a4TradeIntervalProof) (orders positions instruments : DateTimeUtc) :
    Stage8a4SourceEvidence :=
  let answeredAt (received : DateTimeUtc) : Stage8a4SourceTiming :=
    { requestStartedAt := atSecond 3, responseReceivedAt := received }
  { orders := { timing := answeredAt orders }
    trades := {
      intervals := intervals
      intervalCoverageSha256 := intervalCoverageFingerprint calendarCodec (intervals.insertionSort StartsBefore) }
    positions := { timing := answeredAt positions }
    instruments := .exactTargetResolved (answeredAt instruments)
    exactLookup := .notAttempted
    canonicalTruthPayloadSha256 := []
    acquisitionPolicySha256 := [] }

/-- Two of the three answers come in the two seconds around a leap second, the last one five seconds after the first. -/
def leapSources : Stage8a4SourceEvidence :=
  sampleSources [sampleInterval 0 100 (atSecond 55)] (atSecond 55) (atSecond 60) { seconds := 59, nanos := 1900000000 }

/-- Intervals out of their order: two that overlap, one inside of another, and one that follows. -/
def steadySources : Stage8a4SourceEvidence :=
  sampleSources [sampleInterval 70 100 (atSecond 58), sampleInterval 30 70 (atSecond 57),
    sampleInterval 10 20 (atSecond 56), sampleInterval 0 40 (atSecond 55)] (atSecond 55) (atSecond 58) (atSecond 59)

theorem leapSources_valid :
    validateTradeIntervals calendarCodec sampleCoverage (samplePolicyAt 61) leapSources.trades = .ok () ∧
      validateCrossSourceSkew calendarCodec (samplePolicyAt 61) leapSources = .ok () := by
  rw [← toOption_eq_some_iff, ← toOption_eq_some_iff]
  decide +kernel

theorem steadySources_valid :
    validateTradeIntervals calendarCodec sampleCoverage (samplePolicyAt 61) steadySources.trades = .ok () ∧
      validateCrossSourceSkew calendarCodec (samplePolicyAt 61) steadySources = .ok () := by
  rw [← toOption_eq_some_iff, ← toOption_eq_some_iff]
  decide +kernel

theorem admitted_history_covers_steady :
    (∀ time, Within (atSecond 0) (atSecond 100) time → ∃ interval ∈ steadySources.trades.intervals,
      Within interval.startInclusive interval.endExclusive time ∧ interval.returnedCount < interval.requestedLimit) ∧
    (∀ interval ∈ steadySources.trades.intervals, ¬ interval.responseReceivedAt.After (atSecond 61)) ∧
    calendarCodec.nanosecondsSince (atSecond 59) (atSecond 55) ≤ (samplePolicyAt 61).maxCrossSourceSkew ∧
    calendarCodec.nanosecondsSince (stage8a4WriterEntryValidUntil calendarCodec (samplePolicyAt 61) steadySources)
      (atSecond 55) ≤ (samplePolicyAt 61).maxSourceAge := by
  obtain ⟨covers, bounds, times⟩ :=
    admitted_history_covers calendarCodec_arithmetic steadySources_valid.1 steadySources_valid.2
  obtain ⟨agree, fresh⟩ := times (by decide)
  refine ⟨covers, fun interval member => (bounds interval member).2.1, agree _ (by decide) _ (by decide),
    ?_⟩
  exact fresh (by decide) _ (by decide) (by decide) _ (by decide)

/-- The leap second is before the last answer, but further from the first one than the policy allows. -/
theorem leap_second_widens_skew :
    ¬ ∀ (codec : Stage8a4Codec) (context : Stage8a4DurableRequestContext) (policy : Stage8a4ReconciliationPolicy)
      (evidence : Stage8a4SourceEvidence), CalendarArithmetic codec →
      validateTradeIntervals codec context policy evidence.trades = .ok () →
      validateCrossSourceSkew codec policy evidence = .ok () →
      ∀ left ∈ receivedTimes evidence, ∀ right ∈ receivedTimes evidence,
        codec.nanosecondsSince left right ≤ policy.maxCrossSourceSkew := by
  intro claim
  have kept := claim calendarCodec sampleCoverage (samplePolicyAt 61) leapSources calendarCodec_arithmetic
    leapSources_valid.1 leapSources_valid.2 { seconds := 59, nanos := 1900000000 }
    (by decide) (atSecond 55) (by decide)
  revert kept
  decide

end TradingGateway.FinamGateway.TradeCoverage
