import TradingGateway.BrokerCore.BarAggregationProperties

/-! What becomes of a complete run of source bars when bars of older buckets come in between. -/

set_option autoImplicit false

namespace TradingGateway.BrokerCore.BarAggregation

open Orders Bars
open Foundation.Tilings

def LateFor (target : UInt32) (opens : DateTimeUtc) (bar : Bar) : Prop :=
  validateSourceBar bar target = .ok () ∧ ∃ older, bucketOpenTs bar.openTs target = some older ∧ opens.After older

structure CompleteRun (target timeframeSec : UInt32) (opens : DateTimeUtc) (run : List Bar) : Prop where
  grid : opens.seconds % target.toNat = 0
  inRange : DateTimeUtc.timestampOpt opens.seconds = some opens
  valid : ∀ bar ∈ run, validateSourceBar bar target = .ok ()
  regular : ∀ bar ∈ run, Regular timeframeSec bar
  alike : ∀ bar ∈ run, ∀ other ∈ run, bar.instrument = other.instrument ∧ bar.sourceKind = other.sourceKind
  tiles : Tiles Bar.openTs Bar.closeTs run opens { seconds := opens.seconds + target.toNat, nanos := 0 }

def emissions (actions : List BarAggregationAction) : List Bar :=
  actions.filterMap fun action =>
    match action with
    | .emitted emitted => some emitted
    | _ => none

def EmitsOnce (aggregator : CanonicalBarAggregator) (observed : List Bar) (emitted : Bar) : Prop :=
  ∃ actions next, aggregator.observeAll observed = some (actions, next) ∧
    (emissions actions).filter (fun bar => bar.openTs = emitted.openTs) = [emitted]

theorem observeAll_append_iff {front back : List Bar} {aggregator next : CanonicalBarAggregator}
    {actions : List BarAggregationAction} :
    aggregator.observeAll (front ++ back) = some (actions, next) ↔
      ∃ first middle second, aggregator.observeAll front = some (first, middle) ∧
        middle.observeAll back = some (second, next) ∧ actions = first ++ second := by
  induction front generalizing aggregator actions with
  | nil => simp [CanonicalBarAggregator.observeAll]
  | cons bar front ih =>
      simp only [List.cons_append, CanonicalBarAggregator.observeAll, Option.bind_eq_bind, Option.bind_eq_some_iff]
      constructor
      · rintro ⟨⟨action, one⟩, observed, ⟨others, last⟩, ran, result⟩
        cases result
        obtain ⟨first, middle, second, ranFront, ranBack, rfl⟩ := ih.1 ran
        exact ⟨action :: first, middle, second, ⟨(action, one), observed, (first, middle), ranFront, rfl⟩, ranBack, rfl⟩
      · rintro ⟨first, middle, second, ⟨⟨action, one⟩, observed, ⟨others, last⟩, ran, result⟩, ranBack, rfl⟩
        cases result
        exact ⟨(action, one), observed, (others ++ second, next), ih.2 ⟨others, last, second, ran, ranBack, rfl⟩, rfl⟩

theorem observeAll_singleton_iff {bar : Bar} {aggregator next : CanonicalBarAggregator}
    {actions : List BarAggregationAction} :
    aggregator.observeAll [bar] = some (actions, next) ↔
      ∃ action, aggregator.observeFinalSourceBar bar = some (action, next) ∧ actions = [action] := by
  simp only [CanonicalBarAggregator.observeAll, Option.bind_eq_bind, Option.bind_eq_some_iff]
  constructor
  · rintro ⟨⟨action, one⟩, observed, ⟨others, last⟩, ran, result⟩
    cases ran
    cases result
    exact ⟨action, observed, rfl⟩
  · rintro ⟨action, observed, rfl⟩
    exact ⟨(action, next), observed, ([], next), rfl, rfl⟩

section Runs

variable {target timeframeSec : UInt32} {opens : DateTimeUtc} {aggregator : CanonicalBarAggregator}

/-- A bar of an older bucket takes the current one away. -/
theorem observe_late {bucket : BarAggregationBucket} {bar : Bar} (present : aggregator.current = some bucket)
    (late : LateFor aggregator.targetTimeframeSec bucket.bucketOpenTs bar) :
    aggregator.observeFinalSourceBar bar = some (.rejected .nonMonotonicSourceBar, aggregator.withoutBucket) := by
  obtain ⟨valid, older, grid, isOlder⟩ := late
  have differs : bucket.bucketOpenTs ≠ older := by
    rintro rfl
    exact DateTimeUtc.after_irrefl _ isOlder
  unfold CanonicalBarAggregator.observeFinalSourceBar
  rw [valid]
  simp only [grid, CanonicalBarAggregator.observeInBucket, present]
  rw [if_neg differs, if_neg isOlder.asymm]

theorem CompleteRun.count {run : List Bar} (complete : CompleteRun target timeframeSec opens run) :
    run.length * timeframeSec.toNat = target.toNat := by
  have lengths := sum_of_tiles DateTimeUtc.clock complete.tiles
  change (run.map clockLength).sum = _ at lengths
  have nanos : opens.nanos.toNat = 0 := by
    rw [timestampOpt_some complete.inRange]
    rfl
  rw [sum_of_regular complete.regular] at lengths
  simp only [DateTimeUtc.clock, nanos, UInt32.toNat_zero] at lengths
  have grouped : (run.length : Int) * ((timeframeSec.toNat : Int) * 1000000000) =
      run.length * (timeframeSec.toNat : Int) * 1000000000 := by ring
  have total : (run.length : Int) * (timeframeSec.toNat : Int) = target.toNat := by omega
  exact_mod_cast total

theorem CompleteRun.positive {run : List Bar} (complete : CompleteRun target timeframeSec opens run) {bar : Bar}
    (member : bar ∈ run) : 0 < timeframeSec.toNat := by
  have positive := (validTimeframe_of_valid (complete.valid bar member)).1
  rwa [(complete.regular bar member).timeframe] at positive

/-- Each bar of a complete run belongs to its bucket, and the bars before it reach up to it. -/
theorem CompleteRun.bar_at {front back : List Bar} {bar : Bar}
    (complete : CompleteRun target timeframeSec opens (front ++ bar :: back)) :
    bucketOpenTs bar.openTs target = some opens ∧ Tiles Bar.openTs Bar.closeTs front opens bar.openTs := by
  have member : bar ∈ front ++ bar :: back := by simp
  obtain ⟨_, tiles, isOpen, -⟩ := tiles_append.1 complete.tiles
  cases isOpen
  refine ⟨?_, tiles⟩
  have count := complete.count
  have positive := complete.positive member
  have lengths := sum_of_tiles DateTimeUtc.clock tiles
  change (front.map clockLength).sum = _ at lengths
  have nanos : opens.nanos.toNat = 0 := by
    rw [timestampOpt_some complete.inRange]
    rfl
  have ownNanos : bar.openTs.nanos.toNat = 0 := by
    rw [(complete.regular bar member).openNanos]
    rfl
  rw [sum_of_regular fun other inFront => complete.regular other (List.mem_append_left _ inFront)] at lengths
  simp only [DateTimeUtc.clock, nanos, ownNanos] at lengths
  rw [List.length_append, List.length_cons] at count
  obtain ⟨offset, isOffset⟩ : ∃ offset, offset = front.length * timeframeSec.toNat := ⟨_, rfl⟩
  have seconds : bar.openTs.seconds = opens.seconds + offset := by
    have grouped : (front.length : Int) * ((timeframeSec.toNat : Int) * 1000000000) = offset * 1000000000 := by
      rw [isOffset]
      push_cast
      ring
    omega
  have inside : offset < target.toNat := by
    have larger : (front.length + 1) * timeframeSec.toNat ≤ target.toNat := by
      rw [← count]
      exact Nat.mul_le_mul_right _ (by omega)
    rw [Nat.add_mul] at larger
    omega
  have remainder : bar.openTs.seconds % target.toNat = offset := by
    rw [seconds, Int.add_emod, complete.grid, Int.zero_add, Int.emod_emod,
      Int.emod_eq_of_lt (by omega) (by omega)]
  unfold bucketOpenTs
  rw [remainder, seconds, Int.add_sub_cancel]
  exact complete.inRange

theorem closes_of_tiles {bucket : BarAggregationBucket} {start finish : DateTimeUtc}
    (tiles : Tiles Bar.openTs Bar.closeTs bucket.bars start finish) : bucket.last.closeTs = finish := by
  unfold BarAggregationBucket.last
  obtain isNil | ⟨later, last, isConcat⟩ := List.eq_nil_or_concat bucket.later
  · rw [BarAggregationBucket.bars, isNil] at tiles
    rw [isNil]
    exact tiles.2
  · rw [List.concat_eq_append] at isConcat
    rw [BarAggregationBucket.bars, isConcat, ← List.cons_append, tiles_concat] at tiles
    rw [isConcat, List.getLastD_concat]
    exact tiles.2

theorem last_mem (bucket : BarAggregationBucket) : bucket.last ∈ bucket.bars := by
  unfold BarAggregationBucket.last BarAggregationBucket.bars
  cases isLater : bucket.later with
  | nil => exact List.mem_cons_self
  | cons bar later =>
      apply List.mem_cons_of_mem
      rw [List.getLastD_cons]
      exact List.getLastD_mem_cons

structure MidRun (target timeframeSec : UInt32) (opens : DateTimeUtc) (bucket : BarAggregationBucket)
    (rest : List Bar) : Prop where
  timeframe : bucket.targetTimeframeSec = target
  opening : bucket.bucketOpenTs = opens
  complete : CompleteRun target timeframeSec opens (bucket.bars ++ rest)

theorem MidRun.push {bucket : BarAggregationBucket} {bar : Bar} {rest : List Bar}
    (midRun : MidRun target timeframeSec opens bucket (bar :: rest)) :
    MidRun target timeframeSec opens (bucket.push bar) rest :=
  { timeframe := midRun.timeframe
    opening := midRun.opening
    complete := by simpa using midRun.complete }

theorem MidRun.accepts {bucket : BarAggregationBucket} {bar : Bar} {rest : List Bar}
    (midRun : MidRun target timeframeSec opens bucket (bar :: rest)) : bucket.canAccept bar = .ok () := by
  have complete := midRun.complete
  have firstMember : bucket.first ∈ bucket.bars ++ bar :: rest :=
    List.mem_append_left _ List.mem_cons_self
  have lastMember : bucket.last ∈ bucket.bars ++ bar :: rest := List.mem_append_left _ (last_mem bucket)
  have barMember : bar ∈ bucket.bars ++ bar :: rest := by simp
  have contiguous := closes_of_tiles complete.bar_at.2
  have positive := complete.positive barMember
  obtain ⟨sameInstrument, sameKind⟩ := complete.alike _ firstMember _ barMember
  refine BarAggregationBucket.canAccept_ok_iff.2 ⟨sameInstrument, sameKind, ?_, contiguous.symm⟩
  have closes := (complete.regular _ lastMember).closes
  rw [contiguous] at closes
  left
  rw [closes]
  change bucket.last.openTs.seconds < bucket.last.openTs.seconds + timeframeSec.toNat
  omega

theorem MidRun.isComplete_iff {bucket : BarAggregationBucket} {rest : List Bar}
    (midRun : MidRun target timeframeSec opens bucket rest) : bucket.IsComplete ↔ rest = [] := by
  have complete := midRun.complete
  have firstMember : bucket.first ∈ bucket.bars ++ rest := List.mem_append_left _ List.mem_cons_self
  have positive := complete.positive firstMember
  have count := complete.count
  have expected : bucket.expectedCount = (bucket.bars ++ rest).length := by
    unfold BarAggregationBucket.expectedCount
    rw [midRun.timeframe, (complete.regular _ firstMember).timeframe, UInt32.toNat_div, ← count]
    exact Nat.mul_div_cancel _ positive
  unfold BarAggregationBucket.IsComplete
  rw [expected, List.length_append, ← List.length_eq_zero_iff]
  omega

/-- The next bar of a complete run goes to its bucket. -/
theorem observe_midRun {bucket : BarAggregationBucket} {bar : Bar} {rest : List Bar}
    (timeframe : aggregator.targetTimeframeSec = target) (present : aggregator.current = some bucket)
    (midRun : MidRun target timeframeSec opens bucket (bar :: rest)) :
    aggregator.observeFinalSourceBar bar = aggregator.extendBucket bucket bar := by
  have valid := midRun.complete.valid bar (by simp)
  have grid := midRun.complete.bar_at.1
  unfold CanonicalBarAggregator.observeFinalSourceBar
  rw [timeframe, valid]
  simp only [grid, CanonicalBarAggregator.observeInBucket, present]
  rw [if_pos midRun.opening]

/-- The bars of a complete run but the last are buffered, one after the other. -/
theorem observeAll_midRun {bars more : List Bar} {bucket : BarAggregationBucket}
    (timeframe : aggregator.targetTimeframeSec = target) (present : aggregator.current = some bucket)
    (midRun : MidRun target timeframeSec opens bucket (bars ++ more)) (unfinished : more ≠ []) :
    ∃ actions reached, aggregator.observeAll bars = some (actions, reached) ∧ emissions actions = [] ∧
      reached.targetTimeframeSec = target ∧
      reached.current = some { bucket with later := bucket.later ++ bars } := by
  induction bars generalizing aggregator bucket with
  | nil => exact ⟨[], aggregator, rfl, rfl, timeframe, by simpa using present⟩
  | cons bar bars ih =>
      have pushed := midRun.push
      have incomplete : ¬ (bucket.push bar).IsComplete := by
        rw [pushed.isComplete_iff]
        simp [unfinished]
      have observed : aggregator.observeFinalSourceBar bar =
          some (.buffered bucket.bucketOpenTs (bucket.push bar).bars.length,
            { aggregator with current := some (bucket.push bar) }) := by
        rw [observe_midRun timeframe present midRun]
        unfold CanonicalBarAggregator.extendBucket
        rw [midRun.accepts]
        exact if_neg incomplete
      obtain ⟨actions, reached, ran, none, sameTarget, isCurrent⟩ :=
        @ih { aggregator with current := some (bucket.push bar) } (bucket.push bar) timeframe rfl pushed
      refine ⟨.buffered bucket.bucketOpenTs (bucket.push bar).bars.length :: actions, reached, ?_, ?_, sameTarget, ?_⟩
      · simp only [CanonicalBarAggregator.observeAll, observed, Option.bind_eq_bind, Option.bind_some, ran]
      · simpa [emissions] using none
      · rw [isCurrent]
        simp [BarAggregationBucket.push]

def inBucket (target : UInt32) (opens : DateTimeUtc) (bars : List Bar) : List Bar :=
  bars.filter fun bar => bucketOpenTs bar.openTs target = some opens

def bufferedFor (aggregator : CanonicalBarAggregator) (opens : DateTimeUtc) : Nat :=
  match aggregator.current with
  | some bucket => if bucket.bucketOpenTs = opens then bucket.bars.length else 0
  | none => 0

structure Short (target : UInt32) (opens : DateTimeUtc) (expected : Nat) (aggregator : CanonicalBarAggregator)
    (coming : List Bar) : Prop where
  timeframe : aggregator.targetTimeframeSec = target
  current : ∀ bucket, aggregator.current = some bucket → bucket.bucketOpenTs = opens → bucket.expectedCount = expected
  starting : ∀ bar ∈ coming, bucketOpenTs bar.openTs target = some opens →
    (target / bar.timeframeSec).toNat = expected
  short : bufferedFor aggregator opens + (inBucket target opens coming).length < expected

theorem bufferedFor_withoutBucket : bufferedFor aggregator.withoutBucket opens = 0 := rfl

theorem bufferedFor_startBucket (started : DateTimeUtc) (bar : Bar) :
    bufferedFor (aggregator.startBucket started bar) opens = if started = opens then 1 else 0 := rfl

/-- Too few bars stay too few, and none of the actions emits the bucket. -/
theorem Short.observe {expected : Nat} {bar : Bar} {coming : List Bar} {action : BarAggregationAction}
    {next : CanonicalBarAggregator} (short : Short target opens expected aggregator (bar :: coming))
    (observation : Observation aggregator bar action next) :
    Short target opens expected next coming ∧ (emissions [action]).filter (fun bar => bar.openTs = opens) = [] := by
  have timeframe := short.timeframe
  have starting : ∀ other ∈ coming, bucketOpenTs other.openTs target = some opens →
      (target / other.timeframeSec).toNat = expected :=
    fun other member => short.starting other (List.mem_cons_of_mem _ member)
  have bound := short.short
  have ownStart := short.starting bar List.mem_cons_self
  have counted : (inBucket target opens (bar :: coming)).length =
      (if bucketOpenTs bar.openTs target = some opens then 1 else 0) + (inBucket target opens coming).length := by
    unfold inBucket
    rw [List.filter_cons]
    split
    · simp_all [Nat.add_comm]
    · simp_all
  rw [counted] at bound
  have empty : (inBucket target opens coming).length < expected := by omega
  have afterStart : ∀ started, bucketOpenTs bar.openTs target = some started →
      Short target opens expected (aggregator.startBucket started bar) coming := by
    intro started grid
    refine ⟨timeframe, ?_, starting, ?_⟩
    · rintro _ ⟨⟩ same
      change (aggregator.targetTimeframeSec / bar.timeframeSec).toNat = expected
      rw [timeframe]
      exact ownStart (by rw [grid]; exact congrArg some same)
    · rw [bufferedFor_startBucket]
      rw [grid] at bound
      by_cases same : started = opens
      · simp only [same, ↓reduceIte] at bound ⊢
        omega
      · rw [if_neg same]
        omega
  have afterNone : Short target opens expected aggregator.withoutBucket coming :=
    ⟨timeframe, fun _ absurd => (by cases absurd), starting, by rw [bufferedFor_withoutBucket]; omega⟩
  cases observation with
  | turnedAway reason inadmissible =>
      exact ⟨⟨timeframe, short.current, starting, by omega⟩, rfl⟩
  | opened started valid grid absent => exact ⟨afterStart started (by rw [← timeframe, grid]), rfl⟩
  | refused bucket reason valid grid present => exact ⟨afterNone, rfl⟩
  | extended bucket valid grid present accepts incomplete =>
      rw [timeframe] at grid
      refine ⟨⟨timeframe, ?_, starting, ?_⟩, rfl⟩
      · rintro _ ⟨⟩ same
        exact short.current bucket present same
      · unfold bufferedFor at bound ⊢
        rw [present] at bound
        rw [grid] at bound
        change (if bucket.bucketOpenTs = opens then (bucket.push bar).bars.length else 0) + _ < expected
        by_cases same : bucket.bucketOpenTs = opens
        · rw [BarAggregationBucket.bars_push, List.length_append, List.length_singleton]
          simp only [same, ↓reduceIte] at bound ⊢
          omega
        · rw [if_neg same]
          omega
  | completed bucket emitted valid grid present accepts complete aggregated =>
      refine ⟨afterNone, ?_⟩
      rw [timeframe] at grid
      have differs : bucket.bucketOpenTs ≠ opens := by
        intro same
        unfold bufferedFor at bound
        rw [present, grid] at bound
        simp only [same, ↓reduceIte] at bound
        have whole : (bucket.push bar).bars.length = expected := by
          rw [complete]
          exact short.current bucket present same
        rw [BarAggregationBucket.bars_push, List.length_append, List.length_singleton] at whole
        omega
      obtain ⟨volume, -, rfl⟩ := aggregate_some aggregated
      exact List.filter_eq_nil_iff.2 fun other member => by
        cases List.mem_singleton.1 member
        simp [BarAggregationBucket.push, differs]
  | dropped bucket started valid grid present newer => exact ⟨afterStart started (by rw [← timeframe, grid]), rfl⟩
  | late bucket older valid grid present isOlder => exact ⟨afterNone, rfl⟩

theorem emissions_cons (action : BarAggregationAction) (actions : List BarAggregationAction) :
    emissions (action :: actions) = emissions [action] ++ emissions actions := by
  unfold emissions
  rw [← List.filterMap_append, List.singleton_append]

theorem emissions_append (front back : List BarAggregationAction) :
    emissions (front ++ back) = emissions front ++ emissions back :=
  List.filterMap_append

theorem Short.observeAll {expected : Nat} {coming : List Bar} {actions : List BarAggregationAction}
    {next : CanonicalBarAggregator} (short : Short target opens expected aggregator coming)
    (ran : aggregator.observeAll coming = some (actions, next)) :
    (emissions actions).filter (fun bar => bar.openTs = opens) = [] := by
  induction coming generalizing aggregator actions with
  | nil =>
      cases ran
      rfl
  | cons bar coming ih =>
      simp only [CanonicalBarAggregator.observeAll, Option.bind_eq_bind, Option.bind_eq_some_iff] at ran
      obtain ⟨⟨action, middle⟩, first, ⟨others, last⟩, rest, result⟩ := ran
      cases result
      obtain ⟨shorter, none⟩ := short.observe (observation_of_observe first)
      rw [emissions_cons, List.filter_append, none, List.nil_append]
      exact ih shorter rest

def bucketOf (target : UInt32) (opens : DateTimeUtc) (first : Bar) (later : List Bar) : BarAggregationBucket :=
  { bucketOpenTs := opens
    targetTimeframeSec := target
    first := first
    later := later }

/-- The first bar of a run starts its bucket, where none of that bucket or of a later one is in progress. -/
theorem observe_first {first : Bar} {later : List Bar} (timeframe : aggregator.targetTimeframeSec = target)
    (starts : ∀ bucket, aggregator.current = some bucket → opens.After bucket.bucketOpenTs)
    (complete : CompleteRun target timeframeSec opens (first :: later)) :
    ∃ action, aggregator.observeFinalSourceBar first = some (action, aggregator.startBucket opens first) ∧
      emissions [action] = [] := by
  have valid := complete.valid first List.mem_cons_self
  have grid : bucketOpenTs first.openTs target = some opens :=
    (CompleteRun.bar_at (show CompleteRun target timeframeSec opens ([] ++ first :: later) from complete)).1
  unfold CanonicalBarAggregator.observeFinalSourceBar
  rw [timeframe, valid]
  simp only [grid, CanonicalBarAggregator.observeInBucket]
  cases present : aggregator.current with
  | none => exact ⟨_, rfl, rfl⟩
  | some bucket =>
      have older := starts bucket present
      have differs : bucket.bucketOpenTs ≠ opens := by
        rintro rfl
        exact DateTimeUtc.after_irrefl _ older
      simp only [differs, older, ↓reduceIte]
      exact ⟨_, rfl, rfl⟩

/-- The bars of a run up to some point, the last one being still to come. -/
theorem observeAll_front {first last : Bar} {front back : List Bar}
    (timeframe : aggregator.targetTimeframeSec = target)
    (starts : ∀ bucket, aggregator.current = some bucket → opens.After bucket.bucketOpenTs)
    (complete : CompleteRun target timeframeSec opens (first :: (front ++ (back ++ [last])))) :
    ∃ actions reached, aggregator.observeAll (first :: front) = some (actions, reached) ∧ emissions actions = [] ∧
      reached.targetTimeframeSec = target ∧ reached.current = some (bucketOf target opens first front) := by
  obtain ⟨action, observed, noEmission⟩ := observe_first timeframe starts complete
  have midRun : MidRun target timeframeSec opens (bucketOf target opens first []) (front ++ (back ++ [last])) :=
    { timeframe := rfl
      opening := rfl
      complete := complete }
  have current : (aggregator.startBucket opens first).current = some (bucketOf target opens first []) := by
    unfold CanonicalBarAggregator.startBucket bucketOf
    rw [timeframe]
  obtain ⟨actions, reached, ran, none, sameTarget, isCurrent⟩ :=
    @observeAll_midRun target timeframeSec opens (aggregator.startBucket opens first) front (back ++ [last])
      (bucketOf target opens first []) timeframe current midRun (by simp)
  refine ⟨action :: actions, reached, ?_, ?_, sameTarget, isCurrent⟩
  · simp only [CanonicalBarAggregator.observeAll, observed, Option.bind_eq_bind, Option.bind_some, ran]
  · rw [emissions_cons, noEmission, none, List.append_nil]

/-- A run that nothing interrupts is emitted. -/
theorem emitsOnce_of_uninterrupted {first last emitted : Bar} {between : List Bar}
    (timeframe : aggregator.targetTimeframeSec = target)
    (starts : ∀ bucket, aggregator.current = some bucket → opens.After bucket.bucketOpenTs)
    (complete : CompleteRun target timeframeSec opens (first :: (between ++ [last])))
    (aggregated : (bucketOf target opens first (between ++ [last])).aggregate = some emitted) :
    EmitsOnce aggregator (first :: (between ++ [last])) emitted := by
  obtain ⟨actions, reached, ran, none, sameTarget, isCurrent⟩ :=
    @observeAll_front target timeframeSec opens aggregator first last between [] timeframe starts (by simpa using complete)
  have midRun : MidRun target timeframeSec opens (bucketOf target opens first between) [last] :=
    { timeframe := rfl
      opening := rfl
      complete := complete }
  have completes : ((bucketOf target opens first between).push last).IsComplete := midRun.push.isComplete_iff.2 rfl
  have observed : reached.observeFinalSourceBar last = some (.emitted emitted, reached.withoutBucket) := by
    rw [observe_midRun sameTarget isCurrent midRun]
    unfold CanonicalBarAggregator.extendBucket
    rw [midRun.accepts]
    simp only [completes, ↓reduceIte]
    change (bucketOf target opens first (between ++ [last])).aggregate.bind _ = _
    rw [aggregated]
    rfl
  refine ⟨actions ++ [.emitted emitted], reached.withoutBucket, ?_, ?_⟩
  · rw [← List.cons_append, observeAll_append_iff]
    exact ⟨actions, reached, [.emitted emitted], ran, observeAll_singleton_iff.2 ⟨_, observed, rfl⟩, rfl⟩
  · rw [emissions_append, none]
    simp [emissions]

theorem not_emitsOnce_of_interrupted {first last late emitted : Bar} {front back : List Bar}
    (timeframe : aggregator.targetTimeframeSec = target)
    (starts : ∀ bucket, aggregator.current = some bucket → opens.After bucket.bucketOpenTs)
    (complete : CompleteRun target timeframeSec opens (first :: (front ++ (inBucket target opens back ++ [last]))))
    (isLate : LateFor target opens late) (emittedOpen : emitted.openTs = opens) :
    ¬ EmitsOnce aggregator (first :: (front ++ late :: (back ++ [last]))) emitted := by
  rintro ⟨all, final, ran, once⟩
  rw [← List.cons_append, observeAll_append_iff] at ran
  obtain ⟨actions, reached, rest, ranFront, ranRest, rfl⟩ := ran
  obtain ⟨frontActions, frontReached, isRan, none, sameTarget, isCurrent⟩ :=
    observeAll_front timeframe starts complete
  cases ranFront.symm.trans isRan
  have lateObserved := observe_late isCurrent (by rw [sameTarget]; exact isLate)
  simp only [CanonicalBarAggregator.observeAll, lateObserved, Option.bind_eq_bind, Option.bind_some,
    Option.bind_eq_some_iff] at ranRest
  obtain ⟨⟨others, ended⟩, ranLater, result⟩ := ranRest
  cases result
  have count := complete.count
  have lastGrid : bucketOpenTs last.openTs target = some opens := by
    have shaped : CompleteRun target timeframeSec opens
        ((first :: (front ++ inBucket target opens back)) ++ last :: []) := by simpa using complete
    exact shaped.bar_at.1
  have short : Short target opens (first :: (front ++ (inBucket target opens back ++ [last]))).length
      reached.withoutBucket (back ++ [last]) := by
    refine ⟨sameTarget, fun _ absurd => (by cases absurd), ?_, ?_⟩
    · intro bar member grid
      have inRun : bar ∈ first :: (front ++ (inBucket target opens back ++ [last])) := by
        obtain inBack | isLast := List.mem_append.1 member
        · have kept : bar ∈ inBucket target opens back := List.mem_filter.2 ⟨inBack, by simpa using grid⟩
          simp [kept]
        · simp [List.mem_singleton.1 isLast]
      rw [UInt32.toNat_div, (complete.regular bar inRun).timeframe, ← count]
      exact Nat.mul_div_cancel _ (complete.positive inRun)
    · have appended : inBucket target opens (back ++ [last]) = inBucket target opens back ++ [last] := by
        unfold inBucket
        rw [List.filter_append]
        simp [lastGrid]
      rw [bufferedFor_withoutBucket, appended]
      simp only [List.length_append, List.length_cons]
      omega
  have noneLater := short.observeAll ranLater
  rw [emissions_append, emissions_cons, none, emittedOpen] at once
  simp only [List.nil_append, List.filter_append] at once
  rw [noneLater] at once
  simp [emissions] at once

end Runs

/-- A late bar is rejected, but it takes the bucket in progress away; so a complete run is
emitted once, as if alone, exactly when no late bar stands between its first bar and its last. -/
theorem late_bar_destroys_bucket (aggregator : CanonicalBarAggregator) :
    (∀ (bucket : BarAggregationBucket) (bar : Bar),
      aggregator.current = some bucket → LateFor aggregator.targetTimeframeSec bucket.bucketOpenTs bar →
      ∃ next, aggregator.observeFinalSourceBar bar = some (.rejected .nonMonotonicSourceBar, next) ∧
        next.current = none) ∧
    ∀ (target timeframeSec : UInt32) (opens : DateTimeUtc) (first last emitted : Bar) (inside : List Bar),
      aggregator.targetTimeframeSec = target →
      (∀ bucket, aggregator.current = some bucket → opens.After bucket.bucketOpenTs) →
      CompleteRun target timeframeSec opens (first :: (inBucket target opens inside ++ [last])) →
      (∀ bar ∈ inside, bucketOpenTs bar.openTs target = some opens ∨ LateFor target opens bar) →
      (bucketOf target opens first (inBucket target opens inside ++ [last])).aggregate = some emitted →
      (EmitsOnce aggregator (first :: (inside ++ [last])) emitted ↔ ∀ bar ∈ inside, ¬ LateFor target opens bar) := by
  refine ⟨fun bucket bar present late => ⟨_, observe_late present late, rfl⟩, ?_⟩
  intro target timeframeSec opens first last emitted inside timeframe starts complete others aggregated
  constructor
  · intro once late member isLate
    -- The run is cut at the first late bar: what stands before it is of the bucket alone.
    obtain ⟨front, early, back, isInside, frontAlone, isEarly⟩ :
        ∃ front early back, inside = front ++ early :: back ∧
          (∀ bar ∈ front, bucketOpenTs bar.openTs target = some opens) ∧ LateFor target opens early := by
      clear once complete aggregated
      induction inside with
      | nil => cases member
      | cons bar inside ih =>
          obtain own | barLate := others bar List.mem_cons_self
          · have later : late ∈ inside := by
              obtain rfl | later := List.mem_cons.1 member
              · obtain ⟨-, older, grid, isOlder⟩ := isLate
                cases grid.symm.trans own
                exact absurd isOlder (DateTimeUtc.after_irrefl _)
              · exact later
            obtain ⟨front, early, back, rfl, frontAlone, isEarly⟩ :=
              ih (fun other inRest => others other (List.mem_cons_of_mem _ inRest)) later
            refine ⟨bar :: front, early, back, rfl, ?_, isEarly⟩
            intro other inFront
            obtain rfl | inRest := List.mem_cons.1 inFront
            · exact own
            · exact frontAlone other inRest
          · exact ⟨[], bar, inside, rfl, fun _ absurd => (by cases absurd), barLate⟩
    have filtered : inBucket target opens inside = front ++ inBucket target opens back := by
      have earlyOut : bucketOpenTs early.openTs target ≠ some opens := by
        intro own
        obtain ⟨-, older, grid, isOlder⟩ := isEarly
        cases grid.symm.trans own
        exact DateTimeUtc.after_irrefl _ isOlder
      unfold inBucket
      rw [isInside, List.filter_append, List.filter_cons_of_neg (by simpa using earlyOut)]
      rw [List.filter_eq_self.2 fun bar inFront => by simpa using frontAlone bar inFront]
    obtain ⟨volume, -, isEmitted⟩ := aggregate_some aggregated
    have emittedOpen : emitted.openTs = opens := by
      rw [isEmitted]
      rfl
    rw [filtered, List.append_assoc] at complete
    rw [isInside, List.append_assoc] at once
    exact not_emitsOnce_of_interrupted timeframe starts complete isEarly emittedOpen once
  · intro noneLate
    have alone : inBucket target opens inside = inside := by
      refine List.filter_eq_self.2 fun bar member => ?_
      simpa using (others bar member).resolve_right (noneLate bar member)
    rw [alone] at complete aggregated
    exact emitsOnce_of_uninterrupted timeframe starts complete aggregated

theorem sampleBar_late : LateFor 120 { seconds := 120, nanos := 0 } (sampleBar 0 60) :=
  ⟨by decide, { seconds := 0, nanos := 0 }, by decide, by decide⟩

theorem sampleRun_complete :
    CompleteRun 120 60 { seconds := 120, nanos := 0 } [sampleBar 120 60, sampleBar 180 60] where
  grid := by decide
  inRange := by decide
  valid := by decide
  regular := by
    intro bar member
    simp only [List.mem_cons, List.not_mem_nil, or_false] at member
    rcases member with rfl | rfl
    all_goals exact ⟨rfl, by decide, rfl, rfl⟩
  alike := by decide
  tiles := ⟨rfl, rfl, rfl⟩

/-- Two minutes are emitted, unless the bar of an older minute comes between them. -/
theorem late_bar_destroys_bucket_minute :
    (∃ next, ((CanonicalBarAggregator.new 120).startBucket { seconds := 120, nanos := 0 }
          (sampleBar 120 60)).observeFinalSourceBar (sampleBar 0 60) =
        some (.rejected .nonMonotonicSourceBar, next) ∧ next.current = none) ∧
      EmitsOnce (.new 120) [sampleBar 120 60, sampleBar 180 60] (sampleBar 120 120) ∧
      ¬ EmitsOnce (.new 120) [sampleBar 120 60, sampleBar 0 60, sampleBar 180 60] (sampleBar 120 120) := by
  obtain ⟨_, runs⟩ := late_bar_destroys_bucket (.new 120)
  have bucketless : ∀ bucket, (CanonicalBarAggregator.new 120).current = some bucket →
      DateTimeUtc.After { seconds := 120, nanos := 0 } bucket.bucketOpenTs := by
    intro bucket absurd
    cases absurd
  refine ⟨?_, ?_, ?_⟩
  · exact (late_bar_destroys_bucket ((CanonicalBarAggregator.new 120).startBucket { seconds := 120, nanos := 0 }
      (sampleBar 120 60))).1 _ _ rfl sampleBar_late
  · have alone : inBucket 120 { seconds := 120, nanos := 0 } [] = [] := rfl
    exact (runs 120 60 { seconds := 120, nanos := 0 } (sampleBar 120 60) (sampleBar 180 60) (sampleBar 120 120) [] rfl
      bucketless (by rw [alone]; exact sampleRun_complete) (fun _ member => absurd member List.not_mem_nil)
      (by rw [alone]; decide)).2 fun _ member => absurd member List.not_mem_nil
  · intro once
    have outside : inBucket 120 { seconds := 120, nanos := 0 } [sampleBar 0 60] = [] := by decide
    refine (runs 120 60 { seconds := 120, nanos := 0 } (sampleBar 120 60) (sampleBar 180 60) (sampleBar 120 120)
      [sampleBar 0 60] rfl bucketless (by rw [outside]; exact sampleRun_complete) ?_
      (by rw [outside]; decide)).1 once (sampleBar 0 60) List.mem_cons_self sampleBar_late
    intro bar member
    cases List.mem_singleton.1 member
    exact .inr sampleBar_late

/-- The bar of an older minute takes away the bucket of two minutes that waits for its second bar. -/
theorem late_minute_destroys_bucket :
    ¬ ∀ (aggregator : CanonicalBarAggregator) (bucket : BarAggregationBucket) (bar : Bar),
      aggregator.current = some bucket → LateFor aggregator.targetTimeframeSec bucket.bucketOpenTs bar →
      aggregator.observeFinalSourceBar bar = some (.rejected .nonMonotonicSourceBar, aggregator) := by
  intro claim
  have kept := claim ((CanonicalBarAggregator.new 120).startBucket { seconds := 120, nanos := 0 } (sampleBar 120 60))
    (bucketOf 120 { seconds := 120, nanos := 0 } (sampleBar 120 60) []) (sampleBar 0 60) rfl sampleBar_late
  revert kept
  decide

end TradingGateway.BrokerCore.BarAggregation
