import Mathlib.Data.List.Induction
import Mathlib.Algebra.BigOperators.Group.List.Basic
import TradingGateway.BrokerCore.ParityReport

/-! What the parity report says of two lists of bars: its status, its first and last
difference, its candidates and what repeated bars change. -/

set_option autoImplicit false

namespace TradingGateway.BrokerCore.ParityReport

open Orders Foundation.SortedKeys

section Normalized

variable {bars : List M10Bar} {bar : M10Bar} {openTs : DateTimeUtc}

def firstAt (bars : List M10Bar) (openTs : DateTimeUtc) : Option M10Bar :=
  bars.find? fun bar => bar.openTs = openTs

def HasBarAt (bars : List M10Bar) (openTs : DateTimeUtc) : Prop :=
  ∃ bar ∈ bars, bar.openTs = openTs

def ConflictsAt (bars : List M10Bar) (openTs : DateTimeUtc) : Prop :=
  ∃ left ∈ bars, ∃ right ∈ bars, left.openTs = openTs ∧ right.openTs = openTs ∧ left ≠ right

theorem firstAt_some (found : firstAt bars openTs = some bar) : bar ∈ bars ∧ bar.openTs = openTs := by
  have holds := List.find?_some found
  exact ⟨List.mem_of_find?_eq_some found, by simpa using holds⟩

theorem firstAt_isSome_iff : (firstAt bars openTs).isSome ↔ HasBarAt bars openTs := by
  unfold firstAt HasBarAt
  rw [List.find?_isSome]
  simp

theorem exists_firstAt (has : HasBarAt bars openTs) : ∃ bar, firstAt bars openTs = some bar :=
  Option.isSome_iff_exists.1 (firstAt_isSome_iff.2 has)

theorem firstAt_concat :
    firstAt (bars ++ [bar]) openTs =
      (firstAt bars openTs <|> if bar.openTs = openTs then some bar else none) := by
  unfold firstAt
  rw [List.find?_append]
  cases found : bars.find? fun bar => bar.openTs = openTs with
  | some first => rfl
  | none =>
      by_cases same : bar.openTs = openTs
      · simp [same]
      · simp [same]

/-- A conflict shows against the first bar of its time. -/
theorem conflictsAt_iff_first {first : M10Bar} (found : firstAt bars openTs = some first) :
    ConflictsAt bars openTs ↔ ∃ bar ∈ bars, bar.openTs = openTs ∧ bar ≠ first := by
  have firstFacts := firstAt_some found
  constructor
  · rintro ⟨left, leftIn, right, rightIn, leftAt, rightAt, differ⟩
    by_cases same : left = first
    · exact ⟨right, rightIn, rightAt, fun equal => differ (same.trans equal.symm)⟩
    · exact ⟨left, leftIn, leftAt, same⟩
  · rintro ⟨bar, member, isAt, differ⟩
    exact ⟨bar, member, first, firstFacts.1, isAt, firstFacts.2, differ⟩

theorem ConflictsAt.concat (conflict : ConflictsAt bars openTs) : ConflictsAt (bars ++ [bar]) openTs := by
  obtain ⟨left, leftIn, right, rightIn, facts⟩ := conflict
  exact ⟨left, List.mem_append_left _ leftIn, right, List.mem_append_left _ rightIn, facts⟩

theorem conflictsAt_concat :
    ConflictsAt (bars ++ [bar]) openTs ↔
      ConflictsAt bars openTs ∨ bar.openTs = openTs ∧ ∃ first, firstAt bars openTs = some first ∧ first ≠ bar := by
  constructor
  · intro conflict
    by_cases has : HasBarAt bars openTs
    · obtain ⟨first, found⟩ := exists_firstAt has
      have found' : firstAt (bars ++ [bar]) openTs = some first := by
        rw [firstAt_concat, found]
        rfl
      obtain ⟨other, member, isAt, differ⟩ := (conflictsAt_iff_first found').1 conflict
      rcases List.mem_append.1 member with inBars | isBar
      · exact .inl ((conflictsAt_iff_first found).2 ⟨other, inBars, isAt, differ⟩)
      · rw [List.mem_singleton.1 isBar] at isAt differ
        exact .inr ⟨isAt, first, found, differ.symm⟩
    · obtain ⟨left, leftIn, right, rightIn, leftAt, rightAt, differ⟩ := conflict
      have isBar : ∀ other ∈ bars ++ [bar], other.openTs = openTs → other = bar := by
        intro other member isAt
        rcases List.mem_append.1 member with inBars | isBar
        · exact absurd ⟨other, inBars, isAt⟩ has
        · exact List.mem_singleton.1 isBar
      exact absurd ((isBar left leftIn leftAt).trans (isBar right rightIn rightAt).symm) differ
  · rintro (conflict | ⟨isAt, first, found, differ⟩)
    · exact conflict.concat
    · have firstFacts := firstAt_some found
      exact ⟨first, List.mem_append_left _ firstFacts.1, bar, List.mem_append_right _ (List.mem_singleton_self bar),
        firstFacts.2, isAt, differ⟩

theorem normalize_concat :
    normalizeStage3M10BucketsForReport (bars ++ [bar]) = (normalizeStage3M10BucketsForReport bars).observe bar := by
  unfold normalizeStage3M10BucketsForReport
  rw [List.foldl_concat]

section Observe

variable {buckets : Stage3NormalizedM10Buckets} {existing : M10Bar}

theorem observe_new (absent : buckets.get bar.openTs = none) :
    buckets.observe bar = { buckets with byOpenTs := buckets.byOpenTs ++ [bar] } := by
  unfold Stage3NormalizedM10Buckets.observe
  rw [absent]

theorem observe_copy (found : buckets.get bar.openTs = some bar) :
    buckets.observe bar = { buckets with exactDuplicateBucketCount := buckets.exactDuplicateBucketCount + 1 } := by
  unfold Stage3NormalizedM10Buckets.observe
  rw [found]
  exact if_pos rfl

theorem observe_conflict (found : buckets.get bar.openTs = some existing) (differ : existing ≠ bar) :
    buckets.observe bar = { buckets with
      conflictingDuplicateBucketOpenTs := buckets.conflictingDuplicateBucketOpenTs.insert bar.openTs } := by
  unfold Stage3NormalizedM10Buckets.observe
  rw [found]
  exact if_neg differ

end Observe

theorem get_observe (buckets : Stage3NormalizedM10Buckets) :
    (buckets.observe bar).get openTs =
      (buckets.get openTs <|> if bar.openTs = openTs then some bar else none) := by
  cases found : buckets.get bar.openTs with
  | none =>
      rw [observe_new found]
      exact firstAt_concat
  | some existing =>
      have kept : buckets.get openTs = (buckets.get openTs <|> if bar.openTs = openTs then some bar else none) := by
        by_cases same : bar.openTs = openTs
        · rw [← same, found]
          rfl
        · rw [if_neg same]
          cases buckets.get openTs <;> rfl
      by_cases equal : existing = bar
      · subst equal
        rw [observe_copy found]
        exact kept
      · rw [observe_conflict found equal]
        exact kept

@[simp] theorem get_normalize :
    (normalizeStage3M10BucketsForReport bars).get openTs = firstAt bars openTs := by
  induction bars using List.reverseRecOn with
  | nil => rfl
  | append_singleton bars bar ih =>
      rw [normalize_concat, get_observe, ih, firstAt_concat]

theorem mem_keys_iff (buckets : Stage3NormalizedM10Buckets) :
    openTs ∈ buckets.keys ↔ (buckets.get openTs).isSome := by
  unfold Stage3NormalizedM10Buckets.keys Stage3NormalizedM10Buckets.get
  rw [List.find?_isSome, List.mem_map]
  simp

@[simp] theorem mem_keys_normalize :
    openTs ∈ (normalizeStage3M10BucketsForReport bars).keys ↔ HasBarAt bars openTs := by
  rw [mem_keys_iff, get_normalize, firstAt_isSome_iff]

@[simp] theorem mem_conflicting_normalize :
    openTs ∈ (normalizeStage3M10BucketsForReport bars).conflictingDuplicateBucketOpenTs ↔ ConflictsAt bars openTs := by
  induction bars using List.reverseRecOn with
  | nil =>
      constructor
      · intro member
        cases member
      · rintro ⟨_, member, _⟩
        cases member
  | append_singleton bars bar ih =>
      rw [normalize_concat, conflictsAt_concat, ← ih]
      cases found : firstAt bars bar.openTs with
      | none =>
          rw [observe_new (get_normalize.trans found)]
          refine ⟨.inl, ?_⟩
          rintro (kept | ⟨same, first, found', _⟩)
          · exact kept
          · rw [← same, found] at found'
            cases found'
      | some existing =>
          by_cases equal : existing = bar
          · subst equal
            rw [observe_copy (get_normalize.trans found)]
            refine ⟨.inl, ?_⟩
            rintro (kept | ⟨same, first, found', differ⟩)
            · exact kept
            · rw [← same, found] at found'
              exact absurd (Option.some.inj found').symm differ
          · rw [observe_conflict (get_normalize.trans found) equal]
            change openTs ∈ List.insert _ _ ↔ _
            rw [List.mem_insert_iff]
            constructor
            · rintro (same | kept)
              · refine .inr ⟨same.symm, existing, ?_, equal⟩
                rw [same]
                exact found
              · exact .inl kept
            · rintro (kept | ⟨same, _⟩)
              · exact .inr kept
              · exact .inl same.symm

theorem nodup_conflicting_normalize :
    (normalizeStage3M10BucketsForReport bars).conflictingDuplicateBucketOpenTs.Nodup := by
  induction bars using List.reverseRecOn with
  | nil => exact List.nodup_nil
  | append_singleton bars bar ih =>
      rw [normalize_concat]
      cases found : (normalizeStage3M10BucketsForReport bars).get bar.openTs with
      | none =>
          rw [observe_new found]
          exact ih
      | some existing =>
          by_cases equal : existing = bar
          · subst equal
            rw [observe_copy found]
            exact ih
          · rw [observe_conflict found equal]
            exact ih.insert

theorem conflicting_length_congr {others : List M10Bar}
    (same : ∀ openTs, ConflictsAt bars openTs ↔ ConflictsAt others openTs) :
    (normalizeStage3M10BucketsForReport bars).conflictingDuplicateBucketOpenTs.length =
      (normalizeStage3M10BucketsForReport others).conflictingDuplicateBucketOpenTs.length := by
  apply List.Perm.length_eq
  rw [List.perm_ext_iff_of_nodup nodup_conflicting_normalize nodup_conflicting_normalize]
  intro openTs
  rw [mem_conflicting_normalize, mem_conflicting_normalize]
  exact same openTs

theorem conflicting_eq_nil_iff :
    (normalizeStage3M10BucketsForReport bars).conflictingDuplicateBucketOpenTs = [] ↔
      ∀ openTs, ¬ ConflictsAt bars openTs := by
  rw [List.eq_nil_iff_forall_not_mem]
  simp only [mem_conflicting_normalize]

end Normalized

section Comparison

variable {targetInstrument : InstrumentId} {alor finam : M10Bar} {tally : Stage3Tally} {openTs : DateTimeUtc}

def mismatchCount (targetInstrument : InstrumentId) (alor finam : M10Bar) : Nat :=
  (if InstrumentDiffers targetInstrument alor finam then 1 else 0) + (if TimeframeDiffers alor finam then 1 else 0) +
    (if FinalityDiffers alor finam then 1 else 0) + (if TimestampDiffers alor finam then 1 else 0) +
    (if OhlcvDiffers alor finam then 1 else 0)

/-- Both bars are final, of six hundred seconds and of the instrument, with one close time and
one set of prices. -/
structure BarsAgree (targetInstrument : InstrumentId) (alor finam : M10Bar) : Prop where
  final : alor.isFinal = true ∧ finam.isFinal = true
  timeframe : alor.timeframeSec = 600 ∧ finam.timeframeSec = 600
  instrument : alor.instrument = targetInstrument ∧ finam.instrument = targetInstrument
  closeTs : alor.closeTs = finam.closeTs
  ohlcv : alor.open = finam.open ∧ alor.high = finam.high ∧ alor.low = finam.low ∧ alor.close = finam.close ∧
    alor.volume = finam.volume

theorem ohlcvDiffers_iff :
    OhlcvDiffers alor finam ↔
      ¬ (alor.open = finam.open ∧ alor.high = finam.high ∧ alor.low = finam.low ∧ alor.close = finam.close ∧
        alor.volume = finam.volume) := by
  unfold OhlcvDiffers
  simp only [ne_eq, abs_eq_zero, sub_eq_zero]
  tauto

theorem mismatchCount_eq_zero_iff (sameTime : alor.openTs = finam.openTs) :
    mismatchCount targetInstrument alor finam = 0 ↔ BarsAgree targetInstrument alor finam := by
  have split : mismatchCount targetInstrument alor finam = 0 ↔
      ¬ InstrumentDiffers targetInstrument alor finam ∧ ¬ TimeframeDiffers alor finam ∧
        ¬ FinalityDiffers alor finam ∧ ¬ TimestampDiffers alor finam ∧ ¬ OhlcvDiffers alor finam := by
    unfold mismatchCount
    simp only [Nat.add_eq_zero_iff, ite_eq_right_iff, one_ne_zero, imp_false, and_assoc]
  rw [split, ohlcvDiffers_iff, not_not]
  unfold InstrumentDiffers TimeframeDiffers FinalityDiffers TimestampDiffers
  simp only [not_or, ne_eq, not_not, Bool.not_eq_false]
  constructor
  · rintro ⟨instrument, timeframe, final, ⟨_, closeTs⟩, ohlcv⟩
    exact ⟨final, timeframe, instrument, closeTs, ohlcv⟩
  · rintro ⟨final, timeframe, instrument, closeTs, ohlcv⟩
    exact ⟨instrument, timeframe, final, ⟨sameTime, closeTs⟩, ohlcv⟩

section BlockWhere

variable {differs : Prop} [Decidable differs] {count : Stage3DiffCounts → Stage3DiffCounts}

theorem blockWhere_blockingTotal (counts : ∀ before, (count before).blockingTotal = before.blockingTotal + 1) :
    (tally.blockWhere differs openTs count).diffCounts.blockingTotal =
      tally.diffCounts.blockingTotal + if differs then 1 else 0 := by
  unfold Stage3Tally.blockWhere
  by_cases holds : differs
  · rw [if_pos holds, if_pos holds]
    exact counts tally.diffCounts
  · rw [if_neg holds, if_neg holds]
    rfl

@[simp] theorem blockWhere_diffs :
    (tally.blockWhere differs openTs count).diffs = if differs then tally.diffs.record openTs else tally.diffs := by
  unfold Stage3Tally.blockWhere
  by_cases holds : differs
  · rw [if_pos holds, if_pos holds]
  · rw [if_neg holds, if_neg holds]

/-- A difference touches neither the buckets matched nor the candidates. -/
@[simp] theorem blockWhere_frame :
    (tally.blockWhere differs openTs count).matchedBucketCount = tally.matchedBucketCount ∧
      (tally.blockWhere differs openTs count).synchronizedCandidateCount = tally.synchronizedCandidateCount ∧
      (tally.blockWhere differs openTs count).rejectedCandidateCount = tally.rejectedCandidateCount := by
  unfold Stage3Tally.blockWhere
  by_cases holds : differs
  · rw [if_pos holds]
    exact ⟨rfl, rfl, rfl⟩
  · rw [if_neg holds]
    exact ⟨rfl, rfl, rfl⟩

end BlockWhere

theorem compare_blockingTotal :
    (tally.compare targetInstrument alor finam openTs).diffCounts.blockingTotal =
      tally.diffCounts.blockingTotal + mismatchCount targetInstrument alor finam := by
  unfold Stage3Tally.compare mismatchCount
  rw [blockWhere_blockingTotal, blockWhere_blockingTotal, blockWhere_blockingTotal, blockWhere_blockingTotal,
    blockWhere_blockingTotal]
  · omega
  all_goals
    intro before
    simp only [Stage3DiffCounts.blockingTotal]
    omega

theorem compare_diffs :
    (tally.compare targetInstrument alor finam openTs).diffs =
      if mismatchCount targetInstrument alor finam = 0 then tally.diffs else tally.diffs.record openTs := by
  unfold Stage3Tally.compare mismatchCount
  simp only [blockWhere_diffs]
  by_cases instrument : InstrumentDiffers targetInstrument alor finam <;>
    by_cases timeframe : TimeframeDiffers alor finam <;> by_cases final : FinalityDiffers alor finam <;>
    by_cases timestamp : TimestampDiffers alor finam <;> by_cases ohlcv : OhlcvDiffers alor finam <;>
    simp [instrument, timeframe, final, timestamp, ohlcv]

theorem compare_frame :
    (tally.compare targetInstrument alor finam openTs).matchedBucketCount = tally.matchedBucketCount ∧
      (tally.compare targetInstrument alor finam openTs).synchronizedCandidateCount =
        tally.synchronizedCandidateCount ∧
      (tally.compare targetInstrument alor finam openTs).rejectedCandidateCount = tally.rejectedCandidateCount := by
  unfold Stage3Tally.compare
  simp only [blockWhere_frame, and_self]

/-- The source kind is counted, and does not block. -/
theorem countSourceKind_frame :
    (tally.countSourceKind alor finam).matchedBucketCount = tally.matchedBucketCount ∧
      (tally.countSourceKind alor finam).synchronizedCandidateCount = tally.synchronizedCandidateCount ∧
      (tally.countSourceKind alor finam).rejectedCandidateCount = tally.rejectedCandidateCount ∧
      (tally.countSourceKind alor finam).diffs = tally.diffs ∧
      (tally.countSourceKind alor finam).diffCounts.blockingTotal = tally.diffCounts.blockingTotal := by
  unfold Stage3Tally.countSourceKind
  by_cases same : alor.sourceKind = finam.sourceKind
  · rw [if_pos same]
    exact ⟨rfl, rfl, rfl, rfl, rfl⟩
  · rw [if_neg same]
    exact ⟨rfl, rfl, rfl, rfl, rfl⟩

/-- All that is done to a matched time before its candidate is counted. -/
theorem compared_facts :
    ∃ compared : Stage3Tally,
      ((tally.compare targetInstrument alor finam openTs).updateMaxDiffs alor finam).countSourceKind alor finam =
          compared ∧
        compared.matchedBucketCount = tally.matchedBucketCount ∧
        compared.synchronizedCandidateCount = tally.synchronizedCandidateCount ∧
        compared.rejectedCandidateCount = tally.rejectedCandidateCount ∧
        compared.diffs =
          (if mismatchCount targetInstrument alor finam = 0 then tally.diffs else tally.diffs.record openTs) ∧
        compared.diffCounts.blockingTotal =
          tally.diffCounts.blockingTotal + mismatchCount targetInstrument alor finam := by
  obtain ⟨matched, synchronized, rejected, diffs, blocking⟩ := @countSourceKind_frame alor finam
    ((tally.compare targetInstrument alor finam openTs).updateMaxDiffs alor finam)
  obtain ⟨matched', synchronized', rejected'⟩ := @compare_frame targetInstrument alor finam tally openTs
  exact ⟨_, rfl, matched.trans matched', synchronized.trans synchronized', rejected.trans rejected',
    diffs.trans compare_diffs, blocking.trans compare_blockingTotal⟩

end Comparison

section Walk

variable (targetInstrument : InstrumentId) (alor finam : Stage3NormalizedM10Buckets)

def bucketDiffs (openTs : DateTimeUtc) : Nat :=
  match alor.get openTs, finam.get openTs with
  | some alorBar, some finamBar => mismatchCount targetInstrument alorBar finamBar
  | some _, none => 1
  | none, some _ => 1
  | none, none => 0

structure Walked (keys : List DateTimeUtc) (before after : Stage3Tally) : Prop where
  matchedBucketCount : after.matchedBucketCount =
    before.matchedBucketCount + keys.countP fun openTs => (alor.get openTs).isSome && (finam.get openTs).isSome
  blockingTotal : after.diffCounts.blockingTotal =
    before.diffCounts.blockingTotal + (keys.map (bucketDiffs targetInstrument alor finam)).sum
  diffs : after.diffs =
    (keys.filter fun openTs => bucketDiffs targetInstrument alor finam openTs ≠ 0).foldl Marks.record before.diffs
  candidates : after.synchronizedCandidateCount + after.rejectedCandidateCount =
    before.synchronizedCandidateCount + before.rejectedCandidateCount +
      keys.countP fun openTs => (finam.get openTs).isSome

variable {targetInstrument alor finam} {tally : Stage3Tally} {openTs : DateTimeUtc}

theorem matchBucket_walked {alorBar finamBar : M10Bar} {conflict : Bool}
    (alorFound : alor.get openTs = some alorBar) (finamFound : finam.get openTs = some finamBar) :
    Walked targetInstrument alor finam [openTs] tally
      (tally.matchBucket targetInstrument alorBar finamBar conflict openTs) := by
  have differs : bucketDiffs targetInstrument alor finam openTs = mismatchCount targetInstrument alorBar finamBar := by
    unfold bucketDiffs
    rw [alorFound, finamFound]
  unfold Stage3Tally.matchBucket
  dsimp only
  obtain ⟨compared, isCompared, matched, synchronized, rejected, diffs, blocking⟩ :=
    @compared_facts targetInstrument alorBar finamBar { tally with
      matchedBucketCount := tally.matchedBucketCount + 1
      matched := tally.matched.record openTs } openTs
  rw [isCompared]
  dsimp only at matched synchronized rejected diffs blocking
  have diffs' : compared.diffs =
      ([openTs].filter fun time => bucketDiffs targetInstrument alor finam time ≠ 0).foldl Marks.record tally.diffs := by
    rw [diffs, List.filter_singleton, differs]
    by_cases none : mismatchCount targetInstrument alorBar finamBar = 0
    · simp [none]
    · simp [none]
  have blocking' : compared.diffCounts.blockingTotal = tally.diffCounts.blockingTotal +
      ([openTs].map (bucketDiffs targetInstrument alor finam)).sum := by
    rw [List.map_singleton, List.sum_singleton, differs]
    exact blocking
  have both : [openTs].countP (fun time => (alor.get time).isSome && (finam.get time).isSome) = 1 := by
    simp [alorFound, finamFound]
  have candidate : [openTs].countP (fun time => (finam.get time).isSome) = 1 := by
    simp [finamFound]
  by_cases accepted : conflict = false ∧ compared.diffCounts.blockingTotal = tally.diffCounts.blockingTotal
  · rw [if_pos accepted]
    refine ⟨?_, blocking', diffs', ?_⟩
    · rw [both]
      exact matched
    · rw [candidate]
      dsimp only
      omega
  · rw [if_neg accepted]
    refine ⟨?_, blocking', diffs', ?_⟩
    · rw [both]
      exact matched
    · rw [candidate]
      dsimp only
      omega

theorem step_walked : Walked targetInstrument alor finam [openTs] tally
    (tally.step targetInstrument alor finam openTs) := by
  unfold Stage3Tally.step
  cases alorFound : alor.get openTs with
  | some alorBar =>
      cases finamFound : finam.get openTs with
      | some finamBar => exact matchBucket_walked alorFound finamFound
      | none =>
          have differs : bucketDiffs targetInstrument alor finam openTs = 1 := by
            unfold bucketDiffs
            rw [alorFound, finamFound]
          constructor
          · simp [alorFound, finamFound]
          · simp only [Stage3DiffCounts.blockingTotal, List.map_singleton, List.sum_singleton, differs]
            omega
          · simp [differs]
          · simp [finamFound]
  | none =>
      cases finamFound : finam.get openTs with
      | some finamBar =>
          have differs : bucketDiffs targetInstrument alor finam openTs = 1 := by
            unfold bucketDiffs
            rw [alorFound, finamFound]
          constructor
          · simp [alorFound, finamFound]
          · simp only [Stage3DiffCounts.blockingTotal, List.map_singleton, List.sum_singleton, differs]
            omega
          · simp [differs]
          · simp [finamFound]
            omega
      | none =>
          have differs : bucketDiffs targetInstrument alor finam openTs = 0 := by
            unfold bucketDiffs
            rw [alorFound, finamFound]
          constructor
          · simp [alorFound, finamFound]
          · simp [differs]
          · simp [differs]
          · simp [finamFound]

theorem Walked.append {keys more : List DateTimeUtc} {before middle after : Stage3Tally}
    (walked : Walked targetInstrument alor finam keys before middle)
    (walkedMore : Walked targetInstrument alor finam more middle after) :
    Walked targetInstrument alor finam (keys ++ more) before after where
  matchedBucketCount := by
    rw [walkedMore.matchedBucketCount, walked.matchedBucketCount, List.countP_append, Nat.add_assoc]
  blockingTotal := by
    rw [walkedMore.blockingTotal, walked.blockingTotal, List.map_append, List.sum_append, Nat.add_assoc]
  diffs := by
    rw [walkedMore.diffs, walked.diffs, List.filter_append, List.foldl_append]
  candidates := by
    rw [walkedMore.candidates, walked.candidates, List.countP_append, Nat.add_assoc]

theorem foldl_step_walked (keys : List DateTimeUtc) :
    Walked targetInstrument alor finam keys tally (keys.foldl (Stage3Tally.step targetInstrument alor finam) tally) := by
  induction keys generalizing tally with
  | nil => exact ⟨rfl, rfl, rfl, rfl⟩
  | cons openTs rest ih => exact step_walked.append ih

variable (targetInstrument alor finam) in
theorem run_walked :
    Walked targetInstrument alor finam (allBucketOpenTs alor finam) (Stage3Tally.initial alor finam)
      (Stage3Tally.run targetInstrument alor finam) :=
  foldl_step_walked (allBucketOpenTs alor finam)

end Walk

section Marks

variable {targetInstrument : InstrumentId} {alor finam : Stage3NormalizedM10Buckets}

def walkDiffs (targetInstrument : InstrumentId) (alor finam : Stage3NormalizedM10Buckets) : List DateTimeUtc :=
  (allBucketOpenTs alor finam).filter fun openTs => bucketDiffs targetInstrument alor finam openTs ≠ 0

theorem pairwise_walkDiffs : (walkDiffs targetInstrument alor finam).Pairwise (· < ·) :=
  (pairwise_sortedKeys _).filter _

theorem head?_conflictEnds :
    (conflictEnds alor finam).head? = (alor.conflicts.head? <|> finam.conflicts.head?) := by
  unfold conflictEnds
  cases alor.conflicts with
  | nil =>
      cases finam.conflicts with
      | nil => rfl
      | cons first rest => rfl
  | cons first rest => rfl

theorem getLast?_conflictEnds :
    (conflictEnds alor finam).getLast? = (finam.conflicts.getLast? <|> alor.conflicts.getLast?) := by
  unfold conflictEnds
  cases finam.conflicts with
  | nil =>
      cases alor.conflicts with
      | nil => rfl
      | cons first rest =>
          rw [List.getLast?_cons]
          rfl
  | cons first rest =>
      cases alor.conflicts with
      | nil =>
          rw [List.getLast?_cons]
          rfl
      | cons first rest =>
          simp only [List.getLast?_cons]
          rfl

theorem run_diffs :
    (Stage3Tally.run targetInstrument alor finam).diffs =
      { first := alor.conflicts.head? <|> finam.conflicts.head? <|> (walkDiffs targetInstrument alor finam).head?
        last := (walkDiffs targetInstrument alor finam).getLast? <|> finam.conflicts.getLast? <|>
          alor.conflicts.getLast? } := by
  rw [(run_walked targetInstrument alor finam).diffs]
  unfold Stage3Tally.initial
  dsimp only
  rw [Marks.foldl_record, Marks.foldl_record, head?_conflictEnds, getLast?_conflictEnds]
  unfold Marks.none
  rw [Marks.mk.injEq]
  constructor
  · cases alor.conflicts.head? <;> rfl
  · unfold walkDiffs
    cases finam.conflicts.getLast? <;> cases alor.conflicts.getLast? <;> rfl

end Marks

section Differences

variable (targetInstrument : InstrumentId) (alor finam : List M10Bar) (openTs : DateTimeUtc)

def MissingAt : Prop :=
  ¬ (HasBarAt alor openTs ↔ HasBarAt finam openTs)

/-- What the walk compares at a time: that both have a bar, and the first bar of each. -/
def ComparedDiffersAt : Prop :=
  MissingAt alor finam openTs ∨
    ∃ alorBar finamBar, firstAt alor openTs = some alorBar ∧ firstAt finam openTs = some finamBar ∧
      ¬ BarsAgree targetInstrument alorBar finamBar

/-- The time is missing on one side, conflictingly repeated or different. -/
def DiffersAt : Prop :=
  MissingAt alor finam openTs ∨ ConflictsAt alor openTs ∨ ConflictsAt finam openTs ∨
    ∃ alorBar ∈ alor, ∃ finamBar ∈ finam, alorBar.openTs = openTs ∧ finamBar.openTs = openTs ∧
      ¬ BarsAgree targetInstrument alorBar finamBar

variable {targetInstrument alor finam openTs}

/-- Without a conflict every bar of the time is its first bar. -/
theorem eq_firstAt {bars : List M10Bar} {bar first : M10Bar} (none : ¬ ConflictsAt bars openTs)
    (member : bar ∈ bars) (isAt : bar.openTs = openTs) (found : firstAt bars openTs = some first) : bar = first := by
  by_contra differ
  exact none ((conflictsAt_iff_first found).2 ⟨bar, member, isAt, differ⟩)

theorem differsAt_iff :
    DiffersAt targetInstrument alor finam openTs ↔
      ConflictsAt alor openTs ∨ ConflictsAt finam openTs ∨ ComparedDiffersAt targetInstrument alor finam openTs := by
  constructor
  · rintro (missing | alorConflict | finamConflict | ⟨alorBar, alorIn, finamBar, finamIn, alorAt, finamAt, differ⟩)
    · exact .inr (.inr (.inl missing))
    · exact .inl alorConflict
    · exact .inr (.inl finamConflict)
    · by_cases alorConflict : ConflictsAt alor openTs
      · exact .inl alorConflict
      by_cases finamConflict : ConflictsAt finam openTs
      · exact .inr (.inl finamConflict)
      obtain ⟨alorFirst, alorFound⟩ := exists_firstAt ⟨alorBar, alorIn, alorAt⟩
      obtain ⟨finamFirst, finamFound⟩ := exists_firstAt ⟨finamBar, finamIn, finamAt⟩
      rw [eq_firstAt alorConflict alorIn alorAt alorFound, eq_firstAt finamConflict finamIn finamAt finamFound] at differ
      exact .inr (.inr (.inr ⟨alorFirst, finamFirst, alorFound, finamFound, differ⟩))
  · rintro (alorConflict | finamConflict | missing | ⟨alorBar, finamBar, alorFound, finamFound, differ⟩)
    · exact .inr (.inl alorConflict)
    · exact .inr (.inr (.inl finamConflict))
    · exact .inl missing
    · have alorFacts := firstAt_some alorFound
      have finamFacts := firstAt_some finamFound
      exact .inr (.inr (.inr ⟨alorBar, alorFacts.1, finamBar, finamFacts.1, alorFacts.2, finamFacts.2, differ⟩))

def firstBarDiffs (targetInstrument : InstrumentId) (alor finam : List M10Bar) (openTs : DateTimeUtc) : Nat :=
  match firstAt alor openTs, firstAt finam openTs with
  | some alorBar, some finamBar => mismatchCount targetInstrument alorBar finamBar
  | some _, none => 1
  | none, some _ => 1
  | none, none => 0

@[simp] theorem bucketDiffs_normalize :
    bucketDiffs targetInstrument (normalizeStage3M10BucketsForReport alor)
      (normalizeStage3M10BucketsForReport finam) openTs = firstBarDiffs targetInstrument alor finam openTs := by
  unfold bucketDiffs firstBarDiffs
  rw [get_normalize, get_normalize]

theorem firstBarDiffs_ne_zero_iff :
    firstBarDiffs targetInstrument alor finam openTs ≠ 0 ↔ ComparedDiffersAt targetInstrument alor finam openTs := by
  unfold firstBarDiffs ComparedDiffersAt MissingAt
  rw [← firstAt_isSome_iff, ← firstAt_isSome_iff]
  cases alorFound : firstAt alor openTs with
  | none =>
      cases firstAt finam openTs with
      | none => simp
      | some finamBar => simp
  | some alorBar =>
      cases finamFound : firstAt finam openTs with
      | none => simp
      | some finamBar =>
          have sameTime : alorBar.openTs = finamBar.openTs :=
            (firstAt_some alorFound).2.trans (firstAt_some finamFound).2.symm
          simp [mismatchCount_eq_zero_iff sameTime]

theorem ComparedDiffersAt.hasBarAt (differs : ComparedDiffersAt targetInstrument alor finam openTs) :
    HasBarAt alor openTs ∨ HasBarAt finam openTs := by
  rcases differs with missing | ⟨alorBar, finamBar, alorFound, _, _⟩
  · unfold MissingAt at missing
    tauto
  · exact .inl ⟨alorBar, firstAt_some alorFound⟩

def openTimes (alor finam : List M10Bar) : List DateTimeUtc :=
  allBucketOpenTs (normalizeStage3M10BucketsForReport alor) (normalizeStage3M10BucketsForReport finam)

@[simp] theorem mem_openTimes : openTs ∈ openTimes alor finam ↔ HasBarAt alor openTs ∨ HasBarAt finam openTs := by
  unfold openTimes allBucketOpenTs
  rw [mem_sortedKeys, List.mem_append, mem_keys_normalize, mem_keys_normalize]

theorem mem_walkDiffs :
    openTs ∈ walkDiffs targetInstrument (normalizeStage3M10BucketsForReport alor)
        (normalizeStage3M10BucketsForReport finam) ↔
      ComparedDiffersAt targetInstrument alor finam openTs := by
  unfold walkDiffs
  rw [List.mem_filter, bucketDiffs_normalize, decide_eq_true_iff, firstBarDiffs_ne_zero_iff]
  refine ⟨fun facts => facts.2, fun differs => ⟨mem_openTimes.2 differs.hasBarAt, differs⟩⟩

@[simp] theorem mem_conflicts_normalize {bars : List M10Bar} :
    openTs ∈ (normalizeStage3M10BucketsForReport bars).conflicts ↔ ConflictsAt bars openTs := by
  unfold Stage3NormalizedM10Buckets.conflicts
  rw [mem_sortedKeys, mem_conflicting_normalize]

end Differences

section Report

variable {targetInstrument : InstrumentId} {alor finam : List M10Bar} {openTs : DateTimeUtc}

def reportTally (targetInstrument : InstrumentId) (alor finam : List M10Bar) : Stage3Tally :=
  Stage3Tally.run targetInstrument (normalizeStage3M10BucketsForReport alor)
    (normalizeStage3M10BucketsForReport finam)

theorem reportTally_blockingTotal :
    (reportTally targetInstrument alor finam).diffCounts.blockingTotal =
      (normalizeStage3M10BucketsForReport alor).conflictingDuplicateBucketOpenTs.length +
        (normalizeStage3M10BucketsForReport finam).conflictingDuplicateBucketOpenTs.length +
        ((openTimes alor finam).map (firstBarDiffs targetInstrument alor finam)).sum := by
  unfold reportTally
  rw [(run_walked targetInstrument _ _).blockingTotal]
  have start : (Stage3Tally.initial (normalizeStage3M10BucketsForReport alor)
      (normalizeStage3M10BucketsForReport finam)).diffCounts.blockingTotal =
      (normalizeStage3M10BucketsForReport alor).conflictingDuplicateBucketOpenTs.length +
        (normalizeStage3M10BucketsForReport finam).conflictingDuplicateBucketOpenTs.length := by
    simp only [Stage3Tally.initial, Stage3DiffCounts.blockingTotal]
    omega
  have each : bucketDiffs targetInstrument (normalizeStage3M10BucketsForReport alor)
      (normalizeStage3M10BucketsForReport finam) = firstBarDiffs targetInstrument alor finam :=
    funext fun _ => bucketDiffs_normalize
  rw [start, each]
  rfl

theorem reportTally_blockingTotal_eq_zero_iff :
    (reportTally targetInstrument alor finam).diffCounts.blockingTotal = 0 ↔
      ∀ openTs, ¬ DiffersAt targetInstrument alor finam openTs := by
  rw [reportTally_blockingTotal, Nat.add_eq_zero_iff, Nat.add_eq_zero_iff, List.length_eq_zero_iff,
    List.length_eq_zero_iff, conflicting_eq_nil_iff, conflicting_eq_nil_iff, List.sum_eq_zero_iff_forall_eq_nat]
  constructor
  · rintro ⟨⟨alorNone, finamNone⟩, compared⟩ openTs differs
    rcases differsAt_iff.1 differs with alorConflict | finamConflict | differs
    · exact alorNone openTs alorConflict
    · exact finamNone openTs finamConflict
    · have member : openTs ∈ openTimes alor finam := mem_openTimes.2 differs.hasBarAt
      exact firstBarDiffs_ne_zero_iff.2 differs (compared _ (List.mem_map_of_mem member))
  · intro none
    refine ⟨⟨fun openTs conflict => none openTs (differsAt_iff.2 (.inl conflict)),
      fun openTs conflict => none openTs (differsAt_iff.2 (.inr (.inl conflict)))⟩, fun count member => ?_⟩
    obtain ⟨openTs, _, rfl⟩ := List.mem_map.1 member
    by_contra differs
    exact none openTs (differsAt_iff.2 (.inr (.inr (firstBarDiffs_ne_zero_iff.1 differs))))

theorem reportTally_matchedBucketCount_ne_zero_iff :
    (reportTally targetInstrument alor finam).matchedBucketCount ≠ 0 ↔
      ∃ openTs, HasBarAt alor openTs ∧ HasBarAt finam openTs := by
  unfold reportTally
  rw [(run_walked targetInstrument _ _).matchedBucketCount]
  have start : (Stage3Tally.initial (normalizeStage3M10BucketsForReport alor)
    (normalizeStage3M10BucketsForReport finam)).matchedBucketCount = 0 := rfl
  rw [start, Nat.zero_add, ← Nat.pos_iff_ne_zero, List.countP_pos_iff]
  constructor
  · rintro ⟨openTs, _, both⟩
    rw [Bool.and_eq_true, get_normalize, get_normalize, firstAt_isSome_iff, firstAt_isSome_iff] at both
    exact ⟨openTs, both⟩
  · rintro ⟨openTs, alorHas, finamHas⟩
    refine ⟨openTs, mem_openTimes.2 (.inl alorHas), ?_⟩
    rw [Bool.and_eq_true, get_normalize, get_normalize, firstAt_isSome_iff, firstAt_isSome_iff]
    exact ⟨alorHas, finamHas⟩

/-- Every candidate time is published or rejected. -/
theorem reportTally_candidates :
    (reportTally targetInstrument alor finam).synchronizedCandidateCount +
        (reportTally targetInstrument alor finam).rejectedCandidateCount =
      (finam.map M10Bar.openTs).dedup.length := by
  unfold reportTally
  rw [(run_walked targetInstrument _ _).candidates]
  have start : (Stage3Tally.initial (normalizeStage3M10BucketsForReport alor)
      (normalizeStage3M10BucketsForReport finam)).synchronizedCandidateCount +
    (Stage3Tally.initial (normalizeStage3M10BucketsForReport alor)
      (normalizeStage3M10BucketsForReport finam)).rejectedCandidateCount = 0 := rfl
  rw [start, Nat.zero_add, List.countP_eq_length_filter]
  apply List.Perm.length_eq
  have distinct : (allBucketOpenTs (normalizeStage3M10BucketsForReport alor)
    (normalizeStage3M10BucketsForReport finam)).Nodup := nodup_sortedKeys _
  rw [List.perm_ext_iff_of_nodup (distinct.filter _) (List.nodup_dedup _)]
  intro openTs
  rw [List.mem_filter, get_normalize, firstAt_isSome_iff, List.mem_dedup, List.mem_map]
  exact ⟨fun facts => facts.2, fun has => ⟨mem_openTimes.2 (.inr has), has⟩⟩

/-- Both lists have bars, at the same times, one bar a time in each, and the two bars of a time agree. -/
structure Synchronizes (targetInstrument : InstrumentId) (alor finam : List M10Bar) : Prop where
  alorNonempty : alor ≠ []
  finamNonempty : finam ≠ []
  sameTimes : ∀ openTs, HasBarAt alor openTs ↔ HasBarAt finam openTs
  alorRepeats : ∀ left ∈ alor, ∀ right ∈ alor, left.openTs = right.openTs → left = right
  finamRepeats : ∀ left ∈ finam, ∀ right ∈ finam, left.openTs = right.openTs → left = right
  agree : ∀ alorBar ∈ alor, ∀ finamBar ∈ finam, alorBar.openTs = finamBar.openTs →
    BarsAgree targetInstrument alorBar finamBar

theorem not_conflictsAt_iff {bars : List M10Bar} :
    (∀ openTs, ¬ ConflictsAt bars openTs) ↔
      ∀ left ∈ bars, ∀ right ∈ bars, left.openTs = right.openTs → left = right := by
  constructor
  · intro none left leftIn right rightIn same
    by_contra differ
    exact none right.openTs ⟨left, leftIn, right, rightIn, same, rfl, differ⟩
  · rintro repeats openTs ⟨left, leftIn, right, rightIn, leftAt, rightAt, differ⟩
    exact differ (repeats left leftIn right rightIn (leftAt.trans rightAt.symm))

theorem synchronizes_iff :
    Synchronizes targetInstrument alor finam ↔
      alor ≠ [] ∧ finam ≠ [] ∧ ∀ openTs, ¬ DiffersAt targetInstrument alor finam openTs := by
  constructor
  · intro facts
    refine ⟨facts.alorNonempty, facts.finamNonempty, fun openTs differs => ?_⟩
    rcases differs with missing | alorConflict | finamConflict | ⟨alorBar, alorIn, finamBar, finamIn, atAlor, atFinam, differ⟩
    · exact missing (facts.sameTimes openTs)
    · exact not_conflictsAt_iff.2 facts.alorRepeats openTs alorConflict
    · exact not_conflictsAt_iff.2 facts.finamRepeats openTs finamConflict
    · exact differ (facts.agree alorBar alorIn finamBar finamIn (atAlor.trans atFinam.symm))
  · rintro ⟨alorNonempty, finamNonempty, none⟩
    constructor
    · exact alorNonempty
    · exact finamNonempty
    · intro openTs
      by_contra missing
      exact none openTs (.inl missing)
    · exact not_conflictsAt_iff.1 fun openTs conflict => none openTs (.inr (.inl conflict))
    · exact not_conflictsAt_iff.1 fun openTs conflict => none openTs (.inr (.inr (.inl conflict)))
    · intro alorBar alorIn finamBar finamIn same
      by_contra differ
      exact none finamBar.openTs (.inr (.inr (.inr ⟨alorBar, alorIn, finamBar, finamIn, same, rfl, differ⟩)))

theorem parityStatus_synchronized_iff {matchedBucketCount blockingDiffCount : Nat} :
    parityStatus alor finam matchedBucketCount blockingDiffCount = .synchronized ↔
      alor ≠ [] ∧ finam ≠ [] ∧ matchedBucketCount ≠ 0 ∧ blockingDiffCount = 0 := by
  unfold parityStatus
  by_cases noAlor : alor = []
  · by_cases noFinam : finam = [] <;> simp [noAlor, noFinam]
  · by_cases noFinam : finam = []
    · simp [noAlor, noFinam]
    · by_cases unmatched : matchedBucketCount = 0
      · simp [noAlor, noFinam, unmatched]
      · by_cases clean : blockingDiffCount = 0 <;> simp [noAlor, noFinam, unmatched, clean]

theorem report_synchronized_iff :
    (generateStage3cRedactedM10ParityReport alor finam targetInstrument).status = .synchronized ↔
      Synchronizes targetInstrument alor finam := by
  have status := @parityStatus_synchronized_iff alor finam
    (reportTally targetInstrument alor finam).matchedBucketCount
    (reportTally targetInstrument alor finam).diffCounts.blockingTotal
  refine status.trans ?_
  rw [reportTally_matchedBucketCount_ne_zero_iff, reportTally_blockingTotal_eq_zero_iff, synchronizes_iff]
  constructor
  · rintro ⟨alorNonempty, finamNonempty, _, none⟩
    exact ⟨alorNonempty, finamNonempty, none⟩
  · rintro ⟨alorNonempty, finamNonempty, none⟩
    refine ⟨alorNonempty, finamNonempty, ?_, none⟩
    obtain ⟨bar, member⟩ := List.exists_mem_of_ne_nil alor alorNonempty
    have has : HasBarAt alor bar.openTs := ⟨bar, member, rfl⟩
    have same : HasBarAt alor bar.openTs ↔ HasBarAt finam bar.openTs := by
      by_contra missing
      exact none bar.openTs (.inl missing)
    exact ⟨bar.openTs, has, same.1 has⟩

def CopiesInserted (bars copied : List M10Bar) : Prop :=
  bars.Sublist copied ∧ ∀ bar ∈ copied, bar ∈ bars

theorem CopiesInserted.mem_iff {bars copied : List M10Bar} (inserted : CopiesInserted bars copied) (bar : M10Bar) :
    bar ∈ copied ↔ bar ∈ bars :=
  ⟨inserted.2 bar, fun member => inserted.1.subset member⟩

section Members

variable {bars copied alorCopied finamCopied : List M10Bar}

theorem hasBarAt_congr (same : ∀ bar, bar ∈ copied ↔ bar ∈ bars) : HasBarAt copied openTs ↔ HasBarAt bars openTs := by
  unfold HasBarAt
  simp only [same]

theorem conflictsAt_congr (same : ∀ bar, bar ∈ copied ↔ bar ∈ bars) :
    ConflictsAt copied openTs ↔ ConflictsAt bars openTs := by
  unfold ConflictsAt
  simp only [same]

theorem eq_nil_congr (same : ∀ bar, bar ∈ copied ↔ bar ∈ bars) : copied = [] ↔ bars = [] := by
  rw [List.eq_nil_iff_forall_not_mem, List.eq_nil_iff_forall_not_mem]
  simp only [same]

theorem differsAt_congr (sameAlor : ∀ bar, bar ∈ alorCopied ↔ bar ∈ alor)
    (sameFinam : ∀ bar, bar ∈ finamCopied ↔ bar ∈ finam) :
    DiffersAt targetInstrument alorCopied finamCopied openTs ↔ DiffersAt targetInstrument alor finam openTs := by
  unfold DiffersAt MissingAt
  rw [hasBarAt_congr sameAlor, hasBarAt_congr sameFinam, conflictsAt_congr sameAlor, conflictsAt_congr sameFinam]
  simp only [sameAlor, sameFinam]

theorem openTimes_congr (sameAlor : ∀ bar, bar ∈ alorCopied ↔ bar ∈ alor)
    (sameFinam : ∀ bar, bar ∈ finamCopied ↔ bar ∈ finam) : openTimes alorCopied finamCopied = openTimes alor finam := by
  apply sortedKeys_congr
  intro openTs
  rw [List.mem_append, List.mem_append, mem_keys_normalize, mem_keys_normalize, mem_keys_normalize, mem_keys_normalize,
    hasBarAt_congr sameAlor, hasBarAt_congr sameFinam]

theorem parityStatus_congr {matched matched' blocking blocking' : Nat} (sameAlor : alorCopied = [] ↔ alor = [])
    (sameFinam : finamCopied = [] ↔ finam = []) (sameMatched : matched' ≠ 0 ↔ matched ≠ 0)
    (sameBlocking : blocking' = 0 ↔ blocking = 0) :
    parityStatus alorCopied finamCopied matched' blocking' = parityStatus alor finam matched blocking := by
  unfold parityStatus
  simp only [sameAlor, sameFinam, not_iff_not.1 sameMatched, sameBlocking]

/-- The status is told by which bars there are. -/
theorem report_status_congr (sameAlor : ∀ bar, bar ∈ alorCopied ↔ bar ∈ alor)
    (sameFinam : ∀ bar, bar ∈ finamCopied ↔ bar ∈ finam) :
    (generateStage3cRedactedM10ParityReport alorCopied finamCopied targetInstrument).status =
      (generateStage3cRedactedM10ParityReport alor finam targetInstrument).status := by
  have sameMatched := (@reportTally_matchedBucketCount_ne_zero_iff targetInstrument alorCopied finamCopied).trans
    ((exists_congr fun openTs => and_congr (hasBarAt_congr sameAlor) (hasBarAt_congr sameFinam)).trans
      (@reportTally_matchedBucketCount_ne_zero_iff targetInstrument alor finam).symm)
  have sameBlocking := (@reportTally_blockingTotal_eq_zero_iff targetInstrument alorCopied finamCopied).trans
    ((forall_congr' fun openTs => not_congr (differsAt_congr sameAlor sameFinam)).trans
      (@reportTally_blockingTotal_eq_zero_iff targetInstrument alor finam).symm)
  exact parityStatus_congr (eq_nil_congr sameAlor) (eq_nil_congr sameFinam) sameMatched sameBlocking

theorem report_blocking_congr_iff (sameAlor : ∀ bar, bar ∈ alorCopied ↔ bar ∈ alor)
    (sameFinam : ∀ bar, bar ∈ finamCopied ↔ bar ∈ finam) :
    (generateStage3cRedactedM10ParityReport alorCopied finamCopied targetInstrument).comparisonSummary.blockingDiffCount =
        (generateStage3cRedactedM10ParityReport alor finam targetInstrument).comparisonSummary.blockingDiffCount ↔
      ((openTimes alor finam).map (firstBarDiffs targetInstrument alorCopied finamCopied)).sum =
        ((openTimes alor finam).map (firstBarDiffs targetInstrument alor finam)).sum := by
  change (reportTally targetInstrument alorCopied finamCopied).diffCounts.blockingTotal =
    (reportTally targetInstrument alor finam).diffCounts.blockingTotal ↔ _
  rw [reportTally_blockingTotal, reportTally_blockingTotal, openTimes_congr sameAlor sameFinam,
    conflicting_length_congr fun openTs => conflictsAt_congr sameAlor,
    conflicting_length_congr fun openTs => conflictsAt_congr sameFinam]
  exact Nat.add_left_cancel_iff

theorem firstBarDiffs_congr (sameAlor : ∀ openTs, firstAt alorCopied openTs = firstAt alor openTs)
    (sameFinam : ∀ openTs, firstAt finamCopied openTs = firstAt finam openTs) :
    firstBarDiffs targetInstrument alorCopied finamCopied = firstBarDiffs targetInstrument alor finam := by
  funext openTs
  unfold firstBarDiffs
  rw [sameAlor, sameFinam]

end Members

section FirstAndLast

/-- The conflicting times, which are recorded first, do not hide an earlier difference. -/
structure FirstRecordedFirst (targetInstrument : InstrumentId) (alor finam : List M10Bar) : Prop where
  alorConflicts : (∃ openTs, ConflictsAt alor openTs) →
    ∀ openTs, ConflictsAt finam openTs ∨ ComparedDiffersAt targetInstrument alor finam openTs →
      ∃ conflict, ConflictsAt alor conflict ∧ conflict ≤ openTs
  finamConflicts : (¬ ∃ openTs, ConflictsAt alor openTs) → (∃ openTs, ConflictsAt finam openTs) →
    ∀ openTs, ComparedDiffersAt targetInstrument alor finam openTs →
      ∃ conflict, ConflictsAt finam conflict ∧ conflict ≤ openTs

/-- The times compared in the walk, which are recorded last, do not hide a later conflict. -/
structure LastRecordedLast (targetInstrument : InstrumentId) (alor finam : List M10Bar) : Prop where
  compared : (∃ openTs, ComparedDiffersAt targetInstrument alor finam openTs) →
    ∀ openTs, ConflictsAt finam openTs ∨ ConflictsAt alor openTs →
      ∃ differs, ComparedDiffersAt targetInstrument alor finam differs ∧ openTs ≤ differs
  finamConflicts : (¬ ∃ openTs, ComparedDiffersAt targetInstrument alor finam openTs) →
    (∃ openTs, ConflictsAt finam openTs) → ∀ openTs, ConflictsAt alor openTs →
      ∃ conflict, ConflictsAt finam conflict ∧ openTs ≤ conflict

theorem pairwise_conflicts {bars : List M10Bar} :
    (normalizeStage3M10BucketsForReport bars).conflicts.Pairwise (· < ·) :=
  pairwise_sortedKeys _

theorem setOf_differsAt :
    { time | DiffersAt targetInstrument alor finam time } =
      { time | ConflictsAt alor time ∨ ConflictsAt finam time ∨ ComparedDiffersAt targetInstrument alor finam time } :=
  Set.ext fun _ => differsAt_iff

theorem firstDiff_isLeast (inOrder : FirstRecordedFirst targetInstrument alor finam)
    (found : (generateStage3cRedactedM10ParityReport alor finam targetInstrument).diffSummary.firstDiffBucketOpenTs =
      some openTs) : IsLeast { time | DiffersAt targetInstrument alor finam time } openTs := by
  have first : ((normalizeStage3M10BucketsForReport alor).conflicts.head? <|>
      ((normalizeStage3M10BucketsForReport finam).conflicts.head? <|>
        (walkDiffs targetInstrument (normalizeStage3M10BucketsForReport alor)
          (normalizeStage3M10BucketsForReport finam)).head?)) = some openTs :=
    (congrArg Marks.first run_diffs).symm.trans found
  rw [setOf_differsAt]
  apply isLeast_orElse pairwise_conflicts (fun _ => mem_conflicts_normalize) inOrder.alorConflicts ?_ first
  intro noAlor time later
  apply isLeast_orElse pairwise_conflicts (fun _ => mem_conflicts_normalize) (inOrder.finamConflicts noAlor) ?_ later
  intro _ time isFirst
  have least := isLeast_head pairwise_walkDiffs isFirst
  simpa only [mem_walkDiffs] using least

theorem lastDiff_isGreatest (inOrder : LastRecordedLast targetInstrument alor finam)
    (found : (generateStage3cRedactedM10ParityReport alor finam targetInstrument).diffSummary.lastDiffBucketOpenTs =
      some openTs) : IsGreatest { time | DiffersAt targetInstrument alor finam time } openTs := by
  have last : ((walkDiffs targetInstrument (normalizeStage3M10BucketsForReport alor)
        (normalizeStage3M10BucketsForReport finam)).getLast? <|>
      ((normalizeStage3M10BucketsForReport finam).conflicts.getLast? <|>
        (normalizeStage3M10BucketsForReport alor).conflicts.getLast?)) = some openTs :=
    (congrArg Marks.last run_diffs).symm.trans found
  have reordered : { time | DiffersAt targetInstrument alor finam time } =
      { time | ComparedDiffersAt targetInstrument alor finam time ∨ ConflictsAt finam time ∨ ConflictsAt alor time } := by
    rw [setOf_differsAt]
    ext time
    simp only [Set.mem_ofPred_eq]
    tauto
  rw [reordered]
  apply isGreatest_orElse pairwise_walkDiffs (fun _ => mem_walkDiffs) inOrder.compared ?_ last
  intro noneCompared time later
  apply isGreatest_orElse pairwise_conflicts (fun _ => mem_conflicts_normalize) (inOrder.finamConflicts noneCompared) ?_
    later
  intro _ time isLast
  have greatest := isGreatest_getLast pairwise_conflicts isLast
  simpa only [mem_conflicts_normalize] using greatest

/-- A difference is reported exactly when there is one. -/
theorem diffs_isSome_iff :
    ((generateStage3cRedactedM10ParityReport alor finam targetInstrument).diffSummary.firstDiffBucketOpenTs.isSome ↔
        ∃ time, DiffersAt targetInstrument alor finam time) ∧
      ((generateStage3cRedactedM10ParityReport alor finam targetInstrument).diffSummary.lastDiffBucketOpenTs.isSome ↔
        ∃ time, DiffersAt targetInstrument alor finam time) := by
  have first : (generateStage3cRedactedM10ParityReport alor finam targetInstrument).diffSummary.firstDiffBucketOpenTs = _ :=
    congrArg Marks.first run_diffs
  have last : (generateStage3cRedactedM10ParityReport alor finam targetInstrument).diffSummary.lastDiffBucketOpenTs = _ :=
    congrArg Marks.last run_diffs
  have exists_iff : ∀ {keys : List DateTimeUtc}, keys ≠ [] ↔ ∃ key, key ∈ keys := by
    intro keys
    rw [← List.length_pos_iff_ne_nil, List.length_pos_iff_exists_mem]
  have some_iff : (∃ time, DiffersAt targetInstrument alor finam time) ↔
      (normalizeStage3M10BucketsForReport alor).conflicts ≠ [] ∨
        (normalizeStage3M10BucketsForReport finam).conflicts ≠ [] ∨
        walkDiffs targetInstrument (normalizeStage3M10BucketsForReport alor)
          (normalizeStage3M10BucketsForReport finam) ≠ [] := by
    simp only [exists_iff, mem_conflicts_normalize, mem_walkDiffs, differsAt_iff, exists_or]
  rw [first, last, some_iff]
  constructor
  · simp
  · simp
    tauto

end FirstAndLast

end Report

/-- What the report says of two lists of bars, and what inserted copies of bars change in it. -/
theorem parity_report_exact (targetInstrument : InstrumentId) (alor finam : List M10Bar) :
    let report := generateStage3cRedactedM10ParityReport alor finam targetInstrument
    (report.status = .synchronized ↔ Synchronizes targetInstrument alor finam) ∧
      ((report.diffSummary.firstDiffBucketOpenTs.isSome ↔ ∃ time, DiffersAt targetInstrument alor finam time) ∧
        (report.diffSummary.lastDiffBucketOpenTs.isSome ↔ ∃ time, DiffersAt targetInstrument alor finam time)) ∧
      (FirstRecordedFirst targetInstrument alor finam → ∀ openTs,
        report.diffSummary.firstDiffBucketOpenTs = some openTs →
          IsLeast { time | DiffersAt targetInstrument alor finam time } openTs) ∧
      (LastRecordedLast targetInstrument alor finam → ∀ openTs,
        report.diffSummary.lastDiffBucketOpenTs = some openTs →
          IsGreatest { time | DiffersAt targetInstrument alor finam time } openTs) ∧
      report.strategyInputPublication.finamDerivedM10PublishedAsModelBarCount +
          report.strategyInputPublication.candidateBarsRejectedBeforeStrategyCount =
        (finam.map M10Bar.openTs).dedup.length ∧
      ∀ alorCopied finamCopied, CopiesInserted alor alorCopied → CopiesInserted finam finamCopied →
        let again := generateStage3cRedactedM10ParityReport alorCopied finamCopied targetInstrument
        again.status = report.status ∧
          (again.comparisonSummary.blockingDiffCount = report.comparisonSummary.blockingDiffCount ↔
            ((openTimes alor finam).map (firstBarDiffs targetInstrument alorCopied finamCopied)).sum =
              ((openTimes alor finam).map (firstBarDiffs targetInstrument alor finam)).sum) ∧
          ((∀ openTs, firstAt alorCopied openTs = firstAt alor openTs) →
            (∀ openTs, firstAt finamCopied openTs = firstAt finam openTs) →
              again.comparisonSummary.blockingDiffCount = report.comparisonSummary.blockingDiffCount) := by
  refine ⟨report_synchronized_iff, diffs_isSome_iff, fun inOrder openTs found => firstDiff_isLeast inOrder found,
    fun inOrder openTs found => lastDiff_isGreatest inOrder found, reportTally_candidates, ?_⟩
  intro alorCopied finamCopied alorInserted finamInserted
  have counts := @report_blocking_congr_iff targetInstrument alor finam alorCopied finamCopied alorInserted.mem_iff
    finamInserted.mem_iff
  refine ⟨report_status_congr alorInserted.mem_iff finamInserted.mem_iff, counts, fun sameAlor sameFinam => ?_⟩
  rw [counts, firstBarDiffs_congr sameAlor sameFinam]

section Samples

def sampleReportInstrument : InstrumentId where
  symbol := "IMOEXF"
  venueSymbol := none
  exchange := .moex
  market := .futures

def sampleReportBar (seconds : Int) (price : ℚ) : M10Bar where
  instrument := sampleReportInstrument
  sourceKind := .recovery
  timeframeSec := 600
  openTs := { seconds := seconds, nanos := 0 }
  closeTs := { seconds := seconds + 600, nanos := 0 }
  «open» := price
  high := price
  low := price
  close := price
  volume := 1
  isFinal := true

theorem sample_firstRecordedFirst :
    FirstRecordedFirst sampleReportInstrument [sampleReportBar 600 1] [sampleReportBar 600 1, sampleReportBar 1200 1] := by
  have alorNone : ∀ openTs, ¬ ConflictsAt [sampleReportBar 600 1] openTs := not_conflictsAt_iff.2 (by decide)
  have finamNone : ∀ openTs, ¬ ConflictsAt [sampleReportBar 600 1, sampleReportBar 1200 1] openTs :=
    not_conflictsAt_iff.2 (by decide)
  constructor
  · rintro ⟨openTs, conflict⟩
    exact absurd conflict (alorNone openTs)
  · rintro _ ⟨openTs, conflict⟩
    exact absurd conflict (finamNone openTs)

/-- A candidate bar the oracle lacks is the first difference. -/
theorem parity_report_exact_missing :
    IsLeast { time | DiffersAt sampleReportInstrument [sampleReportBar 600 1]
      [sampleReportBar 600 1, sampleReportBar 1200 1] time } { seconds := 1200, nanos := 0 } :=
  (parity_report_exact sampleReportInstrument [sampleReportBar 600 1]
    [sampleReportBar 600 1, sampleReportBar 1200 1]).2.2.1 sample_firstRecordedFirst _ (by with_unfolding_all decide)

/-- A conflict hides an earlier difference from the first mark, and a copy of a later bar put before the first
one of its time changes what blocks. -/
theorem conflict_hides_earlier_difference :
    (¬ ∀ (alor finam : List M10Bar) (openTs : DateTimeUtc),
      (generateStage3cRedactedM10ParityReport alor finam sampleReportInstrument).diffSummary.firstDiffBucketOpenTs =
          some openTs →
        IsLeast { time | DiffersAt sampleReportInstrument alor finam time } openTs) ∧
      ¬ ∀ alor alorCopied finam : List M10Bar, CopiesInserted alor alorCopied →
        (generateStage3cRedactedM10ParityReport alorCopied finam
            sampleReportInstrument).comparisonSummary.blockingDiffCount =
          (generateStage3cRedactedM10ParityReport alor finam
            sampleReportInstrument).comparisonSummary.blockingDiffCount := by
  constructor
  · intro exact
    have least := exact [sampleReportBar 1200 1, sampleReportBar 1200 2]
      [sampleReportBar 600 1, sampleReportBar 1200 1] { seconds := 1200, nanos := 0 } (by with_unfolding_all decide)
    have missing : DiffersAt sampleReportInstrument [sampleReportBar 1200 1, sampleReportBar 1200 2]
        [sampleReportBar 600 1, sampleReportBar 1200 1] { seconds := 600, nanos := 0 } := by
      refine .inl fun same => ?_
      obtain ⟨bar, member, isAt⟩ := same.2 ⟨sampleReportBar 600 1, List.mem_cons_self, rfl⟩
      revert bar
      decide
    exact absurd (least.2 missing) (by decide)
  · intro unchanged
    have same := unchanged [sampleReportBar 600 1, sampleReportBar 600 2]
      [sampleReportBar 600 2, sampleReportBar 600 1, sampleReportBar 600 2] [sampleReportBar 600 1]
      ⟨List.sublist_cons_self _ _, by decide⟩
    exact absurd same (by with_unfolding_all decide)

end Samples

end TradingGateway.BrokerCore.ParityReport
