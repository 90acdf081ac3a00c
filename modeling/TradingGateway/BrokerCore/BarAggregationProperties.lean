import TradingGateway.BrokerCore.BarAggregation
import TradingGateway.BrokerCore.DecimalArithmetic
import TradingGateway.Foundation.Tilings
import Mathlib.Data.List.Infix
import Mathlib.Tactic.Positivity

/-! What the bars that an aggregate is built from cover, and what a late bar does to them. -/

set_option autoImplicit false

namespace TradingGateway.BrokerCore.BarAggregation

open FixedPoint Orders Bars
open Foundation.ExceptRun Foundation.Tilings

def Admissible (target : UInt32) (bar : Bar) : Prop :=
  validateSourceBar bar target = .ok () ∧ bucketOpenTs bar.openTs target ≠ none

instance (target : UInt32) (bar : Bar) : Decidable (Admissible target bar) :=
  inferInstanceAs (Decidable (_ ∧ _))

/-- The bars so far that were not turned away. -/
def admissible (target : UInt32) (observed : List Bar) : List Bar :=
  observed.filter (Admissible target)

inductive Observation (aggregator : CanonicalBarAggregator) (bar : Bar) :
    BarAggregationAction → CanonicalBarAggregator → Prop where
  | turnedAway (reason : BarAggregationRejectReason) (inadmissible : ¬ Admissible aggregator.targetTimeframeSec bar) :
      Observation aggregator bar (.rejected reason) aggregator
  | opened (opens : DateTimeUtc) (valid : validateSourceBar bar aggregator.targetTimeframeSec = .ok ())
      (grid : bucketOpenTs bar.openTs aggregator.targetTimeframeSec = some opens) (absent : aggregator.current = none) :
      Observation aggregator bar (.buffered opens 1) (aggregator.startBucket opens bar)
  | refused (bucket : BarAggregationBucket) (reason : BarAggregationRejectReason)
      (valid : validateSourceBar bar aggregator.targetTimeframeSec = .ok ())
      (grid : bucketOpenTs bar.openTs aggregator.targetTimeframeSec = some bucket.bucketOpenTs)
      (present : aggregator.current = some bucket) :
      Observation aggregator bar (.rejected reason) aggregator.withoutBucket
  | extended (bucket : BarAggregationBucket) (valid : validateSourceBar bar aggregator.targetTimeframeSec = .ok ())
      (grid : bucketOpenTs bar.openTs aggregator.targetTimeframeSec = some bucket.bucketOpenTs)
      (present : aggregator.current = some bucket) (accepts : bucket.canAccept bar = .ok ())
      (incomplete : ¬ (bucket.push bar).IsComplete) :
      Observation aggregator bar (.buffered bucket.bucketOpenTs (bucket.push bar).bars.length)
        { aggregator with current := some (bucket.push bar) }
  | completed (bucket : BarAggregationBucket) (emitted : Bar)
      (valid : validateSourceBar bar aggregator.targetTimeframeSec = .ok ())
      (grid : bucketOpenTs bar.openTs aggregator.targetTimeframeSec = some bucket.bucketOpenTs)
      (present : aggregator.current = some bucket) (accepts : bucket.canAccept bar = .ok ())
      (complete : (bucket.push bar).IsComplete) (aggregated : (bucket.push bar).aggregate = some emitted) :
      Observation aggregator bar (.emitted emitted) aggregator.withoutBucket
  | dropped (bucket : BarAggregationBucket) (opens : DateTimeUtc)
      (valid : validateSourceBar bar aggregator.targetTimeframeSec = .ok ())
      (grid : bucketOpenTs bar.openTs aggregator.targetTimeframeSec = some opens)
      (present : aggregator.current = some bucket) (newer : opens.After bucket.bucketOpenTs) :
      Observation aggregator bar (.droppedIncompleteBucket bucket.bucketOpenTs bucket.bars.length)
        (aggregator.startBucket opens bar)
  | late (bucket : BarAggregationBucket) (opens : DateTimeUtc)
      (valid : validateSourceBar bar aggregator.targetTimeframeSec = .ok ())
      (grid : bucketOpenTs bar.openTs aggregator.targetTimeframeSec = some opens)
      (present : aggregator.current = some bucket) (older : bucket.bucketOpenTs.After opens) :
      Observation aggregator bar (.rejected .nonMonotonicSourceBar) aggregator.withoutBucket

section Observing

variable {aggregator next : CanonicalBarAggregator} {bar : Bar} {action : BarAggregationAction}

theorem observation_of_extendBucket {bucket : BarAggregationBucket}
    (valid : validateSourceBar bar aggregator.targetTimeframeSec = .ok ())
    (grid : bucketOpenTs bar.openTs aggregator.targetTimeframeSec = some bucket.bucketOpenTs)
    (present : aggregator.current = some bucket) (observed : aggregator.extendBucket bucket bar = some (action, next)) :
    Observation aggregator bar action next := by
  unfold CanonicalBarAggregator.extendBucket at observed
  cases accepts : bucket.canAccept bar with
  | error reason =>
      rw [accepts] at observed
      cases observed
      exact .refused bucket reason valid grid present
  | ok _ =>
      rw [accepts] at observed
      by_cases complete : (bucket.push bar).IsComplete
      · simp only [complete, ↓reduceIte, Option.bind_eq_bind, Option.bind_eq_some_iff] at observed
        obtain ⟨emitted, aggregated, result⟩ := observed
        cases result
        exact .completed bucket emitted valid grid present accepts complete aggregated
      · simp only [complete, ↓reduceIte] at observed
        cases observed
        exact .extended bucket valid grid present accepts complete

theorem observation_of_observe (observed : aggregator.observeFinalSourceBar bar = some (action, next)) :
    Observation aggregator bar action next := by
  unfold CanonicalBarAggregator.observeFinalSourceBar at observed
  cases valid : validateSourceBar bar aggregator.targetTimeframeSec with
  | error reason =>
      rw [valid] at observed
      cases observed
      refine .turnedAway reason ?_
      rintro ⟨isValid, -⟩
      cases valid.symm.trans isValid
  | ok _ =>
      rw [valid] at observed
      cases grid : bucketOpenTs bar.openTs aggregator.targetTimeframeSec with
      | none =>
          rw [grid] at observed
          cases observed
          exact .turnedAway _ fun isAdmissible => isAdmissible.2 grid
      | some opens =>
          rw [grid] at observed
          simp only [CanonicalBarAggregator.observeInBucket] at observed
          cases present : aggregator.current with
          | none =>
              rw [present] at observed
              cases observed
              exact .opened opens valid grid present
          | some bucket =>
              rw [present] at observed
              by_cases same : bucket.bucketOpenTs = opens
              · simp only [same, ↓reduceIte] at observed
                exact observation_of_extendBucket valid (by rw [grid, same]) present observed
              · by_cases newer : opens.After bucket.bucketOpenTs
                · simp only [same, newer, ↓reduceIte] at observed
                  cases observed
                  exact .dropped bucket opens valid grid present newer
                · simp only [same, newer, ↓reduceIte] at observed
                  cases observed
                  refine .late bucket opens valid grid present ?_
                  by_contra notOlder
                  exact same (DateTimeUtc.eq_of_not_after notOlder newer)

end Observing

section Aggregates

namespace BarAggregationBucket

variable {bucket : BarAggregationBucket} {bar : Bar}

@[simp] theorem bars_push : (bucket.push bar).bars = bucket.bars ++ [bar] := rfl

@[simp] theorem last_push : (bucket.push bar).last = bar := by
  simp [last, push]

theorem canAccept_ok_iff : bucket.canAccept bar = .ok () ↔
    bucket.first.instrument = bar.instrument ∧ bucket.first.sourceKind = bar.sourceKind ∧
      bar.openTs.After bucket.last.openTs ∧ bar.openTs = bucket.last.closeTs := by
  unfold canAccept
  simp

end BarAggregationBucket

/-- Keeping the better of two values leaves one that none of them is better than. -/
theorem best_of_foldl {Item Value : Type} (value : Item → Value) (better : Value → Value → Prop) [DecidableRel better]
    (irrefl : ∀ item, ¬ better item item)
    (trans : ∀ first second third, ¬ better first second → ¬ better second third → ¬ better first third)
    (asymm : ∀ left right, better left right → ¬ better right left) (items : List Item) (start : Value) :
    let best := items.foldl (fun best item => if better (value item) best then value item else best) start
    (best = start ∨ ∃ item ∈ items, value item = best) ∧ ¬ better start best ∧
      ∀ item ∈ items, ¬ better (value item) best := by
  induction items generalizing start with
  | nil => simp [irrefl]
  | cons item items ih =>
      rw [List.foldl_cons]
      by_cases isBetter : better (value item) start
      · rw [if_pos isBetter]
        obtain ⟨isOne, notStart, none⟩ := ih (value item)
        refine ⟨.inr ?_, trans _ _ _ (asymm _ _ isBetter) notStart, ?_⟩
        · obtain isItem | ⟨other, member, isOther⟩ := isOne
          · exact ⟨item, List.mem_cons_self, isItem.symm⟩
          · exact ⟨other, List.mem_cons_of_mem _ member, isOther⟩
        · intro other member
          obtain rfl | later := List.mem_cons.1 member
          · exact notStart
          · exact none other later
      · rw [if_neg isBetter]
        obtain ⟨isOne, notStart, none⟩ := ih start
        refine ⟨?_, notStart, ?_⟩
        · obtain isStart | ⟨other, member, isOther⟩ := isOne
          · exact .inl isStart
          · exact .inr ⟨other, List.mem_cons_of_mem _ member, isOther⟩
        · intro other member
          obtain rfl | later := List.mem_cons.1 member
          · exact trans _ _ _ isBetter notStart
          · exact none other later

namespace BarAggregationBucket

variable (bucket : BarAggregationBucket)

theorem highest_spec : bucket.highest ∈ bucket.bars.map Bar.high ∧ ∀ bar ∈ bucket.bars, bar.high ≤ bucket.highest := by
  obtain ⟨isOne, notFirst, notLater⟩ := best_of_foldl Bar.high (fun left right => right < left)
    (by simp) (by simp; omega) (by simp; omega) bucket.later bucket.first.high
  constructor
  · obtain isFirst | ⟨bar, member, isBar⟩ := isOne
    · exact List.mem_map.2 ⟨bucket.first, List.mem_cons_self, isFirst.symm⟩
    · exact List.mem_map.2 ⟨bar, List.mem_cons_of_mem _ member, isBar⟩
  · intro bar member
    obtain rfl | later := List.mem_cons.1 member
    · exact Int.not_lt.1 notFirst
    · exact Int.not_lt.1 (notLater bar later)

theorem lowest_spec : bucket.lowest ∈ bucket.bars.map Bar.low ∧ ∀ bar ∈ bucket.bars, bucket.lowest ≤ bar.low := by
  obtain ⟨isOne, notFirst, notLater⟩ := best_of_foldl Bar.low (fun left right => left < right)
    (by simp) (by simp; omega) (by simp; omega) bucket.later bucket.first.low
  constructor
  · obtain isFirst | ⟨bar, member, isBar⟩ := isOne
    · exact List.mem_map.2 ⟨bucket.first, List.mem_cons_self, isFirst.symm⟩
    · exact List.mem_map.2 ⟨bar, List.mem_cons_of_mem _ member, isBar⟩
  · intro bar member
    obtain rfl | later := List.mem_cons.1 member
    · exact Int.not_lt.1 notFirst
    · exact Int.not_lt.1 (notLater bar later)

/-- The volume is the exact sum where that fits, none of the volumes being negative. -/
theorem totalVolume_exact {volume : Quantity} (summed : bucket.totalVolume = some volume)
    (signs : ∀ bar ∈ bucket.bars, Decimal.zero ≤ bar.volume)
    (summable : ExactlySummable (bucket.bars.map Bar.volume)) :
    volume.units = ((bucket.bars.map Bar.volume).map Decimal.units).sum := by
  obtain ⟨scale, bound, scales, fits⟩ := summable
  have sign (bar : Bar) (member : bar ∈ bucket.bars) : 0 ≤ bar.volume.units := by
    have notNegative := signs bar member
    rwa [Decimal.le_iff, Decimal.units_zero] at notNegative
  have laterSigns : ∀ value ∈ bucket.later.map Bar.volume, 0 ≤ value.units := by
    intro value member
    obtain ⟨bar, among, rfl⟩ := List.mem_map.1 member
    exact sign bar (List.mem_cons_of_mem _ among)
  rw [bars, List.map_cons, List.map_cons, List.sum_cons] at fits ⊢
  obtain ⟨sum, added, exact⟩ := foldlM_checkedAdd_exact bound (scales bucket.first.volume List.mem_cons_self)
    (sign bucket.first List.mem_cons_self) (fun value member => scales value (List.mem_cons_of_mem _ member))
    laterSigns fits
  have same : sum = volume := Option.some.inj (added.symm.trans summed)
  exact same ▸ exact

end BarAggregationBucket

end Aggregates

structure BuiltFrom (bars : List Bar) (emitted : Bar) : Prop where
  final : ∀ bar ∈ bars, bar.isFinal = true
  instrument : ∀ bar ∈ bars, bar.instrument = emitted.instrument
  sourceKind : ∀ bar ∈ bars, bar.sourceKind = emitted.sourceKind
  tiles : Tiles Bar.openTs Bar.closeTs bars emitted.openTs emitted.closeTs
  opens : bars.head?.map Bar.open = some emitted.open
  closes : bars.getLast?.map Bar.close = some emitted.close
  high : emitted.high ∈ bars.map Bar.high ∧ ∀ bar ∈ bars, bar.high ≤ emitted.high
  low : emitted.low ∈ bars.map Bar.low ∧ ∀ bar ∈ bars, emitted.low ≤ bar.low
  volume : ∃ first later, bars = first :: later ∧
    (later.map Bar.volume).foldlM Decimal.checkedAdd first.volume = some emitted.volume
  volumeExact : (∀ bar ∈ bars, Decimal.zero ≤ bar.volume) → ExactlySummable (bars.map Bar.volume) →
    emitted.volume.units = ((bars.map Bar.volume).map Decimal.units).sum

/-- The bars of the current bucket and the bar that completes it are the last ones that
were observed, and the emitted bar is built from them. -/
def CoversBucket (aggregator : CanonicalBarAggregator) (observed : List Bar) (bar emitted : Bar) : Prop :=
  ∃ bucket, aggregator.current = some bucket ∧
    bucket.bars ++ [bar] <:+ admissible aggregator.targetTimeframeSec (observed ++ [bar]) ∧
    BuiltFrom (bucket.bars ++ [bar]) emitted

def clockLength (bar : Bar) : Int :=
  bar.closeTs.clock - bar.openTs.clock

/-- The first bar of the current bucket opens on the grid of the target timeframe, and its
bars and the one that completes it last as long as the target says. -/
def FillsBucket (aggregator : CanonicalBarAggregator) (bar : Bar) : Prop :=
  ∃ bucket, aggregator.current = some bucket ∧
    bucket.first.openTs.seconds % aggregator.targetTimeframeSec.toNat = 0 ∧ bucket.first.openTs.nanos = 0 ∧
    ((bucket.bars ++ [bar]).map clockLength).sum = aggregator.targetTimeframeSec.toNat * 1000000000 ∧
    bar.closeTs.nanos < 1000000000

structure BucketSound (target : UInt32) (observed : List Bar) (bucket : BarAggregationBucket) : Prop where
  timeframe : bucket.targetTimeframeSec = target
  grid : bucketOpenTs bucket.first.openTs target = some bucket.bucketOpenTs
  recent : bucket.bars <:+ admissible target observed
  valid : ∀ bar ∈ bucket.bars, validateSourceBar bar target = .ok ()
  alike : ∀ bar ∈ bucket.bars, bar.instrument = bucket.first.instrument ∧ bar.sourceKind = bucket.first.sourceKind
  tiles : Tiles Bar.openTs Bar.closeTs bucket.bars bucket.first.openTs bucket.last.closeTs

structure AggregatorSound (target : UInt32) (observed : List Bar) (aggregator : CanonicalBarAggregator) : Prop where
  timeframe : aggregator.targetTimeframeSec = target
  bucket : ∀ bucket, aggregator.current = some bucket → BucketSound target observed bucket

section Sound

variable {target : UInt32} {observed : List Bar} {aggregator next : CanonicalBarAggregator} {bar : Bar}

theorem admissible_concat_of (isAdmissible : Admissible target bar) :
    admissible target (observed ++ [bar]) = admissible target observed ++ [bar] := by
  simp [admissible, isAdmissible]

theorem admissible_concat_of_not (inadmissible : ¬ Admissible target bar) :
    admissible target (observed ++ [bar]) = admissible target observed := by
  simp [admissible, inadmissible]

theorem isFinal_of_valid (valid : validateSourceBar bar target = .ok ()) : bar.isFinal = true := by
  unfold validateSourceBar at valid
  simp only [check_bind_ok_iff, rejectIf_ok_iff, Bool.not_eq_false] at valid
  exact valid.1

theorem validTimeframe_of_valid (valid : validateSourceBar bar target = .ok ()) :
    0 < bar.timeframeSec.toNat ∧ bar.timeframeSec.toNat ∣ target.toNat := by
  unfold validateSourceBar at valid
  simp only [check_bind_ok_iff, rejectIf_ok_iff] at valid
  obtain ⟨-, notZero, -, -, divides, -⟩ := valid
  constructor
  · rw [Nat.pos_iff_ne_zero]
    intro isZero
    exact notZero (UInt32.toNat_inj.1 isZero)
  · have remainder := congrArg UInt32.toNat (not_not.1 divides)
    rw [UInt32.toNat_mod] at remainder
    exact Nat.dvd_of_mod_eq_zero remainder

/-- A bucket and a bar that it accepts make a sound bucket. -/
theorem BucketSound.push {bucket : BarAggregationBucket} (sound : BucketSound target observed bucket)
    (isAdmissible : Admissible target bar) (accepts : bucket.canAccept bar = .ok ()) :
    BucketSound target (observed ++ [bar]) (bucket.push bar) := by
  obtain ⟨sameInstrument, sameKind, -, contiguous⟩ := BarAggregationBucket.canAccept_ok_iff.1 accepts
  constructor
  · exact sound.timeframe
  · exact sound.grid
  · rw [admissible_concat_of isAdmissible, BarAggregationBucket.bars_push]
    exact List.suffix_concat_iff.2 (.inr ⟨_, rfl, sound.recent⟩)
  · intro other member
    rw [BarAggregationBucket.bars_push, List.mem_append, List.mem_singleton] at member
    obtain earlier | rfl := member
    · exact sound.valid other earlier
    · exact isAdmissible.1
  · intro other member
    rw [BarAggregationBucket.bars_push, List.mem_append, List.mem_singleton] at member
    obtain earlier | rfl := member
    · exact sound.alike other earlier
    · exact ⟨sameInstrument.symm, sameKind.symm⟩
  · rw [BarAggregationBucket.bars_push, BarAggregationBucket.last_push, tiles_concat]
    exact ⟨contiguous ▸ sound.tiles, rfl⟩

theorem bucketSound_start {opens : DateTimeUtc} (isAdmissible : Admissible target bar)
    (grid : bucketOpenTs bar.openTs target = some opens) :
    BucketSound target (observed ++ [bar])
      { bucketOpenTs := opens, targetTimeframeSec := target, first := bar, later := [] } := by
  constructor
  · rfl
  · exact grid
  · rw [admissible_concat_of isAdmissible]
    exact List.suffix_append _ _
  · intro other member
    cases List.mem_singleton.1 member
    exact isAdmissible.1
  · intro other member
    cases List.mem_singleton.1 member
    exact ⟨rfl, rfl⟩
  · exact ⟨rfl, rfl⟩

theorem BucketSound.turnedAway {bucket : BarAggregationBucket} (sound : BucketSound target observed bucket)
    (inadmissible : ¬ Admissible target bar) : BucketSound target (observed ++ [bar]) bucket :=
  { sound with recent := by rw [admissible_concat_of_not inadmissible]; exact sound.recent }

theorem AggregatorSound.observe (sound : AggregatorSound target observed aggregator) {action : BarAggregationAction}
    (observation : Observation aggregator bar action next) : AggregatorSound target (observed ++ [bar]) next := by
  have sameTarget := sound.timeframe
  cases observation with
  | turnedAway reason inadmissible =>
      rw [sameTarget] at inadmissible
      exact ⟨sameTarget, fun bucket present => (sound.bucket bucket present).turnedAway inadmissible⟩
  | opened opens valid grid absent =>
      rw [sameTarget] at valid grid
      refine ⟨sameTarget, ?_⟩
      rintro bucket ⟨⟩
      rw [sameTarget]
      exact bucketSound_start ⟨valid, by simp [grid]⟩ grid
  | refused bucket reason valid grid present => exact ⟨sameTarget, fun _ absurd => by cases absurd⟩
  | extended bucket valid grid present accepts incomplete =>
      rw [sameTarget] at valid grid
      refine ⟨sameTarget, ?_⟩
      rintro _ ⟨⟩
      exact (sound.bucket bucket present).push ⟨valid, by simp [grid]⟩ accepts
  | completed bucket emitted valid grid present accepts complete aggregated =>
      exact ⟨sameTarget, fun _ absurd => by cases absurd⟩
  | dropped bucket opens valid grid present newer =>
      rw [sameTarget] at valid grid
      refine ⟨sameTarget, ?_⟩
      rintro _ ⟨⟩
      rw [sameTarget]
      exact bucketSound_start ⟨valid, by simp [grid]⟩ grid
  | late bucket opens valid grid present older => exact ⟨sameTarget, fun _ absurd => by cases absurd⟩

theorem AggregatorSound.observeAll (sound : AggregatorSound target observed aggregator) {bars : List Bar}
    {actions : List BarAggregationAction} (ran : aggregator.observeAll bars = some (actions, next)) :
    AggregatorSound target (observed ++ bars) next := by
  induction bars generalizing observed aggregator actions with
  | nil =>
      cases ran
      rwa [List.append_nil]
  | cons bar bars ih =>
      simp only [CanonicalBarAggregator.observeAll, Option.bind_eq_bind, Option.bind_eq_some_iff] at ran
      obtain ⟨⟨action, middle⟩, first, ⟨others, last⟩, rest, result⟩ := ran
      cases result
      have later := ih (sound.observe (observation_of_observe first)) rest
      rwa [List.append_assoc, List.singleton_append] at later

theorem aggregatorSound_new (target : UInt32) : AggregatorSound target [] (.new target) :=
  ⟨rfl, fun _ absurd => by cases absurd⟩

end Sound

section Covering

variable {target : UInt32} {observed : List Bar} {aggregator next : CanonicalBarAggregator} {bar emitted : Bar}
  {bucket : BarAggregationBucket}

theorem timestampOpt_some {seconds : Int} {time : DateTimeUtc} (isTime : DateTimeUtc.timestampOpt seconds = some time) :
    time = { seconds := seconds, nanos := 0 } := by
  unfold DateTimeUtc.timestampOpt at isTime
  split at isTime
  · exact (Option.some.inj isTime).symm
  · cases isTime

theorem aggregate_some (aggregated : bucket.aggregate = some emitted) :
    ∃ volume, bucket.totalVolume = some volume ∧
      emitted = {
        instrument := bucket.first.instrument
        sourceKind := bucket.first.sourceKind
        timeframeSec := bucket.targetTimeframeSec
        openTs := bucket.bucketOpenTs
        closeTs := { seconds := bucket.bucketOpenTs.seconds + bucket.targetTimeframeSec.toNat, nanos := 0 }
        «open» := bucket.first.open
        high := bucket.highest
        low := bucket.lowest
        close := bucket.last.close
        volume := volume
        isFinal := true } := by
  unfold BarAggregationBucket.aggregate at aggregated
  simp only [Option.bind_eq_bind, Option.bind_eq_some_iff] at aggregated
  obtain ⟨volume, summed, closeTs, isClose, result⟩ := aggregated
  cases timestampOpt_some isClose
  exact ⟨volume, summed, (Option.some.inj result).symm⟩

/-- An aggregate is built from the bars of its bucket exactly when they reach from its open to its close. -/
theorem builtFrom_iff (sound : BucketSound target observed bucket) (aggregated : bucket.aggregate = some emitted) :
    BuiltFrom bucket.bars emitted ↔
      bucket.first.openTs = emitted.openTs ∧ bucket.last.closeTs = emitted.closeTs := by
  obtain ⟨volume, summed, rfl⟩ := aggregate_some aggregated
  constructor
  · intro built
    have opens : bucket.first.openTs = bucket.bucketOpenTs := built.tiles.1
    refine ⟨opens, ?_⟩
    have same : ∀ {items : List Bar} {start finish other : DateTimeUtc},
        Tiles Bar.openTs Bar.closeTs items start finish → Tiles Bar.openTs Bar.closeTs items start other →
        finish = other := by
      intro items start finish other one two
      induction items generalizing start with
      | nil => exact one.symm.trans two
      | cons item items ih => exact ih one.2 two.2
    exact same sound.tiles (opens ▸ built.tiles)
  · rintro ⟨opens, closes⟩
    constructor
    · exact fun bar member => isFinal_of_valid (sound.valid bar member)
    · exact fun bar member => (sound.alike bar member).1
    · exact fun bar member => (sound.alike bar member).2
    · rw [← opens, ← closes]
      exact sound.tiles
    · rfl
    · simp [BarAggregationBucket.bars, BarAggregationBucket.last, List.getLast?_cons]
    · exact bucket.highest_spec
    · exact bucket.lowest_spec
    · exact ⟨bucket.first, bucket.later, rfl, summed⟩
    · exact bucket.totalVolume_exact summed

theorem bucketOpenTs_some {openTs opens : DateTimeUtc} (grid : bucketOpenTs openTs target = some opens) :
    opens = { seconds := openTs.seconds - openTs.seconds % target.toNat, nanos := 0 } :=
  timestampOpt_some grid

/-- Reaching from the open to the close is a matter of the grid and of the lengths. -/
theorem reaches_iff (sound : BucketSound target observed bucket) (aggregated : bucket.aggregate = some emitted) :
    (bucket.first.openTs = emitted.openTs ∧ bucket.last.closeTs = emitted.closeTs) ↔
      bucket.first.openTs.seconds % target.toNat = 0 ∧ bucket.first.openTs.nanos = 0 ∧
        (bucket.bars.map clockLength).sum = target.toNat * 1000000000 ∧ bucket.last.closeTs.nanos < 1000000000 := by
  obtain ⟨volume, -, rfl⟩ := aggregate_some aggregated
  have lengths : (bucket.bars.map clockLength).sum = bucket.last.closeTs.clock - bucket.first.openTs.clock :=
    sum_of_tiles DateTimeUtc.clock sound.tiles
  have isOpen := bucketOpenTs_some sound.grid
  rw [lengths, sound.timeframe]
  constructor
  · rintro ⟨opens, closes⟩
    change bucket.first.openTs = bucket.bucketOpenTs at opens
    have onGrid := opens.trans isOpen
    have seconds : bucket.first.openTs.seconds % target.toNat = 0 := by
      have := congrArg DateTimeUtc.seconds onGrid
      simp only at this
      omega
    have gridNanos : bucket.bucketOpenTs.nanos.toNat = 0 := by rw [isOpen]; rfl
    refine ⟨seconds, congrArg DateTimeUtc.nanos onGrid, ?_, ?_⟩
    · rw [closes, opens]
      simp only [DateTimeUtc.clock, gridNanos, UInt32.toNat_zero]
      omega
    · rw [closes]
      exact (by decide : (0 : UInt32) < 1000000000)
  · rintro ⟨seconds, nanos, sum, notLeap⟩
    have opens : bucket.first.openTs = bucket.bucketOpenTs := by
      rw [isOpen, seconds, ← nanos, Int.sub_zero]
    refine ⟨opens, ?_⟩
    have below : bucket.last.closeTs.nanos.toNat < 1000000000 := by simpa [UInt32.lt_iff_toNat_lt] using notLeap
    have openNanos : bucket.first.openTs.nanos.toNat = 0 := by rw [nanos]; rfl
    have openSeconds : bucket.first.openTs.seconds = bucket.bucketOpenTs.seconds := congrArg _ opens
    simp only [DateTimeUtc.clock, openNanos] at sum
    have closeSeconds : bucket.last.closeTs.seconds = bucket.bucketOpenTs.seconds + target.toNat := by omega
    have closeNanos : bucket.last.closeTs.nanos.toNat = 0 := by omega
    have isZero : bucket.last.closeTs.nanos = 0 := UInt32.toNat_inj.1 closeNanos
    rw [← closeSeconds, ← isZero]

end Covering

/-- Whatever bars were observed before, an emitted bar covers its bucket, built from the
last bars observed, exactly when they fill the bucket. -/
theorem emitted_covers_iff {target : UInt32} {observed : List Bar} {actions : List BarAggregationAction}
    {aggregator next : CanonicalBarAggregator} {bar emitted : Bar}
    (ran : (CanonicalBarAggregator.new target).observeAll observed = some (actions, aggregator))
    (emits : aggregator.observeFinalSourceBar bar = some (.emitted emitted, next)) :
    CoversBucket aggregator observed bar emitted ↔ FillsBucket aggregator bar := by
  have sound := (aggregatorSound_new target).observeAll ran
  rw [List.nil_append] at sound
  cases observation_of_observe emits with
  | completed bucket _ valid grid present accepts complete aggregated =>
      rw [sound.timeframe] at valid grid
      have pushed := (sound.bucket bucket present).push ⟨valid, by simp [grid]⟩ accepts
      have fills := (builtFrom_iff pushed aggregated).trans (reaches_iff pushed aggregated)
      rw [BarAggregationBucket.bars_push, BarAggregationBucket.last_push] at fills
      unfold CoversBucket FillsBucket
      rw [present, sound.timeframe]
      constructor
      · rintro ⟨_, ⟨⟩, -, built⟩
        exact ⟨bucket, rfl, fills.1 built⟩
      · rintro ⟨_, ⟨⟩, filled⟩
        exact ⟨bucket, rfl, pushed.recent, fills.2 filled⟩

section RegularFeeds

structure Regular (timeframeSec : UInt32) (bar : Bar) : Prop where
  timeframe : bar.timeframeSec = timeframeSec
  opens : bar.openTs.seconds % timeframeSec.toNat = 0
  openNanos : bar.openTs.nanos = 0
  closes : bar.closeTs = { seconds := bar.openTs.seconds + timeframeSec.toNat, nanos := 0 }

theorem Regular.clockLength_eq {timeframeSec : UInt32} {bar : Bar} (regular : Regular timeframeSec bar) :
    clockLength bar = timeframeSec.toNat * 1000000000 := by
  have openNanos : bar.openTs.nanos.toNat = 0 := by rw [regular.openNanos]; rfl
  unfold clockLength
  rw [regular.closes]
  simp only [DateTimeUtc.clock, openNanos, UInt32.toNat_zero]
  omega

theorem sum_of_regular {timeframeSec : UInt32} {bars : List Bar} (regular : ∀ bar ∈ bars, Regular timeframeSec bar) :
    (bars.map clockLength).sum = bars.length * (timeframeSec.toNat * 1000000000) := by
  have lengths : bars.map clockLength = List.replicate bars.length ((timeframeSec.toNat : Int) * 1000000000) := by
    rw [List.eq_replicate_iff, List.length_map]
    refine ⟨rfl, ?_⟩
    intro length member
    obtain ⟨bar, isBar, rfl⟩ := List.mem_map.1 member
    exact (regular bar isBar).clockLength_eq
  rw [lengths, List.sum_replicate, nsmul_eq_mul]

/-- A bar on the grid that lies less than one timeframe into its bucket opens the bucket. -/
theorem offset_eq_zero {target timeframe start last count : Int} (positive : 0 < timeframe)
    (divides : target = (count + 1) * timeframe) (notNegative : 0 ≤ count) (onGrid : start % timeframe = 0)
    (isLast : last = start + count * timeframe) (sameBucket : last - last % target = start - start % target) :
    start % target = 0 := by
  have targetPositive : 0 < target := by
    rw [divides]
    positivity
  have startBound := Int.emod_nonneg start (Int.ne_of_gt targetPositive)
  have lastBound := Int.emod_lt_of_pos last targetPositive
  have inFirst : start % target < timeframe := by nlinarith
  have offsetGrid : start % target % timeframe = 0 := by
    rw [Int.emod_emod_of_dvd start ⟨count + 1, by rw [divides, Int.mul_comm]⟩, onGrid]
  rwa [Int.emod_eq_of_lt startBound inFirst] at offsetGrid

/-- Bars of one timeframe on its grid fill every bucket that is emitted. -/
theorem fillsBucket_of_regular {target timeframeSec : UInt32} {observed : List Bar}
    {actions : List BarAggregationAction} {aggregator next : CanonicalBarAggregator} {bar emitted : Bar}
    (ran : (CanonicalBarAggregator.new target).observeAll observed = some (actions, aggregator))
    (emits : aggregator.observeFinalSourceBar bar = some (.emitted emitted, next))
    (regular : ∀ other ∈ observed ++ [bar], Regular timeframeSec other) : FillsBucket aggregator bar := by
  have sound := (aggregatorSound_new target).observeAll ran
  rw [List.nil_append] at sound
  cases observation_of_observe emits with
  | completed bucket _ valid grid present accepts complete aggregated =>
      rw [sound.timeframe] at valid grid
      have isSound := sound.bucket bucket present
      have ownRegular : Regular timeframeSec bar := regular bar (by simp)
      have bucketRegular : ∀ other ∈ bucket.bars, Regular timeframeSec other := by
        intro other member
        have seen := (List.mem_filter.1 (isSound.recent.subset member)).1
        exact regular other (List.mem_append_left _ seen)
      have firstRegular := bucketRegular bucket.first List.mem_cons_self
      obtain ⟨timeframePositive, divides⟩ := validTimeframe_of_valid valid
      rw [ownRegular.timeframe] at timeframePositive divides
      have count : (bucket.bars.length + 1) * timeframeSec.toNat = target.toNat := by
        have isCount : bucket.bars.length + 1 = target.toNat / timeframeSec.toNat := by
          have counted := complete
          unfold BarAggregationBucket.IsComplete BarAggregationBucket.expectedCount at counted
          rw [BarAggregationBucket.bars_push, List.length_append, List.length_singleton] at counted
          rw [counted]
          change (bucket.targetTimeframeSec / bucket.first.timeframeSec).toNat = _
          rw [isSound.timeframe, firstRegular.timeframe, UInt32.toNat_div]
        rw [isCount]
        exact Nat.div_mul_cancel divides
      obtain ⟨-, -, -, contiguous⟩ := BarAggregationBucket.canAccept_ok_iff.1 accepts
      have lengths := sum_of_tiles DateTimeUtc.clock isSound.tiles
      change (bucket.bars.map clockLength).sum = _ at lengths
      rw [sum_of_regular bucketRegular, ← contiguous] at lengths
      have firstNanos : bucket.first.openTs.nanos.toNat = 0 := by rw [firstRegular.openNanos]; rfl
      have ownNanos : bar.openTs.nanos.toNat = 0 := by rw [ownRegular.openNanos]; rfl
      simp only [DateTimeUtc.clock, firstNanos, ownNanos] at lengths
      have isLast : bar.openTs.seconds =
          bucket.first.openTs.seconds + bucket.bars.length * (timeframeSec.toNat : Int) := by
        have grouped : (bucket.bars.length : Int) * ((timeframeSec.toNat : Int) * 1000000000) =
            bucket.bars.length * (timeframeSec.toNat : Int) * 1000000000 := by ring
        omega
      have sameBucket : bar.openTs.seconds - bar.openTs.seconds % target.toNat =
          bucket.first.openTs.seconds - bucket.first.openTs.seconds % target.toNat :=
        congrArg DateTimeUtc.seconds ((bucketOpenTs_some grid).symm.trans (bucketOpenTs_some isSound.grid))
      have total : (target.toNat : Int) = ((bucket.bars.length : Int) + 1) * timeframeSec.toNat := by
        rw [← count]
        push_cast
        ring
      refine ⟨bucket, present, ?_, firstRegular.openNanos, ?_, ?_⟩
      · rw [sound.timeframe]
        exact offset_eq_zero (by omega) total (by omega) firstRegular.opens isLast sameBucket
      · have allRegular : ∀ other ∈ bucket.bars ++ [bar], Regular timeframeSec other := by
          intro other member
          obtain earlier | last := List.mem_append.1 member
          · exact bucketRegular other earlier
          · exact List.mem_singleton.1 last ▸ ownRegular
        rw [sum_of_regular allRegular, sound.timeframe, total, List.length_append, List.length_singleton]
        push_cast
        ring
      · rw [ownRegular.closes]
        exact (by decide : (0 : UInt32) < 1000000000)

end RegularFeeds

/-- A final bar that opens some seconds after the start of the clock. -/
def sampleBar (opens : Int) (timeframeSec : UInt32) : Bar :=
  { instrument := {
      symbol := "IMOEXF"
      venueSymbol := some "IMOEXF@RTSX"
      exchange := .moex
      market := .futures }
    sourceKind := .liveStream
    timeframeSec := timeframeSec
    openTs := { seconds := opens, nanos := 0 }
    closeTs := { seconds := opens + timeframeSec.toNat, nanos := 0 }
    «open» := .zero
    high := .zero
    low := .zero
    close := .zero
    volume := .zero
    isFinal := true }

def sampleAggregator (target : UInt32) (first : Bar) : CanonicalBarAggregator :=
  (CanonicalBarAggregator.new target).startBucket { seconds := 0, nanos := 0 } first

theorem emitted_covers_iff_two_minutes :
    CoversBucket (sampleAggregator 120 (sampleBar 0 60)) [sampleBar 0 60] (sampleBar 60 60) (sampleBar 0 120) ∧
      ¬ CoversBucket (sampleAggregator 600 (sampleBar 0 300)) [sampleBar 0 300] (sampleBar 300 60)
        (sampleBar 0 600) := by
  have minutes := @emitted_covers_iff 120 [sampleBar 0 60] [.buffered { seconds := 0, nanos := 0 } 1]
    (sampleAggregator 120 (sampleBar 0 60)) (.new 120) (sampleBar 60 60) (sampleBar 0 120) (by decide)
    (by decide)
  have mixed := @emitted_covers_iff 600 [sampleBar 0 300] [.buffered { seconds := 0, nanos := 0 } 1]
    (sampleAggregator 600 (sampleBar 0 300)) (.new 600) (sampleBar 300 60) (sampleBar 0 600) (by decide)
    (by decide)
  constructor
  · exact minutes.2 ⟨_, rfl, by decide, by decide, by decide, by decide⟩
  · rw [mixed]
    rintro ⟨bucket, present, -, -, lengths, -⟩
    cases present
    revert lengths
    decide

/-- A bar of five minutes and one of a minute are taken for ten minutes. -/
theorem mixed_timeframes_emit_early :
    ¬ ∀ (target : UInt32) (observed : List Bar) (actions : List BarAggregationAction)
        (aggregator next : CanonicalBarAggregator) (bar emitted : Bar),
      (CanonicalBarAggregator.new target).observeAll observed = some (actions, aggregator) →
      aggregator.observeFinalSourceBar bar = some (.emitted emitted, next) →
      CoversBucket aggregator observed bar emitted := by
  intro claim
  obtain ⟨bucket, present, -, built⟩ := claim 600 [sampleBar 0 300] [.buffered { seconds := 0, nanos := 0 } 1]
    (sampleAggregator 600 (sampleBar 0 300)) (.new 600) (sampleBar 300 60) (sampleBar 0 600) (by decide)
    (by decide)
  cases present
  have closes : (sampleBar 300 60).closeTs = (sampleBar 0 600).closeTs := built.tiles.2.2
  revert closes
  decide

end TradingGateway.BrokerCore.BarAggregation
