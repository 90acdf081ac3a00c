import TradingGateway.BrokerCore.DecimalArithmetic
import TradingGateway.BrokerCore.ObservedM1
import Mathlib.Data.Nat.Bitwise

/-! The windows of an admitted receipt: each answers with exactly the minutes that
open in it, and the windows of a whole range share the minutes out. -/

set_option autoImplicit false

namespace TradingGateway.BrokerCore.ObservedM1

open Bars FixedPoint Orders Foundation.ExceptRun Foundation.PartitionPoint

theorem le_maxOf_left (left right : Decimal) : left ≤ maxOf left right := by
  unfold maxOf
  split
  next => exact Int.le_refl left.units
  next notLess => exact Int.not_lt.1 notLess

theorem le_maxOf_right (left right : Decimal) : right ≤ maxOf left right := by
  unfold maxOf
  split
  next less => exact Int.le_of_lt less
  next => exact Int.le_refl right.units

theorem minOf_le_left (left right : Decimal) : minOf left right ≤ left := by
  unfold minOf
  split
  next less => exact Int.le_of_lt less
  next => exact Int.le_refl left.units

theorem minOf_le_right (left right : Decimal) : minOf left right ≤ right := by
  unfold minOf
  split
  next => exact Int.le_refl right.units
  next notLess => exact Int.not_lt.1 notLess

theorem minOf_eq (left right : Decimal) : minOf left right = left ∨ minOf left right = right := by
  unfold minOf
  split
  · exact .inr rfl
  · exact .inl rfl

structure Admitted (value : ReceiptV1) (bar : Bar) : Prop where
  aligned : MinuteAligned bar.openTs
  opens : ¬ value.startTs.After bar.openTs
  ends : value.endTs.After bar.openTs
  low : Decimal.zero < bar.low
  lowOpen : bar.low ≤ bar.open
  lowClose : bar.low ≤ bar.close
  openHigh : bar.open ≤ bar.high
  closeHigh : bar.close ≤ bar.high
  volume : Decimal.zero ≤ bar.volume

theorem ReceiptV1.checkBar_ok {value : ReceiptV1} {prior next : Option DateTimeUtc} {bar : Bar}
    (checked : value.checkBar prior bar = .ok next) :
    Admitted value bar ∧ (∀ last ∈ prior, bar.openTs.After last) ∧ next = some bar.openTs := by
  unfold ReceiptV1.checkBar at checked
  obtain ⟨passed, kept⟩ := check_bind_ok_iff.1 checked
  rw [rejectIf_ok_iff] at passed
  simp only [not_or, not_exists, not_and, not_not] at passed
  obtain ⟨_, _, _, _, aligned, opens, ends, _, later, low, _, high, least, volume, _⟩ := passed
  have openHigh := le_maxOf_left bar.open bar.close
  have closeHigh := le_maxOf_right bar.open bar.close
  have lowOpen := minOf_le_left bar.open bar.close
  have lowClose := minOf_le_right bar.open bar.close
  simp only [Decimal.le_iff, Decimal.lt_iff, not_lt, not_le] at low high least volume openHigh closeHigh lowOpen lowClose
  exact ⟨⟨aligned, opens, ends, low, least.trans lowOpen, least.trans lowClose, openHigh.trans high,
    closeHigh.trans high, volume⟩, later, (Except.ok.inj kept).symm⟩

theorem MinuteAligned.after_iff {left right : DateTimeUtc} (leftAligned : MinuteAligned left)
    (rightAligned : MinuteAligned right) : left.After right ↔ right.seconds < left.seconds := by
  unfold DateTimeUtc.After
  rw [leftAligned.2.2, rightAligned.2.2]
  simp

/-- The admitted bars stand in the order of their openings, no two at the same. -/
theorem ReceiptV1.validate_ok {value : ReceiptV1} (valid : value.validate = .ok ()) :
    (MinuteAligned value.startTs ∧ MinuteAligned value.endTs) ∧ (∀ bar ∈ value.bars, Admitted value bar) ∧
      value.bars.Pairwise fun left right => left.openTs.seconds < right.openTs.seconds := by
  unfold ReceiptV1.validate at valid
  obtain ⟨_, ranged⟩ := check_bind_ok_iff.1 valid
  obtain ⟨inRange, looped⟩ := check_bind_ok_iff.1 ranged
  rw [rejectIf_ok_iff] at inRange
  simp only [not_or, not_not] at inRange
  obtain ⟨_, ran, _⟩ := bind_ok_iff.1 looped
  refine ⟨⟨inRange.1, inRange.2.1⟩, ?_⟩
  have invariant := foldlM_induction
    (fun history prior => (∀ bar ∈ history, Admitted value bar ∧ ∃ last ∈ prior, ¬ bar.openTs.After last) ∧
      (∀ last ∈ prior, MinuteAligned last) ∧
      history.Pairwise fun left right => left.openTs.seconds < right.openTs.seconds)
    ⟨by simp, by simp, .nil⟩
    (by
      intro history prior bar next before checked
      obtain ⟨admitted, lastAligned, sorted⟩ := before
      obtain ⟨here, later, kept⟩ := ReceiptV1.checkBar_ok checked
      subst kept
      refine ⟨?_, ?_, ?_⟩
      · intro other member
        rcases List.mem_append.1 member with earlier | newest
        · obtain ⟨otherAdmitted, last, isLast, notAfter⟩ := admitted other earlier
          refine ⟨otherAdmitted, bar.openTs, rfl, ?_⟩
          intro after
          exact notAfter (after.trans (later last isLast))
        · have same : other = bar := by simpa using newest
          subst same
          exact ⟨here, other.openTs, rfl, DateTimeUtc.after_irrefl _⟩
      · intro last isLast
        have same : bar.openTs = last := by simpa using isLast
        exact same ▸ here.aligned
      · rw [List.pairwise_append]
        refine ⟨sorted, List.pairwise_singleton _ _, ?_⟩
        intro other earlier newest member
        have same : newest = bar := by simpa using member
        subst same
        obtain ⟨otherAdmitted, last, isLast, notAfter⟩ := admitted other earlier
        have behind := later last isLast
        rw [here.aligned.after_iff (lastAligned last isLast)] at behind
        rw [otherAdmitted.aligned.after_iff (lastAligned last isLast)] at notAfter
        omega)
    ran
  exact ⟨fun bar member => (invariant.1 bar member).1, invariant.2.2⟩

namespace ObservedM1Receipt

def minutesIn (receipt : ObservedM1Receipt) (openTs closeTs : DateTimeUtc) : List Bar :=
  receipt.value.bars.filter fun bar => decide (¬ openTs.After bar.openTs ∧ closeTs.After bar.openTs)

variable {receipt : ObservedM1Receipt} {openTs closeTs : DateTimeUtc}

theorem admitted (receipt : ObservedM1Receipt) {bar : Bar} (member : bar ∈ receipt.value.bars) :
    Admitted receipt.value bar :=
  (ReceiptV1.validate_ok receipt.valid).2.1 bar member

theorem sorted (receipt : ObservedM1Receipt) :
    receipt.value.bars.Pairwise fun left right => left.openTs.seconds < right.openTs.seconds :=
  (ReceiptV1.validate_ok receipt.valid).2.2

theorem minutesIn_eq (opens : MinuteAligned openTs) (closes : MinuteAligned closeTs) :
    receipt.minutesIn openTs closeTs = receipt.value.bars.filter fun bar =>
      decide (openTs.seconds ≤ bar.openTs.seconds ∧ bar.openTs.seconds < closeTs.seconds) := by
  refine List.filter_congr ?_
  intro bar member
  have aligned := (receipt.admitted member).aligned
  rw [decide_eq_decide, opens.after_iff aligned, closes.after_iff aligned, not_lt]

theorem partitionPoint_after (aligned : MinuteAligned openTs) :
    partitionPoint (fun bar => decide (openTs.After bar.openTs)) receipt.value.bars =
      partitionPoint (fun bar => decide (bar.openTs.seconds < openTs.seconds)) receipt.value.bars := by
  refine partitionPoint_congr (partitionedAt_below receipt.sorted openTs.seconds) ?_
  intro bar member
  rw [decide_eq_decide, aligned.after_iff (receipt.admitted member).aligned]

/-- The bounds of the slice are in order and inside the bars, and it is what opens in the window. -/
theorem slice_eq_minutesIn (opens : MinuteAligned openTs) (closes : MinuteAligned closeTs)
    (ordered : openTs.seconds ≤ closeTs.seconds) :
    let start := partitionPoint (fun bar => decide (openTs.After bar.openTs)) receipt.value.bars
    let stop := partitionPoint (fun bar => decide (closeTs.After bar.openTs)) receipt.value.bars
    (start ≤ stop ∧ stop ≤ receipt.value.bars.length) ∧
      (receipt.value.bars.take stop).drop start = receipt.minutesIn openTs closeTs := by
  dsimp only
  rw [partitionPoint_after opens, partitionPoint_after closes, minutesIn_eq opens closes]
  exact ⟨partitionPoint_bounds receipt.sorted ordered, slice_eq_filter receipt.sorted _ _⟩

end ObservedM1Receipt

section Accumulation

variable {openTs : DateTimeUtc} {seed : Bar} {minutes : List Bar}

structure Accumulated (openTs : DateTimeUtc) (seed : Bar) (minutes : List Bar) (window : Bar × UInt16) : Prop where
  frame : window.1 = { seed with high := window.1.high, low := window.1.low, volume := window.1.volume }
  volume : (minutes.map Bar.volume).foldlM Decimal.checkedAdd seed.volume = some window.1.volume
  low : ∀ bar ∈ seed :: minutes, window.1.low ≤ bar.low
  lowFrom : ∃ bar ∈ seed :: minutes, window.1.low = bar.low
  high : ∀ bar ∈ seed :: minutes, bar.high ≤ window.1.high
  bitmap : ∀ index, window.2.toNat.testBit index = true ↔
    ∃ minute ∈ minutes, (minuteBit openTs minute.openTs).toNat.testBit index = true

theorem Accumulated.start (openTs : DateTimeUtc) (seed : Bar) : Accumulated openTs seed [] (seed, 0) := by
  refine ⟨rfl, rfl, ?_, ⟨seed, List.mem_cons_self, rfl⟩, ?_, ?_⟩
  · intro bar member
    have same : bar = seed := by simpa using member
    exact le_of_eq (congrArg (fun bar => bar.low.units) same.symm)
  · intro bar member
    have same : bar = seed := by simpa using member
    exact le_of_eq (congrArg (fun bar => bar.high.units) same)
  · intro index
    simp

theorem Accumulated.next {window updated : Bar × UInt16} {minute : Bar}
    (before : Accumulated openTs seed minutes window) (added : addMinute openTs window minute = .ok updated) :
    Accumulated openTs seed (minutes ++ [minute]) updated := by
  unfold addMinute at added
  obtain ⟨volume, summed, kept⟩ := bind_ok_iff.1 added
  rw [orReject_ok_iff] at summed
  have shape := Except.ok.inj kept
  subst shape
  refine ⟨?_, ?_, ?_, ?_, ?_, ?_⟩
  · rw [before.frame]
  · rw [List.map_append, List.foldlM_append, before.volume]
    simpa using summed
  · intro bar member
    rw [← List.cons_append, List.mem_append] at member
    rcases member with earlier | newest
    · exact Int.le_trans (minOf_le_left window.1.low minute.low) (before.low bar earlier)
    · have same : bar = minute := by simpa using newest
      subst same
      exact minOf_le_right window.1.low bar.low
  · rcases minOf_eq window.1.low minute.low with kept | lowered
    · obtain ⟨bar, member, same⟩ := before.lowFrom
      exact ⟨bar, List.mem_append_left [minute] member, kept.trans same⟩
    · exact ⟨minute, List.mem_append_right (seed :: minutes) (List.mem_singleton_self minute), lowered⟩
  · intro bar member
    rw [← List.cons_append, List.mem_append] at member
    rcases member with earlier | newest
    · exact Int.le_trans (before.high bar earlier) (le_maxOf_left window.1.high minute.high)
    · have same : bar = minute := by simpa using newest
      subst same
      exact le_maxOf_right window.1.high bar.high
  · intro index
    rw [UInt16.toNat_or, Nat.testBit_or, Bool.or_eq_true, before.bitmap]
    simp [or_and_right, exists_or]

theorem Accumulated.run {window : Bar × UInt16} (ran : minutes.foldlM (addMinute openTs) (seed, 0) = .ok window) :
    Accumulated openTs seed minutes window :=
  foldlM_induction (Accumulated openTs seed) (.start openTs seed) (fun _ _ _ _ before added => before.next added) ran

/-- The loop stops only where the volumes overflow. -/
theorem addMinutes_error {window : Bar × UInt16} {error : ObservedM1Error}
    (stopped : minutes.foldlM (addMinute openTs) window = .error error) :
    error = .bar ∧ (minutes.map Bar.volume).foldlM Decimal.checkedAdd window.1.volume = none := by
  induction minutes generalizing window with
  | nil => cases stopped
  | cons minute rest ih =>
      rw [List.foldlM_cons, bind_error_iff] at stopped
      rw [List.map_cons, List.foldlM_cons]
      unfold addMinute at stopped
      cases summed : window.1.volume.checkedAdd minute.volume with
      | none =>
          rw [summed] at stopped
          rcases stopped with here | ⟨_, added, _⟩
          · exact ⟨(Except.error.inj here).symm, rfl⟩
          · cases added
      | some volume =>
          rw [summed] at stopped
          rcases stopped with here | ⟨updated, added, later⟩
          · cases here
          · have shape := Except.ok.inj added
            subst shape
            exact ih later

/-- The bit of a minute of the window. -/
theorem minuteBit_testBit {minuteTs : DateTimeUtc} (opens : MinuteAligned openTs) (aligned : MinuteAligned minuteTs)
    (from_ : openTs.seconds ≤ minuteTs.seconds) (upTo : minuteTs.seconds < openTs.seconds + 600) (index : Nat) :
    (minuteBit openTs minuteTs).toNat.testBit index = true ↔ minuteTs.seconds = openTs.seconds + 60 * index := by
  have elapsed : minuteTs.numSecondsSince openTs = minuteTs.seconds - openTs.seconds := by
    unfold DateTimeUtc.numSecondsSince DateTimeUtc.nanosecondsSince
    rw [opens.2.2, aligned.2.2]
    simp
  have minute := aligned.2.1
  have window := opens.2.1
  have small : ((minuteTs.seconds - openTs.seconds) / 60).toNat < 16 := by omega
  have power : 2 ^ ((minuteTs.seconds - openTs.seconds) / 60).toNat < 2 ^ 16 := Nat.pow_lt_pow_right (by decide) small
  unfold minuteBit
  rw [elapsed, Nat.one_shiftLeft, UInt16.toNat_ofNat_of_lt' power, Nat.testBit_two_pow, decide_eq_true_iff]
  omega

end Accumulation

namespace ObservedM1Receipt

structure Derives (openTs : DateTimeUtc) (minutes : List Bar) (derivation : ObservedM10Derivation) : Prop where
  actual : derivation.actualM1 = minutes
  bitmap : ∀ index, derivation.minuteBitmap.toNat.testBit index = true ↔
    ∃ minute ∈ minutes, minute.openTs.seconds = openTs.seconds + 60 * index
  low : Decimal.zero < derivation.bar.low
  lowOpen : derivation.bar.low ≤ derivation.bar.open
  lowClose : derivation.bar.low ≤ derivation.bar.close
  openHigh : derivation.bar.open ≤ derivation.bar.high
  closeHigh : derivation.bar.close ≤ derivation.bar.high
  volume : Decimal.checkedSum (minutes.map Bar.volume) = some derivation.bar.volume
  exact : ExactlySummable (minutes.map Bar.volume) →
    derivation.bar.volume.units = ((minutes.map Bar.volume).map Decimal.units).sum

/-- A window of the range: ten whole minutes on the ten-minute grid. -/
structure IsWindow (receipt : ObservedM1Receipt) (openTs closeTs : DateTimeUtc) : Prop where
  closes : openTs.plusSeconds 600 = some closeTs
  grid : openTs.seconds % 600 = 0 ∧ openTs.nanos = 0
  from_ : ¬ receipt.value.startTs.After openTs
  upTo : ¬ closeTs.After receipt.value.endTs

section Windows

variable {receipt : ObservedM1Receipt} {openTs closeTs : DateTimeUtc}

theorem IsWindow.opens_aligned (window : receipt.IsWindow openTs closeTs) : MinuteAligned openTs := by
  obtain ⟨⟨positive, _, start⟩, _⟩ := (ReceiptV1.validate_ok receipt.valid).1
  have grid := window.grid
  have later := window.from_
  simp only [DateTimeUtc.After, grid.2, start] at later
  exact ⟨by omega, by omega, grid.2⟩

theorem IsWindow.close_eq (window : receipt.IsWindow openTs closeTs) :
    closeTs = { seconds := openTs.seconds + 600, nanos := 0 } := by
  have closes := window.closes
  unfold DateTimeUtc.plusSeconds at closes
  rw [window.grid.2] at closes
  dsimp only at closes
  split at closes
  · exact (Option.some.inj closes).symm
  · cases closes

theorem IsWindow.closes_aligned (window : receipt.IsWindow openTs closeTs) : MinuteAligned closeTs := by
  have opens := window.opens_aligned
  rw [window.close_eq]
  exact ⟨by have positive := opens.1; dsimp only; omega, by have whole := opens.2.1; dsimp only; omega, rfl⟩

theorem mem_minutesIn (window : receipt.IsWindow openTs closeTs) {bar : Bar}
    (member : bar ∈ receipt.minutesIn openTs closeTs) :
    Admitted receipt.value bar ∧ openTs.seconds ≤ bar.openTs.seconds ∧ bar.openTs.seconds < openTs.seconds + 600 := by
  rw [minutesIn_eq window.opens_aligned window.closes_aligned, List.mem_filter, decide_eq_true_iff, window.close_eq] at member
  exact ⟨receipt.admitted member.1, member.2⟩

def windowSeed (openTs closeTs : DateTimeUtc) (first : Bar) (rest : List Bar) : Bar :=
  { first with
    openTs := openTs
    closeTs := closeTs
    timeframeSec := 600
    close := ((first :: rest).getLast (List.cons_ne_nil first rest)).close
    volume := Decimal.zero }

def deriveFrom (openTs closeTs : DateTimeUtc) : List Bar → Except ObservedM1Error ObservedM10Derivation
  | [] => .error .emptyBucket
  | first :: rest => do
      let window ← (first :: rest).foldlM (addMinute openTs) (windowSeed openTs closeTs first rest, 0)
      .ok { bar := window.1, actualM1 := first :: rest, minuteBitmap := window.2 }

theorem bucket_eq (window : receipt.IsWindow openTs closeTs) :
    receipt.bucket openTs = deriveFrom openTs closeTs (receipt.minutesIn openTs closeTs) := by
  have opens := window.opens_aligned
  have ordered : openTs.seconds ≤ closeTs.seconds := by rw [window.close_eq]; dsimp only; omega
  have within : ¬ (¬ MinuteAligned openTs ∨ openTs.seconds % 600 ≠ 0 ∨ receipt.value.startTs.After openTs ∨
      closeTs.After receipt.value.endTs) := by
    have grid := window.grid.1
    have from_ := window.from_
    have upTo := window.upTo
    simp_all
  have sliced := (receipt.slice_eq_minutesIn opens window.closes_aligned ordered).2
  unfold bucket
  rw [orReject_bind_of_some window.closes, rejectIf_of_not _ within, ok_bind]
  dsimp only
  rw [sliced]
  cases receipt.minutesIn openTs closeTs with
  | nil => rfl
  | cons first rest =>
      rw [orReject_bind_of_some List.head?_cons, orReject_bind_of_some (List.getLast?_eq_some_getLast (List.cons_ne_nil first rest))]
      rfl

theorem bucket_spec (window : receipt.IsWindow openTs closeTs) :
    (receipt.bucket openTs = .error .emptyBucket ↔ receipt.minutesIn openTs closeTs = []) ∧
      ∀ error, receipt.bucket openTs = .error error → error = .emptyBucket ∨
        (error = .bar ∧ Decimal.checkedSum ((receipt.minutesIn openTs closeTs).map Bar.volume) = none) := by
  rw [bucket_eq window]
  cases receipt.minutesIn openTs closeTs with
  | nil => exact ⟨iff_of_true rfl rfl, fun error stopped => .inl (Except.error.inj stopped).symm⟩
  | cons first rest =>
      have stops {error : ObservedM1Error} := @addMinutes_error openTs (first :: rest) (windowSeed openTs closeTs first rest, 0) error
      refine ⟨iff_of_false ?_ (List.cons_ne_nil first rest), ?_⟩
      · intro stopped
        rcases bind_error_iff.1 stopped with early | ⟨_, _, late⟩
        · cases (stops early).1
        · cases late
      · intro error stopped
        rcases bind_error_iff.1 stopped with early | ⟨_, _, late⟩
        · exact .inr (stops early)
        · cases late

theorem bucket_derives (window : receipt.IsWindow openTs closeTs) {derivation : ObservedM10Derivation}
    (derived : receipt.bucket openTs = .ok derivation) :
    Derives openTs (receipt.minutesIn openTs closeTs) derivation := by
  have inside {bar : Bar} := @mem_minutesIn receipt openTs closeTs window bar
  rw [bucket_eq window] at derived
  generalize receipt.minutesIn openTs closeTs = minutes at inside derived ⊢
  cases minutes with
  | nil => cases derived
  | cons first rest =>
      obtain ⟨⟨bar, bitmap⟩, ran, kept⟩ := bind_ok_iff.1 derived
      have shape := Except.ok.inj kept
      subst shape
      have summary := Accumulated.run ran
      have frame := summary.frame
      dsimp only at frame ⊢
      have opensAs : bar.open = first.open := (congrArg Bar.open frame).trans rfl
      have closesAs : bar.close = ((first :: rest).getLast (List.cons_ne_nil first rest)).close :=
        (congrArg Bar.close frame).trans rfl
      have firstMember : first ∈ first :: rest := List.mem_cons_self
      have lastMember := List.getLast_mem (List.cons_ne_nil first rest)
      have firstAdmitted := (inside firstMember).1
      have lastAdmitted := (inside lastMember).1
      refine ⟨rfl, ?_, ?_, ?_, ?_, ?_, ?_, summary.volume, ?_⟩
      · intro index
        rw [summary.bitmap]
        refine exists_congr fun minute => and_congr_right fun member => ?_
        obtain ⟨minuteAdmitted, from_, upTo⟩ := inside member
        exact minuteBit_testBit window.opens_aligned minuteAdmitted.aligned from_ upTo index
      · obtain ⟨source, member, same⟩ := summary.lowFrom
        dsimp only at same ⊢
        rw [same]
        rcases List.mem_cons.1 member with isSeed | isMinute
        · subst isSeed
          exact firstAdmitted.low
        · exact (inside isMinute).1.low
      · rw [opensAs]
        exact Int.le_trans (summary.low first (List.mem_cons_of_mem _ firstMember)) firstAdmitted.lowOpen
      · rw [closesAs]
        exact Int.le_trans (summary.low _ (List.mem_cons_of_mem _ lastMember)) lastAdmitted.lowClose
      · rw [opensAs]
        exact Int.le_trans firstAdmitted.openHigh (summary.high first (List.mem_cons_of_mem _ firstMember))
      · rw [closesAs]
        exact Int.le_trans lastAdmitted.closeHigh (summary.high _ (List.mem_cons_of_mem _ lastMember))
      · intro summable
        have signs : ∀ volume ∈ (first :: rest).map Bar.volume, Decimal.zero ≤ volume := by
          intro volume member
          obtain ⟨minute, among, same⟩ := List.mem_map.1 member
          exact same ▸ (inside among).1.volume
        obtain ⟨sum, summed, exact⟩ := Decimal.checkedSum_exact signs summable
        have same : sum = bar.volume := Option.some.inj (summed.symm.trans summary.volume)
        exact same ▸ exact

def windowAt (from_ : DateTimeUtc) (index : Nat) : DateTimeUtc :=
  { seconds := from_.seconds + 600 * index, nanos := 0 }

def windows (receipt : ObservedM1Receipt) : List DateTimeUtc :=
  (List.range ((receipt.value.endTs.seconds - receipt.value.startTs.seconds) / 600).toNat).map
    (windowAt receipt.value.startTs)

/-- What a window returns of its minutes; an empty one returns none. -/
def actualM1At (receipt : ObservedM1Receipt) (openTs : DateTimeUtc) : List Bar :=
  match receipt.bucket openTs with
  | .ok derivation => derivation.actualM1
  | .error _ => []

theorem actualM1At_eq (window : receipt.IsWindow openTs closeTs) (fits : receipt.bucket openTs ≠ .error .bar) :
    receipt.actualM1At openTs = receipt.minutesIn openTs closeTs := by
  obtain ⟨empty, errors⟩ := bucket_spec window
  unfold actualM1At
  cases answered : receipt.bucket openTs with
  | ok derivation => exact (bucket_derives window answered).actual
  | error error =>
      rcases errors error answered with isEmpty | ⟨isBar, _⟩
      · subst isEmpty
        exact (empty.1 answered).symm
      · subst isBar
        exact absurd answered fits

theorem windowAt_aligned {from_ : DateTimeUtc} (aligned : MinuteAligned from_) (index : Nat) :
    MinuteAligned (windowAt from_ index) := by
  obtain ⟨positive, whole, _⟩ := aligned
  unfold windowAt
  refine ⟨?_, ?_, rfl⟩
  · dsimp only
    omega
  · dsimp only
    omega

theorem isWindow_windowAt (starts : receipt.value.startTs.seconds % 600 = 0)
    (instant : receipt.value.endTs.IsInstant) {index : Nat}
    (within : receipt.value.startTs.seconds + 600 * (index + 1) ≤ receipt.value.endTs.seconds) :
    receipt.IsWindow (windowAt receipt.value.startTs index) (windowAt receipt.value.startTs (index + 1)) := by
  obtain ⟨⟨startAligned, endAligned⟩, _⟩ := ReceiptV1.validate_ok receipt.valid
  have positive := startAligned.1
  have last := instant.2
  refine ⟨?_, ⟨?_, rfl⟩, ?_, ?_⟩
  · unfold DateTimeUtc.plusSeconds windowAt
    dsimp only
    unfold DateTimeUtc.minSeconds
    rw [if_pos (by omega)]
    refine congrArg some ?_
    rw [DateTimeUtc.mk.injEq]
    exact ⟨by push_cast; omega, rfl⟩
  · unfold windowAt
    dsimp only
    omega
  · rw [startAligned.after_iff (windowAt_aligned startAligned index), not_lt]
    unfold windowAt
    dsimp only
    omega
  · rw [(windowAt_aligned startAligned (index + 1)).after_iff endAligned, not_lt]
    unfold windowAt
    dsimp only
    push_cast
    exact within

/-- The windows of a whole range give back the admitted bars. -/
theorem flatMap_windows (starts : receipt.value.startTs.seconds % 600 = 0) (ends : receipt.value.endTs.seconds % 600 = 0)
    (instant : receipt.value.endTs.IsInstant)
    (fits : ∀ openTs ∈ receipt.windows, receipt.bucket openTs ≠ .error .bar) :
    receipt.windows.flatMap receipt.actualM1At = receipt.value.bars := by
  have upTo : ∀ count ≤ ((receipt.value.endTs.seconds - receipt.value.startTs.seconds) / 600).toNat,
      ((List.range count).map (windowAt receipt.value.startTs)).flatMap receipt.actualM1At =
        receipt.value.bars.filter fun bar => decide (receipt.value.startTs.seconds ≤ bar.openTs.seconds ∧
          bar.openTs.seconds < receipt.value.startTs.seconds + 600 * count) := by
    intro count
    induction count with
    | zero =>
        intro _
        rw [List.filter_eq_nil_iff.2]
        · rfl
        · intro bar _ inside
          have both := of_decide_eq_true inside
          omega
    | succ count ih =>
        intro enough
        have window := @isWindow_windowAt receipt starts instant count (by omega)
        have member : windowAt receipt.value.startTs count ∈ receipt.windows :=
          List.mem_map_of_mem (List.mem_range.2 enough)
        rw [List.range_succ, List.map_append, List.flatMap_append, ih (by omega), List.map_singleton,
          List.flatMap_singleton, actualM1At_eq window (fits _ member),
          minutesIn_eq window.opens_aligned window.closes_aligned]
        have same : (windowAt receipt.value.startTs (count + 1)).seconds =
            receipt.value.startTs.seconds + 600 * ((count + 1 : Nat) : Int) := rfl
        rw [same]
        exact filter_append_filter receipt.sorted (by omega) (by push_cast; omega)
  obtain ⟨⟨startAligned, endAligned⟩, admitted, _⟩ := ReceiptV1.validate_ok receipt.valid
  refine (upTo _ (Nat.le_refl _)).trans (List.filter_eq_self.2 ?_)
  intro bar member
  have inside := admitted bar member
  have opens := inside.opens
  have before := inside.ends
  rw [startAligned.after_iff inside.aligned] at opens
  rw [endAligned.after_iff inside.aligned] at before
  exact decide_eq_true (by omega)

end Windows

section Range

/-- Every window of the range answers with exactly its own minutes, and the windows share the bars out. -/
theorem windows_partition_minutes (receipt : ObservedM1Receipt) (instant : receipt.value.endTs.IsInstant) :
    (∀ openTs closeTs, receipt.IsWindow openTs closeTs →
      (receipt.bucket openTs = .error .emptyBucket ↔ receipt.minutesIn openTs closeTs = []) ∧
      (∀ derivation, receipt.bucket openTs = .ok derivation →
        Derives openTs (receipt.minutesIn openTs closeTs) derivation) ∧
      ∀ error, receipt.bucket openTs = .error error → error = .emptyBucket ∨
        (error = .bar ∧ Decimal.checkedSum ((receipt.minutesIn openTs closeTs).map Bar.volume) = none)) ∧
    (receipt.value.startTs.seconds % 600 = 0 → receipt.value.endTs.seconds % 600 = 0 →
      (∀ openTs ∈ receipt.windows, receipt.bucket openTs ≠ .error .bar) →
        receipt.windows.flatMap receipt.actualM1At = receipt.value.bars) := by
  refine ⟨?_, ?_⟩
  · intro openTs closeTs window
    obtain ⟨empty, errors⟩ := bucket_spec window
    exact ⟨empty, fun derivation derived => bucket_derives window derived, errors⟩
  · intro starts ends fits
    exact flatMap_windows starts ends instant fits

def sampleInstrument : InstrumentId := { symbol := "IMOEXF@RTSX", venueSymbol := none, exchange := .moex, market := .futures }

/-- Two normalized volumes of 28 fractional digits. -/
def sampleVolume (last : Fin 2) : Decimal :=
  { negative := false
    magnitude := 79228162514264337593543950333 + last
    scale := 28
    magnitudeBound := by omega
    scaleBound := Nat.le_refl 28 }

def sampleMinute (index : Fin 2) : Bar :=
  let price := Decimal.ofNat 2500 (by decide)
  { instrument := sampleInstrument
    sourceKind := .historicalPoll
    timeframeSec := 60
    openTs := { seconds := 600 + 180 * index.val, nanos := 0 }
    closeTs := { seconds := 660 + 180 * index.val, nanos := 0 }
    «open» := price
    high := price
    low := price
    close := price
    volume := sampleVolume index
    isFinal := true }

def sampleReceipt : ObservedM1Receipt where
  value :=
    { schemaVersion := 1
      domain := receiptDomain
      policy := observedM1PolicyV1
      sourceSnapshotSha256 := "e3b0c44298fc1c149afbf4c8996fb92427ae41e4649b934ca495991b7852b855"
      startTs := { seconds := 600, nanos := 0 }
      endTs := { seconds := 1800, nanos := 0 }
      receivedAt := { seconds := 1800, nanos := 0 }
      instrument := sampleInstrument
      bars := [sampleMinute 0, sampleMinute 1] }
  bytes := []
  sha256 := ""
  valid := by decide

/-- The first window has two minutes and the second none. -/
theorem windows_partition_minutes_sample :
    sampleReceipt.bucket { seconds := 1200, nanos := 0 } = .error .emptyBucket ∧
      sampleReceipt.windows.flatMap sampleReceipt.actualM1At = sampleReceipt.value.bars := by
  obtain ⟨each, all⟩ := windows_partition_minutes sampleReceipt ⟨by decide, by decide⟩
  refine ⟨(each { seconds := 1200, nanos := 0 } { seconds := 1800, nanos := 0 } ?_).1.2 ?_, all ?_ ?_ ?_⟩
  · exact ⟨by decide, by decide, by decide, by decide⟩
  · decide
  · decide
  · decide
  · intro openTs member overflows
    have fits : ∀ openTs ∈ sampleReceipt.windows, (match sampleReceipt.bucket openTs with
        | .error .bar => false
        | _ => true) = true := by decide
    have fitsHere := fits openTs member
    rw [overflows] at fitsHere
    cases fitsHere

/-- The sum of these volumes has 97 bits, and the last digit is rounded away. -/
theorem window_volume_is_not_always_exact :
    ¬ ∀ (receipt : ObservedM1Receipt) (openTs closeTs : DateTimeUtc) (derivation : ObservedM10Derivation),
      receipt.IsWindow openTs closeTs → receipt.bucket openTs = .ok derivation →
        derivation.bar.volume.units = (((receipt.minutesIn openTs closeTs).map Bar.volume).map Decimal.units).sum := by
  intro exact
  have window : sampleReceipt.IsWindow { seconds := 600, nanos := 0 } { seconds := 1200, nanos := 0 } :=
    ⟨by decide, by decide, by decide, by decide⟩
  have rounded : ∃ derivation, sampleReceipt.bucket { seconds := 600, nanos := 0 } = .ok derivation ∧
      derivation.bar.volume.units ≠ (((sampleReceipt.minutesIn { seconds := 600, nanos := 0 }
        { seconds := 1200, nanos := 0 }).map Bar.volume).map Decimal.units).sum := by
    cases answered : sampleReceipt.bucket { seconds := 600, nanos := 0 } with
    | error error =>
        have answers : (sampleReceipt.bucket { seconds := 600, nanos := 0 }).isOk = true := by decide
        rw [answered] at answers
        cases answers
    | ok derivation =>
        have differs : (sampleReceipt.bucket { seconds := 600, nanos := 0 }).toOption.map (fun derivation =>
            derivation.bar.volume.units) ≠ some (((sampleReceipt.minutesIn { seconds := 600, nanos := 0 }
              { seconds := 1200, nanos := 0 }).map Bar.volume).map Decimal.units).sum := by decide
        rw [answered] at differs
        exact ⟨derivation, rfl, fun same => differs (congrArg some same)⟩
  obtain ⟨derivation, answered, differs⟩ := rounded
  exact differs (exact sampleReceipt _ _ derivation window answered)

end Range

end ObservedM1Receipt

end TradingGateway.BrokerCore.ObservedM1
