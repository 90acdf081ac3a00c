import TradingGateway.BrokerCore.Timestamps

/-! Milliseconds added to instants and counted between them, and instants cut to
the microseconds that their texts keep. -/

set_option autoImplicit false

namespace TradingGateway.BrokerCore.Orders.DateTimeUtc

/-- `time + Duration::milliseconds(milliseconds)`, by whole seconds and a rest of the same sign. Within a
leap second only the fraction moves; `none` is the overflow abort. -/
def plusMilliseconds (time : DateTimeUtc) (milliseconds : Int) : Option DateTimeUtc :=
  let wholeSeconds := milliseconds.tdiv 1000
  let rest := milliseconds.tmod 1000 * 1000000
  let nanos : Int := time.nanos.toNat
  let leaves : Prop := 0 < wholeSeconds ∨ (0 < rest ∧ 2000000000 - rest ≤ nanos)
  let sum : DateTimeUtc :=
    if 1000000000 ≤ nanos ∧ ¬ leaves ∧ 0 ≤ wholeSeconds then
      { time with nanos := UInt32.ofNat (nanos + rest).toNat }
    else
      let start := if 1000000000 ≤ nanos ∧ ¬ leaves then time.seconds + 1 else time.seconds
      let fraction := (if 1000000000 ≤ nanos then nanos - 1000000000 else nanos) + rest
      { seconds := start + wholeSeconds + fraction / 1000000000
        nanos := UInt32.ofNat (fraction % 1000000000).toNat }
  if minSeconds ≤ sum.seconds ∧ sum.seconds ≤ maxSeconds then some sum else none

/-- `(later - earlier).num_milliseconds()`. -/
def numMillisecondsSince (later earlier : DateTimeUtc) : Int :=
  (later.nanosecondsSince earlier).tdiv 1000000

/-- An instant without what is below its microsecond, as its text has it. -/
def truncMicros (time : DateTimeUtc) : DateTimeUtc :=
  { time with nanos := time.nanos / 1000 * 1000 }

def Ordinary (time : DateTimeUtc) : Prop :=
  time.nanos.toNat < 1000000000

instance (time : DateTimeUtc) : Decidable time.Ordinary :=
  inferInstanceAs (Decidable (_ < _))

/-- `Ord::max` of instants. -/
def latest (left right : DateTimeUtc) : DateTimeUtc :=
  if left.After right then left else right

/-- `Ord::min` of instants. -/
def earliest (left right : DateTimeUtc) : DateTimeUtc :=
  if left.After right then right else left

theorem truncMicros_seconds (time : DateTimeUtc) : time.truncMicros.seconds = time.seconds := rfl

theorem truncMicros_nanos (time : DateTimeUtc) :
    time.truncMicros.nanos.toNat = time.nanos.toNat / 1000 * 1000 := by
  have bound := time.nanos.toNat_lt
  have thousand : (1000 : UInt32).toNat = 1000 := rfl
  unfold truncMicros
  rw [UInt32.toNat_mul, UInt32.toNat_div, thousand, Nat.mod_eq_of_lt]
  omega

theorem truncMicros_not_after (time : DateTimeUtc) : ¬ time.truncMicros.After time := by
  simp only [After, truncMicros_seconds, UInt32.lt_iff_toNat_lt, truncMicros_nanos]
  omega

/-- An instant of whole microseconds that another one has reached is reached by what is left of that one. -/
theorem not_after_truncMicros {whole time : DateTimeUtc} (aligned : whole.truncMicros = whole)
    (reached : ¬ whole.After time) : ¬ whole.After time.truncMicros := by
  have digits := truncMicros_nanos whole
  rw [aligned] at digits
  simp only [After, UInt32.lt_iff_toNat_lt, truncMicros_seconds, truncMicros_nanos] at *
  omega

theorem earliest_not_after_left (left right : DateTimeUtc) : ¬ (earliest left right).After left := by
  unfold earliest
  split
  next later => exact later.asymm
  next => exact after_irrefl left

theorem earliest_not_after_right (left right : DateTimeUtc) : ¬ (earliest left right).After right := by
  unfold earliest
  split
  next => exact after_irrefl right
  next notLater => exact notLater

/-- Outside leap seconds adding milliseconds moves the clock by them. -/
theorem clock_plusMilliseconds {time sum : DateTimeUtc} {milliseconds : Int} (ordinary : time.Ordinary)
    (added : time.plusMilliseconds milliseconds = some sum) :
    sum.clock = time.clock + milliseconds * 1000000 ∧ sum.Ordinary := by
  unfold Ordinary at *
  have noLeap : ¬ 1000000000 ≤ (time.nanos.toNat : Int) := by omega
  unfold plusMilliseconds at added
  simp only [noLeap, false_and, if_false] at added
  split at added
  next inRange =>
    have same := Option.some.inj added
    subst same
    have whole := Int.mul_tdiv_add_tmod milliseconds 1000
    have fraction : (UInt32.ofNat ((↑time.nanos.toNat + milliseconds.tmod 1000 * 1000000) % 1000000000).toNat).toNat =
        ((↑time.nanos.toNat + milliseconds.tmod 1000 * 1000000) % 1000000000).toNat := by
      refine UInt32.toNat_ofNat_of_lt' ?_
      unfold UInt32.size
      omega
    unfold clock
    dsimp only
    rw [fraction]
    omega
  next => cases added

/-- A part of a second can be added to any instant but the last ones. -/
theorem exists_plusMilliseconds {time : DateTimeUtc} {milliseconds : Int} (ordinary : time.Ordinary)
    (forward : 0 ≤ milliseconds) (small : milliseconds < 1000) (first : minSeconds ≤ time.seconds)
    (last : time.seconds < maxSeconds) : ∃ sum, time.plusMilliseconds milliseconds = some sum := by
  unfold Ordinary at ordinary
  have noLeap : ¬ 1000000000 ≤ (time.nanos.toNat : Int) := by omega
  have whole : milliseconds.tdiv 1000 = 0 := Int.tdiv_eq_zero_of_lt forward small
  have rest : milliseconds.tmod 1000 = milliseconds := Int.tmod_eq_of_lt forward small
  unfold plusMilliseconds
  simp only [noLeap, false_and, if_false, whole, rest]
  rw [if_pos (by omega)]
  exact ⟨_, rfl⟩

theorem clock_truncMicros (time : DateTimeUtc) : time.truncMicros.clock = time.clock / 1000 * 1000 := by
  unfold clock
  rw [truncMicros_seconds, truncMicros_nanos]
  omega

theorem truncMicros_ordinary {time : DateTimeUtc} (ordinary : time.Ordinary) : time.truncMicros.Ordinary := by
  unfold Ordinary at *
  rw [truncMicros_nanos]
  omega

theorem after_iff_clock {left right : DateTimeUtc} (leftOrdinary : left.Ordinary) (rightOrdinary : right.Ordinary) :
    left.After right ↔ right.clock < left.clock := by
  unfold Ordinary at *
  simp only [After, clock, UInt32.lt_iff_toNat_lt]
  omega

theorem nanosecondsSince_eq_clock {later earlier : DateTimeUtc} (laterOrdinary : later.Ordinary)
    (earlierOrdinary : earlier.Ordinary) : later.nanosecondsSince earlier = later.clock - earlier.clock := by
  have notLater : ¬ 1000000000 ≤ later.nanos := by
    rw [UInt32.le_iff_toNat_le]
    exact Nat.not_le.2 laterOrdinary
  have notEarlier : ¬ 1000000000 ≤ earlier.nanos := by
    rw [UInt32.le_iff_toNat_le]
    exact Nat.not_le.2 earlierOrdinary
  unfold nanosecondsSince clock
  rw [if_neg notLater, if_neg notEarlier]
  dsimp only
  split_ifs <;> omega

end TradingGateway.BrokerCore.Orders.DateTimeUtc
