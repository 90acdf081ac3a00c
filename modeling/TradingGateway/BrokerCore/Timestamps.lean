import TradingGateway.BrokerCore.Orders

/-! The order and the arithmetic of instants. -/

set_option autoImplicit false

namespace TradingGateway.BrokerCore.Orders.DateTimeUtc

def minSeconds : Int := -8334601228800

def maxSeconds : Int := 8210266876799

def IsInstant (time : DateTimeUtc) : Prop :=
  minSeconds ≤ time.seconds ∧ time.seconds ≤ maxSeconds

def timestampOpt (seconds : Int) : Option DateTimeUtc :=
  if minSeconds ≤ seconds ∧ seconds ≤ maxSeconds then some { seconds := seconds, nanos := 0 } else none

/-- `time + Duration::seconds(seconds)` for a positive number of seconds, which ends a leap second;
`none` is the overflow abort. -/
def plusSeconds (time : DateTimeUtc) (seconds : Nat) : Option DateTimeUtc :=
  let sum : DateTimeUtc :=
    { seconds := time.seconds + seconds
      nanos := if 1000000000 ≤ time.nanos then time.nanos - 1000000000 else time.nanos }
  if minSeconds ≤ sum.seconds ∧ sum.seconds ≤ maxSeconds then some sum else none

def secondOfDay (time : DateTimeUtc) : Int :=
  time.seconds % 86400

/-- The nanoseconds from one instant to a later one. A leap second is a fraction of a
thousand million nanoseconds or more, and counts where it lies between the two. -/
def nanosecondsSince (later earlier : DateTimeUtc) : Int :=
  let adjust :=
    if earlier.secondOfDay < later.secondOfDay then if 1000000000 ≤ earlier.nanos then 1 else 0
    else if later.secondOfDay < earlier.secondOfDay then if 1000000000 ≤ later.nanos then -1 else 0
    else 0
  (later.seconds - earlier.seconds + adjust) * 1000000000 + (later.nanos.toNat - earlier.nanos.toNat)

/-- `(later - earlier).num_seconds()`. -/
def numSecondsSince (later earlier : DateTimeUtc) : Int :=
  (later.nanosecondsSince earlier).tdiv 1000000000

/-- An instant as one number on the clock, leap seconds left out. -/
def clock (time : DateTimeUtc) : Int :=
  time.seconds * 1000000000 + time.nanos.toNat

theorem after_irrefl (time : DateTimeUtc) : ¬ time.After time := by
  simp [After]

theorem After.trans {first second third : DateTimeUtc} (front : first.After second) (back : second.After third) :
    first.After third := by
  simp only [After, UInt32.lt_iff_toNat_lt] at *
  omega

theorem After.asymm {left right : DateTimeUtc} (later : left.After right) : ¬ right.After left := by
  simp only [After, UInt32.lt_iff_toNat_lt] at *
  omega

theorem eq_of_not_after {left right : DateTimeUtc} (notLeft : ¬ left.After right) (notRight : ¬ right.After left) :
    left = right := by
  cases left with
  | mk leftSeconds leftNanos =>
      cases right with
      | mk rightSeconds rightNanos =>
          simp only [After, UInt32.lt_iff_toNat_lt] at notLeft notRight
          have sameSeconds : leftSeconds = rightSeconds := by omega
          have sameNanos : leftNanos.toNat = rightNanos.toNat := by omega
          rw [sameSeconds, UInt32.toNat_inj.1 sameNanos]

theorem not_after_trans {first second third : DateTimeUtc} (front : ¬ first.After second)
    (back : ¬ second.After third) : ¬ first.After third := by
  simp only [After, UInt32.lt_iff_toNat_lt] at *
  omega

end TradingGateway.BrokerCore.Orders.DateTimeUtc
