import TradingGateway.BrokerCore.InstantMillis
import TradingGateway.Foundation.MachineNumbers
import TradingGateway.Foundation.SpacedWindows

/-! The dry order rate window: permits counted from the first call of a window on, a
backoff before the first one, and the waits its refusals name. -/

set_option autoImplicit false

namespace TradingGateway.BrokerCore.OrderRateWindow

open Orders Foundation.MachineNumbers Foundation.SpacedWindows

inductive DryOrderRateWindowError where
  | capacityExhausted (resetAfterMs : UInt64)
  | backoffActive (retryAfterMs : UInt64)
deriving DecidableEq

structure DryOrderRateWindowDecision where
  remaining : UInt32
deriving DecidableEq

abbrev Answer := Except DryOrderRateWindowError DryOrderRateWindowDecision

/-- `Duration::milliseconds(..)` in nanoseconds, which panics on the lowest number of 64 bits. -/
def durationMilliseconds (milliseconds : Int) : Option Int :=
  if milliseconds = -2 ^ 63 then none else some (milliseconds * 1000000)

/-- The difference of two durations, which panics outside the milliseconds of 64 bits. -/
def durationSub (left right : Int) : Option Int :=
  if |left - right| ≤ (2 ^ 63 - 1) * 1000000 then some (left - right) else none

def durationMsFloor (duration : Int) : UInt64 :=
  UInt64.ofNat (max (duration.tdiv 1000000) 0).toNat

structure DryOrderRateWindow where
  capacity : UInt32
  used : UInt32
  windowStartedTs : DateTimeUtc
  windowMs : UInt64
  backoffUntil : Option DateTimeUtc
deriving DecidableEq

namespace DryOrderRateWindow

def new (capacity : UInt32) (windowMs : UInt64) (now : DateTimeUtc) : DryOrderRateWindow where
  capacity := capacity
  used := 0
  windowStartedTs := now
  windowMs := max windowMs 1
  backoffUntil := none

def withBackoffUntil (window : DryOrderRateWindow) (backoffUntil : DateTimeUtc) : DryOrderRateWindow :=
  { window with backoffUntil := some backoffUntil }

variable (window : DryOrderRateWindow)

/-- The length of the window is cast to a signed number, so a huge one is negative. -/
def windowElapsed (now : DateTimeUtc) : Bool :=
  decide (asI64 window.windowMs ≤ now.numMillisecondsSince window.windowStartedTs)

def remaining (now : DateTimeUtc) : UInt32 :=
  if window.windowElapsed now then window.capacity
  else if window.used ≤ window.capacity then window.capacity - window.used
  else 0

def pastBackoff (now : DateTimeUtc) : Except DryOrderRateWindowError DryOrderRateWindow :=
  match window.backoffUntil with
  | some backoffUntil =>
      if backoffUntil.After now then .error (.backoffActive (durationMsFloor (backoffUntil.nanosecondsSince now)))
      else .ok { window with backoffUntil := none }
  | none => .ok window

def refreshed (now : DateTimeUtc) : DryOrderRateWindow :=
  if window.windowElapsed now then { window with used := 0, windowStartedTs := now } else window

/-- The permits are taken where they remain; `none` is a panic. -/
def consume (now : DateTimeUtc) (permits : UInt32) : Option (DryOrderRateWindow × Answer) :=
  if permits = 0 then some (window, .ok { remaining := window.remaining now })
  else if window.remaining now < permits then do
    let length ← durationMilliseconds (asI64 window.windowMs)
    let resetAfter ← durationSub length (now.nanosecondsSince window.windowStartedTs)
    some (window, .error (.capacityExhausted (durationMsFloor resetAfter)))
  else if window.used.toNat + permits.toNat < 2 ^ 32 then
    let window := { window with used := window.used + permits }
    some (window, .ok { remaining := window.remaining now })
  else none

/-- The window after a call and what the call answers; `none` is a panic. -/
def tryConsume (now : DateTimeUtc) (permits : UInt32) : Option (DryOrderRateWindow × Answer) :=
  match window.pastBackoff now with
  | .error reason => some (window, .error reason)
  | .ok window => (window.refreshed now).consume now permits

end DryOrderRateWindow

structure Call where
  now : DateTimeUtc
  permits : UInt32
deriving DecidableEq

structure Attempt where
  window : DryOrderRateWindow
  call : Call
  after : DryOrderRateWindow
  answer : Answer

def DryOrderRateWindow.attempts (window : DryOrderRateWindow) : List Call → Option (List Attempt)
  | [] => some []
  | call :: rest => do
      let (after, answer) ← window.tryConsume call.now call.permits
      let later ← after.attempts rest
      some ({ window, call, after, answer } :: later)

namespace Attempt

variable (attempt : Attempt)

def granted : Bool :=
  match attempt.answer with
  | .ok _ => true
  | .error _ => false

def hint : Option UInt64 :=
  match attempt.answer with
  | .ok _ => none
  | .error (.capacityExhausted resetAfterMs) => some resetAfterMs
  | .error (.backoffActive retryAfterMs) => some retryAfterMs

end Attempt

theorem asI64_eq {value : UInt64} (small : value.toNat < 2 ^ 63) : asI64 value = value.toNat := by
  have below : 2 * value.toBitVec.toNat < 2 ^ 64 := by
    rw [UInt64.toNat_toBitVec]
    omega
  change value.toBitVec.toInt = value.toNat
  rw [BitVec.toInt_eq_toNat_of_lt below, UInt64.toNat_toBitVec]

theorem durationMsFloor_toNat {duration : Int} (forward : 0 ≤ duration) (bounded : duration ≤ (2 ^ 63 - 1) * 1000000) :
    ((durationMsFloor duration).toNat : Int) = duration / 1000000 := by
  unfold durationMsFloor
  rw [Int.tdiv_eq_ediv_of_nonneg forward]
  have small : (max (duration / 1000000) 0).toNat < UInt64.size := by
    unfold UInt64.size
    omega
  rw [UInt64.toNat_ofNat_of_lt' small]
  omega

/-- An instant there is, outside leap seconds. -/
def Regular (time : DateTimeUtc) : Prop :=
  time.IsInstant ∧ time.Ordinary

namespace DryOrderRateWindow

def length (window : DryOrderRateWindow) : Int :=
  window.windowMs.toNat * 1000000

structure Ready (window : DryOrderRateWindow) (time : DateTimeUtc) : Prop where
  positive : 0 < window.windowMs.toNat
  small : window.windowMs.toNat < 2 ^ 63
  used_le : window.used.toNat ≤ window.capacity.toNat
  started : window.windowStartedTs.clock ≤ time.clock
  startOrdinary : window.windowStartedTs.Ordinary
  backoffRegular : ∀ backoffUntil ∈ window.backoffUntil, Regular backoffUntil
  unused : window.backoffUntil ≠ none → window.used = 0

theorem Ready.later {window : DryOrderRateWindow} {time now : DateTimeUtc} (ready : window.Ready time)
    (forward : time.clock ≤ now.clock) : window.Ready now :=
  { ready with started := ready.started.trans forward }

theorem toNat_max_one (value : UInt64) : (max value 1).toNat = max value.toNat 1 := by
  have one : (1 : UInt64).toNat = 1 := rfl
  change (if value ≤ 1 then 1 else value).toNat = max value.toNat 1
  split
  next small =>
    rw [UInt64.le_iff_toNat_le] at small
    omega
  next large =>
    rw [UInt64.le_iff_toNat_le] at large
    omega

theorem new_ready {capacity : UInt32} {windowMs : UInt64} {created : DateTimeUtc} (small : windowMs.toNat < 2 ^ 63)
    (ordinary : created.Ordinary) : (new capacity windowMs created).Ready created where
  positive := by
    change 0 < (max windowMs 1).toNat
    rw [toNat_max_one]
    omega
  small := by
    change (max windowMs 1).toNat < 2 ^ 63
    rw [toNat_max_one]
    omega
  used_le := Nat.zero_le _
  started := le_rfl
  startOrdinary := ordinary
  backoffRegular := by
    intro backoffUntil isNone
    cases isNone
  unused := fun _ => rfl

theorem Ready.withBackoffUntil {window : DryOrderRateWindow} {time backoffUntil : DateTimeUtc} (ready : window.Ready time)
    (regular : Regular backoffUntil) (unused : window.used = 0) : (window.withBackoffUntil backoffUntil).Ready time where
  positive := ready.positive
  small := ready.small
  used_le := ready.used_le
  started := ready.started
  startOrdinary := ready.startOrdinary
  backoffRegular := by
    intro later isLater
    cases isLater
    exact regular
  unused := fun _ => unused

section Calls

variable {window : DryOrderRateWindow} {now : DateTimeUtc}

theorem Ready.length_pos (ready : window.Ready now) : 0 < window.length := by
  have positive := ready.positive
  unfold length
  omega

theorem Ready.windowElapsed_iff (ready : window.Ready now) (ordinary : now.Ordinary) :
    window.windowElapsed now = true ↔ window.windowStartedTs.clock + window.length ≤ now.clock := by
  have started := ready.started
  have positive := ready.positive
  unfold windowElapsed DateTimeUtc.numMillisecondsSince length
  rw [decide_eq_true_eq, asI64_eq ready.small, DateTimeUtc.nanosecondsSince_eq_clock ordinary ready.startOrdinary,
    Int.tdiv_eq_ediv_of_nonneg (by omega)]
  omega

/-- The window a call is counted in, once no backoff holds. -/
def entered (window : DryOrderRateWindow) (now : DateTimeUtc) : DryOrderRateWindow :=
  if window.windowElapsed now then { window with used := 0, windowStartedTs := now, backoffUntil := none }
  else { window with backoffUntil := none }

theorem pastBackoff_of_not_before (passed : ∀ backoffUntil ∈ window.backoffUntil, ¬ backoffUntil.After now) :
    window.pastBackoff now = .ok { window with backoffUntil := none } := by
  unfold pastBackoff
  cases held : window.backoffUntil with
  | none =>
      cases window
      cases held
      rfl
  | some backoffUntil =>
      have notBefore := passed backoffUntil (by rw [held]; rfl)
      exact if_neg notBefore

theorem entered_eq_refreshed : ({ window with backoffUntil := none } : DryOrderRateWindow).refreshed now = window.entered now := by
  unfold refreshed entered
  rfl

theorem entered_capacity : (window.entered now).capacity = window.capacity := by
  unfold entered
  split <;> rfl

theorem entered_length : (window.entered now).length = window.length := by
  unfold entered
  split <;> rfl

theorem entered_backoffUntil : (window.entered now).backoffUntil = none := by
  unfold entered
  split <;> rfl

/-- A call is counted in the running window, or in one that starts with it. -/
theorem entered_cases (ready : window.Ready now) (ordinary : now.Ordinary) :
    (now.clock < window.windowStartedTs.clock + window.length ∧ window.entered now = { window with backoffUntil := none }) ∨
    (window.windowStartedTs.clock + window.length ≤ now.clock ∧
      window.entered now = { window with used := 0, windowStartedTs := now, backoffUntil := none }) := by
  have elapsed := ready.windowElapsed_iff ordinary
  unfold entered
  by_cases isElapsed : window.windowElapsed now = true
  · exact .inr ⟨elapsed.1 isElapsed, if_pos isElapsed⟩
  · exact .inl ⟨Int.not_le.1 (fun reached => isElapsed (elapsed.2 reached)), if_neg isElapsed⟩

theorem entered_ready (ready : window.Ready now) (ordinary : now.Ordinary) : (window.entered now).Ready now := by
  rcases entered_cases ready ordinary with ⟨_, same⟩ | ⟨_, same⟩
  · rw [same]
    exact { ready with
      backoffRegular := by
        intro backoffUntil isNone
        cases isNone
      unused := fun held => absurd rfl held }
  · rw [same]
    exact { ready with
      used_le := Nat.zero_le _
      started := le_rfl
      startOrdinary := ordinary
      backoffRegular := by
        intro backoffUntil isNone
        cases isNone
      unused := fun _ => rfl }

theorem entered_running (ready : window.Ready now) (ordinary : now.Ordinary) :
    now.clock < (window.entered now).windowStartedTs.clock + (window.entered now).length := by
  rcases entered_cases ready ordinary with ⟨running, same⟩ | ⟨_, same⟩
  · rw [same]
    exact running
  · rw [same]
    have positive := ready.length_pos
    change now.clock < now.clock + window.length
    omega

theorem remaining_of_running (ready : window.Ready now) (ordinary : now.Ordinary)
    (running : now.clock < window.windowStartedTs.clock + window.length) :
    (window.remaining now).toNat = window.capacity.toNat - window.used.toNat := by
  have notElapsed : ¬ window.windowElapsed now = true := by
    rw [ready.windowElapsed_iff ordinary]
    omega
  have used : window.used ≤ window.capacity := UInt32.le_iff_toNat_le.2 ready.used_le
  unfold remaining
  rw [if_neg notElapsed, if_pos used, UInt32.toNat_sub_of_le _ _ used]

/-- In a running window the permits are refused or taken, and nothing panics. -/
theorem consume_cases (ready : window.Ready now) (ordinary : now.Ordinary)
    (running : now.clock < window.windowStartedTs.clock + window.length) (permits : UInt32) :
    (window.capacity.toNat < window.used.toNat + permits.toNat ∧ window.consume now permits = some (window,
      .error (.capacityExhausted (durationMsFloor (window.windowStartedTs.clock + window.length - now.clock))))) ∨
    (window.used.toNat + permits.toNat ≤ window.capacity.toNat ∧ ∃ decision,
      window.consume now permits = some ({ window with used := window.used + permits }, .ok decision)) := by
  have remains := remaining_of_running ready ordinary running
  have used := ready.used_le
  have started := ready.started
  have small := ready.small
  unfold consume
  by_cases zero : permits = 0
  · refine .inr ⟨by rw [zero]; exact used, { remaining := window.remaining now }, ?_⟩
    rw [if_pos zero, zero, UInt32.add_zero]
  rw [if_neg zero]
  by_cases short : window.remaining now < permits
  · refine .inl ⟨?_, ?_⟩
    · rw [UInt32.lt_iff_toNat_lt, remains] at short
      omega
    · have span : now.nanosecondsSince window.windowStartedTs = now.clock - window.windowStartedTs.clock :=
        DateTimeUtc.nanosecondsSince_eq_clock ordinary ready.startOrdinary
      have whole : durationMilliseconds (asI64 window.windowMs) = some window.length := by
        unfold durationMilliseconds length
        rw [asI64_eq small, if_neg (by omega)]
      have rest : durationSub window.length (now.clock - window.windowStartedTs.clock) =
          some (window.windowStartedTs.clock + window.length - now.clock) := by
        unfold length at *
        unfold durationSub
        rw [if_pos (by rw [abs_le]; omega)]
        congr 1
        omega
      rw [if_pos short, whole, span]
      simp only [Option.bind_eq_bind, Option.bind_some, rest]
  · rw [if_neg short]
    rw [UInt32.lt_iff_toNat_lt, remains] at short
    have capacitySmall := window.capacity.toNat_lt
    refine .inr ⟨by omega, _, if_pos (by omega)⟩

/-- A call before the end of a backoff is refused; every other one is counted in the window it enters. -/
theorem tryConsume_cases (ready : window.Ready now) (ordinary : now.Ordinary) (permits : UInt32) :
    (∃ backoffUntil, window.backoffUntil = some backoffUntil ∧ now.clock < backoffUntil.clock ∧
      window.tryConsume now permits = some (window,
        .error (.backoffActive (durationMsFloor (backoffUntil.clock - now.clock))))) ∨
    ((∀ backoffUntil ∈ window.backoffUntil, backoffUntil.clock ≤ now.clock) ∧
      (((window.entered now).capacity.toNat < (window.entered now).used.toNat + permits.toNat ∧
          window.tryConsume now permits = some (window.entered now, .error (.capacityExhausted (durationMsFloor
            ((window.entered now).windowStartedTs.clock + (window.entered now).length - now.clock))))) ∨
        ((window.entered now).used.toNat + permits.toNat ≤ (window.entered now).capacity.toNat ∧ ∃ decision,
          window.tryConsume now permits =
            some ({ window.entered now with used := (window.entered now).used + permits }, .ok decision)))) := by
  by_cases active : ∃ backoffUntil, window.backoffUntil = some backoffUntil ∧ backoffUntil.After now
  · obtain ⟨backoffUntil, held, before⟩ := active
    have backoffOrdinary := (ready.backoffRegular backoffUntil (by rw [held]; rfl)).2
    refine .inl ⟨backoffUntil, held, (DateTimeUtc.after_iff_clock backoffOrdinary ordinary).1 before, ?_⟩
    unfold tryConsume pastBackoff
    simp only [held, if_pos before, DateTimeUtc.nanosecondsSince_eq_clock backoffOrdinary ordinary]
  · have passed : ∀ backoffUntil ∈ window.backoffUntil, ¬ backoffUntil.After now :=
      fun backoffUntil held before => active ⟨backoffUntil, held, before⟩
    have enters : window.tryConsume now permits = (window.entered now).consume now permits := by
      unfold tryConsume
      rw [pastBackoff_of_not_before passed]
      dsimp only
      rw [entered_eq_refreshed]
    refine .inr ⟨fun backoffUntil held => ?_, ?_⟩
    · have notBefore := passed backoffUntil held
      rw [DateTimeUtc.after_iff_clock (ready.backoffRegular backoffUntil held).2 ordinary] at notBefore
      omega
    · rw [enters]
      exact consume_cases (entered_ready ready ordinary) ordinary (entered_running ready ordinary) permits

end Calls

end DryOrderRateWindow

def grantedTotal (counted : Attempt → Prop) [DecidablePred counted] (attempts : List Attempt) : Nat :=
  total (fun attempt => attempt.call.permits.toNat) counted (attempts.filter Attempt.granted)

namespace Attempt

variable (attempt : Attempt)

def amount : Nat :=
  if attempt.granted then attempt.call.permits.toNat else 0

structure Step : Prop where
  answers : attempt.window.tryConsume attempt.call.now attempt.call.permits = some (attempt.after, attempt.answer)
  ready : attempt.window.Ready attempt.call.now
  regular : Regular attempt.call.now
  readyAfter : attempt.after.Ready attempt.call.now
  capacity : attempt.after.capacity = attempt.window.capacity
  length : attempt.after.length = attempt.window.length
  counted : (attempt.after.windowStartedTs = attempt.window.windowStartedTs ∧
      attempt.after.used.toNat = attempt.window.used.toNat + attempt.amount) ∨
    (attempt.window.windowStartedTs.clock + attempt.window.length ≤ attempt.call.now.clock ∧
      attempt.after.windowStartedTs = attempt.call.now ∧ attempt.after.used.toNat = attempt.amount)
  running : attempt.granted = true →
    attempt.call.now.clock < attempt.after.windowStartedTs.clock + attempt.window.length
  behind : (attempt.after.backoffUntil = attempt.window.backoffUntil ∧ attempt.granted = false) ∨
    ∀ backoffUntil ∈ attempt.window.backoffUntil, backoffUntil.clock ≤ attempt.call.now.clock

end Attempt

section Steps

variable {window : DryOrderRateWindow} {call : Call}

/-- What a call that enters a window leaves there, granted or refused. -/
theorem step_of_entered (ready : window.Ready call.now) (regular : Regular call.now)
    (passed : ∀ backoffUntil ∈ window.backoffUntil, backoffUntil.clock ≤ call.now.clock) {taken : UInt32} {answer : Answer}
    (fits : (window.entered call.now).used.toNat + taken.toNat ≤ window.capacity.toNat)
    (amount : (Attempt.mk window call { window.entered call.now with used := (window.entered call.now).used + taken }
      answer).amount = taken.toNat)
    (answers : window.tryConsume call.now call.permits =
      some ({ window.entered call.now with used := (window.entered call.now).used + taken }, answer)) :
    (Attempt.mk window call { window.entered call.now with used := (window.entered call.now).used + taken }
      answer).Step := by
  have entersReady := DryOrderRateWindow.entered_ready ready regular.2
  have running := DryOrderRateWindow.entered_running ready regular.2
  have capacitySmall := window.capacity.toNat_lt
  have sum : ((window.entered call.now).used + taken).toNat = (window.entered call.now).used.toNat + taken.toNat := by
    rw [UInt32.toNat_add, Nat.mod_eq_of_lt (by omega)]
  refine
    { answers := answers
      ready := ready
      regular := regular
      readyAfter := ?_
      capacity := DryOrderRateWindow.entered_capacity
      length := DryOrderRateWindow.entered_length
      counted := ?_
      running := fun _ => DryOrderRateWindow.entered_length ▸ running
      behind := .inr passed }
  · exact { entersReady with
      used_le := by
        change ((window.entered call.now).used + taken).toNat ≤ (window.entered call.now).capacity.toNat
        rw [sum, DryOrderRateWindow.entered_capacity]
        exact fits
      unused := fun held => absurd DryOrderRateWindow.entered_backoffUntil held }
  · rw [amount]
    change _ ∧ ((window.entered call.now).used + taken).toNat = _ ∨ _ ∧ _ ∧ ((window.entered call.now).used + taken).toNat = _
    rw [sum]
    rcases DryOrderRateWindow.entered_cases ready regular.2 with ⟨_, same⟩ | ⟨reached, same⟩
    · rw [same]
      exact .inl ⟨rfl, rfl⟩
    · rw [same]
      exact .inr ⟨reached, rfl, Nat.zero_add _⟩

/-- Every call has an outcome. -/
theorem exists_step (ready : window.Ready call.now) (regular : Regular call.now) :
    ∃ after answer, (Attempt.mk window call after answer).Step := by
  rcases DryOrderRateWindow.tryConsume_cases ready regular.2 call.permits with
    ⟨backoffUntil, held, early, answers⟩ | ⟨passed, ⟨exceeds, answers⟩ | ⟨fits, decision, answers⟩⟩
  · refine ⟨window, .error (.backoffActive (durationMsFloor (backoffUntil.clock - call.now.clock))), ?_⟩
    exact
      { answers := answers
        ready := ready
        regular := regular
        readyAfter := ready
        capacity := rfl
        length := rfl
        counted := .inl ⟨rfl, rfl⟩
        running := fun granted => absurd granted Bool.false_ne_true
        behind := .inl ⟨rfl, rfl⟩ }
  · have used := (DryOrderRateWindow.entered_ready ready regular.2).used_le
    have nothing : ({ window.entered call.now with used := (window.entered call.now).used + 0 } : DryOrderRateWindow) =
        window.entered call.now := by
      rw [UInt32.add_zero]
    rw [← nothing] at answers
    refine ⟨_, _, step_of_entered ready regular passed ?_ rfl answers⟩
    rw [DryOrderRateWindow.entered_capacity] at used
    exact used
  · rw [DryOrderRateWindow.entered_capacity] at fits
    exact ⟨_, _, step_of_entered ready regular passed fits rfl answers⟩

end Steps

structure Course (window : DryOrderRateWindow) (attempts : List Attempt) : Prop where
  steps : ∀ attempt ∈ attempts, attempt.Step
  capacities : ∀ attempt ∈ attempts, attempt.window.capacity = window.capacity
  starts : ∀ attempt ∈ attempts.filter Attempt.granted, attempt.after.windowStartedTs = window.windowStartedTs ∨
    window.windowStartedTs.clock + window.length ≤ attempt.after.windowStartedTs.clock
  spaced : Spaced window.length DateTimeUtc.clock (fun attempt : Attempt => attempt.after.windowStartedTs)
    (fun attempt => attempt.call.now.clock) (attempts.filter Attempt.granted)
  bounded : ∀ start, grantedTotal (fun attempt => attempt.after.windowStartedTs = start) attempts +
    (if window.windowStartedTs = start then window.used.toNat else 0) ≤ window.capacity.toNat
  behind : ∀ backoffUntil ∈ window.backoffUntil, ∀ attempt ∈ attempts.filter Attempt.granted,
    backoffUntil.clock ≤ attempt.call.now.clock

theorem Course.nil {window : DryOrderRateWindow} {time : DateTimeUtc} (ready : window.Ready time) : Course window [] where
  steps := by simp
  capacities := by simp
  starts := by simp
  spaced := ⟨by simp, by simp, by simp⟩
  bounded := by
    intro start
    have used := ready.used_le
    change 0 + _ ≤ _
    split_ifs <;> omega
  behind := by simp

section Cons

variable {attempt : Attempt} {rest : List Attempt}

theorem mem_granted_cons {later : Attempt} (member : later ∈ (attempt :: rest).filter Attempt.granted) :
    (later = attempt ∧ attempt.granted = true) ∨ later ∈ rest.filter Attempt.granted := by
  rw [List.mem_filter, List.mem_cons] at member
  obtain ⟨rfl | inRest, granted⟩ := member
  · exact .inl ⟨rfl, granted⟩
  · exact .inr (List.mem_filter.2 ⟨inRest, granted⟩)

theorem grantedTotal_cons (counted : Attempt → Prop) [DecidablePred counted] :
    grantedTotal counted (attempt :: rest) = (if counted attempt then attempt.amount else 0) + grantedTotal counted rest := by
  unfold grantedTotal Attempt.amount
  cases granted : attempt.granted with
  | false =>
      rw [List.filter_cons_of_neg (by simp [granted])]
      simp
  | true =>
      rw [List.filter_cons_of_pos granted, total_cons]
      simp

/-- The window after a call starts where it did, or at least a length later. -/
theorem Attempt.Step.start_cases (step : attempt.Step) :
    attempt.after.windowStartedTs = attempt.window.windowStartedTs ∨
      attempt.window.windowStartedTs.clock + attempt.window.length ≤ attempt.after.windowStartedTs.clock := by
  rcases step.counted with ⟨same, _⟩ | ⟨reached, isNow, _⟩
  · exact .inl same
  · rw [isNow]
    exact .inr reached

theorem Course.starts_cons (step : attempt.Step) (course : Course attempt.after rest) :
    ∀ later ∈ (attempt :: rest).filter Attempt.granted,
      later.after.windowStartedTs = attempt.window.windowStartedTs ∨
        attempt.window.windowStartedTs.clock + attempt.window.length ≤ later.after.windowStartedTs.clock := by
  intro later member
  rcases mem_granted_cons member with ⟨rfl, _⟩ | inRest
  · exact step.start_cases
  · have positive := step.ready.length_pos
    have start := course.starts later inRest
    rw [step.length] at start
    rcases start with same | reached
    · rw [same]
      exact step.start_cases
    · rcases step.start_cases with same | front
      · rw [← same]
        exact .inr reached
      · exact .inr (by omega)

theorem Course.spaced_cons (step : attempt.Step) (course : Course attempt.after rest) :
    Spaced attempt.window.length DateTimeUtc.clock (fun attempt : Attempt => attempt.after.windowStartedTs)
      (fun attempt => attempt.call.now.clock) ((attempt :: rest).filter Attempt.granted) := by
  have tail := course.spaced
  have starts := course.starts
  rw [step.length] at tail starts
  refine ⟨?_, ?_, ?_⟩
  · intro later member
    rcases mem_granted_cons member with ⟨rfl, _⟩ | inRest
    · exact step.readyAfter.started
    · exact tail.begun later inRest
  · intro later member
    rcases mem_granted_cons member with ⟨rfl, granted⟩ | inRest
    · exact step.running granted
    · exact tail.within later inRest
  · intro left leftMember right rightMember
    rcases mem_granted_cons leftMember with ⟨rfl, _⟩ | leftRest
    · rcases mem_granted_cons rightMember with ⟨rfl, _⟩ | rightRest
      · exact .inl rfl
      · rcases starts right rightRest with same | reached
        · exact .inl same.symm
        · exact .inr (.inl reached)
    · rcases mem_granted_cons rightMember with ⟨rfl, _⟩ | rightRest
      · rcases starts left leftRest with same | reached
        · exact .inl same
        · exact .inr (.inr reached)
      · exact tail.apart left leftRest right rightRest

/-- No window grants more than its capacity, what it had granted before included. -/
theorem Course.bounded_cons (step : attempt.Step) (course : Course attempt.after rest) (start : DateTimeUtc) :
    grantedTotal (fun attempt => attempt.after.windowStartedTs = start) (attempt :: rest) +
      (if attempt.window.windowStartedTs = start then attempt.window.used.toNat else 0) ≤
        attempt.window.capacity.toNat := by
  have tail := course.bounded start
  rw [step.capacity] at tail
  rw [grantedTotal_cons]
  rcases step.counted with ⟨same, used⟩ | ⟨reached, isNow, used⟩
  · rw [same] at tail ⊢
    split_ifs at tail ⊢ <;> omega
  · by_cases old : attempt.window.windowStartedTs = start
    · have positive := step.ready.length_pos
      have notNow : attempt.after.windowStartedTs ≠ start := by
        intro again
        rw [← old, isNow] at again
        rw [again] at reached
        omega
      have none : grantedTotal (fun attempt => attempt.after.windowStartedTs = start) rest = 0 := by
        refine total_eq_zero fun later member again => ?_
        have later := course.starts later member
        rw [again, step.length, isNow, ← old] at later
        rcases later with same | further
        · rw [same] at reached
          omega
        · omega
      have usedBefore := step.ready.used_le
      rw [none, if_neg notNow, if_pos old]
      omega
    · rw [if_neg old]
      split_ifs at tail ⊢ <;> omega

theorem Course.cons (step : attempt.Step) (course : Course attempt.after rest)
    (forward : ∀ later ∈ rest, attempt.call.now.clock ≤ later.call.now.clock) :
    Course attempt.window (attempt :: rest) where
  steps := List.forall_mem_cons.2 ⟨step, course.steps⟩
  capacities := List.forall_mem_cons.2 ⟨rfl, fun later member => (course.capacities later member).trans step.capacity⟩
  starts := Course.starts_cons step course
  spaced := Course.spaced_cons step course
  bounded := Course.bounded_cons step course
  behind := by
    intro backoffUntil held later member
    rcases step.behind with ⟨kept, refused⟩ | passed
    · rcases mem_granted_cons member with ⟨rfl, granted⟩ | inRest
      · rw [refused] at granted
        cases granted
      · exact course.behind backoffUntil (by rw [kept]; exact held) later inRest
    · have here := passed backoffUntil held
      rcases mem_granted_cons member with ⟨rfl, _⟩ | inRest
      · exact here
      · exact here.trans (forward later (List.mem_filter.1 inRest).1)

end Cons

/-- The calls come in order, none before `first`. -/
def InOrder : DateTimeUtc → List Call → Prop
  | _, [] => True
  | first, call :: rest => ¬ first.After call.now ∧ InOrder call.now rest

/-- Calls in order run through without a panic. -/
theorem exists_attempts {window : DryOrderRateWindow} {time : DateTimeUtc} {calls : List Call} (ready : window.Ready time)
    (timeOrdinary : time.Ordinary) (inOrder : InOrder time calls) (regular : ∀ call ∈ calls, Regular call.now) :
    ∃ attempts, window.attempts calls = some attempts ∧ Course window attempts ∧
      ∀ attempt ∈ attempts, time.clock ≤ attempt.call.now.clock := by
  induction calls generalizing window time with
  | nil => exact ⟨[], rfl, .nil ready, by simp⟩
  | cons call rest ih =>
      obtain ⟨notBefore, restInOrder⟩ := inOrder
      have callRegular := regular call List.mem_cons_self
      rw [DateTimeUtc.after_iff_clock timeOrdinary callRegular.2, Int.not_lt] at notBefore
      obtain ⟨after, answer, step⟩ := exists_step (ready.later notBefore) callRegular
      obtain ⟨later, ran, course, forward⟩ := ih step.readyAfter callRegular.2 restInOrder
        fun call member => regular call (List.mem_cons_of_mem _ member)
      refine ⟨_ :: later, ?_, Course.cons step course forward, ?_⟩
      · unfold DryOrderRateWindow.attempts
        have answers := step.answers
        dsimp only at answers
        rw [answers]
        simp only [Option.bind_eq_bind, Option.bind_some, ran]
      · refine List.forall_mem_cons.2 ⟨notBefore, ?_⟩
        intro attempt member
        exact notBefore.trans (forward attempt member)

/-- Below a millisecond nothing is left of the wait, where a call for at most the capacity is refused. -/
def DryOrderRateWindow.WaitIsWhole (window : DryOrderRateWindow) (call : Call) : Prop :=
  call.permits ≤ window.capacity →
    (∀ backoffUntil ∈ window.backoffUntil, backoffUntil.After call.now →
      backoffUntil.nanosecondsSince call.now % 1000000 = 0) ∧
    ((∀ backoffUntil ∈ window.backoffUntil, ¬ backoffUntil.After call.now) → window.windowElapsed call.now = false →
      window.remaining call.now < call.permits → call.now.nanosecondsSince window.windowStartedTs % 1000000 = 0)

instance (window : DryOrderRateWindow) (call : Call) : Decidable (window.WaitIsWhole call) :=
  inferInstanceAs (Decidable (_ → _))

def DryOrderRateWindow.Grants (window : DryOrderRateWindow) (now : DateTimeUtc) (permits : UInt32) : Prop :=
  ∃ after decision, window.tryConsume now permits = some (after, .ok decision)

section Hints

variable {window : DryOrderRateWindow} {call : Call} {later : DateTimeUtc}

/-- A call for at most the capacity is granted where nothing was used, or the window has elapsed. -/
theorem granted_of_unused (ready : window.Ready later) (ordinary : later.Ordinary) {permits : UInt32}
    (fits : permits ≤ window.capacity)
    (passed : ∀ backoffUntil ∈ window.backoffUntil, backoffUntil.clock ≤ later.clock)
    (unused : window.used = 0 ∨ window.windowStartedTs.clock + window.length ≤ later.clock) :
    window.Grants later permits := by
  have nothing : (window.entered later).used = 0 := by
    rcases DryOrderRateWindow.entered_cases ready ordinary with ⟨running, same⟩ | ⟨_, same⟩
    · rw [same]
      exact unused.resolve_right (by omega)
    · rw [same]
  have enough : permits.toNat ≤ window.capacity.toNat := UInt32.le_iff_toNat_le.1 fits
  rcases DryOrderRateWindow.tryConsume_cases ready ordinary permits with
    ⟨backoffUntil, held, early, _⟩ | ⟨_, ⟨exceeds, _⟩ | ⟨_, decision, answers⟩⟩
  · have reached := passed backoffUntil (by rw [held]; rfl)
    omega
  · rw [nothing, DryOrderRateWindow.entered_capacity] at exceeds
    change window.capacity.toNat < 0 + permits.toNat at exceeds
    omega
  · exact ⟨_, decision, answers⟩

/-- The instant a wait leads to. -/
theorem clock_after_wait {now : DateTimeUtc} (ordinary : now.Ordinary) {wait : Int} (forward : 0 ≤ wait)
    (bounded : wait ≤ (2 ^ 63 - 1) * 1000000)
    (reached : now.plusMilliseconds (durationMsFloor wait).toNat = some later) :
    later.clock = now.clock + wait - wait % 1000000 ∧ later.Ordinary := by
  obtain ⟨clock, laterOrdinary⟩ := DateTimeUtc.clock_plusMilliseconds ordinary reached
  rw [durationMsFloor_toNat forward bounded] at clock
  exact ⟨by omega, laterOrdinary⟩

theorem Regular.span_le {first last : DateTimeUtc} (firstRegular : Regular first) (lastRegular : Regular last) :
    last.clock - first.clock ≤ (2 ^ 63 - 1) * 1000000 := by
  obtain ⟨⟨front, _⟩, _⟩ := firstRegular
  obtain ⟨⟨_, back⟩, ordinary⟩ := lastRegular
  unfold DateTimeUtc.Ordinary at ordinary
  unfold DateTimeUtc.minSeconds at front
  unfold DateTimeUtc.maxSeconds at back
  unfold DateTimeUtc.clock
  omega

theorem not_grants_of_backoff (ready : window.Ready later) (ordinary : later.Ordinary) {permits : UInt32}
    {backoffUntil : DateTimeUtc} (held : window.backoffUntil = some backoffUntil)
    (early : later.clock < backoffUntil.clock) : ¬ window.Grants later permits := by
  rintro ⟨after, decision, granted⟩
  rcases DryOrderRateWindow.tryConsume_cases ready ordinary permits with ⟨_, _, _, answers⟩ | ⟨passed, _⟩
  · cases granted.symm.trans answers
  · have reached := passed backoffUntil (by rw [held]; rfl)
    omega

theorem not_grants_of_running (ready : window.Ready later) (ordinary : later.Ordinary) {permits : UInt32}
    (running : later.clock < window.windowStartedTs.clock + window.length)
    (exceeds : window.capacity.toNat < window.used.toNat + permits.toNat) : ¬ window.Grants later permits := by
  rintro ⟨after, decision, granted⟩
  have same : window.entered later = { window with backoffUntil := none } := by
    rcases DryOrderRateWindow.entered_cases ready ordinary with ⟨_, same⟩ | ⟨reached, _⟩
    · exact same
    · omega
  rcases DryOrderRateWindow.tryConsume_cases ready ordinary permits with
    ⟨_, _, _, answers⟩ | ⟨_, ⟨_, answers⟩ | ⟨fits, _⟩⟩
  · cases granted.symm.trans answers
  · cases granted.symm.trans answers
  · rw [same] at fits
    change window.used.toNat + permits.toNat ≤ window.capacity.toNat at fits
    omega

/-- A call refused before the end of the backoff is granted after its wait exactly where that is whole. -/
theorem backoff_hint_iff (ready : window.Ready call.now) (regular : Regular call.now) {backoffUntil : DateTimeUtc}
    (held : window.backoffUntil = some backoffUntil) (early : call.now.clock < backoffUntil.clock)
    (fits : call.permits ≤ window.capacity)
    (reached : call.now.plusMilliseconds (durationMsFloor (backoffUntil.clock - call.now.clock)).toNat = some later) :
    window.WaitIsWhole call ↔ window.Grants later call.permits := by
  have backoffRegular := ready.backoffRegular backoffUntil (by rw [held]; rfl)
  obtain ⟨clock, ordinary⟩ := clock_after_wait regular.2 (by omega) (regular.span_le backoffRegular) reached
  have laterReady := ready.later (by omega : call.now.clock ≤ later.clock)
  have after := (DateTimeUtc.after_iff_clock backoffRegular.2 regular.2).2 early
  have span := DateTimeUtc.nanosecondsSince_eq_clock backoffRegular.2 regular.2
  constructor
  · intro whole
    have rest := (whole fits).1 backoffUntil (by rw [held]; rfl) after
    rw [span] at rest
    refine granted_of_unused laterReady ordinary fits ?_ (.inl (ready.unused (by rw [held]; simp)))
    intro other isOther
    rw [held] at isOther
    cases isOther
    omega
  · intro granted _
    refine ⟨?_, ?_⟩
    · intro other isOther _
      rw [held] at isOther
      cases isOther
      rw [span]
      by_contra below
      exact not_grants_of_backoff laterReady ordinary held (by omega) granted
    · intro passed
      exact absurd after (passed backoffUntil (by rw [held]; rfl))

/-- A call refused for want of permits is granted after its wait exactly where that is whole. -/
theorem exhausted_hint_iff (ready : window.Ready call.now) (regular : Regular call.now)
    (passed : ∀ backoffUntil ∈ window.backoffUntil, backoffUntil.clock ≤ call.now.clock)
    (exceeds : (window.entered call.now).capacity.toNat < (window.entered call.now).used.toNat + call.permits.toNat)
    (fits : call.permits ≤ window.capacity)
    (reached : call.now.plusMilliseconds (durationMsFloor ((window.entered call.now).windowStartedTs.clock +
      (window.entered call.now).length - call.now.clock)).toNat = some later) :
    window.WaitIsWhole call ↔ (window.entered call.now).Grants later call.permits := by
  have enough : call.permits.toNat ≤ window.capacity.toNat := UInt32.le_iff_toNat_le.1 fits
  have enteredReady := DryOrderRateWindow.entered_ready ready regular.2
  -- Where the call starts a window, nothing of its capacity is used.
  have running : call.now.clock < window.windowStartedTs.clock + window.length ∧
      window.entered call.now = { window with backoffUntil := none } := by
    rcases DryOrderRateWindow.entered_cases ready regular.2 with running | ⟨_, same⟩
    · exact running
    · rw [same] at exceeds
      change window.capacity.toNat < 0 + call.permits.toNat at exceeds
      omega
  obtain ⟨running, same⟩ := running
  rw [same] at exceeds reached enteredReady
  have length : ({ window with backoffUntil := none } : DryOrderRateWindow).length = window.length := rfl
  have started := ready.started
  have lengthBound : window.length ≤ (2 ^ 63 - 1) * 1000000 := by
    have small := ready.small
    unfold DryOrderRateWindow.length
    omega
  have wholeLength : window.length % 1000000 = 0 := Int.mul_emod_left _ _
  rw [length] at reached
  dsimp only at exceeds reached
  obtain ⟨clock, ordinary⟩ := clock_after_wait regular.2 (by omega) (by omega) reached
  have laterReady := enteredReady.later (by omega : call.now.clock ≤ later.clock)
  have span := DateTimeUtc.nanosecondsSince_eq_clock regular.2 ready.startOrdinary
  have notActive : ∀ backoffUntil ∈ window.backoffUntil, ¬ backoffUntil.After call.now := by
    intro backoffUntil held before
    have early := (DateTimeUtc.after_iff_clock (ready.backoffRegular backoffUntil held).2 regular.2).1 before
    have late := passed backoffUntil held
    omega
  have notElapsed : window.windowElapsed call.now = false := by
    rw [← Bool.not_eq_true, ready.windowElapsed_iff regular.2]
    omega
  have short : window.remaining call.now < call.permits := by
    have used := ready.used_le
    rw [UInt32.lt_iff_toNat_lt, DryOrderRateWindow.remaining_of_running ready regular.2 running]
    omega
  rw [same]
  constructor
  · intro whole
    have rest := (whole fits).2 notActive notElapsed short
    rw [span] at rest
    refine granted_of_unused laterReady ordinary fits ?_ (.inr ?_)
    · intro other isNone
      cases isNone
    · rw [length]
      dsimp only
      omega
  · intro granted _
    refine ⟨fun backoffUntil held before => absurd before (notActive backoffUntil held), fun _ _ _ => ?_⟩
    rw [span]
    by_contra below
    refine not_grants_of_running laterReady ordinary ?_ exceeds granted
    rw [length]
    dsimp only
    omega

/-- The wait a refusal names is true exactly where it is whole. -/
theorem Attempt.Step.hint_iff {attempt : Attempt} (step : attempt.Step) {hint : UInt64} (named : attempt.hint = some hint)
    (fits : attempt.call.permits ≤ attempt.window.capacity)
    (reached : attempt.call.now.plusMilliseconds hint.toNat = some later) :
    attempt.window.WaitIsWhole attempt.call ↔ attempt.after.Grants later attempt.call.permits := by
  have answered := step.answers
  unfold Attempt.hint at named
  rcases DryOrderRateWindow.tryConsume_cases step.ready step.regular.2 attempt.call.permits with
    ⟨backoffUntil, held, early, answers⟩ | ⟨passed, ⟨exceeds, answers⟩ | ⟨_, decision, answers⟩⟩
  · obtain ⟨isAfter, isAnswer⟩ := Prod.mk.inj (Option.some.inj (answered.symm.trans answers))
    rw [isAnswer] at named
    cases named
    rw [isAfter]
    exact backoff_hint_iff step.ready step.regular held early fits reached
  · obtain ⟨isAfter, isAnswer⟩ := Prod.mk.inj (Option.some.inj (answered.symm.trans answers))
    rw [isAnswer] at named
    cases named
    rw [isAfter]
    exact exhausted_hint_iff step.ready step.regular passed exceeds fits reached
  · obtain ⟨_, isAnswer⟩ := Prod.mk.inj (Option.some.inj (answered.symm.trans answers))
    rw [isAnswer] at named
    cases named

end Hints

section Runs

variable {capacity : UInt32} {windowMs : UInt64} {created : DateTimeUtc} {backoff : Option DateTimeUtc}

/-- The window that is made by `new`, with a backoff or without one. -/
def createdWindow (capacity : UInt32) (windowMs : UInt64) (created : DateTimeUtc) (backoff : Option DateTimeUtc) :
    DryOrderRateWindow :=
  match backoff with
  | some backoffUntil => (DryOrderRateWindow.new capacity windowMs created).withBackoffUntil backoffUntil
  | none => DryOrderRateWindow.new capacity windowMs created

structure KeepsLimits (capacity : UInt32) (windowMs : UInt64) (backoff : Option DateTimeUtc) (attempts : List Attempt) :
    Prop where
  perWindow : ∀ start, grantedTotal (fun attempt => attempt.after.windowStartedTs = start) attempts ≤ capacity.toNat
  perSpan : ∀ since : Int, grantedTotal (fun attempt => since ≤ attempt.call.now.clock ∧
    attempt.call.now.clock ≤ since + max windowMs.toNat 1 * 1000000) attempts ≤ 2 * capacity.toNat
  noneBefore : ∀ backoffUntil ∈ backoff, ∀ attempt ∈ attempts, attempt.granted = true →
    ¬ backoffUntil.After attempt.call.now

/-- The waits that refusals of calls for at most the capacity name are true. -/
def KeepsHints (capacity : UInt32) (attempts : List Attempt) : Prop :=
  ∀ attempt ∈ attempts, attempt.call.permits ≤ capacity → ∀ hint, attempt.hint = some hint → ∀ later,
    attempt.call.now.plusMilliseconds hint.toNat = some later → attempt.after.Grants later attempt.call.permits

theorem createdWindow_ready (small : windowMs.toNat < 2 ^ 63) (ordinary : created.Ordinary)
    (backoffRegular : ∀ backoffUntil ∈ backoff, Regular backoffUntil) :
    (createdWindow capacity windowMs created backoff).Ready created := by
  have ready : (DryOrderRateWindow.new capacity windowMs created).Ready created :=
    DryOrderRateWindow.new_ready small ordinary
  cases backoff with
  | none => exact ready
  | some backoffUntil => exact ready.withBackoffUntil (backoffRegular backoffUntil rfl) rfl

theorem createdWindow_capacity : (createdWindow capacity windowMs created backoff).capacity = capacity := by
  cases backoff <;> rfl

theorem createdWindow_length : (createdWindow capacity windowMs created backoff).length = max windowMs.toNat 1 * 1000000 := by
  have milliseconds : ((max windowMs 1).toNat : Int) * 1000000 = max windowMs.toNat 1 * 1000000 := by
    rw [DryOrderRateWindow.toNat_max_one, Nat.cast_max, Nat.cast_one]
  cases backoff <;> exact milliseconds

theorem createdWindow_backoffUntil : (createdWindow capacity windowMs created backoff).backoffUntil = backoff := by
  cases backoff <;> rfl

/-- Calls in order on a new window run without a panic and keep its limits; their waits are true where nothing
below a millisecond is left of them, and only there. -/
theorem rate_window_limits (small : windowMs.toNat < 2 ^ 63) (createdOrdinary : created.Ordinary)
    (backoffRegular : ∀ backoffUntil ∈ backoff, Regular backoffUntil) {calls : List Call}
    (inOrder : InOrder created calls) (regular : ∀ call ∈ calls, Regular call.now) :
    ∃ attempts, (createdWindow capacity windowMs created backoff).attempts calls = some attempts ∧
      KeepsLimits capacity windowMs backoff attempts ∧
      ((∀ attempt ∈ attempts, attempt.window.WaitIsWhole attempt.call) → KeepsHints capacity attempts) ∧
      ∀ attempt ∈ attempts, ¬ attempt.window.WaitIsWhole attempt.call → ∀ hint, attempt.hint = some hint → ∀ later,
        attempt.call.now.plusMilliseconds hint.toNat = some later →
          ¬ attempt.after.Grants later attempt.call.permits := by
  have ready : (createdWindow capacity windowMs created backoff).Ready created :=
    createdWindow_ready small createdOrdinary backoffRegular
  obtain ⟨attempts, ran, course, _⟩ := exists_attempts ready createdOrdinary inOrder regular
  have capacities := course.capacities
  rw [createdWindow_capacity] at capacities
  refine ⟨attempts, ran, ?_, ?_, ?_⟩
  · have bounded := course.bounded
    rw [createdWindow_capacity] at bounded
    have perWindow : ∀ start, grantedTotal (fun attempt => attempt.after.windowStartedTs = start) attempts ≤
        capacity.toNat := fun start => (Nat.le_add_right _ _).trans (bounded start)
    refine { perWindow := perWindow, perSpan := ?_, noneBefore := ?_ }
    · have spaced := course.spaced
      rw [createdWindow_length] at spaced
      exact spaced.total_span_le perWindow
    · intro backoffUntil held attempt member granted
      have behind := course.behind backoffUntil (by rw [createdWindow_backoffUntil]; exact held) attempt
        (List.mem_filter.2 ⟨member, granted⟩)
      rw [DateTimeUtc.after_iff_clock (backoffRegular backoffUntil held).2 (course.steps attempt member).regular.2]
      omega
  · intro whole attempt member fits hint named later reached
    rw [← capacities attempt member] at fits
    exact ((course.steps attempt member).hint_iff named fits reached).1 (whole attempt member)
  · intro attempt member below hint named later reached granted
    by_cases fits : attempt.call.permits ≤ attempt.window.capacity
    · exact below (((course.steps attempt member).hint_iff named fits reached).2 granted)
    · exact below fun enough => absurd enough fits

end Runs

section Samples

def sampleInstant (nanos : UInt32) : DateTimeUtc where
  seconds := 0
  nanos := nanos

/-- The refusal names 999 ms, after which the same call is refused again. A window of 2^63 ms restarts at every
call, and panics at a call for more than its capacity. -/
theorem rate_window_breaks_limits :
    (∃ window after, (createdWindow 1 1000 (sampleInstant 0) none).tryConsume (sampleInstant 0) 1 =
        some (window, .ok { remaining := 0 }) ∧
      window.tryConsume (sampleInstant 500000) 1 = some (after, .error (.capacityExhausted 999)) ∧
      (sampleInstant 500000).plusMilliseconds 999 = some (sampleInstant 999500000) ∧
      after.tryConsume (sampleInstant 999500000) 1 = some (after, .error (.capacityExhausted 0))) ∧
    ((createdWindow 1 9223372036854775808 (sampleInstant 0) none).attempts
        (List.replicate 3 { now := sampleInstant 0, permits := 1 })).map (fun attempts => attempts.map Attempt.granted) =
      some [true, true, true] ∧
    (createdWindow 1 9223372036854775808 (sampleInstant 0) none).tryConsume (sampleInstant 0) 2 = none := by
  refine ⟨⟨{ createdWindow 1 1000 (sampleInstant 0) none with used := 1 },
    { createdWindow 1 1000 (sampleInstant 0) none with used := 1 }, ?_, ?_, ?_, ?_⟩, ?_, ?_⟩
  all_goals decide

theorem sampleInstant_regular {nanos : UInt32} (small : nanos.toNat < 1000000000) : Regular (sampleInstant nanos) := by
  have first : DateTimeUtc.minSeconds ≤ 0 := by decide
  have last : 0 ≤ DateTimeUtc.maxSeconds := by decide
  exact ⟨⟨first, last⟩, small⟩

/-- One call before the backoff of 2 ms has passed, one when it has, and a last one in the same window. -/
def sampleCalls (last : UInt32) : List Call :=
  [{ now := sampleInstant 0, permits := 1 }, { now := sampleInstant 2000000, permits := 1 },
    { now := sampleInstant last, permits := 1 }]

def sampleWindow : DryOrderRateWindow :=
  createdWindow 1 1000 (sampleInstant 0) (some (sampleInstant 2000000))

/-- At 3 ms all waits named are whole and true; the 996 ms named at 3.5 ms are half a millisecond short. -/
theorem rate_window_limits_sample :
    (∃ attempts, sampleWindow.attempts (sampleCalls 3000000) = some attempts ∧
      attempts.map Attempt.hint = [some 2, none, some 997] ∧
      KeepsLimits 1 1000 (some (sampleInstant 2000000)) attempts ∧ KeepsHints 1 attempts) ∧
    ∃ attempts, sampleWindow.attempts (sampleCalls 3500000) = some attempts ∧
      attempts.map Attempt.hint = [some 2, none, some 996] ∧
      KeepsLimits 1 1000 (some (sampleInstant 2000000)) attempts ∧
      ∀ attempt ∈ attempts, attempt.hint = some 996 → ¬ attempt.after.Grants (sampleInstant 999500000) 1 := by
  have created : Regular (sampleInstant 0) := sampleInstant_regular (by decide)
  have passed : Regular (sampleInstant 2000000) := sampleInstant_regular (by decide)
  have backoff : ∀ backoffUntil ∈ some (sampleInstant 2000000), Regular backoffUntil := by
    intro backoffUntil held
    cases held
    exact passed
  have regular {last : UInt32} (small : last.toNat < 1000000000) : ∀ call ∈ sampleCalls last, Regular call.now := by
    intro call member
    simp only [sampleCalls, List.mem_cons, List.not_mem_nil, or_false] at member
    rcases member with rfl | rfl | rfl
    · exact created
    · exact passed
    · exact sampleInstant_regular small
  constructor
  · obtain ⟨attempts, ran, kept, hints, _⟩ :=
      @rate_window_limits 1 1000 (sampleInstant 0) _ (by decide) created.2 backoff (sampleCalls 3000000)
        ⟨by decide, by decide, by decide, trivial⟩ (regular (by decide))
    have shown : (sampleWindow.attempts (sampleCalls 3000000)).any (fun attempts =>
        decide (attempts.map Attempt.hint = [some 2, none, some 997] ∧
          ∀ attempt ∈ attempts, attempt.window.WaitIsWhole attempt.call)) = true := by decide
    have same : sampleWindow.attempts (sampleCalls 3000000) = some attempts := ran
    rw [same, Option.any_some, decide_eq_true_eq] at shown
    exact ⟨attempts, same, shown.1, kept, hints shown.2⟩
  · obtain ⟨attempts, ran, kept, _, refused⟩ :=
      @rate_window_limits 1 1000 (sampleInstant 0) _ (by decide) created.2 backoff (sampleCalls 3500000)
        ⟨by decide, by decide, by decide, trivial⟩ (regular (by decide))
    have shown : (sampleWindow.attempts (sampleCalls 3500000)).any (fun attempts =>
        decide (attempts.map Attempt.hint = [some 2, none, some 996] ∧
          ∀ attempt ∈ attempts, attempt.hint = some 996 → ¬ attempt.window.WaitIsWhole attempt.call ∧
            attempt.call.now.plusMilliseconds 996 = some (sampleInstant 999500000) ∧
            attempt.call.permits = 1)) = true := by decide
    have same : sampleWindow.attempts (sampleCalls 3500000) = some attempts := ran
    rw [same, Option.any_some, decide_eq_true_eq] at shown
    refine ⟨attempts, same, shown.1, kept, fun attempt member named => ?_⟩
    obtain ⟨below, reached, one⟩ := shown.2 attempt member named
    have short := refused attempt member below 996 named (sampleInstant 999500000) reached
    rwa [one] at short

end Samples

end TradingGateway.BrokerCore.OrderRateWindow
