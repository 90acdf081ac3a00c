import TradingGateway.BrokerCore.BarFinalizer
import TradingGateway.Foundation.Runs

/-! Emitted live bars are final and go up in time, stream by stream; a forming bar that was
held back is emitted, unless a final bar overtakes it. -/

set_option autoImplicit false

namespace TradingGateway.BrokerCore.BarFinalizer

open Orders Bars
open Foundation.Runs

def IncreasesPerStream (emitted : List Bar) : Prop :=
  ∀ key : ClosedBarStreamKey, key.sourceKind = .liveStream →
    (emitted.filter fun bar => ClosedBarStreamKey.fromBar bar = key).Pairwise
        (fun earlier later => later.openTs.After earlier.openTs) ∧
      ∀ bar ∈ emitted, ClosedBarStreamKey.fromBar bar = key → bar.isFinal = true

namespace ClosedBarFinalizer

variable (finalizer : ClosedBarFinalizer)

/-- Nothing was emitted on a stream that opens at some time or later. -/
def Above (key : ClosedBarStreamKey) (openTs : DateTimeUtc) : Prop :=
  ∀ lastOpenTs ∈ finalizer.lastEmittedOpenTsByStream key, openTs.After lastOpenTs

structure Holds (key : ClosedBarStreamKey) (forming : Bar) : Prop where
  buffered : finalizer.formingByStream key = some forming
  above : finalizer.Above key forming.openTs

/-- A forming bar is accepted by being held back, a final one by being emitted. -/
def Accepts (bar : Bar) : Prop :=
  if bar.isFinal then (finalizer.observeBar bar).1.emitted = some bar
  else (finalizer.next bar).formingByStream (.fromBar bar) = some bar

/-- The bar emits a held-back one, with its latest values, or is the final one in its place. -/
def Closes (bar : Bar) (key : ClosedBarStreamKey) (openTs : DateTimeUtc) : Prop :=
  ∃ emitted, (finalizer.observeBar bar).1.emitted = some emitted ∧ ClosedBarStreamKey.fromBar emitted = key ∧
    emitted.openTs = openTs ∧ emitted.isFinal = true ∧
    (emitted = bar ∨ ∃ latest, finalizer.formingByStream key = some latest ∧ emitted = close latest)

/-- A final bar comes while an older bar of its stream is held back. -/
def Overtakes (bar : Bar) : Prop :=
  bar.sourceKind = .liveStream ∧ bar.isFinal = true ∧
    ∃ forming, finalizer.Holds (.fromBar bar) forming ∧ bar.openTs.After forming.openTs

end ClosedBarFinalizer

open ClosedBarFinalizer

/-- Each forming bar that is held back, newer than all its stream emitted, and that an
accepted bar of the stream follows, is emitted by then. -/
def LosesNothing (bars : List Bar) : Prop :=
  ∀ front forming middle later back, bars = front ++ forming :: (middle ++ later :: back) →
    forming.sourceKind = .liveStream → forming.isFinal = false →
    let holding := (front ++ [forming]).foldl ClosedBarFinalizer.next empty
    holding.Holds (.fromBar forming) forming →
    ClosedBarStreamKey.fromBar later = .fromBar forming → later.openTs.After forming.openTs →
    (middle.foldl ClosedBarFinalizer.next holding).Accepts later →
    ∃ before bar after, middle ++ [later] = before ++ bar :: after ∧
      (before.foldl ClosedBarFinalizer.next holding).Closes bar (.fromBar forming) forming.openTs

section Steps

variable {finalizer : ClosedBarFinalizer} {key : ClosedBarStreamKey} {bar forming emitted : Bar}
  {kind : ClosedBarFinalizerActionKind}

theorem fromBar_close (forming : Bar) : ClosedBarStreamKey.fromBar (close forming) = .fromBar forming := rfl

inductive EmitOnce (finalizer : ClosedBarFinalizer) (key : ClosedBarStreamKey) (bar : Bar) :
    Option Bar → ClosedBarFinalizer → Prop where
  | suppressed (stale : ¬ finalizer.Above key bar.openTs) : EmitOnce finalizer key bar none finalizer
  | emitted (above : finalizer.Above key bar.openTs) :
      EmitOnce finalizer key bar (some bar) (finalizer.withLastEmitted key bar.openTs)

theorem emitOnce_spec (finalizer : ClosedBarFinalizer) (key : ClosedBarStreamKey) (bar : Bar)
    (kind : ClosedBarFinalizerActionKind) :
    EmitOnce finalizer key bar (finalizer.emitOnce key bar kind).1.emitted (finalizer.emitOnce key bar kind).2 := by
  unfold emitOnce
  split
  · rename_i stale
    refine .suppressed fun above => ?_
    obtain ⟨lastOpenTs, isLast, notAfter⟩ := stale
    exact notAfter (above lastOpenTs isLast)
  · rename_i fresh
    refine .emitted fun lastOpenTs isLast => ?_
    by_contra notAfter
    exact fresh ⟨lastOpenTs, isLast, notAfter⟩

inductive Observed (finalizer : ClosedBarFinalizer) (bar : Bar) : Option Bar → ClosedBarFinalizer → Prop where
  | notLive (notLive : bar.sourceKind ≠ .liveStream) : Observed finalizer bar (some bar) finalizer
  | final (emitted : Option Bar) (after : ClosedBarFinalizer) (live : bar.sourceKind = .liveStream)
      (isFinal : bar.isFinal = true)
      (once : EmitOnce (finalizer.dropFormingUpTo (.fromBar bar) bar) (.fromBar bar) bar emitted after) :
      Observed finalizer bar emitted after
  | buffered (live : bar.sourceKind = .liveStream) (isForming : bar.isFinal = false)
      (older : ∀ previous ∈ finalizer.formingByStream (.fromBar bar), bar.openTs = previous.openTs) :
      Observed finalizer bar none (finalizer.withForming (.fromBar bar) (some bar))
  | closed (previous : Bar) (emitted : Option Bar) (after : ClosedBarFinalizer) (live : bar.sourceKind = .liveStream)
      (isForming : bar.isFinal = false) (held : finalizer.formingByStream (.fromBar bar) = some previous)
      (newer : bar.openTs.After previous.openTs)
      (once : EmitOnce (finalizer.withForming (.fromBar bar) (some bar)) (.fromBar bar) (close previous) emitted after) :
      Observed finalizer bar emitted after
  | dropped (previous : Bar) (live : bar.sourceKind = .liveStream) (isForming : bar.isFinal = false)
      (held : finalizer.formingByStream (.fromBar bar) = some previous) (older : previous.openTs.After bar.openTs) :
      Observed finalizer bar none finalizer

theorem observed_spec (finalizer : ClosedBarFinalizer) (bar : Bar) :
    Observed finalizer bar (finalizer.observeBar bar).1.emitted (finalizer.next bar) := by
  unfold ClosedBarFinalizer.next observeBar
  by_cases live : bar.sourceKind = .liveStream
  · rw [if_neg (not_not.2 live)]
    cases isFinal : bar.isFinal with
    | true => exact .final _ _ live isFinal (emitOnce_spec ..)
    | false =>
        rw [if_neg (by decide)]
        unfold observeForming
        cases held : finalizer.formingByStream (.fromBar bar) with
        | none => exact .buffered live isFinal (by simp [held])
        | some previous =>
            dsimp only
            split
            · rename_i same
              exact .buffered live isFinal (by simpa [held] using same)
            · rename_i differs
              split
              · rename_i newer
                exact .closed previous _ _ live isFinal held newer (emitOnce_spec ..)
              · rename_i notNewer
                refine .dropped previous live isFinal held ?_
                by_contra notOlder
                exact differs (DateTimeUtc.eq_of_not_after notNewer notOlder)
  · rw [if_pos live]
    exact .notLive live

@[simp] theorem withForming_lastEmitted (held : Option Bar) :
    (finalizer.withForming key held).lastEmittedOpenTsByStream = finalizer.lastEmittedOpenTsByStream := rfl

@[simp] theorem withLastEmitted_forming (openTs : DateTimeUtc) :
    (finalizer.withLastEmitted key openTs).formingByStream = finalizer.formingByStream := rfl

@[simp] theorem dropFormingUpTo_lastEmitted :
    (finalizer.dropFormingUpTo key bar).lastEmittedOpenTsByStream = finalizer.lastEmittedOpenTsByStream := by
  unfold dropFormingUpTo
  split <;> rfl

@[simp] theorem above_withForming (held : Option Bar) (other : ClosedBarStreamKey) (openTs : DateTimeUtc) :
    (finalizer.withForming key held).Above other openTs ↔ finalizer.Above other openTs := Iff.rfl

@[simp] theorem above_dropFormingUpTo (other : ClosedBarStreamKey) (openTs : DateTimeUtc) :
    (finalizer.dropFormingUpTo key bar).Above other openTs ↔ finalizer.Above other openTs := by
  unfold Above
  rw [dropFormingUpTo_lastEmitted]

def FormingSound (finalizer : ClosedBarFinalizer) : Prop :=
  ∀ key forming, finalizer.formingByStream key = some forming →
    ClosedBarStreamKey.fromBar forming = key ∧ forming.isFinal = false

theorem formingSound_empty : FormingSound empty := by
  intro key forming held
  cases held

/-- What is held back was observed last, or was held back before. -/
theorem held_next (held : (finalizer.next bar).formingByStream key = some forming) :
    (forming = bar ∧ ClosedBarStreamKey.fromBar bar = key ∧ bar.isFinal = false) ∨
      finalizer.formingByStream key = some forming := by
  have inserted : ∀ {other : Option Bar}, Function.update finalizer.formingByStream (.fromBar bar) other key = some forming →
      (other = some forming ∧ ClosedBarStreamKey.fromBar bar = key) ∨ finalizer.formingByStream key = some forming := by
    intro other isHeld
    by_cases same : key = .fromBar bar
    · subst same
      rw [Function.update_self] at isHeld
      exact .inl ⟨isHeld, rfl⟩
    · rw [Function.update_of_ne same] at isHeld
      exact .inr isHeld
  have spec := observed_spec finalizer bar
  revert held spec
  generalize finalizer.next bar = reached
  generalize (finalizer.observeBar bar).1.emitted = out
  intro held spec
  cases spec with
  | notLive => exact .inr held
  | final _ _ live isFinal once =>
      have dropped : (finalizer.dropFormingUpTo (.fromBar bar) bar).formingByStream key = some forming := by
        cases once with
        | suppressed => exact held
        | emitted => exact held
      unfold dropFormingUpTo at dropped
      split at dropped
      · obtain ⟨absurd, -⟩ | earlier := inserted dropped
        · cases absurd
        · exact .inr earlier
      · exact .inr dropped
  | buffered live isForming older =>
      obtain ⟨isBar, sameKey⟩ | earlier := inserted held
      · exact .inl ⟨(Option.some.inj isBar).symm, sameKey, isForming⟩
      · exact .inr earlier
  | closed previous _ _ live isForming isHeld newer once =>
      have kept : Function.update finalizer.formingByStream (.fromBar bar) (some bar) key = some forming := by
        cases once with
        | suppressed => exact held
        | emitted => exact held
      obtain ⟨isBar, sameKey⟩ | earlier := inserted kept
      · exact .inl ⟨(Option.some.inj isBar).symm, sameKey, isForming⟩
      · exact .inr earlier
  | dropped previous => exact .inr held

theorem FormingSound.next (sound : FormingSound finalizer) (bar : Bar) : FormingSound (finalizer.next bar) := by
  intro key forming held
  obtain ⟨rfl, sameKey, isForming⟩ | earlier := held_next held
  · exact ⟨sameKey, isForming⟩
  · exact sound key forming earlier

/-- An emitted live bar is final, newer than all its stream emitted, and the last it emitted. -/
theorem emitted_live (sound : FormingSound finalizer) (isEmitted : (finalizer.observeBar bar).1.emitted = some emitted)
    (live : emitted.sourceKind = .liveStream) :
    emitted.isFinal = true ∧ finalizer.Above (.fromBar emitted) emitted.openTs ∧
      (finalizer.next bar).lastEmittedOpenTsByStream =
        Function.update finalizer.lastEmittedOpenTsByStream (.fromBar emitted) (some emitted.openTs) := by
  have spec := observed_spec finalizer bar
  rw [isEmitted] at spec
  revert spec
  generalize finalizer.next bar = reached
  intro spec
  cases spec with
  | notLive notLive => exact absurd live notLive
  | final _ _ isLive isFinal once =>
      cases once with
      | emitted above => exact ⟨isFinal, by simpa using above, by simp [withLastEmitted]⟩
  | closed previous _ _ isLive isForming held newer once =>
      have sameKey := (sound _ _ held).1
      cases once with
      | emitted above =>
          rw [fromBar_close, sameKey]
          exact ⟨rfl, by simpa using above, rfl⟩

/-- Where no live bar is emitted, no stream has a new last emission. -/
theorem lastEmitted_of_none (silent : ∀ emitted, (finalizer.observeBar bar).1.emitted = some emitted →
    emitted.sourceKind ≠ .liveStream) (sound : FormingSound finalizer) :
    (finalizer.next bar).lastEmittedOpenTsByStream = finalizer.lastEmittedOpenTsByStream := by
  have spec := observed_spec finalizer bar
  revert silent spec
  generalize finalizer.next bar = reached
  generalize (finalizer.observeBar bar).1.emitted = out
  intro silent spec
  cases spec with
  | notLive => rfl
  | final _ _ isLive isFinal once =>
      cases once with
      | suppressed => simp
      | emitted => exact absurd isLive (silent bar rfl)
  | buffered => rfl
  | closed previous _ _ isLive isForming held newer once =>
      cases once with
      | suppressed => rfl
      | emitted =>
          have sameKey := (sound _ _ held).1
          have isPrevious : previous.sourceKind = .liveStream :=
            (congrArg ClosedBarStreamKey.sourceKind sameKey).trans isLive
          exact absurd isPrevious (silent (close previous) rfl)
  | dropped => rfl

/-- The last emission of a stream stays, or is the live bar emitted now. -/
theorem lastEmitted_next (sound : FormingSound finalizer) (bar : Bar) (key : ClosedBarStreamKey) :
    (finalizer.next bar).lastEmittedOpenTsByStream key = finalizer.lastEmittedOpenTsByStream key ∨
      ∃ emitted, (finalizer.observeBar bar).1.emitted = some emitted ∧ ClosedBarStreamKey.fromBar emitted = key ∧
        (finalizer.next bar).lastEmittedOpenTsByStream key = some emitted.openTs ∧
        finalizer.Above key emitted.openTs := by
  by_cases silent : ∀ emitted, (finalizer.observeBar bar).1.emitted = some emitted → emitted.sourceKind ≠ .liveStream
  · exact .inl (congrFun (lastEmitted_of_none silent sound) key)
  · simp only [not_forall, not_not] at silent
    obtain ⟨emitted, isEmitted, live⟩ := silent
    obtain ⟨-, above, isLast⟩ := emitted_live sound isEmitted live
    rw [isLast]
    by_cases same : key = .fromBar emitted
    · subst same
      exact .inr ⟨emitted, isEmitted, rfl, Function.update_self .., above⟩
    · exact .inl (Function.update_of_ne same ..)

/-- What is newer than all a stream has emitted was so before. -/
theorem above_of_next (sound : FormingSound finalizer) {openTs : DateTimeUtc}
    (above : (finalizer.next bar).Above key openTs) : finalizer.Above key openTs := by
  intro lastOpenTs isLast
  obtain same | ⟨emitted, -, -, isEmitted, newer⟩ := lastEmitted_next sound bar key
  · exact above lastOpenTs (same ▸ isLast)
  · exact (above emitted.openTs isEmitted).trans (newer lastOpenTs isLast)

theorem above_of_foldl (sound : FormingSound finalizer) {bars : List Bar} {openTs : DateTimeUtc}
    (above : (bars.foldl ClosedBarFinalizer.next finalizer).Above key openTs) : finalizer.Above key openTs := by
  induction bars generalizing finalizer with
  | nil => exact above
  | cons bar bars ih => exact above_of_next sound (ih (sound.next bar) above)

theorem FormingSound.foldl (sound : FormingSound finalizer) (bars : List Bar) :
    FormingSound (bars.foldl ClosedBarFinalizer.next finalizer) := by
  induction bars generalizing finalizer with
  | nil => exact sound
  | cons bar bars ih => exact ih (sound.next bar)

/-- The bars of a live stream come out in order, above what it emitted before. -/
theorem emittedBars_live (sound : FormingSound finalizer) (live : key.sourceKind = .liveStream) (bars : List Bar) :
    ((finalizer.emittedBars bars).filter fun bar => ClosedBarStreamKey.fromBar bar = key).Pairwise
        (fun earlier later => later.openTs.After earlier.openTs) ∧
      ∀ bar ∈ finalizer.emittedBars bars, ClosedBarStreamKey.fromBar bar = key →
        bar.isFinal = true ∧ finalizer.Above key bar.openTs := by
  induction bars generalizing finalizer with
  | nil => exact ⟨.nil, fun _ absurd => by cases absurd⟩
  | cons bar bars ih =>
      obtain ⟨ordered, later⟩ := ih (sound.next bar)
      unfold emittedBars
      cases isEmitted : (finalizer.observeBar bar).1.emitted with
      | none =>
          refine ⟨by simpa using ordered, ?_⟩
          intro other member sameKey
          obtain ⟨isFinal, above⟩ := later other (by simpa using member) sameKey
          exact ⟨isFinal, above_of_next sound above⟩
      | some emitted =>
          have own : ClosedBarStreamKey.fromBar emitted = key → emitted.isFinal = true ∧
              finalizer.Above key emitted.openTs ∧
              (finalizer.next bar).lastEmittedOpenTsByStream key = some emitted.openTs := by
            rintro rfl
            obtain ⟨isFinal, above, isLast⟩ := emitted_live sound isEmitted live
            exact ⟨isFinal, above, by rw [isLast, Function.update_self]⟩
          constructor
          · rw [Option.toList_some, List.singleton_append, List.filter_cons]
            split
            · rename_i sameKey
              refine .cons ?_ ordered
              intro other member
              obtain ⟨inLater, otherKey⟩ := List.mem_filter.1 member
              exact (later other inLater (by simpa using otherKey)).2 _ (own (by simpa using sameKey)).2.2
            · exact ordered
          · intro other member sameKey
            rw [Option.toList_some, List.singleton_append, List.mem_cons] at member
            obtain rfl | inLater := member
            · exact ⟨(own sameKey).1, (own sameKey).2.1⟩
            · obtain ⟨isFinal, above⟩ := later other inLater sameKey
              exact ⟨isFinal, above_of_next sound above⟩

theorem increasesPerStream_emittedBars (bars : List Bar) : IncreasesPerStream (empty.emittedBars bars) := by
  intro key live
  obtain ⟨ordered, isFinal⟩ := emittedBars_live formingSound_empty live bars
  exact ⟨ordered, fun bar member sameKey => (isFinal bar member sameKey).1⟩

theorem dropFormingUpTo_of_newer (held : finalizer.formingByStream key = some forming)
    (newer : forming.openTs.After bar.openTs) : finalizer.dropFormingUpTo key bar = finalizer := by
  unfold dropFormingUpTo
  rw [if_neg]
  rintro ⟨_, isHeld, notAfter⟩
  cases held.symm.trans isHeld
  exact notAfter newer

/-- A bar leaves the other streams alone. -/
theorem next_other_key (differs : ClosedBarStreamKey.fromBar bar ≠ key) :
    (finalizer.next bar).formingByStream key = finalizer.formingByStream key ∧
      (finalizer.next bar).lastEmittedOpenTsByStream key = finalizer.lastEmittedOpenTsByStream key := by
  have spec := observed_spec finalizer bar
  revert spec
  generalize finalizer.next bar = reached
  generalize (finalizer.observeBar bar).1.emitted = out
  intro spec
  have dropped : (finalizer.dropFormingUpTo (.fromBar bar) bar).formingByStream key = finalizer.formingByStream key := by
    unfold dropFormingUpTo
    split
    · exact Function.update_of_ne (Ne.symm differs) ..
    · rfl
  cases spec with
  | notLive => exact ⟨rfl, rfl⟩
  | final _ _ live isFinal once =>
      cases once with
      | suppressed => exact ⟨dropped, by simp⟩
      | emitted => exact ⟨dropped, by simp [withLastEmitted, Function.update_of_ne (Ne.symm differs)]⟩
  | buffered => exact ⟨Function.update_of_ne (Ne.symm differs) .., rfl⟩
  | closed previous _ _ live isForming held newer once =>
      cases once with
      | suppressed => exact ⟨Function.update_of_ne (Ne.symm differs) .., rfl⟩
      | emitted =>
          exact ⟨Function.update_of_ne (Ne.symm differs) .., Function.update_of_ne (Ne.symm differs) ..⟩
  | dropped => exact ⟨rfl, rfl⟩

/-- A held-back bar stays, with its latest values, until a bar closes it. -/
theorem holds_or_closes (holds : finalizer.Holds key forming) (sound : FormingSound finalizer)
    (live : key.sourceKind = .liveStream) (notOvertaken : ¬ finalizer.Overtakes bar) :
    (∃ latest, (finalizer.next bar).Holds key latest ∧ latest.openTs = forming.openTs) ∨
      finalizer.Closes bar key forming.openTs := by
  by_cases sameKey : ClosedBarStreamKey.fromBar bar = key
  · subst sameKey
    have spec := observed_spec finalizer bar
    generalize finalizer.next bar = reached at spec ⊢
    generalize isOut : (finalizer.observeBar bar).1.emitted = out at spec
    cases spec with
    | notLive notLive => exact absurd live notLive
    | final _ _ _ isFinal once =>
        have notNewer : ¬ bar.openTs.After forming.openTs :=
          fun newer => notOvertaken ⟨live, isFinal, forming, holds, newer⟩
        by_cases older : forming.openTs.After bar.openTs
        · rw [dropFormingUpTo_of_newer holds.buffered older] at once
          left
          cases once with
          | suppressed => exact ⟨forming, holds, rfl⟩
          | emitted above =>
              refine ⟨forming, ⟨holds.buffered, ?_⟩, rfl⟩
              intro lastOpenTs isLast
              simp only [withLastEmitted, Function.update_self, Option.mem_some_iff] at isLast
              exact isLast ▸ older
        · have same := DateTimeUtc.eq_of_not_after notNewer older
          right
          cases once with
          | suppressed stale =>
              rw [above_dropFormingUpTo, same] at stale
              exact absurd holds.above stale
          | emitted above => exact ⟨bar, isOut, rfl, same, isFinal, .inl rfl⟩
    | buffered _ isForming older =>
        have same := older forming holds.buffered
        refine .inl ⟨bar, ⟨Function.update_self .., ?_⟩, same⟩
        rw [above_withForming, same]
        exact holds.above
    | closed previous _ _ _ isForming held newer once =>
        cases held.symm.trans holds.buffered
        right
        cases once with
        | suppressed stale => exact absurd holds.above stale
        | emitted above =>
            exact ⟨close forming, isOut, (sound _ _ held).1, rfl, rfl, .inr ⟨forming, held, rfl⟩⟩
    | dropped => exact .inl ⟨forming, holds, rfl⟩
  · obtain ⟨sameForming, sameLast⟩ := next_other_key sameKey
    refine .inl ⟨forming, ⟨by rw [sameForming, holds.buffered], ?_⟩, rfl⟩
    intro lastOpenTs isLast
    rw [sameLast] at isLast
    exact holds.above lastOpenTs isLast

/-- A newer bar of the stream that does not overtake the held-back one closes it. -/
theorem closes_of_newer (holds : finalizer.Holds (.fromBar bar) forming) (sound : FormingSound finalizer)
    (live : bar.sourceKind = .liveStream) (newer : bar.openTs.After forming.openTs)
    (notOvertaken : ¬ finalizer.Overtakes bar) : finalizer.Closes bar (.fromBar bar) forming.openTs := by
  obtain ⟨latest, stays, same⟩ | closes := holds_or_closes holds sound live notOvertaken
  · have spec := observed_spec finalizer bar
    generalize finalizer.next bar = reached at spec stays
    generalize isOut : (finalizer.observeBar bar).1.emitted = out at spec
    cases spec with
    | notLive notLive => exact absurd live notLive
    | final _ _ _ isFinal once => exact absurd ⟨live, isFinal, forming, holds, newer⟩ notOvertaken
    | buffered _ isForming older =>
        rw [older forming holds.buffered] at newer
        exact absurd newer (DateTimeUtc.after_irrefl _)
    | closed previous _ _ _ isForming held _ once =>
        cases held.symm.trans holds.buffered
        cases once with
        | suppressed stale => exact absurd holds.above stale
        | emitted above =>
            exact ⟨close forming, isOut, (sound _ _ held).1, rfl, rfl, .inr ⟨forming, held, rfl⟩⟩
    | dropped previous _ isForming held older =>
        cases held.symm.trans holds.buffered
        exact absurd newer older.asymm
  · exact closes

/-- A held-back bar is closed by the time a newer bar of its stream comes. -/
theorem closes_within (holds : finalizer.Holds key forming) (sound : FormingSound finalizer)
    (live : key.sourceKind = .liveStream) {middle : List Bar} {later : Bar}
    (sameKey : ClosedBarStreamKey.fromBar later = key) (newer : later.openTs.After forming.openTs)
    (notOvertaken : EveryStep ClosedBarFinalizer.next (fun finalizer bar => ¬ finalizer.Overtakes bar) finalizer
      (middle ++ [later])) :
    ∃ before bar after, middle ++ [later] = before ++ bar :: after ∧
      (before.foldl ClosedBarFinalizer.next finalizer).Closes bar key forming.openTs := by
  induction middle generalizing finalizer forming with
  | nil =>
      subst sameKey
      exact ⟨[], later, [], rfl, closes_of_newer holds sound live newer notOvertaken.1⟩
  | cons bar middle ih =>
      obtain ⟨first, rest⟩ := notOvertaken
      obtain ⟨latest, stays, same⟩ | closes := holds_or_closes holds sound live first
      · obtain ⟨before, closing, after, split, isClosed⟩ := ih stays (sound.next bar) (same ▸ newer) rest
        exact ⟨bar :: before, closing, after, by rw [List.cons_append, split]; rfl, same ▸ isClosed⟩
      · exact ⟨[], bar, middle ++ [later], rfl, closes⟩

/-- What is held back was observed at some time, and held back since. -/
theorem origin_of_held {bars : List Bar}
    (held : (bars.foldl ClosedBarFinalizer.next empty).formingByStream key = some forming) :
    ∃ front middle, bars = front ++ forming :: middle ∧
      ((front ++ [forming]).foldl ClosedBarFinalizer.next empty).formingByStream key = some forming := by
  induction bars using List.reverseRecOn with
  | nil => cases held
  | append_singleton bars bar ih =>
      rw [List.foldl_append] at held
      obtain ⟨rfl, -, -⟩ | earlier := held_next held
      · refine ⟨bars, [], rfl, ?_⟩
        rw [List.foldl_append]
        exact held
      · obtain ⟨front, middle, rfl, isHeld⟩ := ih earlier
        exact ⟨front, middle ++ [bar], by simp, isHeld⟩

/-- What was emitted is not newer than all that was emitted. -/
theorem not_above_of_closes (sound : FormingSound finalizer) (live : key.sourceKind = .liveStream)
    {openTs : DateTimeUtc} (closes : finalizer.Closes bar key openTs) (bars : List Bar) :
    ¬ (bars.foldl ClosedBarFinalizer.next (finalizer.next bar)).Above key openTs := by
  obtain ⟨emitted, isEmitted, rfl, rfl, -, -⟩ := closes
  obtain ⟨-, -, isLast⟩ := emitted_live sound isEmitted live
  intro above
  have earlier := above_of_foldl (sound.next bar) above
  exact DateTimeUtc.after_irrefl _ (earlier _ (by rw [isLast, Function.update_self]; rfl))

end Steps

theorem losesNothing_of_notOvertaken {bars : List Bar}
    (notOvertaken : EveryStep ClosedBarFinalizer.next (fun finalizer bar => ¬ finalizer.Overtakes bar) empty bars) :
    LosesNothing bars := by
  intro front forming middle later back split live isForming holding holds sameKey newer _
  refine closes_within holds (formingSound_empty.foldl _) live sameKey newer ?_
  rw [everyStep_iff_split] at notOvertaken ⊢
  rintro before bar after splitLater
  have whole : bars = (front ++ forming :: before) ++ bar :: (after ++ back) := by
    rw [split]
    have joined := congrArg (fun part => front ++ forming :: (part ++ back)) splitLater
    simpa using joined
  have step := notOvertaken _ _ _ whole
  rwa [show front ++ forming :: before = (front ++ [forming]) ++ before by simp, List.foldl_append] at step

/-- An overtaken bar is lost: nothing emitted up to then opens when it does. -/
theorem notOvertaken_of_losesNothing {bars : List Bar} (losesNothing : LosesNothing bars) :
    EveryStep ClosedBarFinalizer.next (fun finalizer bar => ¬ finalizer.Overtakes bar) empty bars := by
  rw [everyStep_iff_split]
  rintro before later back split ⟨live, isFinal, forming, holds, newer⟩
  obtain ⟨front, middle, rfl, held⟩ := origin_of_held holds.buffered
  obtain ⟨sameKey, isForming⟩ := formingSound_empty.foldl _ _ _ held
  have folded : (front ++ forming :: middle).foldl ClosedBarFinalizer.next empty =
      middle.foldl ClosedBarFinalizer.next ((front ++ [forming]).foldl ClosedBarFinalizer.next empty) := by
    rw [show front ++ forming :: middle = (front ++ [forming]) ++ middle by simp, List.foldl_append]
  have formingLive : forming.sourceKind = .liveStream :=
    (congrArg ClosedBarStreamKey.sourceKind sameKey).trans live
  have above : ((front ++ [forming]).foldl ClosedBarFinalizer.next empty).Above (.fromBar later) forming.openTs := by
    apply above_of_foldl (formingSound_empty.foldl _)
    rw [← folded]
    exact holds.above
  have emits : (((front ++ forming :: middle).foldl ClosedBarFinalizer.next empty).observeBar later).1.emitted =
      some later := by
    have fresh : ((front ++ forming :: middle).foldl ClosedBarFinalizer.next empty).Above (.fromBar later)
        later.openTs := fun lastOpenTs isLast => newer.trans (holds.above lastOpenTs isLast)
    have spec := observed_spec ((front ++ forming :: middle).foldl ClosedBarFinalizer.next empty) later
    generalize ((front ++ forming :: middle).foldl ClosedBarFinalizer.next empty).next later = reached at spec
    generalize (((front ++ forming :: middle).foldl ClosedBarFinalizer.next empty).observeBar later).1.emitted = out
      at spec ⊢
    cases spec with
    | notLive => rfl
    | final _ _ _ _ once =>
        cases once with
        | suppressed stale => exact absurd fresh (by simpa using stale)
        | emitted => rfl
    | buffered _ notFinal => cases isFinal.symm.trans notFinal
    | closed _ _ _ _ notFinal => cases isFinal.symm.trans notFinal
    | dropped _ _ notFinal => cases isFinal.symm.trans notFinal
  obtain ⟨before, bar, after, splitMiddle, closes⟩ := losesNothing front forming middle later back
    (by rw [split]; simp) formingLive isForming ⟨sameKey ▸ held, sameKey ▸ above⟩ sameKey.symm newer
    (by
      unfold Accepts
      rw [isFinal, ← folded]
      exact emits)
  obtain rfl | ⟨rest, last, rfl⟩ := List.eq_nil_or_concat after
  · obtain ⟨rfl, sameBar⟩ := List.append_inj' splitMiddle rfl
    cases sameBar
    obtain ⟨emitted, isEmitted, -, sameOpen, -, -⟩ := closes
    rw [← folded, emits] at isEmitted
    cases isEmitted
    rw [sameOpen] at newer
    exact DateTimeUtc.after_irrefl _ newer
  · rw [List.concat_eq_append, ← List.cons_append, ← List.append_assoc] at splitMiddle
    obtain ⟨rfl, -⟩ := List.append_inj' splitMiddle rfl
    have atLater := holds.above
    rw [folded, List.foldl_append, List.foldl_cons, ← sameKey] at atLater
    exact not_above_of_closes ((formingSound_empty.foldl _).foldl before) formingLive closes rest atLater

/-- Whatever bars come, the emitted live bars go up in time, and no held-back bar is lost
exactly when no final bar overtakes one. -/
theorem finalizer_lossless_iff (bars : List Bar) :
    (IncreasesPerStream (empty.emittedBars bars) ∧ LosesNothing bars) ↔
      EveryStep ClosedBarFinalizer.next (fun finalizer bar => ¬ finalizer.Overtakes bar) empty bars :=
  ⟨fun kept => notOvertaken_of_losesNothing kept.2,
    fun notOvertaken => ⟨increasesPerStream_emittedBars bars, losesNothing_of_notOvertaken notOvertaken⟩⟩

def sampleMinute (minute : Int) (isFinal : Bool) : Bar :=
  { instrument := {
      symbol := "IMOEXF"
      venueSymbol := some "IMOEXF@RTSX"
      exchange := .moex
      market := .futures }
    sourceKind := .liveStream
    timeframeSec := 60
    openTs := { seconds := 60 * minute, nanos := 0 }
    closeTs := { seconds := 60 * minute + 60, nanos := 0 }
    «open» := .zero
    high := .zero
    low := .zero
    close := .zero
    volume := .zero
    isFinal := isFinal }

/-- The final bar of a minute comes while the forming bar of the minute before is held back. -/
theorem overtaken_minute_is_lost :
    ¬ ∀ bars, IncreasesPerStream (empty.emittedBars bars) ∧ LosesNothing bars := by
  intro claim
  obtain ⟨-, losesNothing⟩ := claim [sampleMinute 55 false, sampleMinute 56 true]
  have steps := notOvertaken_of_losesNothing losesNothing
  refine steps.2.1 ⟨rfl, rfl, sampleMinute 55 false, ⟨by decide, ?_⟩, by decide⟩
  intro lastOpenTs isLast
  revert isLast
  have noneYet : (empty.next (sampleMinute 55 false)).lastEmittedOpenTsByStream
      (.fromBar (sampleMinute 56 true)) = none := by decide
  rw [noneYet]
  exact fun absurd => by cases absurd

end TradingGateway.BrokerCore.BarFinalizer
