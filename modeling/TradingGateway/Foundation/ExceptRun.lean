import Mathlib.Data.List.Forall2
import Mathlib.Data.List.Induction

/-! Inversion and induction rules for fallible runs: guards, binds and folds in `Except`. -/

set_option autoImplicit false

namespace TradingGateway.Foundation.ExceptRun

/-- Stop with `error` when `condition` holds, and do nothing otherwise. -/
def rejectIf {Error : Type} (condition : Prop) [Decidable condition] (error : Error) :
    Except Error Unit :=
  if condition then .error error else .ok ()

def orReject {Error Value : Type} (source : Option Value) (error : Error) : Except Error Value :=
  match source with
  | some value => .ok value
  | none => .error error

@[simp] theorem rejectIf_ok_iff {Error : Type} (condition : Prop) [Decidable condition]
    (error : Error) (result : Unit) : rejectIf condition error = .ok result ↔ ¬ condition := by
  unfold rejectIf
  split <;> simp_all

theorem rejectIf_congr {Error : Type} {left right : Prop} [Decidable left] [Decidable right]
    (error : Error) (same : left ↔ right) : rejectIf left error = rejectIf right error := by
  simp [rejectIf, same]

theorem rejectIf_of_not {Error : Type} {condition : Prop} [Decidable condition] (error : Error)
    (absent : ¬ condition) : rejectIf condition error = .ok () := by
  simp [absent]

@[simp] theorem orReject_ok_iff {Error Value : Type} (source : Option Value) (error : Error)
    (value : Value) : orReject source error = .ok value ↔ source = some value := by
  cases source <;> simp [orReject]

/-- A bind succeeds exactly when both of its halves do. -/
@[simp] theorem bind_ok_iff {Error Value Result : Type} {source : Except Error Value}
    {continuation : Value → Except Error Result} {result : Result} :
    source >>= continuation = .ok result ↔
      ∃ value, source = .ok value ∧ continuation value = .ok result := by
  cases source with
  | error error => simp [bind, Except.bind]
  | ok value => simp [bind, Except.bind]

/-- A check passes on its unit value, and the rest runs after it. -/
@[simp 1100] theorem check_bind_ok_iff {Error Result : Type} {check : Except Error Unit}
    {continuation : Unit → Except Error Result} {result : Result} :
    check >>= continuation = .ok result ↔ check = .ok () ∧ continuation () = .ok result := by
  rw [bind_ok_iff]
  constructor
  · rintro ⟨⟨⟩, passed, continued⟩
    exact ⟨passed, continued⟩
  · rintro ⟨passed, continued⟩
    exact ⟨(), passed, continued⟩

@[simp] theorem ok_bind {Error Value Result : Type} (value : Value)
    (continuation : Value → Except Error Result) :
    (Except.ok value : Except Error Value) >>= continuation = continuation value := rfl

@[simp] theorem error_bind {Error Value Result : Type} (error : Error)
    (continuation : Value → Except Error Result) :
    (Except.error error : Except Error Value) >>= continuation = .error error := rfl

@[simp] theorem pure_ok_iff {Error Value : Type} (value result : Value) :
    (pure value : Except Error Value) = .ok result ↔ value = result := by
  simp [pure, Except.pure]

@[simp] theorem map_ok_iff {Error Value Result : Type} (convert : Value → Result)
    (source : Except Error Value) (result : Result) :
    convert <$> source = .ok result ↔ ∃ value, source = .ok value ∧ convert value = result := by
  cases source <;> simp [Functor.map, Except.map]

@[simp] theorem mapError_ok_iff {Error Other Value : Type} (convert : Error → Other)
    (source : Except Error Value) (value : Value) :
    source.mapError convert = .ok value ↔ source = .ok value := by
  cases source <;> simp [Except.mapError]

/-- A bind fails where its first half does, or else where its second half does. -/
theorem bind_error_iff {Error Value Result : Type} {source : Except Error Value}
    {continuation : Value → Except Error Result} {error : Error} :
    source >>= continuation = .error error ↔
      source = .error error ∨ ∃ value, source = .ok value ∧ continuation value = .error error := by
  cases source with
  | error other => simp [bind, Except.bind]
  | ok value => simp [bind, Except.bind]

theorem mapError_error_iff {Error Other Value : Type} {convert : Error → Other} {source : Except Error Value}
    {other : Other} : source.mapError convert = .error other ↔ ∃ error, source = .error error ∧ convert error = other := by
  cases source <;> simp [Except.mapError]

theorem rejectIf_error_iff {Error : Type} {condition : Prop} [Decidable condition] {error other : Error} :
    rejectIf condition error = .error other ↔ condition ∧ error = other := by
  unfold rejectIf
  split <;> simp_all

theorem exists_ok_of_isOk {Error Value : Type} {source : Except Error Value} (succeeds : source.isOk = true) :
    ∃ value, source = .ok value := by
  cases source with
  | error error => cases succeeds
  | ok value => exact ⟨value, rfl⟩

@[simp] theorem toOption_eq_some_iff {Error Value : Type} {source : Except Error Value} {value : Value} :
    source.toOption = some value ↔ source = .ok value := by
  cases source <;> simp [Except.toOption]

theorem orReject_bind_of_some {Error Value Result : Type} {source : Option Value} {value : Value}
    (found : source = some value) (error : Error) (continuation : Value → Except Error Result) :
    orReject source error >>= continuation = continuation value := by
  rw [found]
  rfl

section Folds

variable {Error Item State : Type} {step : State → Item → Except Error State}

theorem foldlM_append_ok_iff (front back : List Item) (start final : State) :
    (front ++ back).foldlM step start = .ok final ↔
      ∃ middle, front.foldlM step start = .ok middle ∧ back.foldlM step middle = .ok final := by
  simp [List.foldlM_append]

theorem foldlM_singleton (item : Item) (start : State) :
    [item].foldlM step start = step start item := by
  simp

/-- The run rule. A property of the history consumed so far and of the state
reached holds of the whole run if it holds at the start and each step keeps it. -/
theorem foldlM_induction (invariant : List Item → State → Prop) {start final : State}
    (initial : invariant [] start)
    (next : ∀ history state item updated,
      invariant history state → step state item = .ok updated →
        invariant (history ++ [item]) updated)
    {items : List Item} (success : items.foldlM step start = .ok final) :
    invariant items final := by
  induction items using List.reverseRecOn generalizing final with
  | nil =>
      have same : start = final := by simpa using success
      exact same ▸ initial
  | append_singleton history item ih =>
      obtain ⟨middle, ran, stepped⟩ := (foldlM_append_ok_iff ..).1 success
      exact next history middle item final (ih ran) (by simpa using stepped)

/-- A list is read through exactly when each of its items is. -/
theorem mapM_ok_iff {Value : Type} {read : Item → Except Error Value} {items : List Item} {values : List Value} :
    items.mapM read = .ok values ↔ List.Forall₂ (fun item value => read item = .ok value) items values := by
  induction items generalizing values with
  | nil => cases values <;> simp
  | cons item rest ih =>
      rw [List.mapM_cons]
      cases values with
      | nil => simp
      | cons value values => simp [← ih]

theorem exists_mapM_ok {Value : Type} {read : Item → Except Error Value} {items : List Item}
    (reads : ∀ item ∈ items, ∃ value, read item = .ok value) : ∃ values, items.mapM read = .ok values := by
  induction items with
  | nil => exact ⟨[], rfl⟩
  | cons item rest ih =>
      obtain ⟨value, isRead⟩ := reads item List.mem_cons_self
      obtain ⟨values, areRead⟩ := ih fun other member => reads other (List.mem_cons_of_mem _ member)
      rw [List.mapM_cons, isRead, ok_bind, areRead]
      exact ⟨value :: values, rfl⟩

theorem forM_ok_iff {check : Item → Except Error Unit} {items : List Item} :
    items.forM check = .ok () ↔ ∀ item ∈ items, check item = .ok () := by
  induction items with
  | nil => simp
  | cons item rest ih =>
      rw [List.forall_mem_cons]
      refine Iff.trans check_bind_ok_iff ?_
      exact and_congr_right fun _ => ih

/-- Reading the items of a list one by one, and then stepping, is stepping through what they read as. -/
theorem foldlM_reading {Value : Type} {read : Item → Except Error Value} {step : State → Value → Except Error State}
    {items : List Item} {values : List Value} (reads : List.Forall₂ (fun item value => read item = .ok value) items values)
    (start : State) : items.foldlM (fun state item => do step state (← read item)) start = values.foldlM step start := by
  induction reads generalizing start with
  | nil => rfl
  | @cons item value items values isRead _ ih =>
      rw [List.foldlM_cons, List.foldlM_cons, isRead, ok_bind]
      cases step start value with
      | error error => rfl
      | ok next => exact ih next

end Folds

section Simulation

variable {Error OtherError Value Other Result OtherResult : Type}
variable {related : Value → Other → Prop} {convert : Error → OtherError}

/-- The right computation follows the left one: with a related result where the
left succeeds, and with the converted error where it fails. -/
def Follows (related : Value → Other → Prop) (convert : Error → OtherError)
    (left : Except Error Value) (right : Except OtherError Other) : Prop :=
  match left with
  | .ok value => ∃ other, right = .ok other ∧ related value other
  | .error error => right = .error (convert error)

theorem Follows.of_ok {value : Value} {other : Other} (holds : related value other) :
    Follows related convert (.ok value) (.ok other) :=
  ⟨other, rfl, holds⟩

/-- Converting the errors and wrapping the result follows the computation. -/
theorem Follows.mapError_bind (source : Except Error Value) (wrap : Value → Other) :
    Follows (fun value other => other = wrap value) convert source
      (source.mapError convert >>= fun value => .ok (wrap value)) := by
  cases source with
  | error error => rfl
  | ok value => exact .of_ok rfl

theorem Follows.rejectIf {left right : Prop} [Decidable left] [Decidable right] (same : left ↔ right)
    (error : Error) :
    Follows Eq convert (ExceptRun.rejectIf left error) (ExceptRun.rejectIf right (convert error)) := by
  rw [rejectIf_congr error same]
  unfold ExceptRun.rejectIf
  split
  · rfl
  · exact .of_ok rfl

theorem Follows.bind {resultRelated : Result → OtherResult → Prop} {left : Except Error Value}
    {right : Except OtherError Other} {next : Value → Except Error Result}
    {otherNext : Other → Except OtherError OtherResult} (first : Follows related convert left right)
    (rest : ∀ value other, related value other →
      Follows resultRelated convert (next value) (otherNext other)) :
    Follows resultRelated convert (left >>= next) (right >>= otherNext) := by
  cases left with
  | error error =>
      have failed : right = .error (convert error) := first
      rw [failed]
      rfl
  | ok value =>
      obtain ⟨other, succeeded, holds⟩ := first
      rw [succeeded]
      exact rest value other holds

/-- Two folds over one list follow each other if every pair of steps does. -/
theorem Follows.foldlM {Item : Type} {step : Value → Item → Except Error Value}
    {otherStep : Other → Item → Except OtherError Other}
    (steps : ∀ state other item, related state other →
      Follows related convert (step state item) (otherStep other item))
    (items : List Item) {state : Value} {other : Other} (start : related state other) :
    Follows related convert (items.foldlM step state) (items.foldlM otherStep other) := by
  induction items generalizing state other with
  | nil => exact .of_ok start
  | cons item rest ih =>
      simp only [List.foldlM_cons]
      exact (steps state other item start).bind fun _ _ holds => ih holds

end Simulation

section Agreement

variable {Error OtherError Value Other Result OtherResult : Type}
variable {errors : Error → OtherError → Prop} {values : Value → Other → Prop}

/-- Two computations agree: they come to related values, or stop with related errors. -/
inductive Agree (errors : Error → OtherError → Prop) (values : Value → Other → Prop) :
    Except Error Value → Except OtherError Other → Prop where
  | ok {value : Value} {other : Other} (holds : values value other) : Agree errors values (.ok value) (.ok other)
  | error {left : Error} {right : OtherError} (holds : errors left right) : Agree errors values (.error left) (.error right)

theorem Agree.of_eq {errors : Error → Error → Prop} (reflexive : ∀ error, errors error error)
    (result : Except Error Value) : Agree errors Eq result result := by
  cases result with
  | ok value => exact .ok rfl
  | error error => exact .error (reflexive error)

theorem Agree.rejectIf {left right : Prop} [Decidable left] [Decidable right] (same : left ↔ right) {error : Error}
    {other : OtherError} (holds : errors error other) :
    Agree errors Eq (ExceptRun.rejectIf left error) (ExceptRun.rejectIf right other) := by
  rw [rejectIf_congr error same]
  unfold ExceptRun.rejectIf
  split
  · exact .error holds
  · exact .ok rfl

theorem Agree.bind {results : Result → OtherResult → Prop} {left : Except Error Value} {right : Except OtherError Other}
    {next : Value → Except Error Result} {otherNext : Other → Except OtherError OtherResult}
    (first : Agree errors values left right)
    (rest : ∀ value other, values value other → Agree errors results (next value) (otherNext other)) :
    Agree errors results (left >>= next) (right >>= otherNext) := by
  cases first with
  | ok holds => exact rest _ _ holds
  | error holds => exact .error holds

end Agreement

end TradingGateway.Foundation.ExceptRun
