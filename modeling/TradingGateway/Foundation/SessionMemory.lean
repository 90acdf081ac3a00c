import Mathlib.Data.List.Dedup
import Mathlib.Data.List.Induction
import Mathlib.Data.List.Perm.Subperm

/-! A walk over rows that belong to days, and two of its runs: the longer one has rows of other days in front.
What the runs have in common grows with each day that both of them open. -/

set_option autoImplicit false

namespace TradingGateway.Foundation.SessionMemory

variable {State Row Day : Type} [DecidableEq Day]

/-- The step puts the state on the day of its row; the agreement of two states is kept on a day, and one
degree higher where both open a day. -/
structure Forgetting (step : State → Row → State) (day : Row → Day) (current : State → Option Day)
    (valid : State → Prop) (counts : Row → Prop) (agrees : Nat → State → State → Prop) : Prop where
  keeps : ∀ {state row}, valid state → counts row → valid (step state row)
  onDay : ∀ {state row}, valid state → counts row → current (step state row) = some (day row)
  within : ∀ {degree full short row}, valid full → valid short → counts row → agrees degree full short →
    current full = some (day row) → current short = some (day row) → agrees degree (step full row) (step short row)
  opening : ∀ {degree full short row}, valid full → valid short → counts row → agrees degree full short →
    current full ≠ some (day row) → current short ≠ some (day row) →
      agrees (degree + 1) (step full row) (step short row)

variable {step : State → Row → State} {day : Row → Day} {current : State → Option Day} {valid : State → Prop}
variable {counts : Row → Prop} {agrees : Nat → State → State → Prop}

def dayCount (day : Row → Day) (rows : List Row) : Nat :=
  (rows.map day).dedup.length

theorem dayCount_concat_mem {rows : List Row} {row : Row} (seen : day row ∈ rows.map day) :
    dayCount day (rows ++ [row]) = dayCount day rows := by
  apply List.Perm.length_eq
  rw [List.perm_ext_iff_of_nodup (List.nodup_dedup _) (List.nodup_dedup _)]
  intro other
  rw [List.mem_dedup, List.mem_dedup, List.map_append, List.mem_append, List.map_singleton, List.mem_singleton]
  constructor
  · rintro (member | same)
    · exact member
    · rw [same]
      exact seen
  · exact .inl

theorem dayCount_concat_le {rows : List Row} {row : Row} : dayCount day (rows ++ [row]) ≤ dayCount day rows + 1 := by
  have distinct := List.nodup_dedup ((rows ++ [row]).map day)
  have covered : ((rows ++ [row]).map day).dedup ⊆ (rows.map day).dedup ++ [day row] := by
    intro other member
    rw [List.mem_dedup, List.map_append, List.map_singleton] at member
    rw [List.mem_append, List.mem_dedup]
    exact List.mem_append.1 member
  have bounded := (List.subperm_of_subset distinct covered).length_le
  rw [List.length_append, List.length_singleton] at bounded
  exact bounded

omit [DecidableEq Day] in
theorem valid_foldl (forgets : Forgetting step day current valid counts agrees) {rows : List Row} {state : State}
    (all : ∀ row ∈ rows, counts row) (start : valid state) : valid (rows.foldl step state) := by
  induction rows generalizing state with
  | nil => exact start
  | cons row rest ih =>
      exact ih (fun other member => all other (List.mem_cons_of_mem row member))
        (forgets.keeps start (all row List.mem_cons_self))

omit [DecidableEq Day] in
theorem current_foldl (forgets : Forgetting step day current valid counts agrees) {rows : List Row} {last : Row}
    {state : State} (all : ∀ row ∈ rows, counts row) (start : valid state) (isLast : rows.getLast? = some last) :
    current (rows.foldl step state) = some (day last) := by
  obtain ⟨front, rfl⟩ := List.getLast?_eq_some_iff.1 isLast
  rw [List.foldl_concat]
  exact forgets.onDay (valid_foldl forgets (fun row member => all row (List.mem_append_left _ member)) start)
    (all last (List.mem_append_right _ (List.mem_singleton_self last)))

/-- Two runs over the same rows agree to the degree of their days, where neither of them was on such a day. -/
theorem foldl_agrees (forgets : Forgetting step day current valid counts agrees) {rows : List Row}
    {full short : State} (all : ∀ row ∈ rows, counts row) (fullValid : valid full) (shortValid : valid short)
    (start : agrees 0 full short)
    (fullElsewhere : ∀ row ∈ rows, current full ≠ some (day row))
    (shortElsewhere : ∀ row ∈ rows, current short ≠ some (day row)) :
    ∃ degree, dayCount day rows ≤ degree ∧ agrees degree (rows.foldl step full) (rows.foldl step short) := by
  induction rows using List.reverseRecOn with
  | nil => exact ⟨0, Nat.le_refl 0, start⟩
  | append_singleton rows row ih =>
      have inFront : ∀ other ∈ rows, other ∈ rows ++ [row] := fun other member => List.mem_append_left _ member
      have isLast : row ∈ rows ++ [row] := List.mem_append_right _ (List.mem_singleton_self row)
      have allFront : ∀ other ∈ rows, counts other := fun other member => all other (inFront other member)
      obtain ⟨degree, enough, agreed⟩ := ih allFront
        (fun other member => fullElsewhere other (inFront other member))
        (fun other member => shortElsewhere other (inFront other member))
      have fullKept := valid_foldl forgets allFront fullValid
      have shortKept := valid_foldl forgets allFront shortValid
      rw [List.foldl_concat, List.foldl_concat]
      cases previous : rows.getLast? with
      | none =>
          rw [List.getLast?_eq_none_iff.1 previous] at enough agreed ⊢
          refine ⟨degree + 1, ?_, forgets.opening fullValid shortValid (all row isLast) agreed
            (fullElsewhere row isLast) (shortElsewhere row isLast)⟩
          exact Nat.le_trans dayCount_concat_le (Nat.add_le_add_right enough 1)
      | some last =>
          have fullDay := current_foldl forgets allFront fullValid previous
          have shortDay := current_foldl forgets allFront shortValid previous
          by_cases same : day last = day row
          · refine ⟨degree, ?_, forgets.within fullKept shortKept (all row isLast) agreed
              (fullDay.trans (congrArg some same)) (shortDay.trans (congrArg some same))⟩
            have seen : day row ∈ rows.map day := by
              rw [← same]
              exact List.mem_map_of_mem (List.mem_of_getLast? previous)
            rw [dayCount_concat_mem seen]
            exact enough
          · refine ⟨degree + 1, Nat.le_trans dayCount_concat_le (Nat.add_le_add_right enough 1),
              forgets.opening fullKept shortKept (all row isLast) agreed ?_ ?_⟩
            · rw [fullDay]
              exact fun equal => same (Option.some.inj equal)
            · rw [shortDay]
              exact fun equal => same (Option.some.inj equal)

/-- Rows of other days in front are forgotten to the degree of the days behind them. -/
theorem foldl_append_agrees (forgets : Forgetting step day current valid counts agrees) {before rows : List Row}
    {fresh : State} (allBefore : ∀ row ∈ before, counts row) (all : ∀ row ∈ rows, counts row)
    (freshValid : valid fresh) (unopened : current fresh = none) (apart : ∀ earlier ∈ before, ∀ later ∈ rows, day earlier ≠ day later)
    (start : agrees 0 (before.foldl step fresh) fresh) :
    ∃ degree, dayCount day rows ≤ degree ∧
      agrees degree ((before ++ rows).foldl step fresh) (rows.foldl step fresh) := by
  rw [List.foldl_append]
  apply foldl_agrees forgets all (valid_foldl forgets allBefore freshValid) freshValid start
  · intro row member
    cases previous : before.getLast? with
    | none =>
        rw [List.getLast?_eq_none_iff.1 previous, List.foldl_nil, unopened]
        exact (Option.some_ne_none _).symm
    | some last =>
        rw [current_foldl forgets allBefore freshValid previous]
        exact fun equal => apart last (List.mem_of_getLast? previous) row member (Option.some.inj equal)
  · intro row _
    rw [unopened]
    exact (Option.some_ne_none _).symm

end TradingGateway.Foundation.SessionMemory
