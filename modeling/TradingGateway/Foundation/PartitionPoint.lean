import Mathlib.Data.List.TakeWhile
import Mathlib.Order.Lattice

/-! Binary search for the point where a list stops to meet a condition, and the
pieces that two such points cut out of a sorted list. -/

set_option autoImplicit false

namespace TradingGateway.Foundation.PartitionPoint

variable {Item Key : Type}

/-- The search: the point lies no earlier than `base` and at most `size` behind it. -/
def searchBase (holds : Item → Bool) (items : List Item) : (fuel base size : Nat) → Nat
  | 0, base, _ => base
  | fuel + 1, base, size =>
      if 1 < size then
        let middle := base + size / 2
        searchBase holds items fuel (if items[middle]?.any holds then middle else base) (size - size / 2)
      else base

/-- The number of items before the first that fails the condition, found by halving. -/
def partitionPoint (holds : Item → Bool) (items : List Item) : Nat :=
  if items.isEmpty then 0
  else
    let base := searchBase holds items items.length 0 items.length
    if items[base]?.any holds then base + 1 else base

def PartitionedAt (holds : Item → Bool) (items : List Item) (point : Nat) : Prop :=
  point ≤ items.length ∧ ∀ index, items[index]?.any holds = true ↔ index < point

section Search

variable {holds : Item → Bool} {items : List Item} {point : Nat}

/-- What the search keeps: the point is behind the base, or both are at the start. -/
theorem searchBase_spec (partitioned : PartitionedAt holds items point) {fuel base size : Nat}
    (enough : size ≤ fuel) (behind : base < point ∨ (base = 0 ∧ point = 0)) (within : point ≤ base + size) :
    let found := searchBase holds items fuel base size
    (found < point ∨ (found = 0 ∧ point = 0)) ∧ point ≤ found + 1 := by
  induction fuel generalizing base size with
  | zero =>
      have empty : size = 0 := Nat.le_zero.1 enough
      subst empty
      exact ⟨behind, by unfold searchBase; omega⟩
  | succ fuel ih =>
      unfold searchBase
      split
      next large =>
        have reached := partitioned.2 (base + size / 2)
        dsimp only
        split
        next holdsThere =>
          have before := reached.1 holdsThere
          exact ih (by omega) (.inl before) (by omega)
        next failsThere =>
          have behindMiddle : ¬ base + size / 2 < point := fun before => failsThere (reached.2 before)
          exact ih (by omega) behind (by omega)
      next small => exact ⟨behind, by omega⟩

theorem partitionPoint_eq (partitioned : PartitionedAt holds items point) : partitionPoint holds items = point := by
  unfold partitionPoint
  split
  next empty =>
    have none : items.length = 0 := by simpa using empty
    have bounded := partitioned.1
    omega
  next nonempty =>
    have some : 0 < items.length := by
      cases items with
      | nil => simp at nonempty
      | cons item rest => simp
    have start : 0 < point ∨ (0 = 0 ∧ point = 0) := by omega
    obtain ⟨behind, within⟩ := searchBase_spec partitioned (Nat.le_refl items.length) start (by simpa using partitioned.1)
    have reached := partitioned.2 (searchBase holds items items.length 0 items.length)
    dsimp only
    split
    next holdsThere =>
      have before := reached.1 holdsThere
      omega
    next failsThere =>
      have notBefore : ¬ _ < point := fun before => failsThere (reached.2 before)
      omega

theorem partitionPoint_congr (partitioned : PartitionedAt holds items point) {other : Item → Bool}
    (same : ∀ item ∈ items, other item = holds item) : partitionPoint other items = partitionPoint holds items := by
  have otherPartitioned : PartitionedAt other items point := by
    refine ⟨partitioned.1, fun index => ?_⟩
    rw [← partitioned.2 index]
    cases found : items[index]? with
    | none => simp
    | some item => simp [same item (List.mem_of_getElem? found)]
  rw [partitionPoint_eq otherPartitioned, partitionPoint_eq partitioned]

end Search

section Sorted

variable [LinearOrder Key] {key : Item → Key} {items : List Item}

/-- In a list sorted by a key the items below a bound come first. -/
theorem partitionedAt_below (sorted : items.Pairwise fun left right => key left < key right) (bound : Key) :
    PartitionedAt (fun item => decide (key item < bound)) items
      (items.takeWhile fun item => decide (key item < bound)).length := by
  induction items with
  | nil => exact ⟨Nat.le_refl 0, fun index => by simp⟩
  | cons item rest ih =>
      obtain ⟨ahead, sortedRest⟩ := List.pairwise_cons.1 sorted
      obtain ⟨bounded, reached⟩ := ih sortedRest
      by_cases below : key item < bound
      · rw [List.takeWhile_cons_of_pos (by simpa using below)]
        refine ⟨by simpa using bounded, fun index => ?_⟩
        cases index with
        | zero => simp [below]
        | succ index => simpa using reached index
      · rw [List.takeWhile_cons_of_neg (by simpa using below)]
        refine ⟨Nat.zero_le _, fun index => ?_⟩
        cases index with
        | zero => simp [below]
        | succ index =>
            have later : ∀ other ∈ rest, ¬ key other < bound := fun other member under =>
              below ((ahead other member).trans under)
            cases found : rest[index]? with
            | none => simp [found]
            | some other => simpa [found] using later other (List.mem_of_getElem? found)

/-- The points of two bounds stand in the order of the bounds. -/
theorem partitionPoint_bounds (sorted : items.Pairwise fun left right => key left < key right)
    {from_ upTo : Key} (ordered : from_ ≤ upTo) :
    partitionPoint (fun item => decide (key item < from_)) items ≤
        partitionPoint (fun item => decide (key item < upTo)) items ∧
      partitionPoint (fun item => decide (key item < upTo)) items ≤ items.length := by
  have first := partitionedAt_below sorted from_
  have second := partitionedAt_below sorted upTo
  rw [partitionPoint_eq first, partitionPoint_eq second]
  refine ⟨?_, second.1⟩
  by_contra beyond
  obtain ⟨item, found, below⟩ := (Option.any_eq_true _ _).1 ((first.2 _).2 (Nat.lt_of_not_le beyond))
  have within : key item < upTo := lt_of_lt_of_le (by simpa using below) ordered
  have reached := (second.2 _).1 ((Option.any_eq_true _ _).2 ⟨item, found, by simpa using within⟩)
  exact Nat.lt_irrefl _ reached

/-- Between the points of two bounds stand the items from the first bound on and below the second. -/
theorem slice_eq_filter (sorted : items.Pairwise fun left right => key left < key right) (from_ upTo : Key) :
    (items.take (partitionPoint (fun item => decide (key item < upTo)) items)).drop
        (partitionPoint (fun item => decide (key item < from_)) items) =
      items.filter fun item => decide (from_ ≤ key item ∧ key item < upTo) := by
  rw [partitionPoint_eq (partitionedAt_below sorted upTo), partitionPoint_eq (partitionedAt_below sorted from_)]
  induction items with
  | nil => simp
  | cons item rest ih =>
      obtain ⟨ahead, sortedRest⟩ := List.pairwise_cons.1 sorted
      have inner := ih sortedRest
      have none {bound : Key} (beyond : ¬ key item < bound) : rest.takeWhile (fun other => decide (key other < bound)) = [] := by
        cases rest with
        | nil => rfl
        | cons other rest =>
            have further : ¬ key other < bound := fun under => beyond ((ahead other List.mem_cons_self).trans under)
            exact List.takeWhile_cons_of_neg (by simpa using further)
      have opens {bound : Key} (under : key item < bound) :
          (item :: rest).takeWhile (fun other => decide (key other < bound)) =
            item :: rest.takeWhile fun other => decide (key other < bound) :=
        List.takeWhile_cons_of_pos (by simpa using under)
      have closes {bound : Key} (beyond : ¬ key item < bound) :
          (item :: rest).takeWhile (fun other => decide (key other < bound)) = [] :=
        List.takeWhile_cons_of_neg (by simpa using beyond)
      by_cases below : key item < upTo
      · by_cases early : key item < from_
        · rw [opens below, opens early,
            List.filter_cons_of_neg (by simpa using fun least => absurd early (not_lt.2 least))]
          simpa using inner
        · rw [opens below, closes early, List.filter_cons_of_pos (by simpa using ⟨not_lt.1 early, below⟩)]
          rw [none early] at inner
          simpa using inner
      · rw [closes below, List.filter_cons_of_neg (by simp [below])]
        rw [none below] at inner
        simpa using inner

/-- Two windows that meet make one. -/
theorem filter_append_filter (sorted : items.Pairwise fun left right => key left < key right)
    {first second third : Key} (ordered : first ≤ second) (later : second ≤ third) :
    (items.filter fun item => decide (first ≤ key item ∧ key item < second)) ++
        (items.filter fun item => decide (second ≤ key item ∧ key item < third)) =
      items.filter fun item => decide (first ≤ key item ∧ key item < third) := by
  induction items with
  | nil => rfl
  | cons item rest ih =>
      obtain ⟨ahead, sortedRest⟩ := List.pairwise_cons.1 sorted
      have inner := ih sortedRest
      by_cases early : key item < second
      · have outside : ¬ (second ≤ key item ∧ key item < third) := fun inside => absurd early (not_lt.2 inside.1)
        have under : key item < third := early.trans_le later
        by_cases least : first ≤ key item
        · rw [List.filter_cons_of_pos (by simpa using ⟨least, early⟩), List.filter_cons_of_neg (by simpa using outside),
            List.filter_cons_of_pos (by simpa using ⟨least, under⟩), List.cons_append, inner]
        · rw [List.filter_cons_of_neg (by simp [least]), List.filter_cons_of_neg (by simpa using outside),
            List.filter_cons_of_neg (by simp [least]), inner]
      · have none : rest.filter (fun other => decide (first ≤ key other ∧ key other < second)) = [] := by
          rw [List.filter_eq_nil_iff]
          intro other member inside
          have within : first ≤ key other ∧ key other < second := by simpa using inside
          exact early ((ahead other member).trans within.2)
        rw [none, List.nil_append] at inner
        have least : first ≤ key item := ordered.trans (not_lt.1 early)
        rw [List.filter_cons_of_neg (by simp [early]), none, List.nil_append]
        by_cases under : key item < third
        · rw [List.filter_cons_of_pos (by simpa using ⟨not_lt.1 early, under⟩),
            List.filter_cons_of_pos (by simpa using ⟨least, under⟩), inner]
        · rw [List.filter_cons_of_neg (by simp [under]), List.filter_cons_of_neg (by simp [under]), inner]

end Sorted

end TradingGateway.Foundation.PartitionPoint
