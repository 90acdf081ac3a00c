import Mathlib.Data.List.Sort
import Mathlib.Data.List.Dedup
import Mathlib.Order.Bounds.Basic

/-! The distinct keys of a list in their order, and two marks that remember the first
and the last key of a walk. -/

set_option autoImplicit false

namespace TradingGateway.Foundation.SortedKeys

variable {Key : Type} [LinearOrder Key]

def sortedKeys (keys : List Key) : List Key :=
  keys.dedup.insertionSort (· ≤ ·)

section Keys

variable {keys others : List Key} {key : Key}

@[simp] theorem mem_sortedKeys : key ∈ sortedKeys keys ↔ key ∈ keys := by
  unfold sortedKeys
  rw [List.mem_insertionSort, List.mem_dedup]

theorem pairwise_sortedKeys (keys : List Key) : (sortedKeys keys).Pairwise (· < ·) := by
  have sorted : (sortedKeys keys).Pairwise (· ≤ ·) := List.pairwise_insertionSort (· ≤ ·) keys.dedup
  have distinct : (sortedKeys keys).Nodup :=
    (List.perm_insertionSort (· ≤ ·) keys.dedup).nodup_iff.2 (List.nodup_dedup keys)
  exact (sorted.and distinct).imp fun facts => lt_of_le_of_ne facts.1 facts.2

theorem nodup_sortedKeys (keys : List Key) : (sortedKeys keys).Nodup :=
  (pairwise_sortedKeys keys).imp fun below => ne_of_lt below

/-- The sorted keys are told by which keys there are. -/
theorem sortedKeys_congr (same : ∀ key, key ∈ keys ↔ key ∈ others) : sortedKeys keys = sortedKeys others := by
  have perm : (sortedKeys keys).Perm (sortedKeys others) := by
    rw [List.perm_ext_iff_of_nodup (nodup_sortedKeys keys) (nodup_sortedKeys others)]
    intro key
    rw [mem_sortedKeys, mem_sortedKeys]
    exact same key
  exact perm.eq_of_pairwise (fun _ _ _ _ below above => absurd (below.trans above) (lt_irrefl _))
    (pairwise_sortedKeys keys) (pairwise_sortedKeys others)

end Keys

section Ends

variable {sorted : List Key} {key : Key}

theorem isLeast_head (increasing : sorted.Pairwise (· < ·)) (isHead : sorted.head? = some key) :
    IsLeast { other | other ∈ sorted } key := by
  cases sorted with
  | nil => cases isHead
  | cons first rest =>
      have same : first = key := Option.some.inj isHead
      subst same
      refine ⟨List.mem_cons_self, fun other member => ?_⟩
      rcases List.mem_cons.1 member with same | inRest
      · exact le_of_eq same.symm
      · exact le_of_lt ((List.pairwise_cons.1 increasing).1 other inRest)

theorem isGreatest_getLast (increasing : sorted.Pairwise (· < ·)) (isLast : sorted.getLast? = some key) :
    IsGreatest { other | other ∈ sorted } key := by
  obtain ⟨front, rfl⟩ := List.getLast?_eq_some_iff.1 isLast
  refine ⟨List.mem_append_right _ (List.mem_singleton_self key), fun other member => ?_⟩
  rcases List.mem_append.1 member with inFront | isKey
  · exact le_of_lt ((List.pairwise_append.1 increasing).2.2 other inFront key (List.mem_singleton_self key))
  · exact le_of_eq (List.mem_singleton.1 isKey)

variable {later : Option Key} {here others : Key → Prop}

/-- The head of the first list that has one is the least of all, where what is looked at first lies first. -/
theorem isLeast_orElse (increasing : sorted.Pairwise (· < ·)) (mem : ∀ key, key ∈ sorted ↔ here key)
    (leads : (∃ key, here key) → ∀ other, others other → ∃ key, here key ∧ key ≤ other)
    (isLeast : (¬ ∃ key, here key) → ∀ key, later = some key → IsLeast { other | others other } key)
    (found : (sorted.head? <|> later) = some key) : IsLeast { other | here other ∨ others other } key := by
  cases sorted with
  | nil =>
      have nothing : ¬ ∃ key, here key := fun ⟨key, isHere⟩ => List.not_mem_nil ((mem key).2 isHere)
      have least := isLeast nothing key found
      exact ⟨.inr least.1, fun other member => least.2 (member.resolve_left fun isHere => nothing ⟨other, isHere⟩)⟩
  | cons first rest =>
      have least := isLeast_head increasing found
      refine ⟨.inl ((mem key).1 least.1), fun other member => ?_⟩
      rcases member with isHere | isOther
      · exact least.2 ((mem other).2 isHere)
      · obtain ⟨lead, isHere, le⟩ := leads ⟨key, (mem key).1 least.1⟩ other isOther
        exact (least.2 ((mem lead).2 isHere)).trans le

theorem isGreatest_orElse (increasing : sorted.Pairwise (· < ·)) (mem : ∀ key, key ∈ sorted ↔ here key)
    (leads : (∃ key, here key) → ∀ other, others other → ∃ key, here key ∧ other ≤ key)
    (isGreatest : (¬ ∃ key, here key) → ∀ key, later = some key → IsGreatest { other | others other } key)
    (found : (sorted.getLast? <|> later) = some key) : IsGreatest { other | here other ∨ others other } key := by
  cases isLast : sorted.getLast? with
  | none =>
      have empty := List.getLast?_eq_none_iff.1 isLast
      have nothing : ¬ ∃ key, here key := by
        rintro ⟨key, isHere⟩
        have member := (mem key).2 isHere
        rw [empty] at member
        cases member
      rw [isLast] at found
      have greatest := isGreatest nothing key found
      exact ⟨.inr greatest.1,
        fun other member => greatest.2 (member.resolve_left fun isHere => nothing ⟨other, isHere⟩)⟩
  | some final =>
      rw [isLast] at found
      have same : final = key := Option.some.inj found
      subst same
      have greatest := isGreatest_getLast increasing isLast
      refine ⟨.inl ((mem final).1 greatest.1), fun other member => ?_⟩
      rcases member with isHere | isOther
      · exact greatest.2 ((mem other).2 isHere)
      · obtain ⟨lead, isHere, le⟩ := leads ⟨final, (mem final).1 greatest.1⟩ other isOther
        exact le.trans (greatest.2 ((mem lead).2 isHere))

end Ends

structure Marks (Mark : Type) where
  first : Option Mark
  last : Option Mark
deriving DecidableEq

namespace Marks

variable {Mark : Type}

def none : Marks Mark where
  first := Option.none
  last := Option.none

def record (marks : Marks Mark) (key : Mark) : Marks Mark where
  first := marks.first <|> some key
  last := some key

variable {marks : Marks Mark} {key : Mark}

/-- Recorded again at once a key changes nothing. -/
@[simp] theorem record_record : (marks.record key).record key = marks.record key := by
  unfold record
  cases marks.first <;> rfl

/-- A walk keeps the first mark there was, and ends with its own last key. -/
theorem foldl_record (keys : List Mark) (marks : Marks Mark) :
    keys.foldl record marks = { first := marks.first <|> keys.head?, last := keys.getLast? <|> marks.last } := by
  induction keys generalizing marks with
  | nil =>
      cases marks with
      | mk first last => cases first <;> rfl
  | cons key rest ih =>
      rw [List.foldl_cons, ih]
      unfold record
      cases marks with
      | mk first last =>
          cases found : rest.getLast? with
          | none =>
              rw [List.getLast?_eq_none_iff] at found
              subst found
              cases first <;> rfl
          | some final =>
              have isLast : (key :: rest).getLast? = some final := by
                rw [List.getLast?_cons, found]
                rfl
              rw [isLast]
              cases first <;> rfl

end Marks

end TradingGateway.Foundation.SortedKeys
