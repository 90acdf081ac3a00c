import Mathlib.Data.List.Nodup
import Mathlib.Data.List.Sort

/-! Sorting rows by a key of theirs, where distinct rows have distinct keys. -/

set_option autoImplicit false

namespace TradingGateway.Foundation.KeyedSort

variable {Row Key : Type} [LinearOrder Key] {key : Row → Key}

def sortByKey (key : Row → Key) (rows : List Row) : List Row :=
  rows.mergeSort fun left right => key left ≤ key right

def Increasing (key : Row → Key) (rows : List Row) : Prop :=
  rows.Pairwise fun left right => key left < key right

theorem sortByKey_perm (key : Row → Key) (rows : List Row) : (sortByKey key rows).Perm rows :=
  List.mergeSort_perm rows _

theorem pairwise_sortByKey (key : Row → Key) (rows : List Row) :
    (sortByKey key rows).Pairwise fun left right => key left ≤ key right := by
  have trans (left middle right : Row) (first : decide (key left ≤ key middle) = true)
      (second : decide (key middle ≤ key right) = true) : decide (key left ≤ key right) = true :=
    decide_eq_true (le_trans (of_decide_eq_true first) (of_decide_eq_true second))
  have total (left right : Row) : (decide (key left ≤ key right) || decide (key right ≤ key left)) = true := by
    simpa using le_total (key left) (key right)
  exact (List.pairwise_mergeSort trans total rows).imp fun below => of_decide_eq_true below

theorem Increasing.nodup {rows : List Row} (increasing : Increasing key rows) : (rows.map key).Nodup :=
  List.pairwise_map.2 (increasing.imp fun below => ne_of_lt below)

theorem Increasing.of_map {Other : Type} {read : Other → Row} {others : List Other}
    (increasing : Increasing key (others.map read)) : Increasing (fun other => key (read other)) others := by
  unfold Increasing at increasing
  rw [List.pairwise_map] at increasing
  exact increasing

theorem exists_last {rows : List Row} (nonempty : rows ≠ []) : ∃ last, rows.getLast? = some last :=
  ⟨_, List.getLast?_eq_some_getLast nonempty⟩

/-- No row lies behind the last one. -/
theorem Increasing.le_last {rows : List Row} (increasing : Increasing key rows) {row last : Row}
    (isLast : rows.getLast? = some last) (member : row ∈ rows) : key row ≤ key last := by
  obtain ⟨front, rfl⟩ := List.getLast?_eq_some_iff.1 isLast
  obtain before | same := List.mem_append.1 member
  · have below := (List.pairwise_append.1 increasing).2.2 row before last List.mem_cons_self
    exact le_of_lt below
  · exact le_of_eq (congrArg key (List.mem_singleton.1 same))

theorem Increasing.lt_of_last {rows : List Row} (increasing : Increasing key rows) {bound : Key}
    (behind : ∀ last ∈ rows.getLast?, key last < bound) {row : Row} (member : row ∈ rows) : key row < bound := by
  cases isLast : rows.getLast? with
  | none =>
      rw [List.getLast?_eq_none_iff.1 isLast] at member
      cases member
  | some last => exact lt_of_le_of_lt (increasing.le_last isLast member) (behind last isLast)

theorem Increasing.concat {rows : List Row} (increasing : Increasing key rows) {row : Row}
    (behind : ∀ last ∈ rows.getLast?, key last < key row) : Increasing key (rows ++ [row]) := by
  refine List.pairwise_append.2 ⟨increasing, List.pairwise_singleton .., fun other member added isRow => ?_⟩
  obtain rfl := List.mem_singleton.1 isRow
  exact increasing.lt_of_last behind member

/-- Whatever order rows with increasing keys come in, sorting brings them back. -/
theorem Increasing.sortByKey_eq {rows listed : List Row} (increasing : Increasing key rows)
    (permuted : listed.Perm rows) : sortByKey key listed = rows := by
  refine List.Perm.eq_of_pairwise ?_ (pairwise_sortByKey key listed)
    (increasing.imp fun below => le_of_lt below) ((sortByKey_perm key listed).trans permuted)
  intro left right leftMember rightMember first second
  have leftIn := permuted.mem_iff.1 ((sortByKey_perm key listed).mem_iff.1 leftMember)
  exact List.inj_on_of_nodup_map increasing.nodup leftIn rightMember (le_antisymm first second)

end TradingGateway.Foundation.KeyedSort
