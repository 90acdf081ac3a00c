import Mathlib.Algebra.Order.BigOperators.Group.List
import Mathlib.Data.List.Dedup
import Mathlib.Data.List.Perm.Subperm
import Mathlib.Tactic.Linarith

/-! Lists of rows under reordering and repetition, and when a bound on their total survives both. -/

set_option autoImplicit false

namespace TradingGateway.Foundation.RepeatedRows

variable {Row : Type}

structure Relisted (rows listed : List Row) : Prop where
  kept : rows.Subperm listed
  copies : ∀ row ∈ listed, row ∈ rows

namespace Relisted

theorem mem_iff {rows listed : List Row} (relisted : Relisted rows listed) (row : Row) : row ∈ listed ↔ row ∈ rows :=
  ⟨relisted.copies row, fun member => relisted.kept.subset member⟩

theorem append_replicate {rows : List Row} {row : Row} (member : row ∈ rows) (count : Nat) :
    Relisted rows (rows ++ List.replicate count row) where
  kept := (List.sublist_append_left rows _).subperm
  copies := by
    intro other listed
    obtain old | copied := List.mem_append.1 listed
    · exact old
    · exact (List.eq_of_mem_replicate copied).symm ▸ member

theorem of_dedup [DecidableEq Row] (rows : List Row) : Relisted rows.dedup rows where
  kept := (List.dedup_sublist rows).subperm
  copies := fun _ member => List.mem_dedup.2 member

theorem filter {rows listed : List Row} (relisted : Relisted rows listed) (keep : Row → Bool) :
    Relisted (rows.filter keep) (listed.filter keep) where
  kept := relisted.kept.filter keep
  copies := by
    intro row member
    obtain ⟨inListed, isKept⟩ := List.mem_filter.1 member
    exact List.mem_filter.2 ⟨relisted.copies row inListed, isKept⟩

theorem eq_nil_iff {rows listed : List Row} (relisted : Relisted rows listed) : listed = [] ↔ rows = [] := by
  rw [List.eq_nil_iff_forall_not_mem, List.eq_nil_iff_forall_not_mem]
  simp only [relisted.mem_iff]

end Relisted

def total (measure : Row → Int) (rows : List Row) : Int :=
  (rows.map measure).sum

section Totals

variable {measure : Row → Int} {rows listed : List Row}

theorem total_append (front back : List Row) :
    total measure (front ++ back) = total measure front + total measure back := by
  unfold total
  rw [List.map_append, List.sum_append]

theorem total_replicate (count : Nat) (row : Row) :
    total measure (List.replicate count row) = count * measure row := by
  unfold total
  rw [List.map_replicate, List.sum_replicate, nsmul_eq_mul]

theorem total_nonpos (nonpos : ∀ row ∈ rows, measure row ≤ 0) : total measure rows ≤ 0 := by
  induction rows with
  | nil => exact le_refl 0
  | cons row rest ih =>
      have first := nonpos row List.mem_cons_self
      have others := ih fun other member => nonpos other (List.mem_cons_of_mem _ member)
      unfold total at others ⊢
      rw [List.map_cons, List.sum_cons]
      exact add_nonpos first others

theorem total_le_of_relisted (relisted : Relisted rows listed) (nonneg : ∀ row ∈ rows, 0 ≤ measure row) :
    total measure rows ≤ total measure listed := by
  obtain ⟨same, isSame, part⟩ := relisted.kept
  unfold total
  rw [← (isSame.map measure).sum_eq]
  refine (part.map measure).sum_le_sum ?_
  intro value member
  obtain ⟨row, inListed, rfl⟩ := List.mem_map.1 member
  exact nonneg row (relisted.copies row inListed)

/-- Rows of one sign reach the bound by their distinct ones, or not at all. -/
def Settled [DecidableEq Row] (measure : Row → Int) (bound : Int) (rows : List Row) : Prop :=
  (∀ row ∈ rows, measure row ≤ 0) ∨
    ((∀ row ∈ rows, 0 ≤ measure row) ∧ bound ≤ total measure rows.dedup)

variable [DecidableEq Row] {bound : Int}

theorem Settled.short_iff (positive : 0 < bound) (settled : Settled measure bound rows)
    (relisted : Relisted rows listed) : total measure listed < bound ↔ total measure rows < bound := by
  obtain nonpos | ⟨nonneg, reached⟩ := settled
  · have listedNonpos := total_nonpos fun row member => nonpos row (relisted.copies row member)
    have rowsNonpos := total_nonpos nonpos
    exact iff_of_true (lt_of_le_of_lt listedNonpos positive) (lt_of_le_of_lt rowsNonpos positive)
  · have distinct : total measure rows.dedup ≤ total measure rows :=
      total_le_of_relisted (.of_dedup rows) fun row member => nonneg row (List.mem_dedup.1 member)
    have more := total_le_of_relisted relisted nonneg
    have enough := reached.trans distinct
    exact iff_of_false (not_lt.2 (enough.trans more)) (not_lt.2 enough)

/-- Copies of one row take the total past any bound on its side. -/
theorem settled_of_copies (copies : ∀ row ∈ rows, ∀ count : Nat,
      total measure (rows ++ List.replicate count row) < bound ↔ total measure rows < bound)
    (distinct : total measure rows.dedup < bound → total measure rows < bound) : Settled measure bound rows := by
  unfold Settled
  by_cases some : ∃ row ∈ rows, 0 < measure row
  · obtain ⟨row, member, isPositive⟩ := some
    have reached : ¬ total measure rows < bound := by
      intro short
      have still := (copies row member (bound - total measure rows).natAbs).2 short
      rw [total_append, total_replicate] at still
      have count : (bound - total measure rows) ≤ (bound - total measure rows).natAbs := Int.le_natAbs
      have grown : (bound - total measure rows : Int) ≤ (bound - total measure rows).natAbs * measure row := by
        nlinarith
      linarith
    refine Or.inr ⟨?_, ?_⟩
    · intro other otherMember
      by_contra negative
      have still := (copies other otherMember ((total measure rows - bound).natAbs + 1)).not.2 reached
      rw [total_append, total_replicate] at still
      have count : (total measure rows - bound) ≤ (total measure rows - bound).natAbs := Int.le_natAbs
      have shrunk : ((total measure rows - bound).natAbs + 1 : Int) * measure other ≤
          -((total measure rows - bound).natAbs + 1 : Int) := by
        nlinarith
      rw [Nat.cast_succ] at still
      linarith
    · exact not_lt.1 fun short => reached (distinct short)
  · exact Or.inl fun row member => not_lt.1 fun isPositive => some ⟨row, member, isPositive⟩

end Totals

end TradingGateway.Foundation.RepeatedRows
