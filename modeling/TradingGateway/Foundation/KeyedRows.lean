import Mathlib.Data.List.Nodup

/-! Tables whose rows carry their own key: writing one row leaves the others alone. -/

set_option autoImplicit false

namespace TradingGateway.Foundation.KeyedRows

variable {Row Key : Type} [DecidableEq Key] (key : Row → Key)

/-- Put a row in the place of the first one with its key, or behind all of them. -/
def replaceOrAppend (row : Row) : List Row → List Row
  | [] => [row]
  | existing :: rest =>
      if key existing = key row then row :: rest else existing :: replaceOrAppend row rest

variable {key}

theorem mem_of_mem_replaceOrAppend {row other : Row} {rows : List Row}
    (member : other ∈ replaceOrAppend key row rows) : other = row ∨ other ∈ rows := by
  induction rows with
  | nil => exact .inl (List.mem_singleton.1 member)
  | cons existing rest ih =>
      unfold replaceOrAppend at member
      split at member
      · cases member with
        | head => exact .inl rfl
        | tail _ behind => exact .inr (List.mem_cons_of_mem _ behind)
      · cases member with
        | head => exact .inr List.mem_cons_self
        | tail _ behind => exact (ih behind).imp_right (List.mem_cons_of_mem _)

theorem mem_replaceOrAppend_self (row : Row) (rows : List Row) : row ∈ replaceOrAppend key row rows := by
  induction rows with
  | nil => exact List.mem_singleton_self row
  | cons existing rest ih =>
      unfold replaceOrAppend
      split
      · exact List.mem_cons_self
      · exact List.mem_cons_of_mem _ ih

/-- A row with another key stays. -/
theorem mem_replaceOrAppend_of_ne {row other : Row} {rows : List Row} (member : other ∈ rows)
    (differs : key other ≠ key row) : other ∈ replaceOrAppend key row rows := by
  induction rows with
  | nil => cases member
  | cons existing rest ih =>
      unfold replaceOrAppend
      cases member with
      | head =>
          rw [if_neg differs]
          exact List.mem_cons_self
      | tail _ behind =>
          split
          · exact List.mem_cons_of_mem _ behind
          · exact List.mem_cons_of_mem _ (ih behind)

omit [DecidableEq Key] in
/-- With distinct keys, two rows of one key are one row. -/
theorem eq_of_key_eq {rows : List Row} (distinct : (rows.map key).Nodup) {left right : Row}
    (leftMember : left ∈ rows) (rightMember : right ∈ rows) (same : key left = key right) : left = right :=
  List.inj_on_of_nodup_map distinct leftMember rightMember same

/-- With distinct keys, searching for the key of a row finds that row. -/
theorem find?_key_of_mem {rows : List Row} (distinct : (rows.map key).Nodup) {row : Row} (member : row ∈ rows) :
    rows.find? (fun other => key other = key row) = some row := by
  cases found : rows.find? (fun other => key other = key row) with
  | none =>
      have absent := List.find?_eq_none.1 found row member
      simp at absent
  | some other =>
      have same : key other = key row := by simpa using List.find?_some found
      rw [eq_of_key_eq distinct (List.mem_of_find?_eq_some found) member same]

end TradingGateway.Foundation.KeyedRows
