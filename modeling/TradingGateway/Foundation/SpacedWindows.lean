import Mathlib.Algebra.BigOperators.Group.List.Basic
import Mathlib.Algebra.Ring.Nat
import Mathlib.Tactic.Push
import Mathlib.Tactic.SplitIfs

/-! Amounts counted in windows whose starts lie at least one length apart: a span of
that length meets two of them at most. -/

set_option autoImplicit false

namespace TradingGateway.Foundation.SpacedWindows

variable {Entry Key : Type*}

def total (amount : Entry → Nat) (counted : Entry → Prop) [DecidablePred counted] (entries : List Entry) : Nat :=
  ((entries.filter (fun entry => decide (counted entry))).map amount).sum

section Totals

variable {amount : Entry → Nat} {counted other third : Entry → Prop} [DecidablePred counted] [DecidablePred other]
  [DecidablePred third] {entry : Entry} {entries : List Entry}

theorem total_cons :
    total amount counted (entry :: entries) = (if counted entry then amount entry else 0) + total amount counted entries := by
  unfold total
  by_cases counts : counted entry
  · simp [counts]
  · simp [counts]

theorem total_eq_zero (none : ∀ entry ∈ entries, ¬ counted entry) : total amount counted entries = 0 := by
  induction entries with
  | nil => rfl
  | cons first rest ih =>
      rw [total_cons, if_neg (none first List.mem_cons_self), Nat.zero_add]
      exact ih fun entry member => none entry (List.mem_cons_of_mem _ member)

/-- What is counted is counted in one of two ways. -/
theorem total_le_add (covers : ∀ entry ∈ entries, counted entry → other entry ∨ third entry) :
    total amount counted entries ≤ total amount other entries + total amount third entries := by
  induction entries with
  | nil => exact Nat.zero_le _
  | cons first rest ih =>
      have step := ih fun entry member => covers entry (List.mem_cons_of_mem _ member)
      have here := covers first List.mem_cons_self
      rw [total_cons, total_cons, total_cons]
      split_ifs <;> first | omega | exact absurd (here ‹_›) (by simp [*])

end Totals

/-- Every entry lies in the window of its key, and windows of different keys start at least one length apart. -/
structure Spaced (length : Int) (start : Key → Int) (key : Entry → Key) (time : Entry → Int)
    (entries : List Entry) : Prop where
  begun : ∀ entry ∈ entries, start (key entry) ≤ time entry
  within : ∀ entry ∈ entries, time entry < start (key entry) + length
  apart : ∀ left ∈ entries, ∀ right ∈ entries, key left = key right ∨
    start (key left) + length ≤ start (key right) ∨ start (key right) + length ≤ start (key left)

variable {length : Int} {start : Key → Int} {key : Entry → Key} {time : Entry → Int} {entries : List Entry}

/-- Of three entries in one span two share their window. -/
theorem Spaced.two_keys (spaced : Spaced length start key time entries) {since : Int} {first second third : Entry}
    (firstIn : first ∈ entries) (secondIn : second ∈ entries) (thirdIn : third ∈ entries)
    (firstSpan : since ≤ time first ∧ time first ≤ since + length)
    (secondSpan : since ≤ time second ∧ time second ≤ since + length)
    (thirdSpan : since ≤ time third ∧ time third ≤ since + length) (different : key first ≠ key second) :
    key third = key first ∨ key third = key second := by
  have firstBegun := spaced.begun first firstIn
  have secondBegun := spaced.begun second secondIn
  have thirdBegun := spaced.begun third thirdIn
  have firstWithin := spaced.within first firstIn
  have secondWithin := spaced.within second secondIn
  have thirdWithin := spaced.within third thirdIn
  have firstSecond := (spaced.apart first firstIn second secondIn).resolve_left different
  rcases spaced.apart third thirdIn first firstIn with same | thirdFirst
  · exact .inl same
  · rcases spaced.apart third thirdIn second secondIn with same | thirdSecond
    · exact .inr same
    · omega

variable [DecidableEq Key]

/-- Where no window counts more than its capacity, no span of one length counts more than twice of it. -/
theorem Spaced.total_span_le (spaced : Spaced length start key time entries) {amount : Entry → Nat} {capacity : Nat}
    (bounded : ∀ window, total amount (fun entry => key entry = window) entries ≤ capacity) (since : Int) :
    total amount (fun entry => since ≤ time entry ∧ time entry ≤ since + length) entries ≤ 2 * capacity := by
  by_cases empty : ∀ entry ∈ entries, ¬ (since ≤ time entry ∧ time entry ≤ since + length)
  · rw [total_eq_zero empty]
    exact Nat.zero_le _
  push Not at empty
  obtain ⟨first, firstIn, firstSpan⟩ := empty
  by_cases one : ∀ entry ∈ entries, (since ≤ time entry ∧ time entry ≤ since + length) → key entry = key first
  · have covered : _ ≤ total amount (fun entry => key entry = key first) entries +
        total amount (fun entry => key entry = key first) entries :=
      total_le_add fun entry member span => .inl (one entry member span)
    have bound := bounded (key first)
    omega
  push Not at one
  obtain ⟨second, secondIn, secondSpan, different⟩ := one
  have covered : _ ≤ total amount (fun entry => key entry = key first) entries +
      total amount (fun entry => key entry = key second) entries :=
    total_le_add fun entry member span =>
      spaced.two_keys firstIn secondIn member firstSpan secondSpan span different.symm
  have firstBound := bounded (key first)
  have secondBound := bounded (key second)
  omega

end TradingGateway.Foundation.SpacedWindows
