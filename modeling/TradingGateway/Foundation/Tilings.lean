import Mathlib.Algebra.BigOperators.Group.List.Basic
import Mathlib.Algebra.Order.BigOperators.Group.List
import Mathlib.Tactic.Abel
import Mathlib.Tactic.Linarith

/-! Lists of intervals that follow each other without a gap. -/

set_option autoImplicit false

namespace TradingGateway.Foundation.Tilings

variable {Item Point : Type} {opens closes : Item → Point}

/-- The items cover the way from one point to another: the first opens where it begins,
each opens where the one before closed, and the last closes where it ends. -/
def Tiles (opens closes : Item → Point) : List Item → Point → Point → Prop
  | [], start, finish => start = finish
  | item :: items, start, finish => opens item = start ∧ Tiles opens closes items (closes item) finish

@[simp] theorem tiles_nil (start finish : Point) : Tiles opens closes [] start finish ↔ start = finish := Iff.rfl

@[simp] theorem tiles_cons (item : Item) (items : List Item) (start finish : Point) :
    Tiles opens closes (item :: items) start finish ↔
      opens item = start ∧ Tiles opens closes items (closes item) finish := Iff.rfl

theorem tiles_append {front back : List Item} {start finish : Point} :
    Tiles opens closes (front ++ back) start finish ↔
      ∃ middle, Tiles opens closes front start middle ∧ Tiles opens closes back middle finish := by
  induction front generalizing start with
  | nil => simp
  | cons first rest ih => simp [ih, and_assoc]

theorem tiles_concat {items : List Item} {item : Item} {start finish : Point} :
    Tiles opens closes (items ++ [item]) start finish ↔
      Tiles opens closes items start (opens item) ∧ closes item = finish := by
  rw [tiles_append]
  constructor
  · rintro ⟨_, front, rfl, rfl⟩
    exact ⟨front, rfl⟩
  · rintro ⟨front, rfl⟩
    exact ⟨_, front, rfl, rfl⟩

/-- The lengths of the items add up to the length of the way. -/
theorem sum_of_tiles {Length : Type} [AddCommGroup Length] (measure : Point → Length) {items : List Item}
    {start finish : Point} (tiles : Tiles opens closes items start finish) :
    (items.map fun item => measure (closes item) - measure (opens item)).sum = measure finish - measure start := by
  induction items generalizing start with
  | nil =>
      cases tiles
      simp
  | cons item items ih =>
      obtain ⟨rfl, rest⟩ := tiles
      rw [List.map_cons, List.sum_cons, ih rest]
      abel

end TradingGateway.Foundation.Tilings
