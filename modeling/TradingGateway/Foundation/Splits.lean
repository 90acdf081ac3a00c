import Mathlib.Data.List.Basic

/-! Where an element of a list can stand when the list is extended or split twice. -/

set_option autoImplicit false

namespace TradingGateway.Foundation.Splits

variable {Item : Type}

/-- An element of an extended list is the added one or stood in the list before. -/
theorem split_append_singleton {items front back : List Item} {last item : Item}
    (split : items ++ [last] = front ++ item :: back) :
    (front = items ∧ item = last ∧ back = []) ∨
      ∃ middle, back = middle ++ [last] ∧ items = front ++ item :: middle := by
  rcases List.append_eq_append_iff.1 split with ⟨extra, frontShape, tail⟩ | ⟨extra, itemsShape, tail⟩
  · cases extra with
    | nil =>
        obtain ⟨rfl, rfl⟩ : last = item ∧ back = [] := by simpa [eq_comm] using tail
        exact .inl ⟨by simpa using frontShape, rfl, rfl⟩
    | cons head rest => simp at tail
  · cases extra with
    | nil =>
        obtain ⟨rfl, rfl⟩ : item = last ∧ back = [] := by simpa using tail
        exact .inl ⟨by simpa using itemsShape.symm, rfl, rfl⟩
    | cons head rest =>
        obtain ⟨rfl, rfl⟩ : item = head ∧ back = rest ++ [last] := by simpa using tail
        exact .inr ⟨rest, rfl, itemsShape⟩

/-- Two positions of one list are equal or one comes first. -/
theorem split_positions {front back otherFront otherBack : List Item} {item other : Item}
    (split : front ++ item :: back = otherFront ++ other :: otherBack) :
    (item = other ∧ front = otherFront ∧ back = otherBack) ∨
      (∃ middle, back = middle ++ other :: otherBack ∧ otherFront = front ++ item :: middle) ∨
        ∃ middle, otherBack = middle ++ item :: back ∧ front = otherFront ++ other :: middle := by
  rcases List.append_eq_append_iff.1 split with ⟨extra, otherShape, tail⟩ | ⟨extra, frontShape, tail⟩
  · cases extra with
    | nil =>
        obtain ⟨rfl, rfl⟩ : item = other ∧ back = otherBack := by simpa using tail
        exact .inl ⟨rfl, by simpa using otherShape.symm, rfl⟩
    | cons head rest =>
        obtain ⟨rfl, rfl⟩ : item = head ∧ back = rest ++ other :: otherBack := by simpa using tail
        exact .inr (.inl ⟨rest, rfl, otherShape⟩)
  · cases extra with
    | nil =>
        obtain ⟨rfl, rfl⟩ : other = item ∧ otherBack = back := by simpa using tail
        exact .inl ⟨rfl, by simpa using frontShape, rfl⟩
    | cons head rest =>
        obtain ⟨rfl, rfl⟩ : other = head ∧ otherBack = rest ++ item :: back := by simpa using tail
        exact .inr (.inr ⟨rest, rfl, frontShape⟩)

variable {holds : List Item → Item → Prop} {items : List Item}

end TradingGateway.Foundation.Splits
