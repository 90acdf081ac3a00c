import Mathlib.Data.List.Basic

/-! The values of an ordered map, in key order. -/

set_option autoImplicit false

namespace TradingGateway.Foundation.OrderedMap

variable {Key Value Result : Type} [Ord Key] [Std.TransOrd Key]

def intoValues (entries : Std.ExtTreeMap Key Value) : List Value :=
  entries.toList.map Prod.snd

theorem intoValues_map (convert : Value → Result) (entries : Std.ExtTreeMap Key Value) :
    intoValues (entries.map fun _ value => convert value) = (intoValues entries).map convert := by
  simp [intoValues, Std.ExtTreeMap.toList_map]

theorem not_contains_iff {entries : Std.ExtTreeMap Key Value} {key : Key} :
    ¬ entries.contains key = true ↔ entries[key]? = none := by
  rw [Std.ExtTreeMap.contains_eq_isSome_getElem?, Option.not_isSome_iff_eq_none]

variable [Std.LawfulEqOrd Key]

theorem mem_intoValues_iff {entries : Std.ExtTreeMap Key Value} {value : Value} :
    value ∈ intoValues entries ↔ ∃ key : Key, entries[key]? = some value := by
  simp [intoValues, Std.ExtTreeMap.mem_toList_iff_getElem?_eq_some]

/-- Where every value is stored under its own name, searching by name is a lookup. -/
theorem find?_intoValues [DecidableEq Key] {entries : Std.ExtTreeMap Key Value} (name : Value → Key)
    (named : ∀ (key : Key) (value : Value), entries[key]? = some value → name value = key) (key : Key) :
    (intoValues entries).find? (fun value => name value = key) = entries[key]? := by
  cases found : (intoValues entries).find? (fun value => name value = key) with
  | none =>
      cases stored : entries[key]? with
      | none => rfl
      | some value =>
          have absent := List.find?_eq_none.1 found value (mem_intoValues_iff.2 ⟨key, stored⟩)
          simp [named key value stored] at absent
  | some value =>
      have isNamed : name value = key := by simpa using List.find?_some found
      obtain ⟨other, stored⟩ := mem_intoValues_iff.1 (List.mem_of_find?_eq_some found)
      rw [← isNamed, named other value stored, stored]

end TradingGateway.Foundation.OrderedMap
