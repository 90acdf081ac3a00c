import TradingGateway.Foundation.Bytes

/-! Numbers cut into groups of bits, and bytes shifted into a buffer of sixteen bits. -/

set_option autoImplicit false

namespace TradingGateway.Foundation.BitGroups

open Foundation.Bytes

/-- The low `count` groups of `width` bits of a number, most significant first. -/
def groups (width : Nat) : Nat → Nat → List Nat
  | 0, _ => []
  | count + 1, value => groups width count (value / 2 ^ width) ++ [value % 2 ^ width]

variable {width count value other : Nat}

@[simp] theorem length_groups (width count value : Nat) : (groups width count value).length = count := by
  induction count generalizing value with
  | zero => rfl
  | succ count ih => simp [groups, ih]

theorem lt_of_mem_groups {group : Nat} (member : group ∈ groups width count value) : group < 2 ^ width := by
  induction count generalizing value with
  | zero => cases member
  | succ count ih =>
      rcases List.mem_append.1 member with front | last
      · exact ih front
      · rw [List.mem_singleton] at last
        rw [last]
        exact Nat.mod_lt _ (Nat.two_pow_pos width)

/-- A number that fits is given by its groups. -/
theorem groups_inj (small : value < 2 ^ (width * count)) (otherSmall : other < 2 ^ (width * count))
    (same : groups width count value = groups width count other) : value = other := by
  induction count generalizing value other with
  | zero =>
      rw [Nat.mul_zero, Nat.pow_zero] at small otherSmall
      omega
  | succ count ih =>
      rw [Nat.mul_succ, Nat.pow_add] at small otherSmall
      obtain ⟨front, last⟩ := List.append_inj same (by simp)
      have high := ih (Nat.div_lt_of_lt_mul (by rwa [Nat.mul_comm])) (Nat.div_lt_of_lt_mul (by rwa [Nat.mul_comm])) front
      have low : value % 2 ^ width = other % 2 ^ width := by simpa using last
      rw [← Nat.div_add_mod value (2 ^ width), high, low, Nat.div_add_mod]

section Buffer

variable {buffer : UInt16} {number shift : Nat}

/-- A buffer of sixteen bits keeps the last sixteen bits of what is shifted in. -/
theorem toNat_shiftIn (holds : buffer.toNat = number % 2 ^ 16) (byte : UInt8) :
    ((buffer <<< 8) ||| byte.toUInt16).toNat = (number * 256 + byte.toNat) % 2 ^ 16 := by
  have small := byte.toNat_lt
  have shifted : (buffer <<< 8).toNat = 2 ^ 8 * (number % 2 ^ 8) := by
    have amount : (8 : UInt16).toNat % 16 = 8 := rfl
    rw [UInt16.toNat_shiftLeft, amount, Nat.shiftLeft_eq, holds]
    omega
  rw [UInt16.toNat_or, shifted, UInt8.toNat_toUInt16, ← Nat.two_pow_add_eq_or_of_lt small]
  omega

/-- A group of the buffer is a group of the number while it lies within the sixteen bits. -/
theorem toNat_group (holds : buffer.toNat = number % 2 ^ 16) (within : shift + 5 ≤ 16) :
    ((buffer >>> UInt16.ofNat shift) &&& 0b11111).toNat = number / 2 ^ shift % 2 ^ 5 := by
  have amount : (UInt16.ofNat shift).toNat % 16 = shift := by
    rw [UInt16.toNat_ofNat', Nat.mod_eq_of_lt (by omega), Nat.mod_eq_of_lt (by omega)]
  obtain ⟨rest, exact⟩ := Nat.exists_eq_add_of_le within
  rw [UInt16.toNat_and, UInt16.toNat_shiftRight, amount, Nat.shiftRight_eq_div_pow, holds]
  have mask : (0b11111 : UInt16).toNat = 2 ^ 5 - 1 := rfl
  rw [mask, Nat.and_two_pow_sub_one_eq_mod, exact, Nat.add_assoc, Nat.pow_add, Nat.mod_mul_right_div_self, Nat.pow_add,
    Nat.mod_mul_right_mod]

/-- The last bits of the buffer, filled up to a group with zeros. -/
theorem toNat_lastGroup (holds : buffer.toNat = number % 2 ^ 16) (within : shift ≤ 5) :
    ((buffer <<< UInt16.ofNat shift) &&& 0b11111).toNat = number * 2 ^ shift % 2 ^ 5 := by
  have amount : (UInt16.ofNat shift).toNat % 16 = shift := by
    rw [UInt16.toNat_ofNat', Nat.mod_eq_of_lt (by omega), Nat.mod_eq_of_lt (by omega)]
  have mask : (0b11111 : UInt16).toNat = 2 ^ 5 - 1 := rfl
  rw [UInt16.toNat_and, UInt16.toNat_shiftLeft, amount, Nat.shiftLeft_eq, holds, mask, Nat.and_two_pow_sub_one_eq_mod,
    Nat.mod_mod_of_dvd _ (by decide : 2 ^ 5 ∣ 2 ^ 16), Nat.mul_mod, Nat.mod_mod_of_dvd _ (by decide : 2 ^ 5 ∣ 2 ^ 16),
    ← Nat.mul_mod]

end Buffer

theorem ofBigEndian_append_singleton (bytes : List UInt8) (byte : UInt8) :
    ofBigEndian (bytes ++ [byte]) = ofBigEndian bytes * 256 + byte.toNat := by
  induction bytes with
  | nil => simp [ofBigEndian]
  | cons head rest ih =>
      rw [List.cons_append, ofBigEndian, ih, ofBigEndian, List.length_append, List.length_singleton, Nat.pow_succ]
      ring

theorem ofBigEndian_inj {left right : List UInt8} (sameLength : left.length = right.length)
    (same : ofBigEndian left = ofBigEndian right) : left = right := by
  rw [← toBigEndian_ofBigEndian left, ← toBigEndian_ofBigEndian right, sameLength, same]

end TradingGateway.Foundation.BitGroups
