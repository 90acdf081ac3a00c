import TradingGateway.Foundation.Bytes

/-! Fields that end where they end, whatever follows them, and texts of numbers and bytes in their only
accepted spelling. -/

set_option autoImplicit false

namespace TradingGateway.Foundation.FieldCodes

open Foundation.Bytes

section Fields

variable {Value Error : Type}

/-- Two fields at the fronts of one byte string are the same field, and the same bytes follow them. -/
def Delimited (encode : Value → Except Error (List UInt8)) : Prop :=
  ∀ ⦃left right : Value⦄ ⦃front other rest more : List UInt8⦄, encode left = .ok front → encode right = .ok other →
    front ++ rest = other ++ more → left = right ∧ rest = more

/-- A field of fixed width that tells its value. -/
theorem delimited_of_width {encode : Value → Except Error (List UInt8)} {width : Nat}
    (length : ∀ {value bytes}, encode value = .ok bytes → bytes.length = width)
    (injective : ∀ {left right bytes}, encode left = .ok bytes → encode right = .ok bytes → left = right) :
    Delimited encode := by
  intro left right front other rest more writes writesOther same
  obtain ⟨sameFront, sameRest⟩ := List.append_inj same (by rw [length writes, length writesOther])
  subst sameFront
  exact ⟨injective writes writesOther, sameRest⟩

/-- Big-endian numbers of one width that fit it. -/
theorem bigEndian_delimited {width left right : Nat} {rest more : List UInt8} (small : left < 256 ^ width)
    (otherSmall : right < 256 ^ width) (same : toBigEndian width left ++ rest = toBigEndian width right ++ more) :
    left = right ∧ rest = more := by
  obtain ⟨front, back⟩ := List.append_inj same (by simp)
  have numbers := congrArg ofBigEndian front
  rw [ofBigEndian_toBigEndian small, ofBigEndian_toBigEndian otherSmall] at numbers
  exact ⟨numbers, back⟩

/-- Bytes behind their length in a fixed width. -/
theorem lengthPrefixed_delimited {width : Nat} {front other rest more : List UInt8} (small : front.length < 256 ^ width)
    (otherSmall : other.length < 256 ^ width)
    (same : toBigEndian width front.length ++ (front ++ rest) = toBigEndian width other.length ++ (other ++ more)) :
    front = other ∧ rest = more := by
  obtain ⟨lengths, back⟩ := bigEndian_delimited small otherSmall same
  exact List.append_inj back lengths

end Fields

theorem utf8Bytes_injective : Function.Injective utf8Bytes := by
  intro left right same
  unfold utf8Bytes at same
  have data : left.toByteArray = right.toByteArray := ByteArray.ext (Array.toList_inj.1 same)
  exact String.toByteArray_inj.1 data

section Hexadecimal

/-- Every lowercase digit is one of the sixteen. -/
theorem exists_hexDigit {digit : Char} (lower : isLowerHex digit = true) : ∃ half : Fin 16, hexDigit half = digit := by
  have all : ∀ code < 128, isLowerHex (Char.ofNat code) = true → ∃ half : Fin 16, hexDigit half = Char.ofNat code := by
    decide
  have small : digit.toNat < 128 := by
    unfold isLowerHex at lower
    simp only [Bool.or_eq_true, Bool.and_eq_true, decide_eq_true_eq, Char.le_def, UInt32.le_iff_toNat_le] at lower
    have upper : digit.val.toNat ≤ 102 := by
      rcases lower with ⟨_, atMost⟩ | ⟨_, atMost⟩
      · exact atMost.trans (by decide)
      · exact atMost
    exact Nat.lt_of_le_of_lt upper (by decide)
  have found := all digit.toNat small
  rw [Char.ofNat_toNat] at found
  exact found lower

/-- Pairs of lowercase digits spell bytes. -/
theorem exists_hexString {text : List Char} (even : text.length % 2 = 0) (lower : ∀ digit ∈ text, isLowerHex digit = true) :
    ∃ bytes, hexString bytes = text ∧ 2 * bytes.length = text.length := by
  match text with
  | [] => exact ⟨[], rfl, rfl⟩
  | [_] => cases even
  | high :: low :: rest =>
      have evenRest : rest.length % 2 = 0 := by
        rw [List.length_cons, List.length_cons] at even
        omega
      obtain ⟨bytes, spelled, length⟩ := exists_hexString evenRest
        (fun digit member => lower digit (List.mem_cons_of_mem _ (List.mem_cons_of_mem _ member)))
      obtain ⟨first, isFirst⟩ := exists_hexDigit (lower high (by simp))
      obtain ⟨second, isSecond⟩ := exists_hexDigit (lower low (by simp))
      refine ⟨UInt8.ofNat (first * 16 + second) :: bytes, ?_, by simp [← length]; omega⟩
      have value : (UInt8.ofNat (first * 16 + second)).toNat = first * 16 + second := by
        rw [UInt8.toNat_ofNat', Nat.mod_eq_of_lt (by omega)]
      have byte : hexByte (UInt8.ofNat (first * 16 + second)) = [high, low] := by
        have upperHalf : (first * 16 + second : Nat) / 16 = first := by omega
        have lowerHalf : (first * 16 + second : Nat) % 16 = second := by omega
        unfold hexByte
        simp only [value, upperHalf, lowerHalf, Fin.eta, isFirst, isSecond]
      rw [hexString_cons, byte, spelled]
      rfl

end Hexadecimal

section Decimal

def IsCanonicalDecimal (digits : List Char) : Prop :=
  digits ≠ [] ∧ (1 < digits.length → digits.head? ≠ some '0') ∧ ∀ digit ∈ digits, digit.isDigit = true

theorem exists_digitChar {digit : Char} (isDigit : digit.isDigit = true) :
    digit.toNat - '0'.toNat < 10 ∧ Nat.digitChar (digit.toNat - '0'.toNat) = digit := by
  have all : ∀ code < 128, (Char.ofNat code).isDigit = true → (Char.ofNat code).toNat - '0'.toNat < 10 ∧
      Nat.digitChar ((Char.ofNat code).toNat - '0'.toNat) = Char.ofNat code := by
    decide
  have small : digit.toNat < 128 := by
    simp only [Char.isDigit, Bool.and_eq_true, decide_eq_true_eq, ge_iff_le, UInt32.le_iff_toNat_le] at isDigit
    exact Nat.lt_of_le_of_lt isDigit.2 (by decide)
  have found := all digit.toNat small
  rw [Char.ofNat_toNat] at found
  exact found isDigit

theorem head_toDigits {number : Nat} (positive : 0 < number) : (Nat.toDigits 10 number).head? ≠ some '0' := by
  induction number using Nat.strongRecOn with
  | ind number ih =>
      by_cases single : number < 10
      · rw [Nat.toDigits_of_lt_base single]
        interval_cases number <;> decide
      · have high := ih (number / 10) (by omega) (by omega)
        have split := Nat.toDigits_append_toDigits (b := 10) (by decide) (by omega : 0 < number / 10)
          (Nat.mod_lt number (by decide : 0 < 10))
        rw [Nat.div_add_mod] at split
        rw [← split, List.head?_append]
        intro isZero
        cases found : (Nat.toDigits 10 (number / 10)).head? with
        | none => exact Nat.toDigits_ne_nil (List.head?_eq_none_iff.1 found)
        | some digit =>
            rw [found] at isZero high
            exact high (by simpa using isZero)

theorem isCanonicalDecimal_toDigits (number : Nat) : IsCanonicalDecimal (Nat.toDigits 10 number) := by
  refine ⟨Nat.toDigits_ne_nil, ?_, fun digit member => Nat.isDigit_of_mem_toDigits (by decide) (by decide) member⟩
  intro long
  refine head_toDigits ?_
  by_contra isZero
  rw [Nat.eq_zero_of_not_pos isZero] at long
  exact absurd long (by decide)

/-- A canonical text of digits is the one that its number is written as. -/
theorem toDigits_ofDigitChars {digits : List Char} (canonical : IsCanonicalDecimal digits) :
    Nat.toDigits 10 (Nat.ofDigitChars 10 digits 0) = digits := by
  induction digits using List.reverseRecOn with
  | nil => exact absurd rfl canonical.1
  | append_singleton front last ih =>
      obtain ⟨_, noZero, areDigits⟩ := canonical
      obtain ⟨small, char⟩ := exists_digitChar (areDigits last (by simp))
      cases front with
      | nil =>
          have value : Nat.ofDigitChars 10 ([] ++ [last]) 0 = last.toNat - '0'.toNat := by
            simp [Nat.ofDigitChars_cons]
          rw [value, Nat.toDigits_of_lt_base small, char]
          rfl
      | cons head rest =>
          have notZero : head ≠ '0' := by
            intro isZero
            exact noZero (by simp) (by simp [isZero])
          have written := ih ⟨List.cons_ne_nil _ _, fun _ => by simpa using notZero,
            fun digit member => areDigits digit (List.mem_append_left _ member)⟩
          have positive : 0 < Nat.ofDigitChars 10 (head :: rest) 0 := by
            by_contra isZero
            rw [Nat.eq_zero_of_not_pos isZero] at written
            have same : ['0'] = head :: rest := written
            exact notZero (List.cons.inj same).1.symm
          have value : Nat.ofDigitChars 10 (head :: rest ++ [last]) 0 =
              10 * Nat.ofDigitChars 10 (head :: rest) 0 + (last.toNat - '0'.toNat) := by
            rw [Nat.ofDigitChars_append, Nat.ofDigitChars_cons, Nat.ofDigitChars_nil]
          rw [value, ← Nat.toDigits_append_toDigits (by decide) positive small, written,
            Nat.toDigits_of_lt_base small, char]

end Decimal

end TradingGateway.Foundation.FieldCodes
