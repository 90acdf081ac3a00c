import Mathlib.Data.List.Basic
import Mathlib.Data.Nat.Digits.Lemmas

/-! Byte strings: big-endian integers, lowercase hexadecimal text and exact splitting. -/

set_option autoImplicit false

namespace TradingGateway.Foundation.Bytes

/-- The low `width` bytes of a number, most significant first. -/
def toBigEndian : Nat → Nat → List UInt8
  | 0, _ => []
  | width + 1, value => UInt8.ofNat (value / 256 ^ width) :: toBigEndian width value

def ofBigEndian : List UInt8 → Nat
  | [] => 0
  | byte :: rest => byte.toNat * 256 ^ rest.length + ofBigEndian rest

@[simp] theorem length_toBigEndian (width value : Nat) : (toBigEndian width value).length = width := by
  induction width with
  | zero => rfl
  | succ width ih => simp [toBigEndian, ih]

theorem ofBigEndian_lt (bytes : List UInt8) : ofBigEndian bytes < 256 ^ bytes.length := by
  induction bytes with
  | nil => simp [ofBigEndian]
  | cons byte rest ih =>
      have small : byte.toNat ≤ 255 := Nat.le_of_lt_succ byte.toNat_lt
      have scaled : byte.toNat * 256 ^ rest.length ≤ 255 * 256 ^ rest.length :=
        Nat.mul_le_mul_right _ small
      simp only [ofBigEndian, List.length_cons, Nat.pow_succ]
      omega

theorem ofBigEndian_toBigEndian_mod (width value : Nat) :
    ofBigEndian (toBigEndian width value) = value % 256 ^ width := by
  induction width with
  | zero => simp [toBigEndian, ofBigEndian, Nat.mod_one]
  | succ width ih =>
      have byte : (UInt8.ofNat (value / 256 ^ width)).toNat = value / 256 ^ width % 256 := by simp
      simp only [toBigEndian, ofBigEndian, length_toBigEndian, byte, ih]
      rw [Nat.mod_pow_succ, Nat.mul_comm, Nat.add_comm]

theorem ofBigEndian_toBigEndian {width value : Nat} (small : value < 256 ^ width) :
    ofBigEndian (toBigEndian width value) = value := by
  rw [ofBigEndian_toBigEndian_mod, Nat.mod_eq_of_lt small]

theorem toBigEndian_add_mul (width high low : Nat) :
    toBigEndian width (high * 256 ^ width + low) = toBigEndian width low := by
  have general : ∀ inner, inner ≤ width → toBigEndian inner (high * 256 ^ width + low) = toBigEndian inner low := by
    intro inner
    induction inner with
    | zero => intro _; rfl
    | succ inner ih =>
        intro bound
        obtain ⟨extra, rfl⟩ := Nat.exists_eq_add_of_le bound
        have split : high * 256 ^ (inner + 1 + extra) + low =
            low + 256 ^ inner * (256 * (high * 256 ^ extra)) := by
          rw [Nat.pow_add, Nat.pow_succ]
          ring
        have top : (high * 256 ^ (inner + 1 + extra) + low) / 256 ^ inner =
            low / 256 ^ inner + 256 * (high * 256 ^ extra) := by
          rw [split, Nat.add_mul_div_left _ _ (by positivity)]
        have head : UInt8.ofNat ((high * 256 ^ (inner + 1 + extra) + low) / 256 ^ inner) =
            UInt8.ofNat (low / 256 ^ inner) := by
          rw [← UInt8.toNat_inj, top]
          simp
        simp only [toBigEndian, head]
        rw [ih (by omega)]
  exact general width (Nat.le_refl width)

@[simp] theorem toBigEndian_ofBigEndian (bytes : List UInt8) :
    toBigEndian bytes.length (ofBigEndian bytes) = bytes := by
  induction bytes with
  | nil => rfl
  | cons byte rest ih =>
      have top : (byte.toNat * 256 ^ rest.length + ofBigEndian rest) / 256 ^ rest.length = byte.toNat := by
        rw [Nat.mul_comm, Nat.mul_add_div (by positivity), Nat.div_eq_of_lt (ofBigEndian_lt rest)]
        simp
      simp only [List.length_cons, toBigEndian, ofBigEndian, top, toBigEndian_add_mul, ih]
      simp

def utf8Bytes (text : String) : List UInt8 :=
  text.toUTF8.data.toList

def charBytes (text : List Char) : List UInt8 :=
  text.flatMap String.utf8EncodeChar

def hexDigit (half : Fin 16) : Char :=
  ['0', '1', '2', '3', '4', '5', '6', '7', '8', '9', 'a', 'b', 'c', 'd', 'e', 'f'].get half

/-- Two lowercase hexadecimal digits, as `format!("{byte:02x}")` writes them. -/
def hexByte (byte : UInt8) : List Char :=
  [hexDigit ⟨byte.toNat / 16, by have := byte.toNat_lt; omega⟩, hexDigit ⟨byte.toNat % 16, by omega⟩]

def hexString (bytes : List UInt8) : List Char :=
  bytes.flatMap hexByte

/-- A lowercase hexadecimal digit: an ASCII digit or one of `a` to `f`. -/
def isLowerHex (character : Char) : Bool :=
  ('0' ≤ character && character ≤ '9') || ('a' ≤ character && character ≤ 'f')

theorem hexDigit_injective : Function.Injective hexDigit := by decide

theorem isLowerHex_hexDigit (half : Fin 16) : isLowerHex (hexDigit half) = true := by
  revert half
  decide

theorem hexByte_injective : Function.Injective hexByte := by
  intro left right same
  simp only [hexByte, List.cons.injEq, and_true] at same
  have high := Fin.mk.inj (hexDigit_injective same.1)
  have low := Fin.mk.inj (hexDigit_injective same.2)
  rw [← UInt8.toNat_inj]
  omega

@[simp] theorem hexString_nil : hexString [] = [] := rfl

@[simp] theorem hexString_cons (byte : UInt8) (rest : List UInt8) :
    hexString (byte :: rest) = hexByte byte ++ hexString rest := rfl

@[simp] theorem length_hexString (bytes : List UInt8) : (hexString bytes).length = 2 * bytes.length := by
  induction bytes with
  | nil => rfl
  | cons byte rest ih =>
      simp only [hexString_cons, List.length_append, ih, hexByte, List.length_cons, List.length_nil]
      omega

theorem isLowerHex_of_mem_hexString {bytes : List UInt8} {character : Char}
    (member : character ∈ hexString bytes) : isLowerHex character = true := by
  obtain ⟨byte, _, digit⟩ := List.mem_flatMap.1 member
  simp only [hexByte, List.mem_cons, List.not_mem_nil, or_false] at digit
  rcases digit with rfl | rfl <;> exact isLowerHex_hexDigit _

theorem hexString_injective : Function.Injective hexString := by
  intro left
  induction left with
  | nil =>
      intro right same
      cases right with
      | nil => rfl
      | cons byte rest => simp [hexByte] at same
  | cons byte rest ih =>
      intro right same
      cases right with
      | nil => simp [hexByte] at same
      | cons other others =>
          obtain ⟨head, tail⟩ := List.append_inj (by simpa using same) (by simp [hexByte])
          rw [hexByte_injective head, ih tail]

/-- Take exactly `count` bytes off the front, if there are that many. -/
def readExact (count : Nat) (bytes : List UInt8) : Option (List UInt8 × List UInt8) :=
  if count ≤ bytes.length then some (bytes.take count, bytes.drop count) else none

theorem readExact_append {count : Nat} {front : List UInt8} (back : List UInt8)
    (exact : front.length = count) : readExact count (front ++ back) = some (front, back) := by
  subst exact
  simp [readExact]

theorem readExact_eq_some_iff {count : Nat} {bytes front back : List UInt8} :
    readExact count bytes = some (front, back) ↔ bytes = front ++ back ∧ front.length = count := by
  constructor
  · intro read
    unfold readExact at read
    split at read
    · next enough =>
        obtain ⟨rfl, rfl⟩ : bytes.take count = front ∧ bytes.drop count = back := by simpa using read
        exact ⟨(List.take_append_drop count bytes).symm, by simpa using enough⟩
    · simp at read
  · rintro ⟨rfl, exact⟩
    exact readExact_append back exact

end TradingGateway.Foundation.Bytes
