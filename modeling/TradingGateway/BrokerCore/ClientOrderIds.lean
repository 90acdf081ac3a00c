import TradingGateway.BrokerCore.Identifiers
import TradingGateway.Foundation.BitGroups

/-! The client order id that is derived from a request: no step of its encoder goes out of range, and it
tells the first twelve bytes of the request, no more and no less. -/

set_option autoImplicit false

namespace TradingGateway.BrokerCore.Identifiers

open Foundation.Bytes Foundation.BitGroups

section Checked

/-- `value >> amount`; `none` is its overflow. -/
def checkedShr (value : UInt16) (amount : Nat) : Option UInt16 :=
  if amount < 16 then some (value >>> UInt16.ofNat amount) else none

/-- `value << amount`; `none` is its overflow. -/
def checkedShl (value : UInt16) (amount : Nat) : Option UInt16 :=
  if amount < 16 then some (value <<< UInt16.ofNat amount) else none

/-- `left - right` on `u8`. -/
def checkedSubU8 (left right : Nat) : Option Nat :=
  if right ≤ left then some (left - right) else none

/-- `left + right` on `u8`. -/
def checkedAddU8 (left right : Nat) : Option Nat :=
  if left + right < 256 then some (left + right) else none

/-- `ALPHABET[index]`. -/
def checkedCharacter (index : UInt16) : Option Char :=
  clientIdAlphabet[index.toNat]?

def emitFullGroupsChecked (buffer : UInt16) (output : List Char) : Nat → Option (List Char × Nat)
  | bits + 5 => do
      let shifted ← checkedShr buffer bits
      let character ← checkedCharacter (shifted &&& 0b11111)
      emitFullGroupsChecked buffer (output ++ [character]) bits
  | bits => some (output, bits)

/-- What the loops carry: the characters so far, the buffer, and how many of its bits are left. -/
structure EncoderState where
  output : List Char
  buffer : UInt16
  bits : Nat

def EncoderState.start : EncoderState :=
  { output := [], buffer := 0, bits := 0 }

def EncoderState.pushByteChecked (state : EncoderState) (byte : UInt8) : Option EncoderState := do
  let shifted ← checkedShl state.buffer 8
  let filled := shifted ||| byte.toUInt16
  let bits ← checkedAddU8 state.bits 8
  let (output, bits) ← emitFullGroupsChecked filled state.output bits
  some { output := output, buffer := filled, bits := bits }

/-- `encode_uuid_prefix_base32`, where an operation that goes out of its range aborts. -/
def encodeUuidPrefixBase32Checked (bytes : List UInt8) : Option String := do
  let state ← (bytes.take 12).foldlM EncoderState.pushByteChecked .start
  if 0 < state.bits then
    let missing ← checkedSubU8 5 state.bits
    let shifted ← checkedShl state.buffer missing
    let character ← checkedCharacter (shifted &&& 0b11111)
    some (String.ofList (state.output ++ [character]))
  else some (String.ofList state.output)

end Checked

def groupCharacter (group : Nat) : Char :=
  clientIdAlphabet.getD group '0'

theorem idxOf_groupCharacter {group : Nat} (small : group < 2 ^ 5) :
    clientIdAlphabet.idxOf (groupCharacter group) = group := by
  have all : ∀ group < 32, clientIdAlphabet.idxOf (groupCharacter group) = group := by
    decide
  exact all group small

theorem groupCharacter_allowed {group : Nat} (small : group < 2 ^ 5) :
    isClientOrderIdCharacter (groupCharacter group) = true := by
  have all : ∀ group < 32, isClientOrderIdCharacter (groupCharacter group) = true := by
    decide
  exact all group small

theorem checkedCharacter_of_lt {index : UInt16} (small : index.toNat < 2 ^ 5) :
    checkedCharacter index = some (groupCharacter index.toNat) := by
  have all : ∀ group < 32, clientIdAlphabet[group]? = some (groupCharacter group) := by
    decide
  exact all index.toNat small

def groupText (count number : Nat) : List Char :=
  (groups 5 count number).map groupCharacter

@[simp] theorem length_groupText (count number : Nat) : (groupText count number).length = count := by
  simp [groupText]

theorem groupText_succ (count number : Nat) :
    groupText (count + 1) number = groupText count (number / 2 ^ 5) ++ [groupCharacter (number % 2 ^ 5)] := by
  simp [groupText, groups]

/-- The encoder behind some bytes: the characters are the groups of their number that are complete, and
fewer bits than make a group are left. -/
structure Encoded (bytes : List UInt8) (state : EncoderState) : Prop where
  bits : state.bits < 5
  count : 5 * state.output.length + state.bits = 8 * bytes.length
  buffer : state.buffer.toNat = ofBigEndian bytes % 2 ^ 16
  output : state.output = groupText state.output.length (ofBigEndian bytes / 2 ^ state.bits)

theorem encoded_start : Encoded [] .start :=
  ⟨by decide, rfl, rfl, rfl⟩

section Loop

variable {buffer : UInt16} {number : Nat}

/-- The inner loop turns the complete groups of the buffered bits into characters. -/
theorem emitFullGroupsChecked_ok (holds : buffer.toNat = number % 2 ^ 16) (output : List Char) (bits : Nat)
    (within : bits ≤ 16) (written : output = groupText output.length (number / 2 ^ bits)) :
    ∃ emitted left, emitFullGroupsChecked buffer output bits = some (emitted, left) ∧ left < 5 ∧
      5 * emitted.length + left = 5 * output.length + bits ∧
      emitted = groupText emitted.length (number / 2 ^ left) := by
  fun_induction emitFullGroupsChecked buffer output bits with
  | case1 output bits ih =>
      have group := toNat_group holds (within : bits + 5 ≤ 16)
      have small : number / 2 ^ bits % 2 ^ 5 < 2 ^ 5 := Nat.mod_lt _ (by decide)
      have shifts : checkedShr buffer bits = some (buffer >>> UInt16.ofNat bits) := if_pos (by omega)
      have character : checkedCharacter ((buffer >>> UInt16.ofNat bits) &&& 0b11111) =
          some (groupCharacter (number / 2 ^ bits % 2 ^ 5)) := by
        rw [checkedCharacter_of_lt (by rw [group]; exact small), group]
      have next : output ++ [groupCharacter (number / 2 ^ bits % 2 ^ 5)] =
          groupText (output ++ [groupCharacter (number / 2 ^ bits % 2 ^ 5)]).length (number / 2 ^ bits) := by
        rw [List.length_append, List.length_singleton, groupText_succ, Nat.div_div_eq_div_mul, ← Nat.pow_add, ← written]
      obtain ⟨emitted, left, ran, few, count, text⟩ := ih _ (by omega) next
      refine ⟨emitted, left, ?_, few, ?_, text⟩
      · simp only [shifts, character, Option.bind_eq_bind, Option.bind_some]
        exact ran
      · rw [count, List.length_append, List.length_singleton]
        omega
  | case2 output bits isFew =>
      have few : bits < 5 := by
        by_contra many
        exact isFew (bits - 5) (by omega)
      exact ⟨output, bits, rfl, few, rfl, written⟩

end Loop

theorem Encoded.pushByte {bytes : List UInt8} {state : EncoderState} (encoded : Encoded bytes state) (byte : UInt8) :
    ∃ next, state.pushByteChecked byte = some next ∧ Encoded (bytes ++ [byte]) next := by
  have few := encoded.bits
  have filled := toNat_shiftIn encoded.buffer byte
  rw [← ofBigEndian_append_singleton] at filled
  have small := byte.toNat_lt
  have unchanged : ofBigEndian (bytes ++ [byte]) / 2 ^ (state.bits + 8) = ofBigEndian bytes / 2 ^ state.bits := by
    rw [ofBigEndian_append_singleton, Nat.add_comm state.bits 8, Nat.pow_add, ← Nat.div_div_eq_div_mul]
    congr 1
    omega
  obtain ⟨emitted, left, ran, isFew, count, text⟩ := emitFullGroupsChecked_ok filled state.output (state.bits + 8)
    (by omega) (by rw [unchanged]; exact encoded.output)
  refine ⟨{ output := emitted, buffer := (state.buffer <<< 8) ||| byte.toUInt16, bits := left }, ?_, ?_⟩
  · have shifts : checkedShl state.buffer 8 = some (state.buffer <<< 8) := rfl
    have adds : checkedAddU8 state.bits 8 = some (state.bits + 8) := if_pos (by omega)
    unfold EncoderState.pushByteChecked
    simp only [shifts, adds, ran, Option.bind_eq_bind, Option.bind_some]
  · refine ⟨isFew, ?_, filled, text⟩
    have before := encoded.count
    rw [count, List.length_append, List.length_singleton]
    omega

theorem Encoded.pushBytes {bytes : List UInt8} {state : EncoderState} (encoded : Encoded bytes state)
    (further : List UInt8) :
    ∃ final, further.foldlM EncoderState.pushByteChecked state = some final ∧ Encoded (bytes ++ further) final := by
  induction further generalizing bytes state with
  | nil => exact ⟨state, rfl, by simpa using encoded⟩
  | cons byte rest ih =>
      obtain ⟨next, pushed, encodedNext⟩ := encoded.pushByte byte
      obtain ⟨final, ran, encodedFinal⟩ := ih encodedNext
      refine ⟨final, ?_, by simpa using encodedFinal⟩
      rw [List.foldlM_cons, pushed]
      exact ran

/-- Twelve bytes fill nineteen groups and one bit of the twentieth. -/
theorem encodeUuidPrefixBase32Checked_eq {bytes : List UInt8} (enough : 12 ≤ bytes.length) :
    encodeUuidPrefixBase32Checked bytes = some (String.ofList (groupText 20 (ofBigEndian (bytes.take 12) * 2 ^ 4))) := by
  obtain ⟨state, ran, encoded⟩ := encoded_start.pushBytes (bytes.take 12)
  rw [List.nil_append] at encoded
  have count := encoded.count
  have few := encoded.bits
  rw [List.length_take, Nat.min_eq_left enough] at count
  have isLast : state.bits = 1 := by omega
  have length : state.output.length = 19 := by omega
  have output := encoded.output
  rw [length, isLast] at output
  have group := toNat_lastGroup encoded.buffer (by decide : 4 ≤ 5)
  have small : ofBigEndian (bytes.take 12) * 2 ^ 4 % 2 ^ 5 < 2 ^ 5 := Nat.mod_lt _ (by decide)
  have shifts : checkedShl state.buffer 4 = some (state.buffer <<< UInt16.ofNat 4) := rfl
  have character : checkedCharacter ((state.buffer <<< UInt16.ofNat 4) &&& 0b11111) =
      some (groupCharacter (ofBigEndian (bytes.take 12) * 2 ^ 4 % 2 ^ 5)) := by
    rw [checkedCharacter_of_lt (by rw [group]; exact small), group]
  have halves : ofBigEndian (bytes.take 12) * 2 ^ 4 / 2 ^ 5 = ofBigEndian (bytes.take 12) / 2 ^ 1 := by
    omega
  unfold encodeUuidPrefixBase32Checked
  have missing : checkedSubU8 5 1 = some 4 := rfl
  simp only [ran, isLast, missing, shifts, character, Option.bind_eq_bind, Option.bind_some, Nat.lt_add_one, if_true]
  rw [groupText_succ, halves, ← output]

section Agree

theorem clientIdCharacter_of_checked {index : UInt16} {character : Char} (found : checkedCharacter index = some character) :
    clientIdCharacter index = character := by
  unfold checkedCharacter at found
  unfold clientIdCharacter
  rw [List.getD_eq_getElem?_getD, found]
  rfl

theorem emitFullGroups_agrees {buffer : UInt16} {output emitted : List Char} {bits left : Nat}
    (ran : emitFullGroupsChecked buffer output bits = some (emitted, left)) :
    emitFullGroups buffer output bits = (emitted, left) := by
  fun_induction emitFullGroupsChecked buffer output bits with
  | case1 output bits ih =>
      simp only [Option.bind_eq_bind, Option.bind_eq_some_iff] at ran
      obtain ⟨shifted, shifts, character, found, ran⟩ := ran
      have same : shifted = buffer >>> UInt16.ofNat bits := by
        unfold checkedShr at shifts
        split at shifts
        · exact (Option.some.inj shifts).symm
        · cases shifts
      subst same
      rw [← clientIdCharacter_of_checked found] at ran
      rw [emitFullGroups]
      exact ih _ ran
  | case2 output bits isFew =>
      obtain ⟨rfl, rfl⟩ : output = emitted ∧ bits = left := by simpa using ran
      rw [emitFullGroups]
      exact isFew

/-- What the encoder gives is what it gives without its checks. -/
theorem encodeUuidPrefixBase32_of_checked {bytes : List UInt8} {text : String}
    (ran : encodeUuidPrefixBase32Checked bytes = some text) : encodeUuidPrefixBase32 bytes = text := by
  have steps : ∀ (push : List Char × UInt16 × Nat → UInt8 → List Char × UInt16 × Nat),
      (∀ output buffer bits byte, push (output, buffer, bits) byte =
        ((emitFullGroups ((buffer <<< 8) ||| byte.toUInt16) output (bits + 8)).1,
          (buffer <<< 8) ||| byte.toUInt16,
          (emitFullGroups ((buffer <<< 8) ||| byte.toUInt16) output (bits + 8)).2)) →
      ∀ (bytes : List UInt8) (state final : EncoderState),
      bytes.foldlM EncoderState.pushByteChecked state = some final →
      bytes.foldl push (state.output, state.buffer, state.bits) = (final.output, final.buffer, final.bits) := by
    intro push pushes bytes
    induction bytes with
    | nil =>
        intro state final ran
        obtain rfl : state = final := by simpa using ran
        rfl
    | cons byte rest ih =>
        intro state final ran
        rw [List.foldlM_cons, Option.bind_eq_bind, Option.bind_eq_some_iff] at ran
        obtain ⟨next, pushed, ran⟩ := ran
        unfold EncoderState.pushByteChecked at pushed
        simp only [Option.bind_eq_bind, Option.bind_eq_some_iff] at pushed
        obtain ⟨shifted, shifts, bits, adds, ⟨emitted, left⟩, emits, made⟩ := pushed
        have isShifted : shifted = state.buffer <<< 8 := (Option.some.inj shifts).symm
        have isBits : bits = state.bits + 8 := by
          unfold checkedAddU8 at adds
          split at adds
          · exact (Option.some.inj adds).symm
          · cases adds
        subst isShifted
        subst isBits
        have isNext := Option.some.inj made
        subst isNext
        have agreed := emitFullGroups_agrees emits
        rw [List.foldl_cons, pushes, agreed]
        exact ih _ _ ran
  unfold encodeUuidPrefixBase32Checked at ran
  rw [Option.bind_eq_bind, Option.bind_eq_some_iff] at ran
  obtain ⟨state, folded, ran⟩ := ran
  unfold encodeUuidPrefixBase32
  have unchecked := fun push pushes => steps push pushes (bytes.take 12) .start state folded
  unfold EncoderState.start at unchecked
  rw [unchecked _ fun _ _ _ _ => rfl]
  dsimp only
  by_cases isLeft : 0 < state.bits
  · rw [if_pos isLeft] at ran ⊢
    simp only [Option.bind_eq_bind, Option.bind_eq_some_iff] at ran
    obtain ⟨missing, subtracts, shifted, shifts, character, found, made⟩ := ran
    have isMissing : missing = 5 - state.bits := by
      unfold checkedSubU8 at subtracts
      split at subtracts
      · exact (Option.some.inj subtracts).symm
      · cases subtracts
    subst isMissing
    have isShifted : shifted = state.buffer <<< UInt16.ofNat (5 - state.bits) := by
      unfold checkedShl at shifts
      split at shifts
      · exact (Option.some.inj shifts).symm
      · cases shifts
    subst isShifted
    rw [← Option.some.inj made, clientIdCharacter_of_checked found]
  · rw [if_neg isLeft] at ran ⊢
    exact Option.some.inj ran

end Agree

theorem fromStrategyRequest_value (requestId : StrategyRequestId) :
    (ClientOrderId.fromStrategyRequest requestId).value =
      String.ofList (groupText 20 (ofBigEndian (requestId.uuid.toList.take 12) * 2 ^ 4)) :=
  encodeUuidPrefixBase32_of_checked (encodeUuidPrefixBase32Checked_eq (by simp))

theorem groupText_allowed {count number : Nat} {character : Char} (member : character ∈ groupText count number) :
    isClientOrderIdCharacter character = true := by
  obtain ⟨group, isGroup, rfl⟩ := List.mem_map.1 member
  exact groupCharacter_allowed (lt_of_mem_groups isGroup)

/-- A text of twenty characters of groups is accepted as a client order id. -/
theorem new_groupText (number : Nat) :
    ClientOrderId.new (String.ofList (groupText 20 number)) = .ok { value := String.ofList (groupText 20 number) } := by
  have length : (String.ofList (groupText 20 number)).length = 20 := by simp
  have nonEmpty : String.ofList (groupText 20 number) ≠ "" := by
    intro empty
    rw [empty] at length
    cases length
  have allowed : (String.ofList (groupText 20 number)).toList.find? (fun character => !isClientOrderIdCharacter character) =
      none := by
    rw [List.find?_eq_none]
    intro character member
    rw [String.toList_ofList] at member
    simp [groupText_allowed member]
  unfold ClientOrderId.new validateClientOrderId
  rw [if_neg nonEmpty, length, if_neg (by decide), allowed]
  rfl

/-- The groups can be read back from their characters. -/
theorem groups_of_groupText (count number : Nat) :
    (groupText count number).map clientIdAlphabet.idxOf = groups 5 count number := by
  unfold groupText
  rw [List.map_map]
  have same : (groups 5 count number).map (clientIdAlphabet.idxOf ∘ groupCharacter) = (groups 5 count number).map id := by
    refine List.map_congr_left ?_
    intro group member
    exact idxOf_groupCharacter (lt_of_mem_groups member)
  rw [same, List.map_id]

theorem groupText_inj {count left right : Nat} (leftSmall : left < 2 ^ (5 * count)) (rightSmall : right < 2 ^ (5 * count))
    (same : groupText count left = groupText count right) : left = right := by
  have read := congrArg (List.map clientIdAlphabet.idxOf) same
  rw [groups_of_groupText, groups_of_groupText] at read
  exact groups_inj leftSmall rightSmall read

/-- The id that is derived from a request has twenty characters and is accepted, no operation on the way goes
out of its range, and it is shared by exactly the requests whose first twelve bytes are the same. -/
theorem client_order_id_tells_prefix (requestId : StrategyRequestId) :
    encodeUuidPrefixBase32Checked requestId.uuid.toList = some (ClientOrderId.fromStrategyRequest requestId).value ∧
      (ClientOrderId.fromStrategyRequest requestId).value.length = 20 ∧
      ClientOrderId.new (ClientOrderId.fromStrategyRequest requestId).value =
        .ok (ClientOrderId.fromStrategyRequest requestId) ∧
      ∀ other : StrategyRequestId,
        ClientOrderId.fromStrategyRequest requestId = ClientOrderId.fromStrategyRequest other ↔
          requestId.uuid.toList.take 12 = other.uuid.toList.take 12 := by
  have small : ∀ id : StrategyRequestId, ofBigEndian (id.uuid.toList.take 12) * 2 ^ 4 < 2 ^ (5 * 20) := by
    intro id
    have bound := ofBigEndian_lt (id.uuid.toList.take 12)
    have length : (id.uuid.toList.take 12).length = 12 := by simp
    rw [length] at bound
    omega
  refine ⟨?_, ?_, ?_, ?_⟩
  · rw [fromStrategyRequest_value]
    exact encodeUuidPrefixBase32Checked_eq (by simp)
  · rw [fromStrategyRequest_value]
    simp
  · rw [fromStrategyRequest_value, new_groupText, ← fromStrategyRequest_value]
  · intro other
    constructor
    · intro same
      have texts := congrArg ClientOrderId.value same
      rw [fromStrategyRequest_value, fromStrategyRequest_value, String.ofList_inj] at texts
      have numbers := groupText_inj (small requestId) (small other) texts
      exact ofBigEndian_inj (by simp) (Nat.eq_of_mul_eq_mul_right (by decide) numbers)
    · intro same
      rw [ClientOrderId.mk.injEq, fromStrategyRequest_value, fromStrategyRequest_value, same]

end TradingGateway.BrokerCore.Identifiers
