import TradingGateway.Stage8b.CommandPublications
import TradingGateway.Stage8b.ScheduleRecoveryProperties

/-! Every publication of a command has one identity: its bytes tell all its fields, and no other publication
continues them. -/

set_option autoImplicit false

namespace TradingGateway.Stage8b.CommandPublications

open BrokerCore.Identifiers Stage6.JournalRecord Stage6.PlainCodec
open Foundation.Bytes Foundation.ExceptRun Foundation.FieldCodes

section RedisIds

theorem parseU64_ok_iff {digits : List Char} {number : UInt64} :
    parseU64 digits = .ok number ↔ Nat.ofDigitChars 10 digits 0 = number.toNat := by
  unfold parseU64
  dsimp only
  constructor
  · intro parsed
    obtain ⟨small, same⟩ := check_bind_ok_iff.1 parsed
    rw [rejectIf_ok_iff, Nat.not_le] at small
    rw [← Except.ok.inj same, UInt64.toNat_ofNat_of_lt' small]
  · intro value
    have small := number.toNat_lt
    rw [value, rejectIf_of_not _ (Nat.not_le.2 small), ok_bind, UInt64.ofNat_toNat]

theorem span_of_not_mem {front back : List Char} (absent : '-' ∉ front) :
    (front ++ '-' :: back).span (· != '-') = (front, '-' :: back) := by
  have all : ∀ character ∈ front, (character != '-') = true := by
    intro character member
    rw [bne_iff_ne]
    rintro rfl
    exact absent member
  rw [List.span_eq_takeWhile_dropWhile, List.takeWhile_append_of_pos all, List.dropWhile_append_of_pos all]
  simp

theorem not_mem_of_isDigit {digits : List Char} (areDigits : ∀ digit ∈ digits, digit.isDigit = true) : '-' ∉ digits := by
  intro member
  exact absurd (areDigits '-' member) (by decide)

@[simp] theorem toList_formatRedisId (value : UInt64 × UInt64) :
    (formatRedisId value).toList = Nat.toDigits 10 value.1.toNat ++ '-' :: Nat.toDigits 10 value.2.toNat := by
  simp [formatRedisId, Nat.toString_eq_repr, Nat.toList_repr]

/-- What both halves of a Redis id are checked for. -/
theorem canonical_halves_iff {milliseconds sequence : List Char} :
    ¬ (milliseconds = [] ∨ sequence = [] ∨ milliseconds.contains '-' = true ∨ sequence.contains '-' = true ∨
        (1 < milliseconds.length ∧ milliseconds.head? = some '0') ∨
        (1 < sequence.length ∧ sequence.head? = some '0') ∨
        milliseconds.all Char.isDigit = false ∨ sequence.all Char.isDigit = false) ↔
      IsCanonicalDecimal milliseconds ∧ IsCanonicalDecimal sequence := by
  unfold IsCanonicalDecimal
  simp only [not_or, not_and, Bool.not_eq_false, List.all_eq_true, List.contains_iff_mem, ne_eq]
  constructor
  · rintro ⟨first, second, _, _, firstZero, secondZero, firstDigits, secondDigits⟩
    exact ⟨⟨first, firstZero, firstDigits⟩, second, secondZero, secondDigits⟩
  · rintro ⟨⟨first, firstZero, firstDigits⟩, second, secondZero, secondDigits⟩
    exact ⟨first, second, not_mem_of_isDigit firstDigits, not_mem_of_isDigit secondDigits, firstZero, secondZero,
      firstDigits, secondDigits⟩

/-- A Redis id is accepted only as it is formatted. -/
theorem parseRedisId_ok_iff {value : String} {parsed : UInt64 × UInt64} :
    parseRedisId value = .ok parsed ↔ value = formatRedisId parsed := by
  constructor
  · intro accepted
    unfold parseRedisId at accepted
    split at accepted
    next milliseconds sequence spans =>
      obtain ⟨halves, accepted⟩ := check_bind_ok_iff.1 accepted
      obtain ⟨first, firstRead, accepted⟩ := bind_ok_iff.1 accepted
      obtain ⟨second, secondRead, same⟩ := bind_ok_iff.1 accepted
      obtain ⟨firstCanonical, secondCanonical⟩ := canonical_halves_iff.1 ((rejectIf_ok_iff ..).1 halves)
      have whole : value.toList = milliseconds ++ '-' :: sequence := by
        rw [List.span_eq_takeWhile_dropWhile, Prod.mk.injEq] at spans
        rw [← spans.1, ← spans.2, List.takeWhile_append_dropWhile]
      rw [← String.toList_inj, toList_formatRedisId, whole, ← Except.ok.inj same, ← parseU64_ok_iff.1 firstRead,
        ← parseU64_ok_iff.1 secondRead, toDigits_ofDigitChars firstCanonical, toDigits_ofDigitChars secondCanonical]
    next => cases accepted
  · rintro rfl
    have first := isCanonicalDecimal_toDigits parsed.1.toNat
    have second := isCanonicalDecimal_toDigits parsed.2.toNat
    unfold parseRedisId
    rw [toList_formatRedisId, span_of_not_mem (not_mem_of_isDigit first.2.2)]
    split
    next milliseconds sequence spans =>
      obtain ⟨rfl, rfl⟩ : Nat.toDigits 10 parsed.1.toNat = milliseconds ∧ Nat.toDigits 10 parsed.2.toNat = sequence := by
        simpa using spans
      rw [rejectIf_of_not _ (canonical_halves_iff.2 ⟨first, second⟩), ok_bind,
        parseU64_ok_iff.2 Nat.ofDigitChars_ten_toDigits, ok_bind,
        parseU64_ok_iff.2 Nat.ofDigitChars_ten_toDigits, ok_bind]
    next noDash => exact absurd rfl (noDash _ _)

/-- The order of the entries of a stream: by milliseconds, then by sequence. -/
def Before (left right : UInt64 × UInt64) : Prop :=
  left.1 < right.1 ∨ (left.1 = right.1 ∧ left.2 < right.2)

/-- The successor of an id is the least one behind it. -/
theorem immediateSuccessor_least {value successor : UInt64 × UInt64} (next : immediateSuccessor value = .ok successor) :
    Before value successor ∧ ∀ other, Before value other → other = successor ∨ Before successor other := by
  obtain ⟨milliseconds, sequence⟩ := value
  have top : u64Max.toNat = 2 ^ 64 - 1 := rfl
  unfold immediateSuccessor at next
  dsimp only at next
  split at next
  next below =>
    cases next
    rw [UInt64.lt_iff_toNat_lt, top] at below
    have added : (sequence + 1).toNat = sequence.toNat + 1 := by
      rw [UInt64.toNat_add, UInt64.toNat_one, Nat.mod_eq_of_lt (by omega)]
    unfold Before
    simp only [Prod.mk.injEq, Prod.forall, UInt64.lt_iff_toNat_lt, ← UInt64.toNat_inj, added]
    refine ⟨Or.inr ⟨trivial, Nat.lt_succ_self _⟩, ?_⟩
    intro otherMilliseconds otherSequence behind
    omega
  next atMost =>
    split at next
    next below =>
      cases next
      rw [UInt64.lt_iff_toNat_lt, top] at atMost below
      have added : (milliseconds + 1).toNat = milliseconds.toNat + 1 := by
        rw [UInt64.toNat_add, UInt64.toNat_one, Nat.mod_eq_of_lt (by omega)]
      have bound := sequence.toNat_lt
      unfold Before
      simp only [Prod.mk.injEq, Prod.forall, UInt64.lt_iff_toNat_lt, ← UInt64.toNat_inj, added, UInt64.toNat_zero]
      refine ⟨Or.inl (Nat.lt_succ_self _), ?_⟩
      intro otherMilliseconds otherSequence behind
      have otherBound := otherSequence.toNat_lt
      omega
    next => cases next

end RedisIds

section Fields

theorem lpUtf8_delimited : Delimited lpUtf8 := by
  intro left right front other rest more writes writesOther same
  unfold lpUtf8 at writes writesOther
  obtain ⟨_, writes⟩ := check_bind_ok_iff.1 writes
  obtain ⟨small, written⟩ := check_bind_ok_iff.1 writes
  obtain ⟨_, writesOther⟩ := check_bind_ok_iff.1 writesOther
  obtain ⟨otherSmall, otherWritten⟩ := check_bind_ok_iff.1 writesOther
  rw [rejectIf_ok_iff, Nat.not_le] at small otherSmall
  rw [← Except.ok.inj written, ← Except.ok.inj otherWritten, List.append_assoc, List.append_assoc] at same
  obtain ⟨texts, back⟩ := lengthPrefixed_delimited small otherSmall same
  exact ⟨utf8Bytes_injective texts, back⟩

/-- Lowercase digits of a digest are those of its bytes. -/
theorem isSha256_iff {value : HexText} :
    isSha256 value = true ↔ ∃ bytes, value = hexString bytes ∧ bytes.length = 32 := by
  unfold isSha256
  rw [Bool.and_eq_true, beq_iff_eq, List.all_eq_true]
  constructor
  · rintro ⟨length, lower⟩
    obtain ⟨bytes, spelled, half⟩ := exists_hexString (by rw [length]) lower
    exact ⟨bytes, spelled.symm, by omega⟩
  · rintro ⟨bytes, rfl, length⟩
    exact ⟨by rw [length_hexString, length], fun _ => isLowerHex_of_mem_hexString⟩

theorem rawSha256_ok_iff {value : HexText} {bytes : List UInt8} :
    rawSha256 value = .ok bytes ↔ value = hexString bytes ∧ bytes.length = 32 := by
  unfold rawSha256
  constructor
  · intro written
    obtain ⟨isDigest, same⟩ := check_bind_ok_iff.1 written
    rw [rejectIf_ok_iff, Bool.not_eq_false, isSha256_iff] at isDigest
    obtain ⟨spelled, rfl, length⟩ := isDigest
    have decoded := Except.ok.inj same
    rw [ScheduleRecovery.decodeHexPairs_hexString] at decoded
    subst decoded
    exact ⟨rfl, length⟩
  · rintro ⟨rfl, length⟩
    have isDigest : isSha256 (hexString bytes) = true := isSha256_iff.2 ⟨bytes, rfl, length⟩
    rw [rejectIf_of_not _ (by simp [isDigest]), ok_bind, ScheduleRecovery.decodeHexPairs_hexString]

theorem rawSha256_delimited : Delimited rawSha256 := by
  have length : ∀ {value : HexText} {bytes : List UInt8}, rawSha256 value = .ok bytes → bytes.length = 32 :=
    fun written => (rawSha256_ok_iff.1 written).2
  refine delimited_of_width length ?_
  intro left right bytes written otherWritten
  rw [(rawSha256_ok_iff.1 written).1, (rawSha256_ok_iff.1 otherWritten).1]

theorem redisIdBytes_ok_iff {value : String} {bytes : List UInt8} :
    redisIdBytes value = .ok bytes ↔ ∃ id, parseRedisId value = .ok id ∧
      toBigEndian 8 id.1.toNat ++ toBigEndian 8 id.2.toNat = bytes := by
  unfold redisIdBytes
  constructor
  · intro written
    obtain ⟨id, parsed, same⟩ := bind_ok_iff.1 written
    exact ⟨id, parsed, Except.ok.inj same⟩
  · rintro ⟨id, parsed, rfl⟩
    rw [parsed]
    rfl

theorem u64_delimited {left right : UInt64} {rest more : List UInt8}
    (same : toBigEndian 8 left.toNat ++ rest = toBigEndian 8 right.toNat ++ more) : left = right ∧ rest = more := by
  obtain ⟨numbers, back⟩ := bigEndian_delimited left.toNat_lt right.toNat_lt same
  exact ⟨UInt64.toNat_inj.1 numbers, back⟩

theorem redisIdBytes_delimited : Delimited redisIdBytes := by
  intro left right front other rest more writes writesOther same
  obtain ⟨id, parsed, rfl⟩ := redisIdBytes_ok_iff.1 writes
  obtain ⟨otherId, otherParsed, rfl⟩ := redisIdBytes_ok_iff.1 writesOther
  rw [List.append_assoc, List.append_assoc] at same
  obtain ⟨milliseconds, same⟩ := u64_delimited same
  obtain ⟨sequences, back⟩ := u64_delimited same
  have sameId : id = otherId := Prod.ext milliseconds sequences
  rw [parseRedisId_ok_iff.1 parsed, parseRedisId_ok_iff.1 otherParsed, sameId]
  exact ⟨rfl, back⟩

structure Written (fields : PublicationFields) (domain sourceStream sourceGroup sourceM10 semanticBatch command envelope
    commandStream commandGroup predecessor entry : List UInt8) : Prop where
  domain : lpUtf8 fields.domain = .ok domain
  sourceStream : lpUtf8 fields.sourceStream = .ok sourceStream
  sourceGroup : lpUtf8 fields.sourceGroup = .ok sourceGroup
  sourceM10 : redisIdBytes fields.sourceM10RedisId = .ok sourceM10
  semanticBatch : rawSha256 fields.semanticBatchIdSha256 = .ok semanticBatch
  command : rawSha256 fields.canonicalCommandSha256 = .ok command
  envelope : rawSha256 fields.canonicalEnvelopeSha256 = .ok envelope
  commandStream : lpUtf8 fields.commandStream = .ok commandStream
  commandGroup : lpUtf8 fields.commandGroup = .ok commandGroup
  predecessor : redisIdBytes fields.commandStreamPredecessorId = .ok predecessor
  entry : redisIdBytes fields.commandEntryId = .ok entry

theorem bytes_ok {fields : PublicationFields} {bytes : List UInt8} (written : fields.bytes = .ok bytes) :
    ∃ domain sourceStream sourceGroup sourceM10 semanticBatch command envelope commandStream commandGroup predecessor
      entry, Written fields domain sourceStream sourceGroup sourceM10 semanticBatch command envelope commandStream
        commandGroup predecessor entry ∧
      bytes = toBigEndian 2 fields.schemaVersion.toNat ++ (domain ++ (sourceStream ++ (sourceGroup ++ (sourceM10 ++
        (semanticBatch ++ (fields.strategyRequestId.uuid.toList ++ (command ++ (envelope ++ (commandStream ++
        (commandGroup ++ (predecessor ++ (entry ++ toBigEndian 8 fields.prepublicationPackageGeneration.toNat)))))))))))) := by
  unfold PublicationFields.bytes at written
  obtain ⟨domain, domainOk, written⟩ := bind_ok_iff.1 written
  obtain ⟨sourceStream, sourceStreamOk, written⟩ := bind_ok_iff.1 written
  obtain ⟨sourceGroup, sourceGroupOk, written⟩ := bind_ok_iff.1 written
  obtain ⟨sourceM10, sourceM10Ok, written⟩ := bind_ok_iff.1 written
  obtain ⟨semanticBatch, semanticBatchOk, written⟩ := bind_ok_iff.1 written
  obtain ⟨command, commandOk, written⟩ := bind_ok_iff.1 written
  obtain ⟨envelope, envelopeOk, written⟩ := bind_ok_iff.1 written
  obtain ⟨commandStream, commandStreamOk, written⟩ := bind_ok_iff.1 written
  obtain ⟨commandGroup, commandGroupOk, written⟩ := bind_ok_iff.1 written
  obtain ⟨predecessor, predecessorOk, written⟩ := bind_ok_iff.1 written
  obtain ⟨entry, entryOk, same⟩ := bind_ok_iff.1 written
  refine ⟨domain, sourceStream, sourceGroup, sourceM10, semanticBatch, command, envelope, commandStream, commandGroup,
    predecessor, entry, ⟨domainOk, sourceStreamOk, sourceGroupOk, sourceM10Ok, semanticBatchOk, commandOk, envelopeOk,
      commandStreamOk, commandGroupOk, predecessorOk, entryOk⟩, ?_⟩
  rw [← Except.ok.inj same]
  simp only [List.append_assoc]

/-- Field by field, each ends where the next one begins. -/
theorem fields_delimited : Delimited PublicationFields.bytes := by
  intro left right front other rest more writes writesOther same
  obtain ⟨_, _, _, _, _, _, _, _, _, _, _, mine, rfl⟩ := bytes_ok writes
  obtain ⟨_, _, _, _, _, _, _, _, _, _, _, its, rfl⟩ := bytes_ok writesOther
  simp only [List.append_assoc] at same
  have schemaSmall : left.schemaVersion.toNat < 256 ^ 2 := left.schemaVersion.toNat_lt
  have otherSchemaSmall : right.schemaVersion.toNat < 256 ^ 2 := right.schemaVersion.toNat_lt
  obtain ⟨schema, same⟩ := bigEndian_delimited schemaSmall otherSchemaSmall same
  obtain ⟨domain, same⟩ := lpUtf8_delimited mine.domain its.domain same
  obtain ⟨sourceStream, same⟩ := lpUtf8_delimited mine.sourceStream its.sourceStream same
  obtain ⟨sourceGroup, same⟩ := lpUtf8_delimited mine.sourceGroup its.sourceGroup same
  obtain ⟨sourceM10, same⟩ := redisIdBytes_delimited mine.sourceM10 its.sourceM10 same
  obtain ⟨semanticBatch, same⟩ := rawSha256_delimited mine.semanticBatch its.semanticBatch same
  obtain ⟨request, same⟩ := List.append_inj same (by simp)
  obtain ⟨command, same⟩ := rawSha256_delimited mine.command its.command same
  obtain ⟨envelope, same⟩ := rawSha256_delimited mine.envelope its.envelope same
  obtain ⟨commandStream, same⟩ := lpUtf8_delimited mine.commandStream its.commandStream same
  obtain ⟨commandGroup, same⟩ := lpUtf8_delimited mine.commandGroup its.commandGroup same
  obtain ⟨predecessor, same⟩ := redisIdBytes_delimited mine.predecessor its.predecessor same
  obtain ⟨entry, same⟩ := redisIdBytes_delimited mine.entry its.entry same
  obtain ⟨generation, back⟩ := u64_delimited same
  have sameRequest : left.strategyRequestId = right.strategyRequestId := by
    rw [StrategyRequestId.mk.injEq]
    exact Vector.toList_inj.1 request
  cases left
  cases right
  rw [PublicationFields.mk.injEq]
  exact ⟨⟨UInt16.toNat_inj.1 schema, domain, sourceStream, sourceGroup, sourceM10, semanticBatch, sameRequest, command,
    envelope, commandStream, commandGroup, predecessor, entry, generation⟩, back⟩

end Fields

section Frames

theorem framed_ok_iff {domain body bytes : List UInt8} :
    framed domain body = .ok bytes ↔ body.length < 2 ^ 64 ∧ bytes = domain ++ (toBigEndian 8 body.length ++ body) := by
  unfold framed
  constructor
  · intro written
    obtain ⟨small, same⟩ := check_bind_ok_iff.1 written
    rw [rejectIf_ok_iff, Nat.not_le] at small
    refine ⟨small, ?_⟩
    rw [← Except.ok.inj same, List.append_assoc]
  · rintro ⟨small, rfl⟩
    rw [rejectIf_of_not _ (Nat.not_le.2 small), ok_bind, List.append_assoc]

/-- A frame that begins another one of its domain is that frame. -/
theorem framed_of_isPrefix {domain body other front whole : List UInt8} (written : framed domain body = .ok front)
    (otherWritten : framed domain other = .ok whole) (begins : front <+: whole) : body = other := by
  obtain ⟨small, rfl⟩ := framed_ok_iff.1 written
  obtain ⟨otherSmall, rfl⟩ := framed_ok_iff.1 otherWritten
  obtain ⟨rest, same⟩ := begins
  rw [List.append_assoc, List.append_cancel_left_eq, List.append_assoc] at same
  have same : toBigEndian 8 body.length ++ (body ++ rest) = toBigEndian 8 other.length ++ (other ++ []) := by
    rw [same, List.append_nil]
  exact (lengthPrefixed_delimited small otherSmall same).1

end Frames

/-- The two kinds of frames differ within their domains. -/
theorem domains_differ {body other : List UInt8} :
    ¬ reservationCanonicalDomain ++ body <+: bindingCanonicalDomain ++ other := by
  rintro ⟨rest, same⟩
  have fronts := congrArg (List.take 40) same
  rw [List.append_assoc, List.take_append_of_le_length (by decide),
    List.take_append_of_le_length (by decide)] at fronts
  revert fronts
  decide

section Reservations

variable {sha256 : List UInt8 → Sha256Output} {reservation other : Stage8bP1d4CommandPublicationReservationV1}

theorem sameFields_iff_fields : reservation.SameFields other ↔ reservation.fields = other.fields := by
  cases reservation
  cases other
  simp [Stage8bP1d4CommandPublicationReservationV1.SameFields, Stage8bP1d4CommandPublicationReservationV1.fields]

theorem SameFields.bytes_eq (same : reservation.SameFields other) :
    reservation.canonicalBytesUnchecked = other.canonicalBytesUnchecked := by
  unfold Stage8bP1d4CommandPublicationReservationV1.canonicalBytesUnchecked
  rw [sameFields_iff_fields.1 same]

theorem eq_of_sameFields (same : reservation.SameFields other)
    (digests : reservation.publicationReservationSha256 = other.publicationReservationSha256) : reservation = other := by
  have signed : ∀ value : Stage8bP1d4CommandPublicationReservationV1,
      value = { { value with publicationReservationSha256 := [] } with
        publicationReservationSha256 := value.publicationReservationSha256 } := fun _ => rfl
  unfold Stage8bP1d4CommandPublicationReservationV1.SameFields at same
  rw [signed reservation, signed other, same, digests]

structure ValidReservation (sha256 : List UInt8 → Sha256Output)
    (reservation : Stage8bP1d4CommandPublicationReservationV1) (bytes : List UInt8)
    (predecessor reserved : UInt64 × UInt64) : Prop where
  written : reservation.canonicalBytesUnchecked = .ok bytes
  digest : reservation.publicationReservationSha256 = (sha256 bytes).hex
  predecessorRead : parseRedisId reservation.commandStreamPredecessorId = .ok predecessor
  reservedRead : parseRedisId reservation.reservedCommandEntryId = .ok reserved
  successor : immediateSuccessor predecessor = .ok reserved

theorem validReservation_of_validate (valid : reservation.validate sha256 = .ok ()) :
    ∃ bytes predecessor reserved, ValidReservation sha256 reservation bytes predecessor reserved := by
  unfold Stage8bP1d4CommandPublicationReservationV1.validate at valid
  obtain ⟨_, valid⟩ := check_bind_ok_iff.1 valid
  obtain ⟨predecessor, predecessorRead, valid⟩ := bind_ok_iff.1 valid
  obtain ⟨reserved, reservedRead, valid⟩ := bind_ok_iff.1 valid
  obtain ⟨successor, succeeds, valid⟩ := bind_ok_iff.1 valid
  obtain ⟨follows, valid⟩ := check_bind_ok_iff.1 valid
  obtain ⟨bytes, written, digest⟩ := bind_ok_iff.1 valid
  simp only [rejectIf_ok_iff, not_or, ne_eq, not_not] at follows digest
  rw [follows.1] at succeeds
  exact ⟨bytes, predecessor, reserved, written, digest.symm, predecessorRead, reservedRead, succeeds⟩

theorem canonicalBytes_ok_iff {bytes : List UInt8} :
    reservation.canonicalBytes sha256 = .ok bytes ↔
      reservation.validate sha256 = .ok () ∧ reservation.canonicalBytesUnchecked = .ok bytes :=
  check_bind_ok_iff

/-- Reservations whose bytes begin one another are the same. -/
theorem eq_of_bytes_isPrefix {bytes further : List UInt8} (written : reservation.canonicalBytes sha256 = .ok bytes)
    (otherWritten : other.canonicalBytes sha256 = .ok further) (begins : bytes <+: further) : reservation = other := by
  obtain ⟨valid, unchecked⟩ := canonicalBytes_ok_iff.1 written
  obtain ⟨otherValid, otherUnchecked⟩ := canonicalBytes_ok_iff.1 otherWritten
  have identical : reservation.fields = other.fields := by
    unfold Stage8bP1d4CommandPublicationReservationV1.canonicalBytesUnchecked at unchecked otherUnchecked
    obtain ⟨body, bodyWritten, framedBody⟩ := bind_ok_iff.1 unchecked
    obtain ⟨otherBody, otherBodyWritten, otherFramed⟩ := bind_ok_iff.1 otherUnchecked
    have sameBody := framed_of_isPrefix framedBody otherFramed begins
    subst sameBody
    exact (fields_delimited bodyWritten otherBodyWritten (rfl : body ++ [] = body ++ [])).1
  have same := sameFields_iff_fields.2 identical
  obtain ⟨_, _, _, facts⟩ := validReservation_of_validate valid
  obtain ⟨_, _, _, otherFacts⟩ := validReservation_of_validate otherValid
  have sameBytes := Except.ok.inj (facts.written.symm.trans ((SameFields.bytes_eq same).trans otherFacts.written))
  have digests : reservation.publicationReservationSha256 = other.publicationReservationSha256 := by
    rw [facts.digest, otherFacts.digest, sameBytes]
  exact eq_of_sameFields same digests

/-- A valid reservation has bytes, and only one with the same fields has the same ones. -/
theorem reservation_bytes_iff (valid : reservation.validate sha256 = .ok ())
    (otherValid : other.validate sha256 = .ok ()) :
    (∃ bytes, reservation.canonicalBytes sha256 = .ok bytes) ∧
      (reservation.canonicalBytes sha256 = other.canonicalBytes sha256 ↔ reservation.SameFields other) := by
  obtain ⟨bytes, _, _, facts⟩ := validReservation_of_validate valid
  have written := canonicalBytes_ok_iff.2 ⟨valid, facts.written⟩
  refine ⟨⟨bytes, written⟩, ?_⟩
  constructor
  · intro same
    have equal := eq_of_bytes_isPrefix written (same.symm.trans written) (List.prefix_refl bytes)
    rw [equal]
    rfl
  · intro same
    unfold Stage8bP1d4CommandPublicationReservationV1.canonicalBytes
    rw [valid, otherValid, SameFields.bytes_eq same]

end Reservations

section Bindings

variable {sha256 : List UInt8 → Sha256Output} {binding other : Stage8bP1d4CommandPublicationBindingV1}
  {reservation otherReservation : Stage8bP1d4CommandPublicationReservationV1}

theorem binding_bytes_of_sameFields (same : binding.SameFields other) :
    binding.canonicalBytesUnchecked = other.canonicalBytesUnchecked := by
  have unsigned : ∀ value : Stage8bP1d4CommandPublicationBindingV1,
      value.canonicalBytesUnchecked = { value with publicationBindingSha256 := [] }.canonicalBytesUnchecked :=
    fun _ => rfl
  unfold Stage8bP1d4CommandPublicationBindingV1.SameFields at same
  rw [unsigned binding, unsigned other, same]

theorem binding_sameFields_of_bytes {bytes : List UInt8} (written : binding.canonicalBytesUnchecked = .ok bytes)
    (otherWritten : other.canonicalBytesUnchecked = .ok bytes) : binding.SameFields other := by
  unfold Stage8bP1d4CommandPublicationBindingV1.canonicalBytesUnchecked at written otherWritten
  obtain ⟨identity, identityOk, written⟩ := bind_ok_iff.1 written
  obtain ⟨reserved, reservedOk, written⟩ := bind_ok_iff.1 written
  obtain ⟨commitment, commitmentOk, framedBody⟩ := bind_ok_iff.1 written
  obtain ⟨otherIdentity, otherIdentityOk, otherWritten⟩ := bind_ok_iff.1 otherWritten
  obtain ⟨otherReserved, otherReservedOk, otherWritten⟩ := bind_ok_iff.1 otherWritten
  obtain ⟨otherCommitment, otherCommitmentOk, otherFramed⟩ := bind_ok_iff.1 otherWritten
  have same := framed_of_isPrefix framedBody otherFramed (List.prefix_refl bytes)
  simp only [List.append_assoc] at same
  obtain ⟨fields, same⟩ := fields_delimited identityOk otherIdentityOk same
  obtain ⟨reservations, same⟩ := rawSha256_delimited reservedOk otherReservedOk same
  obtain ⟨generations, same⟩ := u64_delimited same
  obtain ⟨commitments, _⟩ := rawSha256_delimited commitmentOk otherCommitmentOk
    (same.symm ▸ rfl : commitment ++ [] = otherCommitment ++ [])
  unfold Stage8bP1d4CommandPublicationBindingV1.SameFields
  unfold Stage8bP1d4CommandPublicationBindingV1.fields at fields
  cases binding
  cases other
  simp only [PublicationFields.mk.injEq] at fields
  simp only [Stage8bP1d4CommandPublicationBindingV1.mk.injEq]
  dsimp only at reservations generations commitments
  obtain ⟨schema, domain, sourceStream, sourceGroup, sourceM10, semanticBatch, request, command, envelope, commandStream,
    commandGroup, predecessor, entry, generation⟩ := fields
  exact ⟨schema, domain, sourceStream, sourceGroup, sourceM10, semanticBatch, request, command, envelope, commandStream,
    commandGroup, predecessor, entry, generation, reservations, generations, commitments, trivial⟩

theorem binding_canonicalBytes_ok_iff {bytes : List UInt8} :
    binding.canonicalBytes sha256 reservation = .ok bytes ↔
      binding.validateAgainst sha256 reservation = .ok () ∧ binding.canonicalBytesUnchecked = .ok bytes :=
  check_bind_ok_iff

theorem binding_bytes_of_validate (valid : binding.validateAgainst sha256 reservation = .ok ()) :
    ∃ bytes, binding.canonicalBytesUnchecked = .ok bytes := by
  unfold Stage8bP1d4CommandPublicationBindingV1.validateAgainst at valid
  obtain ⟨_, valid⟩ := check_bind_ok_iff.1 valid
  obtain ⟨_, valid⟩ := check_bind_ok_iff.1 valid
  obtain ⟨bytes, written, _⟩ := bind_ok_iff.1 valid
  exact ⟨bytes, written⟩

theorem binding_bytes_iff (valid : binding.validateAgainst sha256 reservation = .ok ())
    (otherValid : other.validateAgainst sha256 otherReservation = .ok ()) :
    (∃ bytes, binding.canonicalBytes sha256 reservation = .ok bytes) ∧
      (binding.canonicalBytes sha256 reservation = other.canonicalBytes sha256 otherReservation ↔
        binding.SameFields other) := by
  obtain ⟨bytes, unchecked⟩ := binding_bytes_of_validate valid
  have written := binding_canonicalBytes_ok_iff.2 ⟨valid, unchecked⟩
  refine ⟨⟨bytes, written⟩, ?_⟩
  constructor
  · intro same
    exact binding_sameFields_of_bytes unchecked (binding_canonicalBytes_ok_iff.1 (same.symm.trans written)).2
  · intro same
    unfold Stage8bP1d4CommandPublicationBindingV1.canonicalBytes
    rw [valid, otherValid, binding_bytes_of_sameFields same]

theorem reservation_not_begins_binding {bytes further : List UInt8}
    (written : reservation.canonicalBytes sha256 = .ok bytes)
    (otherWritten : binding.canonicalBytes sha256 otherReservation = .ok further) : ¬ bytes <+: further := by
  have unchecked := (canonicalBytes_ok_iff.1 written).2
  have otherUnchecked := (binding_canonicalBytes_ok_iff.1 otherWritten).2
  unfold Stage8bP1d4CommandPublicationReservationV1.canonicalBytesUnchecked at unchecked
  unfold Stage8bP1d4CommandPublicationBindingV1.canonicalBytesUnchecked at otherUnchecked
  obtain ⟨_, _, framedBody⟩ := bind_ok_iff.1 unchecked
  obtain ⟨_, _, otherUnchecked⟩ := bind_ok_iff.1 otherUnchecked
  obtain ⟨_, _, otherUnchecked⟩ := bind_ok_iff.1 otherUnchecked
  obtain ⟨_, _, otherFramed⟩ := bind_ok_iff.1 otherUnchecked
  rw [(framed_ok_iff.1 framedBody).2, (framed_ok_iff.1 otherFramed).2]
  exact domains_differ

end Bindings

/-- The bytes of a reservation, and those of a binding, tell all its fields, and those of a reservation begin no
other reservation and no binding. The reserved entry is the next one behind its predecessor, and the text of a
successor reads back as the successor. -/
theorem command_publication_identity (sha256 : List UInt8 → Sha256Output) :
    (∀ reservation other : Stage8bP1d4CommandPublicationReservationV1, reservation.validate sha256 = .ok () →
      other.validate sha256 = .ok () →
      (∃ bytes, reservation.canonicalBytes sha256 = .ok bytes) ∧
      (reservation.canonicalBytes sha256 = other.canonicalBytes sha256 ↔ reservation.SameFields other) ∧
      ∀ bytes further, reservation.canonicalBytes sha256 = .ok bytes → other.canonicalBytes sha256 = .ok further →
        bytes <+: further → reservation = other) ∧
    (∀ (binding other : Stage8bP1d4CommandPublicationBindingV1)
      (reservation otherReservation : Stage8bP1d4CommandPublicationReservationV1),
      binding.validateAgainst sha256 reservation = .ok () → other.validateAgainst sha256 otherReservation = .ok () →
      (∃ bytes, binding.canonicalBytes sha256 reservation = .ok bytes) ∧
      (binding.canonicalBytes sha256 reservation = other.canonicalBytes sha256 otherReservation ↔
        binding.SameFields other)) ∧
    (∀ (reservation otherReservation : Stage8bP1d4CommandPublicationReservationV1)
      (binding : Stage8bP1d4CommandPublicationBindingV1) (bytes further : List UInt8),
      reservation.canonicalBytes sha256 = .ok bytes → binding.canonicalBytes sha256 otherReservation = .ok further →
        ¬ bytes <+: further) ∧
    (∀ reservation : Stage8bP1d4CommandPublicationReservationV1, reservation.validate sha256 = .ok () →
      ∃ predecessor reserved, parseRedisId reservation.commandStreamPredecessorId = .ok predecessor ∧
        parseRedisId reservation.reservedCommandEntryId = .ok reserved ∧ Before predecessor reserved ∧
        ∀ other, Before predecessor other → other = reserved ∨ Before reserved other) ∧
    ∀ value text, immediateRedisSuccessor value = .ok text →
      ∃ parsed successor, parseRedisId value = .ok parsed ∧ immediateSuccessor parsed = .ok successor ∧
        text = formatRedisId successor ∧ parseRedisId text = .ok successor := by
  refine ⟨?_, ?_, ?_, ?_, ?_⟩
  · intro reservation other valid otherValid
    obtain ⟨written, same⟩ := reservation_bytes_iff valid otherValid
    exact ⟨written, same, fun _ _ => eq_of_bytes_isPrefix⟩
  · intro binding other reservation otherReservation valid otherValid
    exact binding_bytes_iff valid otherValid
  · intro reservation otherReservation binding bytes further written otherWritten
    exact reservation_not_begins_binding written otherWritten
  · intro reservation valid
    obtain ⟨_, predecessor, reserved, facts⟩ := validReservation_of_validate valid
    obtain ⟨behind, least⟩ := immediateSuccessor_least facts.successor
    exact ⟨predecessor, reserved, facts.predecessorRead, facts.reservedRead, behind, least⟩
  · intro value text formatted
    obtain ⟨parsed, read, formatted⟩ := bind_ok_iff.1 formatted
    obtain ⟨successor, next, same⟩ := bind_ok_iff.1 formatted
    have isText := Except.ok.inj same
    exact ⟨parsed, successor, read, next, isText.symm, parseRedisId_ok_iff.2 isText.symm⟩

section Sample

def sampleDigestHex (byte : UInt8) : HexText :=
  (plainHash [byte]).hex

def unsignedReservation (predecessor entry : String) : Stage8bP1d4CommandPublicationReservationV1 where
  schemaVersion := reservationSchemaVersion
  domain := reservationDomain
  sourceStream := "m10"
  sourceGroup := "runtime"
  sourceM10RedisId := "1000-0"
  semanticBatchIdSha256 := sampleDigestHex 1
  strategyRequestId := sampleRequest 1
  canonicalCommandSha256 := sampleDigestHex 2
  canonicalEnvelopeSha256 := sampleDigestHex 3
  commandStream := "commands"
  commandGroup := "gateway"
  commandStreamPredecessorId := predecessor
  reservedCommandEntryId := entry
  prepublicationPackageGeneration := 1
  publicationReservationSha256 := []

def sampleReservation (predecessor entry : String) : Stage8bP1d4CommandPublicationReservationV1 :=
  let unsigned := unsignedReservation predecessor entry
  { unsigned with
    publicationReservationSha256 := (unsigned.canonicalBytesUnchecked.toOption.map fun bytes => (plainHash bytes).hex).getD [] }

def unsignedBinding (reservation : Stage8bP1d4CommandPublicationReservationV1) (sealGeneration : UInt64) :
    Stage8bP1d4CommandPublicationBindingV1 where
  schemaVersion := bindingSchemaVersion
  domain := bindingDomain
  sourceStream := reservation.sourceStream
  sourceGroup := reservation.sourceGroup
  sourceM10RedisId := reservation.sourceM10RedisId
  semanticBatchIdSha256 := reservation.semanticBatchIdSha256
  strategyRequestId := reservation.strategyRequestId
  canonicalCommandSha256 := reservation.canonicalCommandSha256
  canonicalEnvelopeSha256 := reservation.canonicalEnvelopeSha256
  commandStream := reservation.commandStream
  commandGroup := reservation.commandGroup
  commandStreamPredecessorId := reservation.commandStreamPredecessorId
  commandEntryId := reservation.reservedCommandEntryId
  prepublicationPackageGeneration := reservation.prepublicationPackageGeneration
  publicationReservationSha256 := reservation.publicationReservationSha256
  prepublicationSealGeneration := sealGeneration
  prepublicationSealCommitmentSha256 := sampleDigestHex 4
  publicationBindingSha256 := []

def sampleBinding (reservation : Stage8bP1d4CommandPublicationReservationV1) (sealGeneration : UInt64) :
    Stage8bP1d4CommandPublicationBindingV1 :=
  let unsigned := unsignedBinding reservation sealGeneration
  { unsigned with
    publicationBindingSha256 := (unsigned.canonicalBytesUnchecked.toOption.map fun bytes => (plainHash bytes).hex).getD [] }

/-- The entries behind two neighbours are reserved under different bytes, two seals of one reservation are bound under
different bytes, and the reserved entry is the one that comes next. -/
theorem command_publication_identity_neighbours :
    (sampleReservation "7-0" "7-1").canonicalBytes plainHash ≠ (sampleReservation "7-1" "7-2").canonicalBytes plainHash ∧
      (sampleBinding (sampleReservation "7-0" "7-1") 1).canonicalBytes plainHash (sampleReservation "7-0" "7-1") ≠
        (sampleBinding (sampleReservation "7-0" "7-1") 2).canonicalBytes plainHash (sampleReservation "7-0" "7-1") ∧
      (∃ bytes further, (sampleReservation "7-0" "7-1").canonicalBytes plainHash = .ok bytes ∧
        (sampleBinding (sampleReservation "7-0" "7-1") 1).canonicalBytes plainHash (sampleReservation "7-0" "7-1") =
          .ok further ∧ ¬ bytes <+: further) ∧
      (∀ other, Before (7, 0) other → other = (7, 1) ∨ Before (7, 1) other) ∧
      ∃ successor, immediateSuccessor (7, 1) = .ok successor ∧ parseRedisId "7-2" = .ok successor := by
  obtain ⟨reservations, bindings, apart, successors, texts⟩ := command_publication_identity plainHash
  have valid : (sampleReservation "7-0" "7-1").validate plainHash = .ok () := by
    decide +kernel
  have otherValid : (sampleReservation "7-1" "7-2").validate plainHash = .ok () := by
    decide +kernel
  have bound : (sampleBinding (sampleReservation "7-0" "7-1") 1).validateAgainst plainHash
      (sampleReservation "7-0" "7-1") = .ok () := by
    decide +kernel
  have boundAgain : (sampleBinding (sampleReservation "7-0" "7-1") 2).validateAgainst plainHash
      (sampleReservation "7-0" "7-1") = .ok () := by
    decide +kernel
  refine ⟨?_, ?_, ?_, ?_, ?_⟩
  · intro same
    have fields := (reservations _ _ valid otherValid).2.1.1 same
    have entries := congrArg Stage8bP1d4CommandPublicationReservationV1.reservedCommandEntryId fields
    exact absurd entries (by decide)
  · intro same
    have fields := (bindings _ _ _ _ bound boundAgain).2.1 same
    have generations := congrArg Stage8bP1d4CommandPublicationBindingV1.prepublicationSealGeneration fields
    exact absurd generations (by decide)
  · obtain ⟨bytes, written⟩ := (reservations _ _ valid otherValid).1
    obtain ⟨further, otherWritten⟩ := (bindings _ _ _ _ bound boundAgain).1
    exact ⟨bytes, further, written, otherWritten, apart _ _ _ _ _ written otherWritten⟩
  · obtain ⟨predecessor, reserved, predecessorRead, reservedRead, _, least⟩ := successors _ valid
    have isPredecessor : predecessor = (7, 0) :=
      Except.ok.inj (predecessorRead.symm.trans (by decide : parseRedisId "7-0" = .ok (7, 0)))
    have isReserved : reserved = (7, 1) :=
      Except.ok.inj (reservedRead.symm.trans (by decide : parseRedisId "7-1" = .ok (7, 1)))
    rwa [isPredecessor, isReserved] at least
  · obtain ⟨parsed, successor, read, next, _, readAgain⟩ := texts "7-1" "7-2" (by decide)
    have isParsed : parsed = (7, 1) :=
      Except.ok.inj (read.symm.trans (by decide : parseRedisId "7-1" = .ok (7, 1)))
    rw [isParsed] at next
    exact ⟨successor, next, readAgain⟩

end Sample

end TradingGateway.Stage8b.CommandPublications
