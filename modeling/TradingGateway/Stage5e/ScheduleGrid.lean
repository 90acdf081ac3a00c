import TradingGateway.BrokerCore.Timestamps
import TradingGateway.Stage6.JournalRecord

/-! The walk over the close times of a trading day: which bar may follow which,
by the sessions of the schedule. -/

set_option autoImplicit false

namespace TradingGateway.Stage5e.ScheduleGrid

open BrokerCore.Orders Stage6.JournalRecord
open Foundation.Bytes Foundation.ExceptRun

inductive NormalizedSessionType where
  | tradableOpen
  | breakOrClearing
  | maintenance
  | unknown
deriving DecidableEq

structure NormalizedScheduleSession where
  sessionType : NormalizedSessionType
  start : Int
  finish : Int
deriving DecidableEq

/-- A bar closes in a session, both ends included. -/
def NormalizedScheduleSession.Covers (session : NormalizedScheduleSession) (closeTs : Int) : Prop :=
  session.start ≤ closeTs ∧ closeTs ≤ session.finish

instance (session : NormalizedScheduleSession) (closeTs : Int) : Decidable (session.Covers closeTs) :=
  inferInstanceAs (Decidable (_ ∧ _))

structure Stage5eScheduleWindowEvidence where
  instrument : InstrumentId
  tradingDay : NaiveDate
  effectiveObservedAt : DateTimeUtc
  expiresAt : DateTimeUtc
  fingerprint : List UInt8
  normalizedSessions : List NormalizedScheduleSession
  normalizedSessionsFingerprint : List UInt8
  normalizedSnapshotIdentityFingerprint : List UInt8

/-- `Contiguous`, or the fingerprint of the break that was crossed. -/
inductive Stage5eScheduleSequenceClassification where
  | contiguous
  | approvedNonTradableBoundary (boundary : List UInt8)
deriving DecidableEq

inductive Stage5eScheduleClassificationBlockReason where
  | invalidTimeframe
  | nonMonotonicSequence
  | unalignedEndpoint
  | crossTradingDay
  | candidateCountOverflow
  | endpointOrCandidateUncovered
  | endpointOrCandidateAmbiguous
  | predecessorCloseNotTradableOpen
  | currentCloseNotTradableOpen
  | interiorTradableOpen
  | interiorUnknown
deriving DecidableEq

/-- What the fingerprints of schedules take from outside the repository. -/
structure ScheduleCodec where
  sha256 : List UInt8 → Sha256Output
  dayToString : NaiveDate → String

/-- The bytes of `CanonicalEncoder::field`. -/
def encodedField (tag : UInt8) (bytes : List UInt8) : List UInt8 :=
  tag :: toBigEndian 8 bytes.length ++ bytes

def encodeInstrument (instrument : InstrumentId) : List UInt8 :=
  encodedField 1 (utf8Bytes instrument.symbol) ++ encodedField 2 (utf8Bytes (instrument.venueSymbol.getD "")) ++
    (match instrument.exchange with
      | .moex => encodedField 3 (utf8Bytes "moex")
      | .other name => encodedField 3 (utf8Bytes "other") ++ encodedField 4 (utf8Bytes name)) ++
    (match instrument.market with
      | .futures => encodedField 5 (utf8Bytes "futures")
      | .options => encodedField 5 (utf8Bytes "options")
      | .stocks => encodedField 5 (utf8Bytes "stocks")
      | .currency => encodedField 5 (utf8Bytes "currency")
      | .funds => encodedField 5 (utf8Bytes "funds")
      | .other name => encodedField 5 (utf8Bytes "other") ++ encodedField 6 (utf8Bytes name))

/-- `i64::to_be_bytes`. -/
def signedBigEndian (value : Int) : List UInt8 :=
  toBigEndian 8 (value % 2 ^ 64).toNat

def sessionTypeCode : NormalizedSessionType → UInt8
  | .tradableOpen => 1
  | .breakOrClearing => 2
  | .maintenance => 3
  | .unknown => 255

def utcDay (seconds : Int) : Option NaiveDate :=
  (DateTimeUtc.timestampOpt seconds).map fun time => { day := time.seconds / 86400 }

def sessionAt (window : Stage5eScheduleWindowEvidence) (closeTs : Int) :
    Except Stage5eScheduleClassificationBlockReason NormalizedScheduleSession :=
  match window.normalizedSessions.filter (·.Covers closeTs) with
  | [] => .error .endpointOrCandidateUncovered
  | [session] => .ok session
  | _ => .error .endpointOrCandidateAmbiguous

/-- Between its ends the walk may touch nothing but breaks. -/
def checkInterior (session : NormalizedScheduleSession) : Except Stage5eScheduleClassificationBlockReason Unit :=
  match session.sessionType with
  | .breakOrClearing | .maintenance => .ok ()
  | .tradableOpen => .error .interiorTradableOpen
  | .unknown => .error .interiorUnknown

section Grid

variable (codec : ScheduleCodec) (window : Stage5eScheduleWindowEvidence) (predecessorCloseTs currentCloseTs : Int)
  (timeframeSec : UInt32)

def interior {Value : Type} (classified : List Value) : List Value :=
  (classified.drop 1).take (classified.length - 2)

def nonTradableBoundaryFingerprint (classified : List (Int × NormalizedScheduleSession)) : List UInt8 :=
  (codec.sha256 (utf8Bytes "stage5e-b3c-non-tradable-boundary-v1" ++
    encodedField 1 window.normalizedSnapshotIdentityFingerprint ++
    encodedField 2 window.normalizedSessionsFingerprint ++
    encodedField 3 (utf8Bytes (codec.dayToString window.tradingDay)) ++
    encodedField 4 (toBigEndian 4 timeframeSec.toNat) ++ encodedField 5 (signedBigEndian predecessorCloseTs) ++
    encodedField 6 (signedBigEndian currentCloseTs) ++
    (interior classified).flatMap (fun point => encodedField 7 (signedBigEndian point.1)) ++
    classified.flatMap (fun point => encodedField 8 [sessionTypeCode point.2.sessionType] ++
      encodedField 9 (signedBigEndian point.2.start) ++ encodedField 10 (signedBigEndian point.2.finish)))).bytes

def classifiedCloses (steps : Nat) :
    Except Stage5eScheduleClassificationBlockReason (List (Int × NormalizedScheduleSession)) :=
  (List.range (steps + 1)).mapM fun (step : Nat) => do
    let closeTs := predecessorCloseTs + step * timeframeSec.toNat
    let session ← sessionAt window closeTs
    .ok (closeTs, session)

/-- `classify_expected_close_grid`. Both ends lie on one day, so no count and no sum
behind that check leaves its 64 bits. -/
def classifyExpectedCloseGrid :
    Except Stage5eScheduleClassificationBlockReason Stage5eScheduleSequenceClassification := do
  let timeframe : Int := timeframeSec.toNat
  rejectIf (timeframe ≤ 0) .invalidTimeframe
  rejectIf (currentCloseTs ≤ predecessorCloseTs) .nonMonotonicSequence
  rejectIf (predecessorCloseTs % timeframe ≠ 0 ∨ currentCloseTs % timeframe ≠ 0) .unalignedEndpoint
  rejectIf (utcDay predecessorCloseTs ≠ some window.tradingDay ∨ utcDay currentCloseTs ≠ some window.tradingDay)
    .crossTradingDay
  let steps := ((currentCloseTs - predecessorCloseTs) / timeframe).toNat
  rejectIf (steps = 0) .nonMonotonicSequence
  let classified ← classifiedCloses window predecessorCloseTs timeframeSec steps
  let first ← orReject classified.head? .nonMonotonicSequence
  rejectIf (first.2.sessionType ≠ .tradableOpen) .predecessorCloseNotTradableOpen
  let last ← orReject classified.getLast? .nonMonotonicSequence
  rejectIf (last.2.sessionType ≠ .tradableOpen) .currentCloseNotTradableOpen
  (interior classified).forM fun point => checkInterior point.2
  if steps = 1 then .ok .contiguous
  else .ok (.approvedNonTradableBoundary
    (nonTradableBoundaryFingerprint codec window predecessorCloseTs currentCloseTs timeframeSec classified))

/-- One bar is the next one to trade in behind another: both close in trading sessions of one day,
and whatever closes between them closes in a break. -/
structure NextOnGrid : Prop where
  positive : 0 < timeframeSec.toNat
  later : predecessorCloseTs < currentCloseTs
  aligned : predecessorCloseTs % timeframeSec.toNat = 0 ∧ currentCloseTs % timeframeSec.toNat = 0
  sameDay : utcDay predecessorCloseTs = some window.tradingDay ∧ utcDay currentCloseTs = some window.tradingDay
  predecessorOpen : ∃ session, sessionAt window predecessorCloseTs = .ok session ∧ session.sessionType = .tradableOpen
  currentOpen : ∃ session, sessionAt window currentCloseTs = .ok session ∧ session.sessionType = .tradableOpen
  between : ∀ closeTs, predecessorCloseTs < closeTs → closeTs < currentCloseTs →
    closeTs % timeframeSec.toNat = 0 →
    ∃ session, sessionAt window closeTs = .ok session ∧ checkInterior session = .ok ()

variable {codec window predecessorCloseTs currentCloseTs timeframeSec}

theorem classifiedCloses_ok_iff {steps : Nat} {classified : List (Int × NormalizedScheduleSession)} :
    classifiedCloses window predecessorCloseTs timeframeSec steps = .ok classified ↔
      classified.length = steps + 1 ∧ ∀ step (bound : step < classified.length),
        (classified.get ⟨step, bound⟩).1 = predecessorCloseTs + step * timeframeSec.toNat ∧
          sessionAt window (predecessorCloseTs + step * timeframeSec.toNat) = .ok (classified.get ⟨step, bound⟩).2 := by
  unfold classifiedCloses
  rw [mapM_ok_iff, List.forall₂_iff_get]
  simp only [List.length_range, bind_ok_iff, Except.ok.injEq]
  constructor
  · rintro ⟨length, points⟩
    refine ⟨length.symm, fun step bound => ?_⟩
    obtain ⟨session, found, same⟩ := points step (by omega) bound
    rw [← same]
    simp only [List.get_eq_getElem, List.getElem_range] at found ⊢
    exact ⟨trivial, found⟩
  · rintro ⟨length, points⟩
    refine ⟨length.symm, fun step _ bound => ?_⟩
    obtain ⟨same, found⟩ := points step bound
    simp only [List.get_eq_getElem, List.getElem_range] at *
    exact ⟨_, found, Prod.ext same.symm rfl⟩

theorem forall_mem_interior {Value : Type} {holds : Value → Prop} {classified : List Value} :
    (∀ point ∈ interior classified, holds point) ↔
      ∀ step (bound : step < classified.length), 0 < step → step + 1 < classified.length →
        holds (classified.get ⟨step, bound⟩) := by
  have reached : ∀ index (bound : index < (interior classified).length),
      (interior classified).get ⟨index, bound⟩ = classified.get ⟨index + 1, by
        simp only [interior, List.length_take, List.length_drop] at bound
        omega⟩ := by
    intro index bound
    simp [interior]
  constructor
  · intro all step bound positive inside
    have short : step - 1 < (interior classified).length := by
      simp only [interior, List.length_take, List.length_drop]
      omega
    have found := all _ (List.get_mem (interior classified) ⟨step - 1, short⟩)
    rw [reached] at found
    simpa only [Nat.sub_add_cancel positive] using found
  · intro all point member
    obtain ⟨⟨index, bound⟩, rfl⟩ := List.get_of_mem member
    rw [reached]
    simp only [interior, List.length_take, List.length_drop] at bound
    exact all _ _ (by omega) (by omega)

/-- The close times of a timeframe between two of them are counted by their steps. -/
theorem exists_step {closeTs : Int} (aligned : predecessorCloseTs % timeframeSec.toNat = 0)
    (closeAligned : closeTs % timeframeSec.toNat = 0) (positive : 0 < timeframeSec.toNat)
    (later : predecessorCloseTs ≤ closeTs) :
    ∃ step : Nat, closeTs = predecessorCloseTs + step * timeframeSec.toNat := by
  have divides : (timeframeSec.toNat : Int) ∣ closeTs - predecessorCloseTs :=
    dvd_sub (Int.dvd_of_emod_eq_zero closeAligned) (Int.dvd_of_emod_eq_zero aligned)
  obtain ⟨quotient, product⟩ := divides
  have natural : 0 ≤ quotient := by
    by_contra negative
    have below : (timeframeSec.toNat : Int) * quotient < 0 :=
      mul_neg_of_pos_of_neg (by exact_mod_cast positive) (by omega)
    omega
  refine ⟨quotient.toNat, ?_⟩
  rw [Int.toNat_of_nonneg natural, Int.mul_comm]
  omega

/-- The steps from one close time to another are the quotient the walk counts. -/
theorem steps_eq {steps : Nat} (positive : 0 < timeframeSec.toNat)
    (current : currentCloseTs = predecessorCloseTs + steps * timeframeSec.toNat) :
    ((currentCloseTs - predecessorCloseTs) / timeframeSec.toNat).toNat = steps := by
  rw [current, add_sub_cancel_left, Int.mul_ediv_cancel _ (by omega), Int.toNat_natCast]

section Walk

variable {steps : Nat} {classified : List (Int × NormalizedScheduleSession)}
  (walked : classifiedCloses window predecessorCloseTs timeframeSec steps = .ok classified)
include walked

theorem head_classified : ∃ first, classified.head? = some first ∧
    sessionAt window predecessorCloseTs = .ok first.2 := by
  obtain ⟨length, points⟩ := classifiedCloses_ok_iff.1 walked
  have found := (points 0 (by omega)).2
  rw [Nat.cast_zero, Int.zero_mul, Int.add_zero] at found
  exact ⟨_, List.head?_eq_getElem?.trans (List.getElem?_eq_getElem (by omega)), found⟩

theorem getLast_classified : ∃ last, classified.getLast? = some last ∧
    sessionAt window (predecessorCloseTs + steps * timeframeSec.toNat) = .ok last.2 := by
  obtain ⟨length, points⟩ := classifiedCloses_ok_iff.1 walked
  have found := (points steps (by omega)).2
  have back : classified.length - 1 = steps := by omega
  have isLast : classified.getLast? = some (classified.get ⟨steps, by omega⟩) := by
    rw [List.getLast?_eq_getElem?, back]
    exact List.getElem?_eq_getElem (by omega)
  exact ⟨_, isLast, found⟩

/-- The breaks of the walk are the sessions of the closes strictly between its ends. -/
theorem interior_classified (aligned : predecessorCloseTs % timeframeSec.toNat = 0)
    (positive : 0 < timeframeSec.toNat) :
    (∀ point ∈ interior classified, checkInterior point.2 = .ok ()) ↔
      ∀ closeTs, predecessorCloseTs < closeTs → closeTs < predecessorCloseTs + steps * timeframeSec.toNat →
        closeTs % timeframeSec.toNat = 0 →
        ∃ session, sessionAt window closeTs = .ok session ∧ checkInterior session = .ok () := by
  obtain ⟨length, points⟩ := classifiedCloses_ok_iff.1 walked
  rw [forall_mem_interior]
  constructor
  · intro breaks closeTs later earlier closeAligned
    obtain ⟨step, rfl⟩ := exists_step aligned closeAligned positive (by omega)
    have some_step : 0 < step := by
      rcases Nat.eq_zero_or_pos step with rfl | some_step
      · omega
      · exact some_step
    have inside : step < steps := by
      have scaled : (step : Int) * timeframeSec.toNat < steps * timeframeSec.toNat := by omega
      exact_mod_cast lt_of_mul_lt_mul_right scaled (Int.natCast_nonneg _)
    exact ⟨_, (points step (by omega)).2, breaks step (by omega) some_step (by omega)⟩
  · intro breaks step bound some_step inside
    have ahead : (0 : Int) < step * timeframeSec.toNat := by positivity
    have behind : (step : Int) * timeframeSec.toNat < steps * timeframeSec.toNat :=
      mul_lt_mul_of_pos_right (by omega) (by exact_mod_cast positive)
    obtain ⟨session, found, passes⟩ := breaks (predecessorCloseTs + step * timeframeSec.toNat) (by omega) (by omega)
      (by rw [Int.add_mul_emod_self_right]; exact aligned)
    rw [(points step bound).2, Except.ok.injEq] at found
    exact found ▸ passes

end Walk

theorem NextOnGrid.walks {steps : Nat}
    (next : NextOnGrid window predecessorCloseTs (predecessorCloseTs + steps * timeframeSec.toNat) timeframeSec) :
    ∃ classified, classifiedCloses window predecessorCloseTs timeframeSec steps = .ok classified := by
  have onGrid : ∀ step : Nat, step ≤ steps →
      ∃ session, sessionAt window (predecessorCloseTs + step * timeframeSec.toNat) = .ok session := by
    intro step reached
    rcases Nat.eq_zero_or_pos step with rfl | some_step
    · obtain ⟨session, found, _⟩ := next.predecessorOpen
      exact ⟨session, by simpa using found⟩
    rcases Nat.eq_or_lt_of_le reached with rfl | inside
    · obtain ⟨session, found, _⟩ := next.currentOpen
      exact ⟨session, found⟩
    · have scale : (0 : Int) < timeframeSec.toNat := by exact_mod_cast next.positive
      have ahead : (0 : Int) < step * timeframeSec.toNat := by positivity
      have behind : (step : Int) * timeframeSec.toNat < steps * timeframeSec.toNat :=
        mul_lt_mul_of_pos_right (by omega) scale
      obtain ⟨session, found, _⟩ := next.between (predecessorCloseTs + step * timeframeSec.toNat) (by omega) (by omega)
        (by rw [Int.add_mul_emod_self_right]; exact next.aligned.1)
      exact ⟨session, found⟩
  refine exists_mapM_ok fun step member => ?_
  obtain ⟨session, found⟩ := onGrid step (Nat.le_of_lt_succ (List.mem_range.1 member))
  exact ⟨_, bind_ok_iff.2 ⟨session, found, rfl⟩⟩

/-- The walk approves exactly the next bar to trade in. -/
theorem classifyExpectedCloseGrid_isOk_iff :
    (∃ classification, classifyExpectedCloseGrid codec window predecessorCloseTs currentCloseTs timeframeSec =
      .ok classification) ↔ NextOnGrid window predecessorCloseTs currentCloseTs timeframeSec := by
  constructor
  · rintro ⟨classification, approved⟩
    unfold classifyExpectedCloseGrid at approved
    simp only [bind_ok_iff, rejectIf_ok_iff, orReject_ok_iff, not_or, not_not] at approved
    obtain ⟨_, positive, _, later, _, aligned, _, sameDay, _, some_step, classified, walked, first, isFirst, _,
      firstOpen, last, isLast, _, lastOpen, _, breaks, _⟩ := approved
    have positiveNat : 0 < timeframeSec.toNat := by omega
    obtain ⟨steps, rfl⟩ := exists_step aligned.1 aligned.2 positiveNat (by omega)
    rw [steps_eq positiveNat rfl] at walked
    obtain ⟨head, isHead, headAt⟩ := head_classified walked
    obtain ⟨back, isBack, backAt⟩ := getLast_classified walked
    rw [isFirst, Option.some.injEq] at isHead
    rw [isLast, Option.some.injEq] at isBack
    exact {
      positive := positiveNat
      later := by omega
      aligned := aligned
      sameDay := sameDay
      predecessorOpen := ⟨_, headAt, isHead ▸ firstOpen⟩
      currentOpen := ⟨_, backAt, isBack ▸ lastOpen⟩
      between := (interior_classified walked aligned.1 positiveNat).1 (forM_ok_iff.1 breaks) }
  · intro next
    obtain ⟨steps, rfl⟩ := exists_step next.aligned.1 next.aligned.2 next.positive (le_of_lt next.later)
    obtain ⟨classified, walked⟩ := next.walks
    obtain ⟨first, isFirst, firstAt⟩ := head_classified walked
    obtain ⟨last, isLast, lastAt⟩ := getLast_classified walked
    obtain ⟨session, sessionFirst, firstOpen⟩ := next.predecessorOpen
    obtain ⟨session', sessionLast, lastOpen⟩ := next.currentOpen
    have sameFirst : session = first.2 := by simpa [sessionFirst] using firstAt
    have sameLast : session' = last.2 := by simpa [sessionLast] using lastAt
    have some_step : steps ≠ 0 := by
      rintro rfl
      have := next.later
      omega
    have breaks := forM_ok_iff.2 ((interior_classified walked next.aligned.1 next.positive).2 next.between)
    refine ⟨if steps = 1 then .contiguous else .approvedNonTradableBoundary (nonTradableBoundaryFingerprint codec window
      predecessorCloseTs (predecessorCloseTs + steps * timeframeSec.toNat) timeframeSec classified), ?_⟩
    unfold classifyExpectedCloseGrid
    simp only [bind_ok_iff, rejectIf_ok_iff, orReject_ok_iff, not_or, not_not, steps_eq next.positive rfl]
    refine ⟨(), ?_, (), ?_, (), next.aligned, (), next.sameDay, (), some_step, classified, walked, first, isFirst, (),
      sameFirst ▸ firstOpen, last, isLast, (), sameLast ▸ lastOpen, (), breaks, ?_⟩
    · exact not_le.2 (by exact_mod_cast next.positive)
    · exact not_le.2 next.later
    · split <;> rfl

end Grid

end TradingGateway.Stage5e.ScheduleGrid
