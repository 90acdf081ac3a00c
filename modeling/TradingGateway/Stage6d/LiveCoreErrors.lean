import TradingGateway.Stage6.MemoryJournal
import TradingGateway.Stage6.MixedReplay

/-! The errors of the live core, and how the errors of its parts become them. -/

set_option autoImplicit false

namespace TradingGateway.Stage6d.LiveCore

open Stage6.DurableIdentity Stage6.ReconciliationV2 Stage6.Replay Stage6.JournalFrames

inductive Stage6dLiveCoreError where
  | journal (source : Stage6JournalStorageError)
  | replay (source : Stage6ReplayError)
  | reconciliationV2 (source : Stage6ReconciliationV2Error)
  | firstBootJournalNotEmpty
  | integrationFingerprint
  | durableIdentity (source : Stage6DurableIdentityError)
  | acceptedRecordRequired
  | dispatchAttemptRecordRequired
  | durableOrderingViolation
  | journalMutationMayHaveOccurred
  | paperOutcomeActionMismatch
  | operationalIdentityInvalid
  | restartSemanticCrossBindingMismatch
  | stage8a4WriteAuthorityInvalid
  | stage8bP1d3WorkingLimit
deriving DecidableEq

inductive Stage6dLiveCoreHalt where
  | rejected (error : Stage6dLiveCoreError)
  | panicked
deriving DecidableEq

def journalHalt : Stage6JournalStorageHalt → Stage6dLiveCoreHalt
  | .rejected error => .rejected (.journal error)
  | .panicked => .panicked

def reconciliationHalt (error : Stage6ReconciliationV2Error) : Stage6dLiveCoreHalt :=
  .rejected (.reconciliationV2 error)

end TradingGateway.Stage6d.LiveCore
