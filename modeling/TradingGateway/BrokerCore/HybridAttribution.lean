import TradingGateway.Foundation.ExceptRun

/-! The hybrid strategy attribution carried in an order comment such as
`HYB|sid=alpha|c=7|o=MR|r=ENTRY`, and its structured fields. -/

set_option autoImplicit false

namespace TradingGateway.BrokerCore.HybridAttribution

open Foundation.ExceptRun

inductive HybridRuntimeOwner where
  | intradayBreakout
  | meanReversion
deriving DecidableEq

inductive HybridRuntimeOrderRole where
  | entry
  | exit
  | takeProfit
  | stopLoss
  | cancel
  | repair
deriving DecidableEq

inductive HybridRuntimeAttributionError where
  | invalidSourceComment
  | structuredFieldsMismatch
deriving DecidableEq

structure HybridRuntimeAttributionWire where
  internalComment : String
  strategyId : String
  cycleId : String
  owner : Option HybridRuntimeOwner
  role : Option HybridRuntimeOrderRole
deriving DecidableEq

/-- The fields collected so far while walking the parts of a comment. -/
structure SourceFields where
  strategyId : Option String
  cycleId : Option String
  owner : Option HybridRuntimeOwner
  role : Option HybridRuntimeOrderRole

def parseOwner (value : String) : Option HybridRuntimeOwner :=
  match value with
  | "MR" => some .meanReversion
  | "BO" => some .intradayBreakout
  | _ => none

/-- `REPAIR` is deliberately not mapped. -/
def parseRole (value : String) : Option HybridRuntimeOrderRole :=
  match value with
  | "ENTRY" => some .entry
  | "TP" => some .takeProfit
  | "SL" => some .stopLoss
  | "EXIT" => some .exit
  | "CANCEL" => some .cancel
  | _ => none

/-- One `key=value` part; a later part overrides an earlier one of its key. -/
def parsePart (fields : SourceFields) (part : List Char) :
    Except HybridRuntimeAttributionError SourceFields :=
  match part.span (· ≠ '=') with
  | (_, []) => .error .invalidSourceComment
  | (key, _ :: rest) =>
      let value := String.ofList rest
      match String.ofList key with
      | "sid" => .ok { fields with strategyId := some value }
      | "c" => .ok { fields with cycleId := some value }
      | "o" => .ok { fields with owner := parseOwner value }
      | "r" => .ok { fields with role := parseRole value }
      | _ => .ok fields

def parseSourceFields (internalComment : String) :
    Except HybridRuntimeAttributionError HybridRuntimeAttributionWire := do
  let characters := internalComment.toList
  rejectIf (¬ (characters.all (fun character => character.val < 128) = true ∧
    "HYB|".toList.isPrefixOf characters = true)) .invalidSourceComment
  let fields ← ((characters.splitOn '|').drop 1).foldlM parsePart
    { strategyId := none, cycleId := none, owner := none, role := none }
  let strategyId ← orReject fields.strategyId .invalidSourceComment
  let cycleId ← orReject fields.cycleId .invalidSourceComment
  .ok {
    internalComment := internalComment
    strategyId := strategyId
    cycleId := cycleId
    owner := fields.owner
    role := fields.role }

structure HybridRuntimeAttribution extends HybridRuntimeAttributionWire where
  canonical : parseSourceFields internalComment = .ok toHybridRuntimeAttributionWire
deriving DecidableEq

theorem parseSourceFields_internalComment {comment : String} {wire : HybridRuntimeAttributionWire}
    (parsed : parseSourceFields comment = .ok wire) : wire.internalComment = comment := by
  unfold parseSourceFields at parsed
  obtain ⟨_, _, parsed⟩ := bind_ok_iff.1 parsed
  obtain ⟨_, _, parsed⟩ := bind_ok_iff.1 parsed
  obtain ⟨_, _, parsed⟩ := bind_ok_iff.1 parsed
  obtain ⟨_, _, parsed⟩ := bind_ok_iff.1 parsed
  cases parsed
  rfl

def HybridRuntimeAttribution.parseSourceComment (comment : String) :
    Except HybridRuntimeAttributionError HybridRuntimeAttribution :=
  match parsed : parseSourceFields comment with
  | .error error => .error error
  | .ok wire =>
      .ok { toHybridRuntimeAttributionWire := wire
            canonical := by rw [parseSourceFields_internalComment parsed, parsed] }

def HybridRuntimeAttribution.validateSourceEquivalence (attribution : HybridRuntimeAttribution) :
    Except HybridRuntimeAttributionError Unit := do
  let parsed ← HybridRuntimeAttribution.parseSourceComment attribution.internalComment
  rejectIf (parsed ≠ attribution) .structuredFieldsMismatch

example : (parseSourceFields "HYB|sid=alpha|c=7|o=MR|r=ENTRY").toOption =
    some ⟨"HYB|sid=alpha|c=7|o=MR|r=ENTRY", "alpha", "7", some .meanReversion, some .entry⟩ := by
  decide

end TradingGateway.BrokerCore.HybridAttribution
