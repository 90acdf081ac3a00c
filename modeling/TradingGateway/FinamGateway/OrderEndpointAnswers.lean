import TradingGateway.BrokerCore.OrderPathStores
import TradingGateway.FinamGateway.RealTransportLifecycle

/-! What the answer of the order endpoint means for a place or a cancel, by status and body. -/

set_option autoImplicit false

namespace TradingGateway.FinamGateway.OrderEndpointAnswers

open BrokerCore.Identifiers BrokerCore.OrderPathStores BrokerCore.Orders RealTransportLifecycle

inductive JsonValue where
  | null
  | bool (value : Bool)
  | number (literal : String)
  | string (text : String)
  | array (values : List JsonValue)
  | object (fields : List (String × JsonValue))

def jsonValueKind : JsonValue → String
  | .object _ => "object"
  | .array _ => "array"
  | .string _ => "string"
  | .number _ => "number"
  | .bool _ => "bool"
  | .null => "null"

structure FinamOrderEndpointAcceptedDto where
  brokerOrderId : Option String
deriving DecidableEq

def brokerOrderIdNames : List String :=
  ["broker_order_id", "brokerOrderId", "order_id", "orderId"]

def optionString : JsonValue → Option (Option String)
  | .null => some none
  | .string text => some (some text)
  | _ => none

/-- The derived reader: a record names the field at most once, a sequence has at most that one element. -/
def acceptedDto : JsonValue → Option FinamOrderEndpointAcceptedDto
  | .object fields =>
      match fields.filter (·.1 ∈ brokerOrderIdNames) with
      | [] => some ⟨none⟩
      | [named] => (optionString named.2).map .mk
      | _ => none
  | .array [] => some ⟨none⟩
  | .array [value] => (optionString value).map .mk
  | _ => none

inductive FinamOrderEndpointRejectedCode where
  | brokerRejected
  | localBrokerValidation
deriving DecidableEq

inductive FinamOrderEndpointFixture where
  | accepted (dto : FinamOrderEndpointAcceptedDto)
  | rejected (reasonCode : FinamOrderEndpointRejectedCode)
  | rateLimited (retryAfterMs : Option UInt64)
  | maintenance (maintenanceKind : FinamOrderEndpointMaintenanceKind)
  | timeout
  | decodeError (status : Option UInt16) (bodyKind : Option String)
deriving DecidableEq

inductive FinamOrderEndpointResponseKind where
  | accepted
  | rejected
  | rateLimited
  | maintenance
  | unauthorized
  | reconciliationRequired
  | timeout
  | decodeError
deriving DecidableEq

structure FinamOrderEndpointResponseDiagnostic where
  kind : FinamOrderEndpointResponseKind
  brokerOrderIdPresent : Bool
  brokerOrderIdLen : Option Nat
  reasonCode : Option FinamOrderEndpointRejectedCode
  retryAfterMsPresent : Bool
  maintenanceKind : Option FinamOrderEndpointMaintenanceKind
  status : Option UInt16
  bodyKind : Option String
deriving DecidableEq

def FinamOrderEndpointResponseDiagnostic.plain (kind : FinamOrderEndpointResponseKind) :
    FinamOrderEndpointResponseDiagnostic where
  kind := kind
  brokerOrderIdPresent := false
  brokerOrderIdLen := none
  reasonCode := none
  retryAfterMsPresent := false
  maintenanceKind := none
  status := none
  bodyKind := none

def FinamOrderEndpointFixture.redactedDiagnostic : FinamOrderEndpointFixture → FinamOrderEndpointResponseDiagnostic
  | .accepted dto =>
      { FinamOrderEndpointResponseDiagnostic.plain .accepted with
        brokerOrderIdPresent := dto.brokerOrderId.isSome
        brokerOrderIdLen := dto.brokerOrderId.map String.utf8ByteSize }
  | .rejected reasonCode => { FinamOrderEndpointResponseDiagnostic.plain .rejected with reasonCode := some reasonCode }
  | .rateLimited retryAfterMs =>
      { FinamOrderEndpointResponseDiagnostic.plain .rateLimited with retryAfterMsPresent := retryAfterMs.isSome }
  | .maintenance maintenanceKind =>
      { FinamOrderEndpointResponseDiagnostic.plain .maintenance with maintenanceKind := some maintenanceKind }
  | .timeout => .plain .timeout
  | .decodeError status bodyKind =>
      { FinamOrderEndpointResponseDiagnostic.plain .decodeError with status := status, bodyKind := bodyKind }

inductive FinamOrderEndpointLocalHttpResponse where
  | response (status : UInt16) (body : String) (retryAfterMs : Option UInt64)
  | bodyReadFailed (status : Option UInt16)
  | timeout
deriving DecidableEq

structure FinamOrderEndpointClassifiedResponse where
  result : FinamOrderEndpointMappedResult
  diagnostic : FinamOrderEndpointResponseDiagnostic
deriving DecidableEq

inductive FinamOrderEndpointContext where
  | place
  | cancel
deriving DecidableEq

def decodeErrorResponse (status : Option UInt16) (bodyKind : Option String) : FinamOrderEndpointClassifiedResponse where
  result := .decodeError status bodyKind
  diagnostic := (FinamOrderEndpointFixture.decodeError status bodyKind).redactedDiagnostic

def nullIdBody : String := "\x7b\"broker_order_id\":null\x7d"

def maintenanceKind (status : UInt16) : FinamOrderEndpointMaintenanceKind :=
  if status = 503 then .serviceInterval else .unknown

section Classifier

-- `serde_json::from_str`, which is not part of the repository.
variable (fromStr : String → Option JsonValue)

def jsonBodyKind (body : String) : String :=
  if body = "" then "empty"
  else match fromStr body with
    | some value => jsonValueKind value
    | none => "malformed_json"

def answered (result : FinamOrderEndpointMappedResult) (diagnostic : FinamOrderEndpointResponseDiagnostic)
    (status : UInt16) (body : String) : FinamOrderEndpointClassifiedResponse where
  result := result
  diagnostic := { diagnostic with status := some status, bodyKind := some (jsonBodyKind fromStr body) }

def classifySuccessOrderEndpointResponse (status : UInt16) (body : String) : FinamOrderEndpointClassifiedResponse :=
  match fromStr body with
  | none => decodeErrorResponse (some status) (some "malformed_json")
  | some value =>
    match acceptedDto value with
    | none => decodeErrorResponse (some status) (some (jsonValueKind value))
    | some ⟨none⟩ =>
      { result := .execution (.accepted none)
        diagnostic := { (FinamOrderEndpointFixture.accepted ⟨none⟩).redactedDiagnostic with
          status := some status, bodyKind := some (jsonValueKind value) } }
    | some ⟨some brokerOrderId⟩ =>
      if nonEmpty : brokerOrderId = "" then decodeErrorResponse (some status) (some (jsonValueKind value))
      else
        { result := .execution (.accepted (some ⟨brokerOrderId, nonEmpty⟩))
          diagnostic := { (FinamOrderEndpointFixture.accepted ⟨some brokerOrderId⟩).redactedDiagnostic with
            status := some status, bodyKind := some (jsonValueKind value) } }

/-- A status in `200..300`. -/
def Success (status : UInt16) : Prop :=
  200 ≤ status ∧ status < 300

/-- A status in `400..500`. -/
def ClientError (status : UInt16) : Prop :=
  400 ≤ status ∧ status < 500

instance (status : UInt16) : Decidable (Success status) :=
  inferInstanceAs (Decidable (_ ∧ _))

instance (status : UInt16) : Decidable (ClientError status) :=
  inferInstanceAs (Decidable (_ ∧ _))

def classifyResponse (context : FinamOrderEndpointContext) (status : UInt16) (body : String)
    (retryAfterMs : Option UInt64) : FinamOrderEndpointClassifiedResponse :=
  if status = 401 ∨ status = 403 then
    answered fromStr (.unauthorized status) (.plain .unauthorized) status body
  else if status = 429 then
    answered fromStr (.rateLimited retryAfterMs)
      (FinamOrderEndpointFixture.rateLimited retryAfterMs).redactedDiagnostic status body
  else if status = 408 ∨ status = 504 then
    answered fromStr (.execution .timeout) FinamOrderEndpointFixture.timeout.redactedDiagnostic status body
  else if status = 500 ∨ status = 502 ∨ status = 503 then
    answered fromStr (.maintenance (maintenanceKind status))
      (FinamOrderEndpointFixture.maintenance (maintenanceKind status)).redactedDiagnostic status body
  else if context = .cancel ∧ (IsBlank body.toList ∨ status = 204) then
    classifySuccessOrderEndpointResponse fromStr status nullIdBody
  else if Success status then
    classifySuccessOrderEndpointResponse fromStr status body
  else if context = .cancel ∧ (status = 404 ∨ status = 409 ∨ status = 410) then
    answered fromStr (.reconciliationRequired status) (.plain .reconciliationRequired) status body
  else if ClientError status then
    answered fromStr (.execution (.rejected .brokerRejected))
      (FinamOrderEndpointFixture.rejected .brokerRejected).redactedDiagnostic status body
  else
    decodeErrorResponse (some status) (some (jsonBodyKind fromStr body))

def classifyOrderEndpointLocalHttpResponseForContext (context : FinamOrderEndpointContext) :
    FinamOrderEndpointLocalHttpResponse → FinamOrderEndpointClassifiedResponse
  | .timeout =>
      { result := .execution .timeout
        diagnostic := FinamOrderEndpointFixture.timeout.redactedDiagnostic }
  | .bodyReadFailed status => decodeErrorResponse status (some "body_read_failed")
  | .response status body retryAfterMs => classifyResponse fromStr context status body retryAfterMs

end Classifier

/-- The answer names this broker order id, under the name of the field or as its only element. -/
def Names (value : JsonValue) (brokerOrderId : String) : Prop :=
  value = .array [.string brokerOrderId] ∨
    ∃ fields name, value = .object fields ∧ name ∈ brokerOrderIdNames ∧ (name, .string brokerOrderId) ∈ fields

theorem optionString_some {value : JsonValue} {text : String} (read : optionString value = some (some text)) :
    value = .string text := by
  cases value with
  | string found =>
      cases read
      rfl
  | _ => cases read

theorem acceptedDto_names {value : JsonValue} {brokerOrderId : String}
    (read : acceptedDto value = some ⟨some brokerOrderId⟩) : Names value brokerOrderId := by
  have field : ∀ other, (optionString other).map FinamOrderEndpointAcceptedDto.mk = some ⟨some brokerOrderId⟩ →
      other = .string brokerOrderId := by
    intro other mapped
    obtain ⟨found, isRead, same⟩ := Option.map_eq_some_iff.1 mapped
    cases same
    exact optionString_some isRead
  cases value with
  | object fields =>
      unfold acceptedDto at read
      dsimp only at read
      split at read
      · cases read
      · rename_i named only
        have member : named ∈ fields.filter (·.1 ∈ brokerOrderIdNames) := by
          rw [only]
          exact List.mem_singleton.2 rfl
        obtain ⟨among, known⟩ := List.mem_filter.1 member
        refine Or.inr ⟨fields, named.1, rfl, of_decide_eq_true known, ?_⟩
        rw [← field named.2 read]
        exact among
      · cases read
  | array values =>
      match values, read with
      | [only], read => exact Or.inl (congrArg (fun value => JsonValue.array [value]) (field only read))
  | _ => cases read

section Properties

variable {fromStr : String → Option JsonValue}

/-- A success is accepted under the id it names, or it cannot be decoded. -/
theorem classifySuccess_cases (status : UInt16) (body : String) :
    (∃ known, (classifySuccessOrderEndpointResponse fromStr status body).result = .execution (.accepted known) ∧
      ∀ brokerOrderId, known = some brokerOrderId →
        ∃ value, fromStr body = some value ∧ Names value brokerOrderId.value) ∨
    ∃ kind, (classifySuccessOrderEndpointResponse fromStr status body).result = .decodeError (some status) kind := by
  unfold classifySuccessOrderEndpointResponse
  cases parsed : fromStr body with
  | none => exact Or.inr ⟨_, rfl⟩
  | some value =>
      dsimp only
      cases read : acceptedDto value with
      | none => exact Or.inr ⟨_, rfl⟩
      | some dto =>
          obtain ⟨_ | brokerOrderId⟩ := dto
          · exact Or.inl ⟨none, rfl, fun _ absent => nomatch absent⟩
          · dsimp only
            split
            · exact Or.inr ⟨_, rfl⟩
            · refine Or.inl ⟨_, rfl, ?_⟩
              rintro _ ⟨⟩
              exact ⟨value, rfl, acceptedDto_names read⟩

theorem classifySuccess_nullId (nullId : fromStr nullIdBody = some (.object [("broker_order_id", .null)]))
    (status : UInt16) :
    (classifySuccessOrderEndpointResponse fromStr status nullIdBody).result = .execution (.accepted none) := by
  unfold classifySuccessOrderEndpointResponse
  rw [nullId]
  rfl

variable {context : FinamOrderEndpointContext} {status : UInt16} {body : String} {retryAfterMs : Option UInt64}

/-- Two arms accept: the one for the empty answers of a cancel, and the one for a success. -/
theorem classifyResponse_accepted {known : Option BrokerOrderId}
    (accepted : (classifyResponse fromStr context status body retryAfterMs).result = .execution (.accepted known)) :
    (context = .cancel ∧ (IsBlank body.toList ∨ status = 204) ∧
      ¬ (status = 401 ∨ status = 403) ∧ status ≠ 429 ∧ ¬ (status = 408 ∨ status = 504) ∧
      ¬ (status = 500 ∨ status = 502 ∨ status = 503) ∧
      (classifySuccessOrderEndpointResponse fromStr status nullIdBody).result = .execution (.accepted known)) ∨
    (Success status ∧
      (classifySuccessOrderEndpointResponse fromStr status body).result = .execution (.accepted known)) := by
  unfold classifyResponse at accepted
  split_ifs at accepted with unauthorized limited late down empty success conflict refused
  · cases accepted
  · cases accepted
  · cases accepted
  · cases accepted
  · exact Or.inl ⟨empty.1, empty.2, unauthorized, limited, late, down, accepted⟩
  · exact Or.inr ⟨success, accepted⟩
  · cases accepted
  · cases accepted
  · cases accepted

theorem classifyResponse_rejected {reasonCode : CommandAckReasonCode}
    (rejected : (classifyResponse fromStr context status body retryAfterMs).result = .execution (.rejected reasonCode)) :
    ClientError status ∧ status ∉ [401, 403, 408, 429] ∧ (context = .cancel → status ∉ [404, 409, 410]) := by
  unfold classifyResponse at rejected
  split_ifs at rejected with unauthorized limited late down empty success conflict refused
  · cases rejected
  · cases rejected
  · cases rejected
  · cases rejected
  · obtain ⟨_, isAccepted, _⟩ | ⟨_, undecoded⟩ := @classifySuccess_cases fromStr status nullIdBody
    · rw [isAccepted] at rejected
      cases rejected
    · rw [undecoded] at rejected
      cases rejected
  · obtain ⟨_, isAccepted, _⟩ | ⟨_, undecoded⟩ := @classifySuccess_cases fromStr status body
    · rw [isAccepted] at rejected
      cases rejected
    · rw [undecoded] at rejected
      cases rejected
  · cases rejected
  · refine ⟨refused, ?_, ?_⟩
    · simp only [List.mem_cons, List.not_mem_nil, or_false]
      tauto
    · simp only [List.mem_cons, List.not_mem_nil, or_false]
      tauto
  · cases rejected

/-- The arm for the empty answers of a cancel is left to successes and to the statuses decided before it. -/
def ReadsStatus (context : FinamOrderEndpointContext) (status : UInt16) (body : String) : Prop :=
  context = .cancel → IsBlank body.toList → Success status ∨ status ∈ [401, 403, 408, 429, 500, 502, 503, 504]

theorem ReadsStatus.not_empty (read : ReadsStatus context status body) (failed : ¬ Success status)
    (unauthorized : ¬ (status = 401 ∨ status = 403)) (limited : status ≠ 429)
    (late : ¬ (status = 408 ∨ status = 504)) (down : ¬ (status = 500 ∨ status = 502 ∨ status = 503)) :
    ¬ (context = .cancel ∧ (IsBlank body.toList ∨ status = 204)) := by
  rintro ⟨isCancel, blank | rfl⟩
  · obtain success | early := read isCancel blank
    · exact failed success
    · simp only [List.mem_cons, List.not_mem_nil, or_false] at early
      tauto
  · exact failed (by decide)

theorem classifyResponse_accepted_success {known : Option BrokerOrderId}
    (nullId : fromStr nullIdBody = some (.object [("broker_order_id", .null)]))
    (read : ReadsStatus context status body)
    (accepted : (classifyResponse fromStr context status body retryAfterMs).result = .execution (.accepted known)) :
    Success status ∧ ∀ brokerOrderId, known = some brokerOrderId →
      ∃ value, fromStr body = some value ∧ Names value brokerOrderId.value := by
  obtain ⟨isCancel, empty, unauthorized, limited, late, down, isNull⟩ | ⟨success, isAccepted⟩ :=
    classifyResponse_accepted accepted
  · rw [classifySuccess_nullId nullId] at isNull
    cases isNull
    refine ⟨?_, fun _ absent => nomatch absent⟩
    by_contra failed
    exact read.not_empty failed unauthorized limited late down ⟨isCancel, empty⟩
  · refine ⟨success, ?_⟩
    obtain ⟨_, found, named⟩ | ⟨_, undecoded⟩ := @classifySuccess_cases fromStr status body
    · rw [found] at isAccepted
      cases isAccepted
      exact named
    · rw [undecoded] at isAccepted
      cases isAccepted

theorem classifyResponse_conflict (isCancel : context = .cancel) (conflict : status ∈ [404, 409, 410])
    (read : ReadsStatus context status body) :
    (classifyResponse fromStr context status body retryAfterMs).result = .reconciliationRequired status := by
  have failed : ¬ Success status ∧ ¬ (status = 401 ∨ status = 403) ∧ status ≠ 429 ∧ ¬ (status = 408 ∨ status = 504) ∧
      ¬ (status = 500 ∨ status = 502 ∨ status = 503) := by
    simp only [List.mem_cons, List.not_mem_nil, or_false] at conflict
    rcases conflict with rfl | rfl | rfl <;> decide
  obtain ⟨failed, unauthorized, limited, late, down⟩ := failed
  unfold classifyResponse
  rw [if_neg unauthorized, if_neg limited, if_neg late, if_neg down,
    if_neg (read.not_empty failed unauthorized limited late down), if_neg failed, if_pos]
  · rfl
  · exact ⟨isCancel, by simpa using conflict⟩

/-- Outside `200..300` a known status decides alone, and of an unknown one the kind of the body is reported. -/
theorem classifyResponse_outside (failed : ¬ Success status) (read : ReadsStatus context status body) (other : String)
    (otherRead : ReadsStatus context status other) :
    if ClientError status ∨ status ∈ [500, 502, 503, 504] then
      (classifyResponse fromStr context status body retryAfterMs).result =
        (classifyResponse fromStr context status other retryAfterMs).result
    else (classifyResponse fromStr context status body retryAfterMs).result =
      .decodeError (some status) (some (jsonBodyKind fromStr body)) := by
  unfold classifyResponse
  by_cases unauthorized : status = 401 ∨ status = 403
  · rw [if_pos]
    · simp only [if_pos unauthorized]
      rfl
    · rcases unauthorized with rfl | rfl <;> decide
  by_cases limited : status = 429
  · rw [if_pos]
    · simp only [if_neg unauthorized, if_pos limited]
      rfl
    · subst limited
      decide
  by_cases late : status = 408 ∨ status = 504
  · rw [if_pos]
    · simp only [if_neg unauthorized, if_neg limited, if_pos late]
      rfl
    · rcases late with rfl | rfl <;> decide
  by_cases down : status = 500 ∨ status = 502 ∨ status = 503
  · rw [if_pos]
    · simp only [if_neg unauthorized, if_neg limited, if_neg late, if_pos down]
      rfl
    · rcases down with rfl | rfl | rfl <;> decide
  simp only [if_neg unauthorized, if_neg limited, if_neg late, if_neg down, if_neg failed,
    if_neg (read.not_empty failed unauthorized limited late down),
    if_neg (otherRead.not_empty failed unauthorized limited late down)]
  by_cases conflict : context = .cancel ∧ (status = 404 ∨ status = 409 ∨ status = 410)
  · rw [if_pos]
    · simp only [if_pos conflict]
      rfl
    · rcases conflict.2 with rfl | rfl | rfl <;> decide
  simp only [if_neg conflict]
  by_cases refused : ClientError status
  · rw [if_pos (Or.inl refused)]
    simp only [if_pos refused]
    rfl
  · rw [if_neg]
    · rw [if_neg refused]
      rfl
    · rintro (isRefused | unavailable)
      · exact refused isRefused
      · simp only [List.mem_cons, List.not_mem_nil, or_false] at unavailable
        tauto

/-- An answer is accepted for a success alone, refused for a client error alone, and a conflict of a
cancel is left to reconciliation; outside `200..300` at most the kind of the body is reported of it. -/
theorem classify_trusts (nullId : fromStr nullIdBody = some (.object [("broker_order_id", .null)]))
    (context : FinamOrderEndpointContext) (response : FinamOrderEndpointLocalHttpResponse)
    (read : ∀ status body retryAfterMs, response = .response status body retryAfterMs → ReadsStatus context status body) :
    (∀ known, (classifyOrderEndpointLocalHttpResponseForContext fromStr context response).result =
        .execution (.accepted known) →
      ∃ status body retryAfterMs, response = .response status body retryAfterMs ∧ Success status ∧
        ∀ brokerOrderId, known = some brokerOrderId →
          ∃ value, fromStr body = some value ∧ Names value brokerOrderId.value) ∧
    (∀ reasonCode, (classifyOrderEndpointLocalHttpResponseForContext fromStr context response).result =
        .execution (.rejected reasonCode) →
      ∃ status body retryAfterMs, response = .response status body retryAfterMs ∧ ClientError status ∧
        status ∉ [401, 403, 408, 429] ∧ (context = .cancel → status ∉ [404, 409, 410])) ∧
    (∀ status body retryAfterMs, response = .response status body retryAfterMs → context = .cancel →
      status ∈ [404, 409, 410] →
      (classifyOrderEndpointLocalHttpResponseForContext fromStr context response).result =
        .reconciliationRequired status) ∧
    ∀ status body retryAfterMs, response = .response status body retryAfterMs → ¬ Success status →
      ∀ other, ReadsStatus context status other →
        if ClientError status ∨ status ∈ [500, 502, 503, 504] then
          (classifyOrderEndpointLocalHttpResponseForContext fromStr context response).result =
            (classifyOrderEndpointLocalHttpResponseForContext fromStr context
              (.response status other retryAfterMs)).result
        else (classifyOrderEndpointLocalHttpResponseForContext fromStr context response).result =
          .decodeError (some status) (some (jsonBodyKind fromStr body)) := by
  refine ⟨?_, ?_, ?_, ?_⟩
  · intro known accepted
    cases response with
    | response status body retryAfterMs =>
        have trusted := classifyResponse_accepted_success nullId (read status body retryAfterMs rfl) accepted
        exact ⟨status, body, retryAfterMs, rfl, trusted⟩
    | bodyReadFailed status => cases accepted
    | timeout => cases accepted
  · intro reasonCode rejected
    cases response with
    | response status body retryAfterMs =>
        exact ⟨status, body, retryAfterMs, rfl, classifyResponse_rejected rejected⟩
    | bodyReadFailed status => cases rejected
    | timeout => cases rejected
  · rintro status body retryAfterMs rfl isCancel conflict
    exact classifyResponse_conflict isCancel conflict (read status body retryAfterMs rfl)
  · rintro status body retryAfterMs rfl failed other otherRead
    exact classifyResponse_outside failed (read status body retryAfterMs rfl) other otherRead

end Properties

/-- Enough of a reader for texts without an id. -/
def sampleFromStr (body : String) : Option JsonValue :=
  if body = nullIdBody then some (.object [("broker_order_id", .null)])
  else if body = "{}" then some (.object [])
  else none

theorem sampleFromStr_nullId : sampleFromStr nullIdBody = some (.object [("broker_order_id", .null)]) := if_pos rfl

theorem classify_trusts_conflict :
    (classifyOrderEndpointLocalHttpResponseForContext sampleFromStr .cancel (.response 409 "{}" none)).result =
      .reconciliationRequired 409 :=
  (@classify_trusts sampleFromStr sampleFromStr_nullId .cancel (.response 409 "{}" none)
    (by
      rintro _ _ _ ⟨⟩ _ blank
      exact absurd blank (by decide))).2.2.1 409 "{}" none rfl rfl (by decide)

/-- The empty answer to a cancel is accepted although the status says that the order is not found, and a
redirection is reported with the kind of its body. -/
theorem empty_conflict_is_accepted :
    (classifyOrderEndpointLocalHttpResponseForContext sampleFromStr .cancel (.response 404 "" none)).result =
        .execution (.accepted none) ∧
      (classifyOrderEndpointLocalHttpResponseForContext sampleFromStr .place (.response 302 "" none)).result ≠
        (classifyOrderEndpointLocalHttpResponseForContext sampleFromStr .place (.response 302 "moved" none)).result := by
  decide

end TradingGateway.FinamGateway.OrderEndpointAnswers
