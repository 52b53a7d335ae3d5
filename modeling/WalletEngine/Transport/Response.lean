import WalletEngine.Data.Json
import WalletEngine.Transport.Request

/-! # Provider responses

The two transports reduce what a host reports to a response body or a domain
error: one host exposes HTTP metadata, the other only the body. -/

namespace WalletEngine

/-- Response bodies and the JSON reader and printer applied to them. -/
structure Serde where
  Body : Type
  fromSlice : Body → Except String Json
  render : Json → String

structure HttpHeader where
  name : String
  value : String
  deriving DecidableEq

variable (serde : Serde)

structure HttpResponse where
  status : Nat
  headers : List HttpHeader
  body : serde.Body
  finalUrl : String

structure HttpHostError where
  kind : HttpHostErrorKind
  diagnostic : String
  deriving DecidableEq

section Http

/-- The error of a host callback. Both transports normalise host failures so. -/
def hostError (kind : HttpHostErrorKind) (message : String) : DomainError :=
  let cancelled := kind == .cancelled
  let policy := kind == .policyViolation
  let tooLarge := kind == .responseTooLarge
  { code := if cancelled then .hostCancelled else if policy then .hostPolicyViolation
      else if tooLarge then .responseTooLarge else .transportFailed
    category := if cancelled then .cancellation else if policy || tooLarge then .hostPolicy
      else .transport
    retry := if cancelled || policy || tooLarge then .none else .safe
    developerMessage := boundedDiagnostic message
    providerStatus := none
    retryAfterMs := none
    hostKind := some kind }

def providerMessage (body : serde.Body) : Option String :=
  match serde.fromSlice body with
  | .error _ => none
  | .ok value =>
    (["error", "description", "message"].findSome? fun field =>
      (value.get field).bind Json.asStr).map boundedDiagnostic

def asciiLower (c : Char) : Char :=
  if 'A' ≤ c && c ≤ 'Z' then Char.ofNat (c.toNat + 32) else c

def parseRetryAfterMs (headers : List HttpHeader) : Option Nat := do
  let header ← headers.find? fun header =>
    header.name.toList.map asciiLower == "retry-after".toList
  let seconds ← parseUnsigned u64Bound (String.ofList (trim header.value.toList))
  if seconds * 1000 < u64Bound then some (seconds * 1000) else none

def responseError (status : Nat) (headers : List HttpHeader) (body : serde.Body) :
    Option DomainError :=
  if 200 ≤ status ∧ status < 300 then none
  else
    let developerMessage := (providerMessage serde body).getD ("HTTP " ++ toString status)
    if status = 429 then
      let retryAfterMs := parseRetryAfterMs headers
      some {
        code := .rateLimited
        category := .rateLimit
        retry := if retryAfterMs.isSome then .afterDelay else .safe
        developerMessage
        providerStatus := some status
        retryAfterMs
        hostKind := none }
    else some {
      code := .httpRejected
      category := .providerProtocol
      retry := if status ≥ 500 then .safe else .none
      developerMessage
      providerStatus := some status
      retryAfterMs := none
      hostKind := none }

/-- What `HttpTransport::execute` makes of a host result. -/
def processResponse (request : HttpRequest) (result : Except HttpHostError (HttpResponse serde)) :
    Except DomainError serde.Body :=
  match result with
  | .error error => .error (hostError error.kind error.diagnostic)
  | .ok response =>
    if response.finalUrl ≠ request.url then
      .error (hostError .policyViolation "HTTP redirect or mismatched final URL")
    else
      match responseError serde response.status response.headers response.body with
      | some error => .error error
      | none => .ok response.body

end Http

section Statusless

inductive StatuslessHostErrorKind where
  | offline | timeout | connectionLost | policyViolation | responseTooLarge | cancelled | other
  deriving DecidableEq

def httpKind : StatuslessHostErrorKind → HttpHostErrorKind
  | .offline => .offline
  | .timeout => .timeout
  | .connectionLost => .connectionLost
  | .policyViolation => .policyViolation
  | .responseTooLarge => .responseTooLarge
  | .cancelled => .cancelled
  | .other => .other

structure StatuslessHostError where
  kind : StatuslessHostErrorKind
  diagnostic : String
  deriving DecidableEq

def mapHostError (error : StatuslessHostError) : DomainError :=
  hostError (httpKind error.kind) error.diagnostic

/-- A status code as a number or a decimal string. -/
def providerCode (value : Json) : Option Nat :=
  match (value.asU64).bind fun code => if code < u16Bound then some code else none with
  | some code => some code
  | none => (value.asStr).bind (parseUnsigned u16Bound)

/-- A scalar diagnostic. -/
def valueMessage (value : Json) : Option String :=
  match value.asStr with
  | some message => some message
  | none => (value.asI64).map toString

def providerError (developerMessage : String) (providerStatus : Option Nat) : DomainError :=
  if providerStatus = some 429 then {
    code := .rateLimited
    category := .rateLimit
    retry := .safe
    developerMessage := boundedDiagnostic developerMessage
    providerStatus
    retryAfterMs := none
    hostKind := none }
  else {
    code := .httpRejected
    category := .providerProtocol
    retry := if providerStatus.any (500 ≤ ·) then .safe else .none
    developerMessage := boundedDiagnostic developerMessage
    providerStatus
    retryAfterMs := none
    hostKind := none }

/-- The code of an error envelope, wherever it carries one. -/
def envelopeCode (value : Json) : Option Nat :=
  (value.get "code").bind providerCode

def isFalse (field : Option Json) : Bool :=
  match field with
  | some (.bool false) => true
  | _ => false

/-- The error a body stands for when no HTTP status is available. -/
def nakedProviderErrorOf (value : Json) : Option DomainError :=
  let providerStatus := envelopeCode value
  if isFalse (value.get "ok") && providerStatus.isSome then
    let developerMessage := (["error", "description", "result"].findSome? fun field =>
      (value.get field).bind valueMessage).getD "provider rejected request"
    some (providerError developerMessage providerStatus)
  else
    ((value.get "error").bind valueMessage).map fun developerMessage =>
      providerError developerMessage providerStatus

def nakedProviderError (body : serde.Body) : Option DomainError :=
  match serde.fromSlice body with
  | .error _ => none
  | .ok value => nakedProviderErrorOf value

/-- What `StatuslessTransport::execute` makes of a host result. -/
def processStatusless (result : Except StatuslessHostError serde.Body) :
    Except DomainError serde.Body :=
  match result with
  | .error error => .error (mapHostError error)
  | .ok body =>
    match nakedProviderError serde body with
    | some error => .error error
    | none => .ok body

end Statusless

section Delivery

/-- What the host behind a provider transport reports for one request. -/
inductive Delivery where
  | http (result : Except HttpHostError (HttpResponse serde))
  | statusless (result : Except StatuslessHostError serde.Body)

variable {serde}

/-- What the engine receives: `ProviderTransport::execute`. -/
def Delivery.received (request : HttpRequest) : Delivery serde → Except DomainError serde.Body
  | .http result => processResponse serde request result
  | .statusless result => processStatusless serde result

end Delivery

end WalletEngine
