import WalletEngine.Engine.SendState

/-! # Resolution of pending sends

Read-only chain resolution and the compare-exchange transitions that record its
evidence. -/

namespace WalletEngine

variable {P : Platform}

structure ResolutionRequests where
  executed : HttpRequest
  pending : HttpRequest
  walletState : HttpRequest
  executedRecheck : HttpRequest

/-- The four identifiers a resolution may use. -/
structure ResolutionIds where
  executed : HttpRequestId
  pending : HttpRequestId
  walletState : HttpRequestId
  executedRecheck : HttpRequestId

def allocateResolutionIds : Locked ResolutionIds := do
  let executed ← allocateRequestId
  let pending ← allocateRequestId
  let walletState ← allocateRequestId
  let executedRecheck ← allocateRequestId
  return { executed, pending, walletState, executedRecheck }

def ResolutionRequests.new (config : WalletClientConfig) (messageHash : Base64Hash)
    (ids : ResolutionIds) : Except WalletClientError ResolutionRequests := do
  let executed ← buildRequest config ids.executed (.transactionsByMessage messageHash)
  let pending ← buildRequest config ids.pending (.pendingTransactions config.address)
  let walletState ← buildRequest config ids.walletState (.walletStates config.address)
  let executedRecheck ←
    buildRequest config ids.executedRecheck (.transactionsByMessage messageHash)
  return { executed, pending, walletState, executedRecheck }

variable (P) in
structure ResolvedPending where
  resolution : SendResolution
  journal : JournalRecord P.codec.Payload

/-- Saturating addition of `u64`. -/
def saturatingAdd (left right : Nat) : Nat := min (left + right) (u64Bound - 1)

def resolutionWindowExpired (providerTime validUntil marginSeconds : Nat) : Bool :=
  saturatingAdd validUntil marginSeconds < providerTime

namespace Engine

/-- Record a terminal resolution. The record that was inspected is advanced; on
a conflict a terminal record of the competing writer is adopted, and the write
is retried only while the same operation is pending. -/
def persistSendResolution (owner : ResolutionOwner) (resolution : SendResolution) :
    (attempts : Nat) → (pending : PendingSendRecord P.codec) → Engine P (ResolvedPending P)
  | 0, _ => resolutionFailedError owner "send journal remained contended during resolution"
  | attempts + 1, pending => do
      match pending.terminalMutation resolution with
      | .error error => resolutionWorkflowError owner error
      | .ok none => resolutionFailedError owner "pending resolution was not terminal"
      | .ok (some mutation) =>
        match ← compareExchangeJournal mutation with
        | .error error => resolutionFailedError owner error.display
        | .ok result =>
          ensureCurrentResolution owner
          if result.applied then
            return { resolution, journal := mutation.replacement }
          match result.current with
          | none => resolutionFailedError owner "send journal disappeared during resolution"
          | some current =>
            match terminalSendResolution P.codec current pending.recordId
                pending.source with
            | .error error => resolutionWorkflowError owner error
            | .ok (some resolution) => return { resolution, journal := current }
            | .ok none =>
              match pendingSendRecord P.codec current pending.recordId
                  pending.source with
              | .error error => resolutionWorkflowError owner error
              | .ok none =>
                resolutionFailedError owner "send journal changed during resolution"
              | .ok (some currentPending) =>
                if currentPending.operationId ≠ pending.operationId ∨
                    currentPending.messageHash ≠ pending.messageHash then
                  resolutionFailedError owner
                    "another send replaced the journal during resolution"
                else
                  persistSendResolution owner resolution attempts currentPending

def persistResolution (owner : ResolutionOwner) (pending : PendingSendRecord P.codec)
    (resolution : SendResolution) : Engine P (ResolvedPending P) :=
  persistSendResolution owner resolution 3 pending

/-- Execute a lookup and parse its answer; either failure ends the resolution. -/
def lookup {α : Type} (owner : ResolutionOwner) (request : HttpRequest)
    (parse : P.serde.Body → Except DomainError α) : Engine P α := do
  match (← executeResolutionRequest owner request).bind parse with
  | .ok value => return value
  | .error error => resolutionFailedError owner error.developerMessage

/-- Whether the message is in the provider's pending set, and whether its
absence was observed. -/
def pendingVerdict : Except DomainError Bool → Bool × Bool
  | .ok isPending => (isPending, true)
  | .error error =>
    if error.providerStatus = some 404 ∨ error.providerStatus = some 405 then (false, true)
    else (false, false)

def stillPending (pending : PendingSendRecord P.codec) (reason : PendingReason) :
    ResolvedPending P :=
  { resolution := .stillPending reason, journal := pending.currentJournal }

def resolveInternal (owner : ResolutionOwner) (config : WalletClientConfig)
    (pending : PendingSendRecord P.codec) (providerTime : Nat) (requests : ResolutionRequests) :
    Engine P (ResolvedPending P) := do
  let indexedSeqno ← lookup owner requests.walletState (parseWalletSeqno P.serde)
  if pending.seqno < indexedSeqno then
    persistResolution owner pending .sequenceNumberConsumed
  else if resolutionWindowExpired providerTime pending.validUntil
      config.resolutionMarginSeconds then
    persistResolution owner pending .expired
  else
    return stillPending pending .awaitingWindow

def persistConfirmed (owner : ResolutionOwner) (pending : PendingSendRecord P.codec)
    (executed : ExecutedMessage) : Engine P (ResolvedPending P) :=
  persistResolution owner pending (.confirmed executed.transactionHash executed.transactionLt)

def resolveExternal (owner : ResolutionOwner) (config : WalletClientConfig)
    (pending : PendingSendRecord P.codec) (providerTime : Nat) (requests : ResolutionRequests) :
    Engine P (ResolvedPending P) := do
  match ← lookup owner requests.executed (parseExecutedMessage P.serde P.hashFrom) with
  | some executed => persistConfirmed owner pending executed
  | none =>
    let pendingResponse ← executeResolutionRequest owner requests.pending
    let (isPending, pendingObserved) := pendingVerdict
      (pendingResponse.bind (parsePendingMessage P.serde P.hashFrom · pending.messageHash))
    if isPending then
      return stillPending pending .inMempool
    let indexedSeqno ← lookup owner requests.walletState (parseWalletSeqno P.serde)
    if pending.seqno < indexedSeqno then
      -- A second lookup after the increment: the first one may predate the execution.
      match ← lookup owner requests.executedRecheck
          (parseExecutedMessage P.serde P.hashFrom) with
      | some executed => persistConfirmed owner pending executed
      | none => persistResolution owner pending .replaced
    else if pendingObserved && resolutionWindowExpired providerTime pending.validUntil
        config.resolutionMarginSeconds then
      persistResolution owner pending .expired
    else
      return stillPending pending .awaitingWindow

def resolvePendingWithOwner (owner : ResolutionOwner) (config : WalletClientConfig)
    (pending : PendingSendRecord P.codec) (providerTime : Nat) (requests : ResolutionRequests) :
    Engine P (ResolvedPending P) :=
  match pending.kind with
  | .internal => resolveInternal owner config pending providerTime requests
  | .external => resolveExternal owner config pending providerTime requests

end Engine

end WalletEngine
