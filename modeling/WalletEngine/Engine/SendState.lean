import WalletEngine.Engine.State

/-! # Tracking of send operations

The lock regions of a send and of the resolver, and the failure paths that
release their slots. -/

namespace WalletEngine

section Regions

/-- Require that `generation` still owns the slot of its family. -/
def ensureCurrent (family : OperationFamily) (generation : Nat) : Locked Unit := do
  let state ← get
  if !state.isCurrent family generation then
    throw .stateUnavailable

def ensureNotShutdown : Locked Unit := do
  let state ← get
  if state.shutdown then
    throw .shutdown

def publishPriorSendResolution (generation : Nat) (snapshot : SendSnapshot) : Locked Unit := do
  ensureCurrent .send generation
  modify fun state => { state with snapshot.send := snapshot }
  nextRevision

def blockSendForPending (generation : Nat) (snapshot : SendSnapshot) :
    Locked WalletClientError := do
  ensureCurrent .send generation
  modify fun state => { state with
    activeSend := none
    sendCommitStarted := false
    sendWorkflow := none
    snapshot.send := snapshot }
  nextRevision
  return .previousSubmissionUnresolved

/-- Release the send slot with a final phase and diagnostic. -/
def releaseSend (generation : Nat) (phase : SendPhase) (message : String) : Locked Unit := do
  let state ← get
  if state.isCurrent .send generation then
    set { state with
      activeSend := none
      sendCommitStarted := false
      snapshot.send.phase := phase
      snapshot.send.errorMessage := some (boundedDiagnostic message) }
    nextRevision

def failSend (generation : Nat) (message : String) : Locked Unit :=
  releaseSend generation .failed message

def markSendUnknown (generation : Nat) (message : String) : Locked Unit :=
  releaseSend generation .submissionUnknown message

def beginSendCommit (generation : Nat) : Locked Unit := do
  ensureNotShutdown
  ensureCurrent .send generation
  modify fun state => { state with sendCommitStarted := true }

def ensureCurrentSend (generation : Nat) : Locked Unit := do
  ensureNotShutdown
  ensureCurrent .send generation

def publishSendWorkflow (generation : Nat) (workflow : SendWorkflow) : Locked Unit := do
  ensureCurrent .send generation
  modify fun state => { state with
    snapshot.send := workflow.snapshot
    sendWorkflow := some workflow }
  nextRevision

/-- Change the tracked requests of the active send. -/
def trackSend (generation : Nat) (track : List HttpRequestId → List HttpRequestId) :
    Locked Unit := do
  ensureNotShutdown
  let state ← get
  match state.activeSend with
  | none => throw .stateUnavailable
  | some (active, ids) =>
    if active ≠ generation then
      throw .stateUnavailable
    set { state with activeSend := some (active, track ids) }

def startSendRequest (generation : Nat) (id : HttpRequestId) : Locked Unit :=
  trackSend generation (· ++ [id])

def finishSendRequest (generation : Nat) (id : HttpRequestId) : Locked Unit :=
  trackSend generation (·.filter (· != id))

/-- Change the tracked requests of the active resolution. -/
def trackResolution (generation : Nat) (track : List HttpRequestId → List HttpRequestId) :
    Locked Unit := do
  let state ← get
  match state.activeResolution with
  | none => throw .stateUnavailable
  | some (active, ids) =>
    if active ≠ generation then
      throw .stateUnavailable
    set { state with activeResolution := some (active, track ids) }

def startResolutionRequest (generation : Nat) (id : HttpRequestId) : Locked Unit :=
  trackResolution generation (· ++ [id])

def finishResolutionRequest (generation : Nat) (id : HttpRequestId) : Locked Unit :=
  trackResolution generation (·.filter (· != id))

/-- Release the resolution slot if `generation` still owns it. -/
def discardResolution (generation : Nat) : Locked Unit := do
  let state ← get
  if state.isCurrent .resolution generation then
    set { state with activeResolution := none }

def completeStandaloneResolution (generation : Nat) (snapshot : Option SendSnapshot) :
    Locked SendSnapshot := do
  ensureCurrent .resolution generation
  modify fun state => { state with activeResolution := none }
  let state ← get
  match snapshot with
  | none => return state.snapshot.send
  | some snapshot =>
    if state.snapshot.send ≠ snapshot then
      set { state with snapshot.send := snapshot }
      nextRevision
    return snapshot

end Regions

variable {P : Platform} {α : Type}

namespace Engine

/-- Fail a send before its submission became ambiguous. -/
def sendFailedError (generation : Nat) (message : String) : Engine P α := do
  let diagnostic := boundedDiagnostic message
  withLock (failSend generation diagnostic)
  throw (.sendFailed diagnostic)

def sendWorkflowPublicError (error : SendWorkflowError) : WalletClientError :=
  match error with
  | .journalConflict => .sendAlreadyInProgress
  | .previousSubmissionUnresolved => .previousSubmissionUnresolved
  | .accountUnavailable status => .sendAccountUnavailable status
  | .invalidTransition _ _ | .preparedTransferMismatch | .invalidJournal _ =>
    .sendFailed (boundedDiagnostic error.display)

/-- Fail a send with the public form of a reducer error. -/
def sendWorkflowError (generation : Nat) (error : SendWorkflowError) : Engine P α := do
  withLock (failSend generation (boundedDiagnostic error.display))
  throw (sendWorkflowPublicError error)

/-- Leave a send whose submission may have reached the provider. -/
def submissionUnknownError (generation : Nat) (message : String) : Engine P α := do
  let diagnostic := boundedDiagnostic message
  withLock (markSendUnknown generation diagnostic)
  throw (.submissionUnknown diagnostic)

def executeTrackedSendRequest (generation : Nat) (request : HttpRequest) :
    Engine P (Except DomainError P.serde.Body) := do
  withLock (startSendRequest generation request.id)
  let result ← execute request
  withLock (finishSendRequest generation request.id)
  return result

end Engine

/-- Whose slot the resolver runs under. -/
inductive ResolutionOwner where
  | send (generation : Nat)
  | standalone (generation : Nat)
  deriving DecidableEq

namespace Engine

def executeTrackedStandaloneResolutionRequest (generation : Nat) (request : HttpRequest) :
    Engine P (Except DomainError P.serde.Body) := do
  withLock (startResolutionRequest generation request.id)
  let result ← execute request
  withLock (finishResolutionRequest generation request.id)
  return result

def executeResolutionRequest (owner : ResolutionOwner) (request : HttpRequest) :
    Engine P (Except DomainError P.serde.Body) :=
  match owner with
  | .send generation => executeTrackedSendRequest generation request
  | .standalone generation => executeTrackedStandaloneResolutionRequest generation request

def ensureCurrentResolution (owner : ResolutionOwner) : Engine P Unit :=
  match owner with
  | .send generation => withLock (ensureCurrentSend generation)
  | .standalone generation => withLock (ensureCurrent .resolution generation)

def resolutionFailedError (owner : ResolutionOwner) (message : String) : Engine P α :=
  match owner with
  | .send generation => sendFailedError generation message
  | .standalone generation => do
      withLock (discardResolution generation)
      throw (.sendFailed (boundedDiagnostic message))

def resolutionWorkflowError (owner : ResolutionOwner) (error : SendWorkflowError) :
    Engine P α :=
  match owner with
  | .send generation => sendWorkflowError generation error
  | .standalone _ => resolutionFailedError owner error.display

end Engine

end WalletEngine
