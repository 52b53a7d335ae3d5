import WalletEngine.Engine.Resolution

/-! # Sending, signing and submitting

The orchestration of `send`, `sign_message` and `send_boc`. The three share their
first phases: they reserve the send slot, read the durable record, settle a
pending one and seed the workflow from what they found. -/

namespace WalletEngine

variable {P : Platform}

inductive SendExpirationError where
  | notAfterProviderTime
  | overflow
  deriving DecidableEq

def SendExpirationError.display : SendExpirationError → String
  | .notAfterProviderTime => "transfer expiration timestamp is not after fresh provider time"
  | .overflow => "transfer expiration timestamp overflow"

def resolveSendExpiration (expiration : SendExpiration) (providerTime defaultValidity : Nat) :
    Except SendExpirationError Nat :=
  match expiration with
  | .engineDefault =>
    if providerTime + defaultValidity < u64Bound then .ok (providerTime + defaultValidity)
    else .error .overflow
  | .exact unixTimestamp =>
    if providerTime < unixTimestamp then .ok unixTimestamp else .error .notAfterProviderTime

/-- What a send reserves under the lock. -/
structure SendTicket where
  generation : Nat
  config : WalletClientConfig
  accountRequest : HttpRequest
  seqnoRequest : HttpRequest
  resolutionIds : ResolutionIds
  journalKey : JournalKey
  workflow : SendWorkflow

/-- Reserve one send generation and every request identifier. The workflow is
built from the configuration; `submission` allocates what the submission needs. -/
def reserveSend {σ : Type}
    (makeWorkflow : WalletClientConfig → Except WalletClientError SendWorkflow)
    (submission : Locked σ) : Locked (SendTicket × σ) := do
  ensureRunning
  let state ← get
  let config := state.config
  let workflow ← makeWorkflow config
  if state.activeSend.isSome || state.activeResolution.isSome then
    throw .sendAlreadyInProgress
  if u64Bound ≤ state.sendGeneration + 1 then
    throw .identifierExhausted
  let generation := state.sendGeneration + 1
  set { state with sendGeneration := generation }
  let accountRequest ← allocateRequest config (.getAddressInformation config.address)
  let seqnoRequest ← allocateRequest config (.runGetMethod config.address "seqno")
  let resolutionIds ← allocateResolutionIds
  let reserved ← submission
  match workflow.stage.transition .begin with
  | none => throw .invalidSendRequest
  | some stage =>
    let workflow := { workflow with stage }
    modify fun state => { state with
      activeSend := some (generation, [])
      sendCommitStarted := false
      snapshot.send := workflow.snapshot
      sendWorkflow := some workflow }
    nextRevision
    let ticket := { generation, config, accountRequest, seqnoRequest, resolutionIds
                    journalKey := workflow.journalKey, workflow }
    return (ticket, reserved)

/-- Store the final workflow of a send and release its slot. -/
def finishSend (generation : Nat) (workflow : SendWorkflow) : Locked Unit := do
  let state ← get
  if state.isCurrent .send generation then
    set { state with
      snapshot.send := workflow.snapshot
      sendWorkflow := some workflow
      activeSend := none
      sendCommitStarted := false }
    nextRevision

namespace Engine

/-- Run a reducer method; `fail` decides what its error becomes. -/
def reduce {α : Type} (workflow : SendWorkflow) (method : Reducer α)
    (fail : SendWorkflowError → Engine P (α × SendWorkflow)) : Engine P (α × SendWorkflow) :=
  match method workflow with
  | (.ok value, next) => pure (value, next)
  | (.error error, _) => fail error

/-- Read the durable record and, if it blocks replacement, its pending form. -/
def loadSendJournal (ticket : SendTicket) :
    Engine P (Option (JournalRecord P.codec.Payload) × Option (PendingSendRecord P.codec)) := do
  match ← loadJournal ticket.journalKey with
  | .error error => sendFailedError ticket.generation error.display
  | .ok none =>
    withLock (ensureCurrentSend ticket.generation)
    return (none, none)
  | .ok (some record) =>
    withLock (ensureCurrentSend ticket.generation)
    match pendingSendRecord P.codec record ticket.config.recordId ticket.config.address with
    | .error error => sendWorkflowError ticket.generation error
    | .ok pending => return (some record, pending)

/-- Execute a tracked request of a send and parse its answer. -/
def fetch {α : Type} (generation : Nat) (request : HttpRequest)
    (parse : P.serde.Body → Except DomainError α) : Engine P α := do
  match (← executeTrackedSendRequest generation request).bind parse with
  | .ok value => return value
  | .error error => sendFailedError generation error.developerMessage

/-- Resolve an earlier pending send before anything new is signed. Only durable
terminal evidence lets the new send go on. -/
def settlePending (ticket : SendTicket) (pending : PendingSendRecord P.codec)
    (providerTime : Nat) : Engine P (JournalRecord P.codec.Payload) := do
  match ResolutionRequests.new ticket.config pending.messageHash ticket.resolutionIds with
  | .error error => sendFailedError ticket.generation error.display
  | .ok requests =>
    let resolved ← resolvePendingWithOwner (.send ticket.generation) ticket.config pending
      providerTime requests
    let snapshot := pending.snapshot resolved.resolution
    withLock (publishPriorSendResolution ticket.generation snapshot)
    match resolved.resolution with
    | .stillPending _ =>
      let error ← withLock (blockSendForPending ticket.generation snapshot)
      throw error
    | _ => return resolved.journal

/-- The record a send builds on: the stored one, or what its resolution left. An
override leaves a complete signed message as it is. -/
def priorRecord (ticket : SendTicket) (force : Bool)
    (record : Option (JournalRecord P.codec.Payload))
    (pending : Option (PendingSendRecord P.codec)) (providerTime : Nat) :
    Engine P (Option (JournalRecord P.codec.Payload)) :=
  match pending with
  | none => pure record
  | some pending =>
    if force && pending.canForceRetry then pure record
    else some <$> settlePending ticket pending providerTime

/-- The phases shared by the three operations: returns the fresh account and the
workflow seeded from the journal. -/
def openSend (ticket : SendTicket) (force : Bool) :
    Engine P (AccountSnapshot × SendWorkflow) := do
  let (record, pending) ← loadSendJournal ticket
  let account ← fetch ticket.generation ticket.accountRequest (parseAccount P.serde)
  let base ← priorRecord ticket force record pending account.syncUtime
  let (directive, workflow) ← reduce ticket.workflow (SendWorkflow.journalLoaded P.codec base)
    (sendWorkflowError ticket.generation)
  match directive with
  | .fetchFreshAccount =>
    withLock (publishSendWorkflow ticket.generation workflow)
    return (account, workflow)
  | _ => sendFailedError ticket.generation "invalid send journal transition"

/-- An active wallet needs a fresh sequence number; any other starts at zero. -/
def freshSeqno (ticket : SendTicket) (account : AccountSnapshot) : Engine P Nat :=
  if account.status = .active then
    fetch ticket.generation ticket.seqnoRequest (parseSeqno P.serde)
  else pure 0

/-- Read the secret and check that it belongs to the configured wallet. -/
def authorize (ticket : SendTicket) (workflow : SendWorkflow) (fresh : FreshSendAccount)
    (invalidTransition : String) : Engine P (P.crypto.Secret × SendWorkflow) := do
  let (directive, workflow) ← reduce workflow (SendWorkflow.freshAccountLoaded P.codec fresh)
    (sendWorkflowError ticket.generation)
  match directive with
  | .readProtectedSecret read =>
    withLock (publishSendWorkflow ticket.generation workflow)
    match ← readProtectedSecret read with
    | .error error => sendFailedError ticket.generation error.display
    | .ok secret =>
      withLock (ensureCurrentSend ticket.generation)
      match deriveSource P.crypto secret ticket.config.network with
      | .error _ =>
        withLock (failSend ticket.generation "protected mnemonic is invalid")
        throw .invalidProtectedSecret
      | .ok source =>
        if source ≠ ticket.config.address then
          sendFailedError ticket.generation
            "protected mnemonic does not belong to this wallet"
        else
          let (directive, workflow) ← reduce workflow
            (SendWorkflow.authorizationSucceeded P.codec)
            fun error => sendFailedError ticket.generation error.display
          match directive with
          | .prepareTransfer _ _ =>
            withLock (publishSendWorkflow ticket.generation workflow)
            return (secret, workflow)
          | _ => sendFailedError ticket.generation invalidTransition
  | _ => sendFailedError ticket.generation "invalid secret-read transition"

/-- Make the prepared message durable. The commit boundary is crossed right
before the compare-exchange. -/
def commitPrepared (generation : Nat) (workflow : SendWorkflow) (prepared : PreparedTransfer)
    (invalidTransition : String) : Engine P (SendDirective P.codec × SendWorkflow) := do
  let (directive, workflow) ← reduce workflow (SendWorkflow.transferPrepared P.codec prepared)
    fun error => sendFailedError generation error.display
  match directive with
  | .persistJournal mutation =>
    withLock (publishSendWorkflow generation workflow)
    withLock (beginSendCommit generation)
    match ← compareExchangeJournal mutation with
    | .error error => submissionUnknownError generation error.display
    | .ok journal =>
      withLock (ensureCurrentSend generation)
      reduce workflow (SendWorkflow.journalPersisted P.codec journal) fun error =>
        if journal.applied then submissionUnknownError generation error.display
        else sendWorkflowError generation error
  | _ => sendFailedError generation invalidTransition

/-- The reducer method of a submission outcome. -/
def submissionOutcome (outcome : Except DomainError SendBocResponse) :
    Reducer (SendDirective P.codec) :=
  match outcome with
  | .ok .accepted => SendWorkflow.submissionSucceeded P.codec none
  | .ok (.rejected message) => SendWorkflow.submissionRejected P.codec message
  | .error error =>
    if isExplicitSendRejection error then
      SendWorkflow.submissionRejected P.codec error.developerMessage
    else SendWorkflow.submissionUnknown P.codec error.developerMessage

/-- Submit the durable message and record the outcome. -/
def submitDurable (generation : Nat) (submitRequest : HttpRequest) (workflow : SendWorkflow) :
    Engine P SendWorkflow := do
  let (_, workflow) ← reduce workflow SendWorkflow.submissionStarted
    fun error => submissionUnknownError generation error.display
  withLock (publishSendWorkflow generation workflow)
  let submitResult ← executeTrackedSendRequest generation submitRequest
  let (directive, workflow) ← reduce workflow
    (submissionOutcome (submitResult.bind (parseSendResponse P.serde)))
    fun error => submissionUnknownError generation error.display
  match directive with
  | .persistJournal mutation =>
    withLock (publishSendWorkflow generation workflow)
    withLock (ensureCurrentSend generation)
    match ← compareExchangeJournal mutation with
    | .error error => submissionUnknownError generation error.display
    | .ok journal =>
      withLock (ensureCurrentSend generation)
      let (_, workflow) ← reduce workflow (SendWorkflow.journalPersisted P.codec journal)
        fun error => submissionUnknownError generation error.display
      return workflow
  | _ => submissionUnknownError generation "invalid terminal persistence transition"

def submitPreparedSend (generation : Nat) (config : WalletClientConfig)
    (submitRequestId : HttpRequestId) (workflow : SendWorkflow) (prepared : PreparedTransfer) :
    Engine P SendResult := do
  match buildRequest config submitRequestId (.sendBoc prepared.signedBoc) with
  | .error _ => sendFailedError generation "failed to construct submission"
  | .ok submitRequest =>
    let (directive, workflow) ← commitPrepared generation workflow prepared
      "invalid send persistence transition"
    match directive with
    | .submit _ messageHash =>
      let workflow ← submitDurable generation submitRequest workflow
      withLock (finishSend generation workflow)
      return {
        operationId := prepared.operationId
        messageHash
        signedBoc := prepared.signedBoc
        phase := workflow.snapshot.phase }
    | _ => submissionUnknownError generation "invalid send submission transition"

def localWorkflow (make : NonEmptyString → TonAddressString → SendRequest → ProtectedSecretRef →
    SendWorkflow) (request : SendRequest) (config : WalletClientConfig) :
    Except WalletClientError SendWorkflow :=
  match config.localSecretRef with
  | none => .error .localSigningUnavailable
  | some secretRef => .ok (make config.recordId config.address request secretRef)

/-- Reject a request that cannot be a transfer, releasing the slot. -/
def rejectSend {α : Type} (generation : Nat) (error : WalletClientError) : Engine P α := do
  withLock (failSend generation error.display)
  throw error

def send (request : SendRequest) : Engine P SendResult := do
  let (ticket, submitRequestId) ← withLock
    (reserveSend (localWorkflow SendWorkflow.new request) allocateRequestId)
  let (account, workflow) ← openSend ticket request.force
  match request.intent.exactValueTotal with
  | .error _ => rejectSend ticket.generation .invalidSendRequest
  | .ok requested =>
    if requested.any (account.balanceNanograms < ·) then
      rejectSend ticket.generation
        (.insufficientBalance account.balanceNanograms (requested.getD 0))
    else
      let seqno ← freshSeqno ticket account
      let fresh := { status := account.status, seqno }
      match resolveSendExpiration request.intent.expiration account.syncUtime
          ticket.config.sendValiditySeconds with
      | .error error => sendFailedError ticket.generation error.display
      | .ok validUntil =>
        let (secret, workflow) ← authorize ticket workflow fresh
          "invalid send authorization transition"
        match prepareTransfer P.crypto secret ticket.config.recordId ticket.config.address
            ticket.config.network request fresh validUntil with
        | .error error =>
          sendFailedError ticket.generation ("failed to prepare transfer: " ++ error)
        | .ok prepared =>
          submitPreparedSend ticket.generation ticket.config submitRequestId workflow
            prepared

def signMessage (request : SignMessageRequest) : Engine P SignMessageResult := do
  let sendRequest : SendRequest :=
    { operationId := request.operationId, force := request.force, intent := request.intent }
  let (ticket, _) ← withLock
    (reserveSend (localWorkflow SendWorkflow.newInternal sendRequest) (pure ()))
  let (account, workflow) ← openSend ticket request.force
  match request.intent.exactValueTotal with
  | .error _ => rejectSend ticket.generation .invalidSendRequest
  | .ok _ =>
    let seqno ← freshSeqno ticket account
    let fresh := { status := account.status, seqno }
    match resolveSendExpiration request.intent.expiration account.syncUtime
        ticket.config.sendValiditySeconds with
    | .error error => sendFailedError ticket.generation error.display
    | .ok validUntil =>
      let (secret, workflow) ← authorize ticket workflow fresh
        "invalid authorization transition"
      match prepareInternalSignedTransfer P.crypto secret ticket.config.recordId
          ticket.config.address ticket.config.network sendRequest fresh validUntil with
      | .error error =>
        sendFailedError ticket.generation
          ("failed to prepare internal signed message: " ++ error)
      | .ok prepared =>
        let (directive, workflow) ← commitPrepared ticket.generation workflow prepared
          "invalid persistence transition"
        match directive with
        | .handOff internalBoc validUntil =>
          withLock (finishSend ticket.generation workflow)
          return {
            operationId := request.operationId
            internalBoc
            validUntil
            phase := workflow.snapshot.phase }
        | _ =>
          submissionUnknownError ticket.generation
            "invalid internal-message handoff transition"

def sendBoc (request : SendBocRequest) : Engine P SendResult := do
  let (ticket, submitRequestId) ← withLock
    (reserveSend (fun config => .ok (SendWorkflow.newPreparedExternal config.recordId
      config.address request.operationId request.force request.validUntil)) allocateRequestId)
  let (account, workflow) ← openSend ticket request.force
  let seqno ← freshSeqno ticket account
  if seqno ≠ request.seqno then
    sendFailedError ticket.generation ("prepared BOC seqno " ++ toString request.seqno ++
      " does not match current wallet seqno " ++ toString seqno)
  else
    match resolveSendExpiration (.exact request.validUntil) account.syncUtime
        ticket.config.sendValiditySeconds with
    | .error error => sendFailedError ticket.generation error.display
    | .ok _ =>
      let (_, workflow) ← reduce workflow
        (SendWorkflow.preparedAccountLoaded { status := account.status, seqno })
        (sendWorkflowError ticket.generation)
      withLock (publishSendWorkflow ticket.generation workflow)
      match prepareSignedBoc P.crypto ticket.config.recordId ticket.config.address request with
      | .error error =>
        sendFailedError ticket.generation ("invalid prepared BOC: " ++ error)
      | .ok prepared =>
        submitPreparedSend ticket.generation ticket.config submitRequestId workflow prepared

end Engine

end WalletEngine
