import WalletEngine.Async.Region
import WalletEngine.Wallet.Send

/-! # The send workflow

The mutable part of the send reducer. A method that fails keeps the changes it
made before the failure, as the source does when it returns early. -/

namespace WalletEngine

variable (codec : JournalCodec)

/-- The next capability the coordinator must perform. -/
inductive SendDirective where
  | loadJournal (key : JournalKey)
  | fetchFreshAccount
  | readProtectedSecret (read : ProtectedSecretRead)
  | prepareTransfer (request : SendRequest) (account : FreshSendAccount)
  | persistJournal (mutation : JournalCompareExchange codec.Payload)
  | submit (signedBoc : Boc) (messageHash : Base64Hash)
  | handOff (internalBoc : Boc) (validUntil : Nat)
  | finished

structure SendWorkflow where
  recordId : NonEmptyString
  source : TonAddressString
  request : SendRequest
  kind : SignedMessageKind
  localSecretRef : Option ProtectedSecretRef
  stage : SendStage
  freshAccount : Option FreshSendAccount
  prepared : Option PreparedTransfer
  journalVersion : Option Nat
  providerReference : Option String
  diagnostic : Option String
  deriving DecidableEq

/-- A reducer method. -/
abbrev Reducer (α : Type) := Region SendWorkflow SendWorkflowError α

namespace SendWorkflow

def newWithKind (recordId : NonEmptyString) (source : TonAddressString) (request : SendRequest)
    (localSecretRef : Option ProtectedSecretRef) (kind : SignedMessageKind) : SendWorkflow where
  recordId := recordId
  source := source
  request := request
  kind := kind
  localSecretRef := localSecretRef
  stage := .validating
  freshAccount := none
  prepared := none
  journalVersion := none
  providerReference := none
  diagnostic := none

def new (recordId : NonEmptyString) (source : TonAddressString) (request : SendRequest)
    (localSecretRef : ProtectedSecretRef) : SendWorkflow :=
  newWithKind recordId source request (some localSecretRef) .external

def newInternal (recordId : NonEmptyString) (source : TonAddressString) (request : SendRequest)
    (localSecretRef : ProtectedSecretRef) : SendWorkflow :=
  newWithKind recordId source request (some localSecretRef) .internal

/-- The workflow of a message that the caller signed. -/
def newPreparedExternal (recordId : NonEmptyString) (source : TonAddressString)
    (operationId : NonEmptyString) (force : Bool) (validUntil : Nat) : SendWorkflow :=
  newWithKind recordId source
    { operationId, force, intent := { expiration := .exact validUntil, messages := [] } }
    none .external

def snapshot (self : SendWorkflow) : SendSnapshot where
  operationId := some self.request.operationId
  phase := self.stage.publicPhase
  errorMessage := self.diagnostic
  resolution := none

def journalKey (self : SendWorkflow) : JournalKey := ⟨self.recordId.value, sendSlot⟩

def nextStage (event : SendEvent) (eventName : String) : Reducer SendStage := do
  let self ← get
  match self.stage.transition event with
  | some stage => return stage
  | none => throw (.invalidTransition self.stage eventName)

def applyEvent (event : SendEvent) (eventName : String) : Reducer Unit := do
  let stage ← nextStage event eventName
  modify fun self => { self with stage }

def preparedRef (self : SendWorkflow) : Except SendWorkflowError PreparedTransfer :=
  match self.prepared with
  | some prepared => .ok prepared
  | none => .error (.invalidTransition self.stage "prepared_transfer_required")

/-- The stage a record is stored with. -/
def durableStage (self : SendWorkflow) : SendStage :=
  match self.stage, self.kind with
  | .persistingPrepared, .external => .readyToSubmit
  | .persistingPrepared, .internal => .handedOff
  | stage, _ => stage

def journalRecord (self : SendWorkflow) : Except SendWorkflowError DurableSendRecord := do
  let prepared ← self.preparedRef
  return {
    schemaVersion := journalSchemaVersion
    operationId := prepared.operationId
    recordId := prepared.recordId
    source := prepared.source
    kind := prepared.kind
    messages := prepared.messages
    seqno := prepared.seqno
    needsStateInit := prepared.needsStateInit
    validUntil := prepared.validUntil
    signedBoc := prepared.signedBoc
    messageHash := prepared.messageHash
    stage := self.durableStage
    providerReference := self.providerReference
    diagnostic := self.diagnostic
    confirmedTransactionHash := none
    confirmedTransactionLt := none }

/-- The compare-exchange that stores the workflow's record. -/
def persistMutation (self : SendWorkflow) :
    Except SendWorkflowError (JournalCompareExchange codec.Payload) := do
  let record ← self.journalRecord
  let version ← nextJournalVersion self.journalVersion
  let payload ← codec.encode record
  return {
    key := self.journalKey
    expectedVersion := self.journalVersion
    replacement := ⟨version, payload⟩ }

def persistDirective : Reducer (SendDirective codec) := do
  let self ← get
  let mutation ← self.persistMutation codec
  return .persistJournal mutation

def readSecretDirective (self : SendWorkflow) :
    Except SendWorkflowError (SendDirective codec) :=
  match self.localSecretRef with
  | some secretRef => .ok (.readProtectedSecret {
      secretRef
      reason := .signTransfer
      prompt := "Authenticate to sign this wallet transaction" })
  | none => .error (.invalidTransition self.stage "protected_secret_required")

/-- The prepared message covers exactly what the workflow asked for. -/
def preparedMatches (self : SendWorkflow) (account : FreshSendAccount)
    (prepared : PreparedTransfer) : Bool :=
  prepared.operationId == self.request.operationId && prepared.recordId == self.recordId &&
    prepared.source == self.source && prepared.kind == self.kind &&
    prepared.messages == self.request.intent.messages &&
    (match self.request.intent.expiration with
      | .exact unixTimestamp => prepared.validUntil == unixTimestamp
      | .engineDefault => true) &&
    prepared.seqno == account.seqno && prepared.needsStateInit == account.needsStateInit

def validatePrepared (self : SendWorkflow) (prepared : PreparedTransfer) :
    Except SendWorkflowError Unit :=
  match self.freshAccount with
  | none => .error .preparedTransferMismatch
  | some account =>
    if self.preparedMatches account prepared then .ok () else .error .preparedTransferMismatch

def begin : Reducer (SendDirective codec) := do
  applyEvent .begin "begin"
  let self ← get
  return .loadJournal self.journalKey

/-- Seed the compare-exchange version. Only an absent slot, a record whose stage
permits replacement, or an explicit override of a complete signed message can
seed it. -/
def journalLoaded (record : Option (JournalRecord codec.Payload)) :
    Reducer (SendDirective codec) := do
  let stage ← nextStage .journalLoaded "journal_loaded"
  let self ← get
  match record with
  | none => set { self with journalVersion := none, stage }
  | some record =>
    let durable ← decodeOwnedRecord codec record self.recordId self.source
    if durable.stage.permitsReplacement ||
        (self.request.force && durable.stage.permitsForcedReplacement) then
      set { self with journalVersion := some record.version, stage }
    else
      throw .previousSubmissionUnresolved
  return .fetchFreshAccount

def freshAccountLoaded (account : FreshSendAccount) : Reducer (SendDirective codec) := do
  let stage ← nextStage .freshAccountLoaded "fresh_account_loaded"
  if !account.permitsSend then
    throw (.accountUnavailable account.status)
  modify fun self => { self with freshAccount := some account, stage }
  let self ← get
  self.readSecretDirective codec

def preparedAccountLoaded (account : FreshSendAccount) : Reducer Unit := do
  let stage ← nextStage .preparedAccountLoaded "prepared_account_loaded"
  if !account.permitsSend then
    throw (.accountUnavailable account.status)
  modify fun self => { self with freshAccount := some account, stage }

def authorizationSucceeded : Reducer (SendDirective codec) := do
  let stage ← nextStage .authorizationSucceeded "authorization_succeeded"
  let self ← get
  match self.freshAccount with
  | none => throw (.invalidTransition self.stage "authorization_without_fresh_account")
  | some account =>
    set { self with stage }
    return .prepareTransfer self.request account

def transferPrepared (prepared : PreparedTransfer) : Reducer (SendDirective codec) := do
  let stage ← nextStage .transferPrepared "transfer_prepared"
  let self ← get
  self.validatePrepared prepared
  set { self with prepared := some prepared, stage }
  persistDirective codec

/-- The event of a journal write that the host reported as applied. -/
def persistedEvent (self : SendWorkflow) : SendEvent :=
  if self.stage = .persistingPrepared then
    match self.kind with
    | .external => .preparedJournalPersisted
    | .internal => .internalMessageJournalPersisted
  else .terminalJournalPersisted

def journalPersisted (result : JournalCompareExchangeResult codec.Payload) :
    Reducer (SendDirective codec) := do
  if !result.applied then
    applyEvent .journalConflict "journal_conflict"
    modify fun self => { self with
      diagnostic := some (boundedDiagnostic "Another send operation changed the journal") }
    throw .journalConflict
  let self ← get
  let stage ← nextStage self.persistedEvent "journal_persisted"
  let version ← nextJournalVersion self.journalVersion
  let self := { self with journalVersion := some version, stage }
  set self
  match stage with
  | .readyToSubmit =>
    let prepared ← self.preparedRef
    return .submit prepared.signedBoc prepared.messageHash
  | .handedOff =>
    let prepared ← self.preparedRef
    return .handOff prepared.signedBoc prepared.validUntil
  | .submissionUnknown | .submitted | .failed | .cancelled => return .finished
  | stage => throw (.invalidTransition stage "journal_persisted")

def submissionStarted : Reducer Unit :=
  applyEvent .submissionStarted "submission_started"

def submissionSucceeded (providerReference : Option String) : Reducer (SendDirective codec) := do
  applyEvent .submissionSucceeded "submission_succeeded"
  modify fun self => { self with providerReference, diagnostic := none }
  persistDirective codec

def submissionUnknown (diagnostic : String) : Reducer (SendDirective codec) := do
  applyEvent .submissionUnknown "submission_unknown"
  modify fun self => { self with diagnostic := some (boundedDiagnostic diagnostic) }
  persistDirective codec

def submissionRejected (diagnostic : String) : Reducer (SendDirective codec) := do
  applyEvent .submissionRejected "submission_rejected"
  modify fun self => { self with diagnostic := some (boundedDiagnostic diagnostic) }
  persistDirective codec

def cancel : Reducer (SendDirective codec) := do
  let self ← get
  let cancelledStage ← nextStage .cancel "cancel"
  if cancelledStage = self.stage then
    return .finished
  set { self with stage := cancelledStage }
  if self.prepared.isSome then persistDirective codec else return .finished

end SendWorkflow

end WalletEngine
