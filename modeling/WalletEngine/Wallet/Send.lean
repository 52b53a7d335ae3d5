import WalletEngine.Domain.Send

/-! # The send reducer

The reducer of durable signed-message submission. It tells its coordinator what
to do next and never calls the host itself; its journal record is what prevents
a second signature after an ambiguous submission. -/

namespace WalletEngine

def journalSchemaVersion : Nat := 5
def firstJournalVersion : Nat := 1
def sendSlot : String := "outgoing-transfer"

/-- Chain state used to build a wallet transfer. -/
structure FreshSendAccount where
  status : AccountStatus
  seqno : Nat
  deriving DecidableEq

namespace FreshSendAccount

def permitsSend (account : FreshSendAccount) : Bool :=
  account.status == .active || (account.seqno == 0 &&
    (account.status == .nonexistent || account.status == .uninitialized))

def needsStateInit (account : FreshSendAccount) : Bool :=
  account.status != .active

end FreshSendAccount

/-- The authenticated entry point of the wallet contract. -/
inductive SignedMessageKind where
  | external
  | internal
  deriving DecidableEq

/-- A signed message and everything its signature covers. -/
structure PreparedTransfer where
  operationId : NonEmptyString
  recordId : NonEmptyString
  source : TonAddressString
  kind : SignedMessageKind
  messages : List SendMessage
  seqno : Nat
  needsStateInit : Bool
  validUntil : Nat
  signedBoc : Boc
  messageHash : Base64Hash
  deriving DecidableEq

inductive SendStage where
  | validating | loadingJournal | fetchingFreshAccount | authorizing | preparing
  | persistingPrepared | readyToSubmit | submitting | submissionUnknown | submitted | handedOff
  | confirmed | replaced | sequenceNumberConsumed | expired | superseded | failed | cancelled
  deriving DecidableEq

inductive SendEvent where
  | begin | journalLoaded | freshAccountLoaded | preparedAccountLoaded | authorizationSucceeded
  | transferPrepared | preparedJournalPersisted | internalMessageJournalPersisted
  | submissionStarted | submissionSucceeded | submissionUnknown | submissionRejected
  | terminalJournalPersisted | journalConflict | cancel
  deriving DecidableEq

namespace SendStage

def isTerminal : SendStage → Bool
  | .submissionUnknown | .submitted | .handedOff | .confirmed | .replaced
  | .sequenceNumberConsumed | .expired | .superseded | .failed | .cancelled => true
  | _ => false

def permitsReplacement : SendStage → Bool
  | .confirmed | .replaced | .sequenceNumberConsumed | .expired | .superseded | .failed
  | .cancelled => true
  | _ => false

def permitsForcedReplacement : SendStage → Bool
  | .readyToSubmit | .submitting | .submissionUnknown | .submitted | .handedOff => true
  | _ => false

def afterCancellation (stage : SendStage) : SendStage :=
  if stage.isTerminal then stage else .cancelled

/-- The stage table. `none` means that the event is out of order. -/
def transition : SendStage → SendEvent → Option SendStage
  | .validating, .begin => some .loadingJournal
  | .loadingJournal, .journalLoaded => some .fetchingFreshAccount
  | .fetchingFreshAccount, .freshAccountLoaded => some .authorizing
  | .fetchingFreshAccount, .preparedAccountLoaded => some .preparing
  | .authorizing, .authorizationSucceeded => some .preparing
  | .preparing, .transferPrepared => some .persistingPrepared
  | .persistingPrepared, .preparedJournalPersisted => some .readyToSubmit
  | .persistingPrepared, .internalMessageJournalPersisted => some .handedOff
  | .readyToSubmit, .submissionStarted => some .submitting
  | .submitting, .submissionSucceeded => some .submitted
  | .submitting, .submissionUnknown => some .submissionUnknown
  | .submitting, .submissionRejected => some .failed
  | .submissionUnknown, .terminalJournalPersisted => some .submissionUnknown
  | .submitted, .terminalJournalPersisted => some .submitted
  | .handedOff, .terminalJournalPersisted => some .handedOff
  | .failed, .terminalJournalPersisted => some .failed
  | .cancelled, .terminalJournalPersisted => some .cancelled
  | stage, .journalConflict => if stage.isTerminal then none else some .failed
  | stage, .cancel => some stage.afterCancellation
  | _, _ => none

def publicPhase : SendStage → SendPhase
  | .validating | .loadingJournal | .fetchingFreshAccount => .validating
  | .authorizing => .authorizing
  | .preparing => .preparing
  | .persistingPrepared => .persisting
  | .readyToSubmit => .readyToSubmit
  | .submitting => .submitting
  | .submissionUnknown => .submissionUnknown
  | .submitted => .submitted
  | .handedOff => .handedOff
  | .confirmed => .confirmed
  | .replaced => .replaced
  | .sequenceNumberConsumed => .sequenceNumberConsumed
  | .expired => .expired
  | .superseded => .superseded
  | .failed => .failed
  | .cancelled => .cancelled

def debug : SendStage → String
  | .validating => "Validating"
  | .loadingJournal => "LoadingJournal"
  | .fetchingFreshAccount => "FetchingFreshAccount"
  | .authorizing => "Authorizing"
  | .preparing => "Preparing"
  | .persistingPrepared => "PersistingPrepared"
  | .readyToSubmit => "ReadyToSubmit"
  | .submitting => "Submitting"
  | .submissionUnknown => "SubmissionUnknown"
  | .submitted => "Submitted"
  | .handedOff => "HandedOff"
  | .confirmed => "Confirmed"
  | .replaced => "Replaced"
  | .sequenceNumberConsumed => "SequenceNumberConsumed"
  | .expired => "Expired"
  | .superseded => "Superseded"
  | .failed => "Failed"
  | .cancelled => "Cancelled"

end SendStage

inductive SendWorkflowError where
  | invalidTransition (stage : SendStage) (event : String)
  | preparedTransferMismatch
  | journalConflict
  | previousSubmissionUnresolved
  | accountUnavailable (status : AccountStatus)
  | invalidJournal (reason : String)
  deriving DecidableEq

def SendWorkflowError.display : SendWorkflowError → String
  | .invalidTransition stage event =>
    "invalid send transition from " ++ stage.debug ++ ": " ++ event
  | .preparedTransferMismatch => "prepared transfer does not match the active send request"
  | .journalConflict => "send journal was changed by another operation"
  | .previousSubmissionUnresolved => "the previous submission outcome is unresolved"
  | .accountUnavailable status =>
    "wallet account state " ++ status.debug ++ " does not permit sending"
  | .invalidJournal reason => "send journal record is invalid: " ++ reason

/-- The durable form of a signed message. -/
structure DurableSendRecord where
  schemaVersion : Nat
  operationId : NonEmptyString
  recordId : NonEmptyString
  source : TonAddressString
  kind : SignedMessageKind
  messages : List SendMessage
  seqno : Nat
  needsStateInit : Bool
  validUntil : Nat
  signedBoc : Boc
  messageHash : Base64Hash
  stage : SendStage
  providerReference : Option String
  diagnostic : Option String
  confirmedTransactionHash : Option Base64Hash
  confirmedTransactionLt : Option UnsignedDecimalString
  deriving DecidableEq

/-- The JSON encoder and decoder of durable records, with what is known of them:
decoding reads back what was encoded. -/
structure JournalCodec where
  Payload : Type
  toVec : DurableSendRecord → Except String Payload
  fromSlice : Payload → Except String DurableSendRecord
  roundTrip : ∀ {record payload}, toVec record = .ok payload → fromSlice payload = .ok record

inductive SendResolution where
  | confirmed (transactionHash : Base64Hash) (transactionLt : UnsignedDecimalString)
  | replaced
  | sequenceNumberConsumed
  | expired
  | stillPending (reason : PendingReason)
  deriving DecidableEq

def nextJournalVersion : Option Nat → Except SendWorkflowError Nat
  | some version =>
    if version + 1 < u64Bound then .ok (version + 1)
    else .error (.invalidJournal "version exhausted")
  | none => .ok firstJournalVersion

variable (codec : JournalCodec)

def JournalCodec.encode (durable : DurableSendRecord) : Except SendWorkflowError codec.Payload :=
  (codec.toVec durable).mapError .invalidJournal

def decodeDurableRecord (record : JournalRecord codec.Payload) :
    Except SendWorkflowError DurableSendRecord := do
  if record.version = 0 then
    throw (.invalidJournal "version must be positive")
  let durable ← (codec.fromSlice record.payload).mapError .invalidJournal
  if durable.schemaVersion ≠ journalSchemaVersion then
    throw (.invalidJournal "unsupported schema version")
  if durable.stage = .confirmed ∧ (durable.confirmedTransactionHash.isNone ∨
      ¬ durable.confirmedTransactionLt.any (· < u64Bound)) then
    throw (.invalidJournal "confirmed record evidence is invalid")
  return durable

/-- Decode a record and check that it belongs to the given wallet. -/
def decodeOwnedRecord (record : JournalRecord codec.Payload) (recordId : NonEmptyString)
    (source : TonAddressString) : Except SendWorkflowError DurableSendRecord := do
  let durable ← decodeDurableRecord codec record
  if durable.recordId ≠ recordId ∨ durable.source ≠ source then
    throw (.invalidJournal "record belongs to another wallet")
  return durable

section Pending

/-- A durable signed send that still needs chain evidence. The fields other than
`journal` are those of `durable`, which the source copies out. -/
structure PendingSendRecord where
  durable : DurableSendRecord
  journal : JournalRecord codec.Payload

variable {codec}

namespace PendingSendRecord

variable (pending : PendingSendRecord codec)

def journalVersion : Nat := pending.journal.version
def operationId : NonEmptyString := pending.durable.operationId
def recordId : NonEmptyString := pending.durable.recordId
def source : TonAddressString := pending.durable.source
def kind : SignedMessageKind := pending.durable.kind
def seqno : Nat := pending.durable.seqno
def validUntil : Nat := pending.durable.validUntil
def messageHash : Base64Hash := pending.durable.messageHash
def stage : SendStage := pending.durable.stage

def currentJournal : JournalRecord codec.Payload := pending.journal

def canForceRetry : Bool := pending.stage.permitsForcedReplacement

def snapshot (resolution : SendResolution) : SendSnapshot :=
  let (phase, transactionHash, transactionLt, pendingReason) :=
    match resolution with
    | .confirmed hash lt => (SendPhase.confirmed, some hash, some lt, none)
    | .replaced => (.replaced, none, none, none)
    | .sequenceNumberConsumed => (.sequenceNumberConsumed, none, none, none)
    | .expired => (.expired, none, none, none)
    | .stillPending reason => (pending.stage.publicPhase, none, none, some reason)
  { operationId := some pending.operationId
    phase
    errorMessage := pending.durable.diagnostic
    resolution := some {
      transactionHash
      transactionLt
      pendingReason
      canForceRetry := pendingReason.isSome && pending.stage.permitsForcedReplacement
      retryAfterHintMs := pendingReason.map fun _ => 4000 } }

/-- The durable record with the evidence of a resolution; none for `stillPending`,
which must not rewrite the record. -/
def resolved : SendResolution → Option DurableSendRecord
  | .confirmed hash lt => some { pending.durable with
      stage := .confirmed, diagnostic := none
      confirmedTransactionHash := some hash, confirmedTransactionLt := some lt }
  | .replaced => some { pending.durable with
      stage := .replaced, diagnostic := none
      confirmedTransactionHash := none, confirmedTransactionLt := none }
  | .sequenceNumberConsumed => some { pending.durable with
      stage := .sequenceNumberConsumed, diagnostic := none
      confirmedTransactionHash := none, confirmedTransactionLt := none }
  | .expired => some { pending.durable with
      stage := .expired, diagnostic := none
      confirmedTransactionHash := none, confirmedTransactionLt := none }
  | .stillPending _ => none

def terminalMutation (resolution : SendResolution) :
    Except SendWorkflowError (Option (JournalCompareExchange codec.Payload)) :=
  match pending.resolved resolution with
  | none => .ok none
  | some durable => do
      let version ← nextJournalVersion (some pending.journalVersion)
      let payload ← codec.encode durable
      return some {
        key := ⟨pending.recordId.value, sendSlot⟩
        expectedVersion := some pending.journalVersion
        replacement := ⟨version, payload⟩ }

end PendingSendRecord

end Pending

/-- The record, when its stage still blocks replacement signing. -/
def pendingSendRecord (record : JournalRecord codec.Payload) (recordId : NonEmptyString)
    (source : TonAddressString) : Except SendWorkflowError (Option (PendingSendRecord codec)) := do
  let durable ← decodeOwnedRecord codec record recordId source
  if durable.stage.permitsReplacement then
    return none
  return some ⟨durable, record⟩

/-- The resolver terminal of a competing writer's record. -/
def terminalSendResolution (record : JournalRecord codec.Payload) (recordId : NonEmptyString)
    (source : TonAddressString) : Except SendWorkflowError (Option SendResolution) := do
  let durable ← decodeOwnedRecord codec record recordId source
  match durable.stage with
  | .confirmed =>
    match durable.confirmedTransactionHash, durable.confirmedTransactionLt with
    | none, _ => throw (.invalidJournal "confirmed record has no transaction hash")
    | some _, none => throw (.invalidJournal "confirmed record has no transaction logical time")
    | some hash, some lt => return some (.confirmed hash lt)
  | .replaced => return some .replaced
  | .sequenceNumberConsumed => return some .sequenceNumberConsumed
  | .expired => return some .expired
  | _ => return none

def DurableSendRecord.resolutionInfo (durable : DurableSendRecord) : Option ResolutionInfo :=
  match durable.stage with
  | .confirmed =>
    some ⟨durable.confirmedTransactionHash, durable.confirmedTransactionLt, none, false, none⟩
  | .replaced | .sequenceNumberConsumed | .expired | .superseded =>
    some ⟨none, none, none, false, none⟩
  | .validating | .loadingJournal | .fetchingFreshAccount | .authorizing | .preparing
  | .persistingPrepared => some ⟨none, none, some .awaitingWindow, false, some 4000⟩
  | .readyToSubmit | .submitting | .submissionUnknown | .submitted | .handedOff =>
    some ⟨none, none, some .awaitingWindow, true, some 4000⟩
  | .failed | .cancelled => none

def sendSnapshotFromJournal (record : JournalRecord codec.Payload) (recordId : NonEmptyString)
    (source : TonAddressString) : Except SendWorkflowError SendSnapshot := do
  let durable ← decodeOwnedRecord codec record recordId source
  return {
    operationId := some durable.operationId
    phase := durable.stage.publicPhase
    errorMessage := durable.diagnostic
    resolution := durable.resolutionInfo }

end WalletEngine
