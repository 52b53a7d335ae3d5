import WalletEngine.Data.Keyed
import WalletEngine.Engine.Responses
import WalletEngine.Wallet.Keys
import WalletEngine.Wallet.SendWorkflow

/-! # Client state and host interface

The state behind the client's lock, and the callbacks its operations await. -/

namespace WalletEngine

inductive ActivityDirection where
  | sent | received
  deriving DecidableEq

inductive ActivityStatus where
  | success | failed | bounced
  deriving DecidableEq

/-- An activity row inside the engine. -/
structure ActivityRecord where
  id : String
  transactionHash : Base64Hash
  logicalTime : Nat
  timestamp : Nat
  direction : ActivityDirection
  amountNanograms : Nat
  transactionFeeNanograms : Nat
  status : ActivityStatus
  comment : Option String
  encryptedComment : Option Boc
  counterparty : Option TonAddressString
  deriving DecidableEq

/-- An activity row as it is shown. -/
structure ActivityItem where
  id : String
  transactionHash : Base64Hash
  logicalTime : UnsignedDecimalString
  timestamp : Nat
  direction : ActivityDirection
  amountNanograms : UnsignedDecimalString
  transactionFeeNanograms : UnsignedDecimalString
  status : ActivityStatus
  comment : Option String
  encryptedComment : Option Boc
  counterparty : Option TonAddressString
  deriving DecidableEq

def ActivityRecord.snapshot (record : ActivityRecord) : ActivityItem where
  id := record.id
  transactionHash := record.transactionHash
  logicalTime := record.logicalTime
  timestamp := record.timestamp
  direction := record.direction
  amountNanograms := record.amountNanograms
  transactionFeeNanograms := record.transactionFeeNanograms
  status := record.status
  comment := record.comment
  encryptedComment := record.encryptedComment
  counterparty := record.counterparty

structure ActivityPage where
  items : List ActivityRecord
  cursor : Option (Nat × Base64Hash)
  hasMore : Bool
  deriving DecidableEq

/-- An NFT page; an item is known by its address. -/
structure NftPage where
  items : List TonAddressString
  rawCount : Nat
  hasMore : Bool
  deriving DecidableEq

/-- The parsers of the read-only views, which are given functions here. -/
structure ViewParsers (Body : Type) where
  parseActivity : Body → Except DomainError ActivityPage
  parseNftPage : Body → Network → Except DomainError NftPage
  parseSingleNftItem : Body → TonAddressString → Network → Except DomainError NftItem
  parseEmulation : Body → TonAddressString → Except DomainError EvaluatedEmulation
  parseDnsWalletAddress : Body → Network → Except DomainError (Option TonAddressString)
  parsePublicKey : Body → Except DomainError PublicKeyAnswer
  parseKeyChangePage : Body → TonAddressString → Except DomainError KeyChangePage

/-- Everything the engine takes from elsewhere. -/
structure Platform where
  serde : Serde
  codec : JournalCodec
  crypto : WalletCrypto
  keys : KeyServices crypto
  hashFrom : HashReader
  views : ViewParsers serde.Body

inductive OperationFamily where
  | refresh | pagination | nftRefresh | nftPagination | preview | send | resolution
  deriving DecidableEq

/-- The observable state. -/
structure WalletSnapshot where
  revision : Nat
  account : Option AccountSnapshot
  accountResource : ResourceState
  activityItems : List ActivityItem
  activityCursor : Option (UnsignedDecimalString × Base64Hash)
  activityHasMore : Bool
  activityResource : ResourceState
  activityPaginationResource : ResourceState
  nfts : List TonAddressString
  nftsHasMore : Bool
  nftsResource : ResourceState
  nftsPaginationResource : ResourceState
  send : SendSnapshot
  deriving DecidableEq

def WalletSnapshot.empty : WalletSnapshot where
  revision := 0
  account := none
  accountResource := .idle
  activityItems := []
  activityCursor := none
  activityHasMore := false
  activityResource := .idle
  activityPaginationResource := .idle
  nfts := []
  nftsHasMore := false
  nftsResource := .idle
  nftsPaginationResource := .idle
  send := .empty

/-- An active operation: its generation and the requests it is waiting for. -/
abbrev Slot := Option (Nat × List HttpRequestId)

structure State where
  config : WalletClientConfig
  snapshot : WalletSnapshot
  activity : List ActivityRecord
  activityCursor : Option (Nat × Base64Hash)
  activityHasMore : Bool
  nftOffset : Nat
  nftsHasMore : Bool
  keyChanges : Option (List KeyChange)
  nextId : Nat
  refreshGeneration : Nat
  paginationGeneration : Nat
  nftRefreshGeneration : Nat
  nftPaginationGeneration : Nat
  previewGeneration : Nat
  sendGeneration : Nat
  resolutionGeneration : Nat
  activeRefresh : Slot
  activePagination : Slot
  activeNftRefresh : Slot
  activeNftPagination : Slot
  activePreview : Slot
  activeSend : Slot
  activeResolution : Slot
  sendCommitStarted : Bool
  sendWorkflow : Option SendWorkflow
  /-- The revisions after which the stored waiters want to be woken. -/
  waiters : List Nat
  shutdown : Bool
  closing : Bool
  deriving DecidableEq

namespace State

/-- The state of a new client. -/
def initial (config : WalletClientConfig) : State where
  config := config
  snapshot := .empty
  activity := []
  activityCursor := none
  activityHasMore := false
  nftOffset := 0
  nftsHasMore := false
  keyChanges := none
  nextId := 1
  refreshGeneration := 0
  paginationGeneration := 0
  nftRefreshGeneration := 0
  nftPaginationGeneration := 0
  previewGeneration := 0
  sendGeneration := 0
  resolutionGeneration := 0
  activeRefresh := none
  activePagination := none
  activeNftRefresh := none
  activeNftPagination := none
  activePreview := none
  activeSend := none
  activeResolution := none
  sendCommitStarted := false
  sendWorkflow := none
  waiters := []
  shutdown := false
  closing := false

def slot (state : State) : OperationFamily → Slot
  | .refresh => state.activeRefresh
  | .pagination => state.activePagination
  | .nftRefresh => state.activeNftRefresh
  | .nftPagination => state.activeNftPagination
  | .preview => state.activePreview
  | .send => state.activeSend
  | .resolution => state.activeResolution

/-- Publish the activity rows and where they end. -/
def syncActivitySnapshot (state : State) : State :=
  { state with
    snapshot.activityItems := state.activity.map ActivityRecord.snapshot
    snapshot.activityCursor := state.activityCursor
    snapshot.activityHasMore := state.activityHasMore }

def isCurrent (state : State) (family : OperationFamily) (generation : Nat) : Bool :=
  (state.slot family).any (·.1 == generation)

end State

/-- A section of code that holds the client's lock. -/
abbrev Locked (α : Type) := Region State WalletClientError α

section Regions

def allocateRequestId : Locked HttpRequestId := do
  let state ← get
  if state.nextId + 1 < u64Bound then
    set { state with nextId := state.nextId + 1 }
    return ⟨state.nextId⟩
  else
    throw .identifierExhausted

/-- Advance the revision and wake the waiters it has passed. -/
def nextRevision : Locked Unit := do
  let state ← get
  let revision := state.snapshot.revision + 1
  if revision < u64Bound then
    set { state with
      snapshot.revision := revision
      waiters := state.waiters.filter (revision ≤ ·) }
  else
    throw .identifierExhausted

def ensureRunning : Locked Unit := do
  let state ← get
  if state.closing || state.shutdown then
    throw .shutdown

/-- Allocate an identifier and build a request. -/
def allocateRequest (config : WalletClientConfig) (endpoint : Endpoint) : Locked HttpRequest := do
  let id ← allocateRequestId
  buildRequest config id endpoint

end Regions

section Host

variable (P : Platform)

/-- The callbacks of a client: the platform host, the provider transport, and
the notification a waiter awaits. -/
inductive HostCall where
  | loadJournal (key : JournalKey)
  | compareExchangeJournal (mutation : JournalCompareExchange P.codec.Payload)
  | readProtectedSecret (read : ProtectedSecretRead)
  | execute (request : HttpRequest)
  | cancel (id : HttpRequestId)
  | notified

def HostCall.Answer : HostCall P → Type
  | .loadJournal _ => Except JournalHostError (Option (JournalRecord P.codec.Payload))
  | .compareExchangeJournal _ =>
    Except JournalHostError (JournalCompareExchangeResult P.codec.Payload)
  | .readProtectedSecret _ => Except ProtectedSecretHostError P.crypto.Secret
  | .execute _ => Except DomainError P.serde.Body
  | .cancel _ => Unit
  | .notified => Bool

/-- The host interface of a wallet client. -/
@[reducible] def walletHost : Interface where
  Call := HostCall P
  Answer := HostCall.Answer P

/-- An operation of a wallet client. -/
abbrev Engine (α : Type) := Fallible State (walletHost P) WalletClientError α

variable {P}

namespace Engine

def withLock {α : Type} (region : Locked α) : Engine P α :=
  Fallible.locked region

def await (call : HostCall P) : Engine P (HostCall.Answer P call) :=
  @Fallible.await State (walletHost P) WalletClientError call

def loadJournal (key : JournalKey) :
    Engine P (Except JournalHostError (Option (JournalRecord P.codec.Payload))) :=
  await (.loadJournal key)

def compareExchangeJournal (mutation : JournalCompareExchange P.codec.Payload) :
    Engine P (Except JournalHostError (JournalCompareExchangeResult P.codec.Payload)) :=
  await (.compareExchangeJournal mutation)

def readProtectedSecret (read : ProtectedSecretRead) :
    Engine P (Except ProtectedSecretHostError P.crypto.Secret) :=
  await (.readProtectedSecret read)

def execute (request : HttpRequest) : Engine P (Except DomainError P.serde.Body) :=
  await (.execute request)

def cancelRequest (id : HttpRequestId) : Engine P Unit :=
  await (.cancel id)

def notified : Engine P Bool :=
  await .notified

def cancelRequests : List HttpRequestId → Engine P Unit
  | [] => pure ()
  | id :: rest => do
      cancelRequest id
      cancelRequests rest

end Engine

end Host

end WalletEngine
