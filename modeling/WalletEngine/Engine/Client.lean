import WalletEngine.Engine.Send

/-! # Client operations

Recovery of the durable send, refresh, waiting, cancellation and shutdown. -/

namespace WalletEngine

variable {P : Platform}

inductive WalletOperationOutcome where
  | completed | partiallyCompleted | failed | cancelled | superseded | skipped
  deriving DecidableEq

structure WalletUpdate where
  outcome : WalletOperationOutcome
  activityItemsAdded : Nat
  nftItemsAdded : Nat
  snapshot : WalletSnapshot
  deriving DecidableEq

section Resolve

/-- What a standalone resolution reserves under the lock. -/
structure ResolutionTicket where
  generation : Nat
  config : WalletClientConfig
  journalKey : JournalKey
  accountRequest : HttpRequest
  resolutionIds : ResolutionIds

/-- Reserve the resolution slot. `prepare` allocates what the operation needs;
the slot is taken last. -/
def reserveResolution {σ : Type} (prepare : WalletClientConfig → Locked σ) :
    Locked (Nat × WalletClientConfig × σ) := do
  let state ← get
  if state.activeSend.isSome || state.activeResolution.isSome then
    throw .sendAlreadyInProgress
  if u64Bound ≤ state.resolutionGeneration + 1 then
    throw .identifierExhausted
  let generation := state.resolutionGeneration + 1
  set { state with resolutionGeneration := generation }
  let prepared ← prepare state.config
  modify fun state => { state with activeResolution := some (generation, []) }
  return (generation, state.config, prepared)

def reserveResolvePending : Locked ResolutionTicket := do
  ensureRunning
  let (generation, config, accountRequest, resolutionIds) ← reserveResolution fun config => do
    let accountRequest ← allocateRequest config (.getAddressInformation config.address)
    let resolutionIds ← allocateResolutionIds
    return (accountRequest, resolutionIds)
  return { generation, config, accountRequest, resolutionIds
           journalKey := ⟨config.recordId.value, sendSlot⟩ }

namespace Engine

def failStandaloneResolution {α : Type} (generation : Nat) (message : String) : Engine P α :=
  resolutionFailedError (.standalone generation) message

def resolvePending : Engine P SendSnapshot := do
  let ticket ← withLock reserveResolvePending
  match ← loadJournal ticket.journalKey with
  | .error error => failStandaloneResolution ticket.generation error.display
  | .ok none => withLock (completeStandaloneResolution ticket.generation none)
  | .ok (some journal) =>
    match pendingSendRecord P.codec journal ticket.config.recordId ticket.config.address with
    | .error error => failStandaloneResolution ticket.generation error.display
    | .ok none =>
      match sendSnapshotFromJournal P.codec journal ticket.config.recordId
          ticket.config.address with
      | .error error => failStandaloneResolution ticket.generation error.display
      | .ok snapshot =>
        withLock (completeStandaloneResolution ticket.generation (some snapshot))
    | .ok (some pending) =>
      match (← executeTrackedStandaloneResolutionRequest ticket.generation
          ticket.accountRequest).bind (parseAccount P.serde) with
      | .error error => failStandaloneResolution ticket.generation error.developerMessage
      | .ok account =>
        match ResolutionRequests.new ticket.config pending.messageHash
            ticket.resolutionIds with
        | .error error => failStandaloneResolution ticket.generation error.display
        | .ok requests =>
          let resolved ← resolvePendingWithOwner (.standalone ticket.generation)
            ticket.config pending account.syncUtime requests
          withLock (completeStandaloneResolution ticket.generation
            (some (pending.snapshot resolved.resolution)))

end Engine

end Resolve

section Refresh

def markLoadingCancelled (resource : ResourceState) : ResourceState :=
  if resource.phase = .loading then .idle else resource

/-- Rows are ordered by descending logical time, then descending timestamp, then
ascending identifier. -/
def activityRecordBefore (left right : ActivityRecord) : Bool :=
  if left.logicalTime ≠ right.logicalTime then right.logicalTime < left.logicalTime
  else if left.timestamp ≠ right.timestamp then right.timestamp < left.timestamp
  else left.id ≤ right.id

/-- Merge rows by identifier, a later row replacing an earlier one. The source collects them in
a hash map, whose order of iteration the sorting hides. -/
def mergeActivity (rows added : List ActivityRecord) : List ActivityRecord :=
  (tableOf (·.id) (rows ++ added)).mergeSort activityRecordBefore

def applyRefreshedActivityPage (state : State) (page : ActivityPage) : State :=
  if state.activity.isEmpty then
    { state with
      activity := page.items
      activityCursor := page.cursor
      activityHasMore := page.hasMore }.syncActivitySnapshot
  else
    { state with activity := mergeActivity state.activity page.items }.syncActivitySnapshot

def reserveRefresh : Locked (Nat × HttpRequest × HttpRequest × List HttpRequestId) := do
  ensureRunning
  let config := (← get).config
  let accountId ← allocateRequestId
  let activityId ← allocateRequestId
  let accountRequest ← buildRequest config accountId (.getAddressInformation config.address)
  let activityRequest ← buildRequest config activityId (.getTransactions config.address none)
  let state ← get
  if u64Bound ≤ state.refreshGeneration + 1 then
    throw .identifierExhausted
  let generation := state.refreshGeneration + 1
  let ids (slot : Slot) := (slot.map (·.2)).getD []
  set { state with
    refreshGeneration := generation
    activeRefresh := some (generation, [accountId, activityId])
    activePagination := none
    snapshot.accountResource := .loading
    snapshot.activityResource := .loading
    snapshot.activityPaginationResource := .idle }
  nextRevision
  return (generation, accountRequest, activityRequest,
    ids state.activeRefresh ++ ids state.activePagination)

inductive RefreshValue where
  | account (result : Except DomainError AccountSnapshot)
  | activity (result : Except DomainError ActivityPage)

def RefreshValue.apply (state : State) : RefreshValue → State
  | .account (.ok loaded) => { state with
      snapshot.account := some loaded
      snapshot.accountResource := .ready }
  | .account (.error error) => { state with snapshot.accountResource := .failed error }
  | .activity (.ok page) =>
    let state := applyRefreshedActivityPage state page
    { state with snapshot.activityResource := .ready }
  | .activity (.error error) => { state with snapshot.activityResource := .failed error }

def publishRefreshComponent (generation : Nat) (value : RefreshValue) : Locked Unit := do
  let state ← get
  if state.isCurrent .refresh generation then
    set (value.apply state)
    nextRevision

def finishRefresh (generation : Nat) : Locked WalletUpdate := do
  let state ← get
  if !state.isCurrent .refresh generation then
    return ⟨.superseded, 0, 0, state.snapshot⟩
  set { state with activeRefresh := none }
  let failed := [state.snapshot.accountResource, state.snapshot.activityResource].countP
    (·.phase == .failed)
  let outcome := if failed = 0 then .completed else if failed = 2 then .failed
    else .partiallyCompleted
  return ⟨outcome, 0, 0, state.snapshot⟩

def cancelRefreshRegion : Locked (List HttpRequestId) := do
  let state ← get
  let ids := (state.activeRefresh.map (·.2)).getD []
  set { state with activeRefresh := none }
  if !ids.isEmpty then
    modify fun state => { state with
      snapshot.accountResource := markLoadingCancelled state.snapshot.accountResource
      snapshot.activityResource := markLoadingCancelled state.snapshot.activityResource }
    nextRevision
  return ids

namespace Engine

def refresh : Engine P WalletUpdate := do
  -- The refresh goes on whatever the resolution of a durable send returned.
  let _ ← Fallible.outcome resolvePending
  let (generation, accountRequest, activityRequest, previous) ← withLock reserveRefresh
  cancelRequests previous
  let account ← execute accountRequest
  let activity ← execute activityRequest
  withLock (publishRefreshComponent generation (.account (account.bind (parseAccount P.serde))))
  withLock (publishRefreshComponent generation (.activity (activity.bind P.views.parseActivity)))
  withLock (finishRefresh generation)

def cancelRefresh : Engine P Unit := do
  let ids ← withLock cancelRefreshRegion
  cancelRequests ids

end Engine

end Refresh

section Waiting

/-- Either the newer snapshot, or a stored waiter. -/
def awaitRevision (afterRevision : Nat) : Locked (Option WalletSnapshot) := do
  ensureRunning
  let state ← get
  if afterRevision < state.snapshot.revision then
    return some state.snapshot
  set { state with waiters := state.waiters ++ [afterRevision] }
  return none

def readSnapshot : Locked WalletSnapshot := do
  ensureNotShutdown
  return (← get).snapshot

namespace Engine

def waitForChange (afterRevision : Nat) : Engine P WalletSnapshot := do
  let _ ← Fallible.outcome resolvePending
  match ← withLock (awaitRevision afterRevision) with
  | some snapshot => return snapshot
  | none =>
    if !(← notified) then
      throw .shutdown
    withLock readSnapshot

end Engine

end Waiting

section Cancellation

/-- The workflow and snapshot of a send that was cancelled. -/
def cancelWorkflow (codec : JournalCodec) (state : State) : State :=
  match state.sendWorkflow with
  | none => { state with snapshot.send.phase := .cancelled }
  | some workflow =>
    let cancelled := (SendWorkflow.cancel codec workflow).2
    { state with
      sendWorkflow := some cancelled
      snapshot.send := { cancelled.snapshot with phase := .cancelled } }

def cancelSendRegion (codec : JournalCodec) : Locked (List HttpRequestId) := do
  let state ← get
  if state.activeSend.isSome && state.sendCommitStarted then
    throw .sendCancellationTooLate
  set { state with activeSend := none, sendCommitStarted := false }
  if state.activeSend.isSome then
    modify (cancelWorkflow codec)
    nextRevision
  return (state.activeSend.map (·.2)).getD []

namespace Engine

def cancelSend : Engine P Unit := do
  let ids ← withLock (cancelSendRegion P.codec)
  cancelRequests ids

end Engine

end Cancellation

section Shutdown

def State.hasActiveWork (state : State) : Bool :=
  state.activeRefresh.isSome || state.activePagination.isSome || state.activeNftRefresh.isSome ||
    state.activeNftPagination.isSome || state.activePreview.isSome || state.activeSend.isSome ||
    state.activeResolution.isSome

/-- Every slot is emptied and every loading resource settled. -/
def State.releaseAll (codec : JournalCodec) (state : State) : State :=
  let state := if state.activeSend.isSome then cancelWorkflow codec state else state
  let mark (slot : Slot) (resource : ResourceState) :=
    if slot.isSome then markLoadingCancelled resource else resource
  let idle (slot : Slot) (resource : ResourceState) := if slot.isSome then .idle else resource
  { state with
    snapshot.accountResource := mark state.activeRefresh state.snapshot.accountResource
    snapshot.activityResource := mark state.activeRefresh state.snapshot.activityResource
    snapshot.activityPaginationResource :=
      idle state.activePagination state.snapshot.activityPaginationResource
    snapshot.nftsResource := mark state.activeNftRefresh state.snapshot.nftsResource
    snapshot.nftsPaginationResource :=
      idle state.activeNftPagination state.snapshot.nftsPaginationResource
    activeRefresh := none
    activePagination := none
    activeNftRefresh := none
    activeNftPagination := none
    activePreview := none
    activeSend := none
    activeResolution := none
    sendCommitStarted := false }

def prepareShutdown (codec : JournalCodec) : Locked (List HttpRequestId) := do
  let state ← get
  if state.hasActiveWork && u64Bound ≤ state.snapshot.revision + 1 then
    throw .identifierExhausted
  let ids (slot : Slot) := (slot.map (·.2)).getD []
  set (state.releaseAll codec)
  if state.hasActiveWork then
    nextRevision
  modify fun state => { state with shutdown := true, waiters := [] }
  return ids state.activeRefresh ++ ids state.activePagination ++ ids state.activeNftRefresh ++
    ids state.activeNftPagination ++ ids state.activePreview ++ ids state.activeSend ++
    ids state.activeResolution

/-- What one round of the shutdown loop found. -/
inductive ShutdownAction where
  | alreadyDown
  | wait
  | finish (ids : List HttpRequestId)

def shutdownRound (codec : JournalCodec) : Locked ShutdownAction := do
  let state ← get
  if state.shutdown then
    return .alreadyDown
  set { state with closing := true }
  if state.activeSend.isSome && state.sendCommitStarted then
    modify fun state => { state with waiters := state.waiters ++ [state.snapshot.revision] }
    return .wait
  else
    return .finish (← prepareShutdown codec)

namespace Engine

/-- The shutdown loop, unrolled `rounds` times. A call that needs more rounds is
still waiting, and returns nothing. -/
def shutdown : (rounds : Nat) → Engine P (Option Unit)
  | 0 => return none
  | rounds + 1 => do
      match ← withLock (shutdownRound P.codec) with
      | .alreadyDown => return some ()
      | .wait =>
        let _ ← notified
        shutdown rounds
      | .finish ids =>
        cancelRequests ids
        return some ()

end Engine

end Shutdown

end WalletEngine
