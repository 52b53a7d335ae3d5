import WalletEngine.Engine.Client

/-! # Activity and NFT pages

The page loads and their cancellation. They differ in the slot, the resource and
the page they work on. -/

namespace WalletEngine

variable {P : Platform}

section Loads

/-- The outcome of a load, and the state its resource is left in. -/
def loadOutcome {α : Type} : Except DomainError α → WalletOperationOutcome × ResourceState
  | .ok _ => (.completed, .ready)
  | .error error =>
    if error.code = .hostCancelled then (.cancelled, .idle) else (.failed, .failed error)

/-- Reserve a load: allocate its request, count its generation and take its slot. -/
def reserveLoad (counter : State → Nat) (endpoint : State → Endpoint)
    (take : Nat → HttpRequestId → State → State) : Locked (Nat × HttpRequest) := do
  let state ← get
  let request ← allocateRequest state.config (endpoint state)
  let state ← get
  if u64Bound ≤ counter state + 1 then
    throw .identifierExhausted
  let generation := counter state + 1
  set (take generation request.id state)
  nextRevision
  return (generation, request)

/-- Finish a load unless a newer one took its slot. `load` applies the page and
counts what it added. -/
def finishLoad {α : Type} (family : OperationFamily) (generation : Nat)
    (result : Except DomainError α) (load : State → α → State × Nat)
    (settle : ResourceState → State → State)
    (report : WalletOperationOutcome → Nat → WalletSnapshot → WalletUpdate) :
    Locked WalletUpdate := do
  let state ← get
  if !state.isCurrent family generation then
    return report .superseded 0 state.snapshot
  let (loaded, added) := match result with
    | .ok page => load state page
    | .error _ => (state, 0)
  let (outcome, resource) := loadOutcome result
  set (settle resource loaded)
  nextRevision
  return report outcome added (← get).snapshot

/-- Cancel a load: `settle` empties its slot and settles its resource. -/
def cancelLoad (family : OperationFamily) (settle : State → State) :
    Locked (List HttpRequestId) := do
  let state ← get
  if (state.slot family).isSome then
    set (settle state)
    nextRevision
  return ((state.slot family).map (·.2)).getD []

end Loads

section Activity

/-- The page moves to an older logical time. -/
def cursorAdvanced : (previous next : Option (Nat × Base64Hash)) → Bool
  | some previous, some next => next.1 < previous.1
  | _, _ => false

/-- Append an older page. A page that does not advance ends the pagination and
adds nothing. -/
def applyActivityPage (state : State) (page : ActivityPage) : State × Nat :=
  if cursorAdvanced state.activityCursor page.cursor then
    let merged := mergeActivity state.activity page.items
    ({ state with
        activity := merged
        activityCursor := page.cursor
        activityHasMore := page.hasMore }.syncActivitySnapshot,
      merged.length - state.activity.length)
  else ({ state with activityHasMore := false }.syncActivitySnapshot, 0)

/-- Either the update of a skipped load, or the reserved one. -/
def reserveLoadMoreActivity : Locked (WalletUpdate ⊕ (Nat × HttpRequest)) := do
  ensureRunning
  let state ← get
  if state.activeRefresh.isSome || state.activePagination.isSome || !state.activityHasMore then
    return .inl ⟨.skipped, 0, 0, state.snapshot⟩
  match state.activityCursor with
  | none => return .inl ⟨.skipped, 0, 0, state.snapshot⟩
  | some cursor =>
    let reserved ← reserveLoad (·.paginationGeneration)
      (fun state => .getTransactions state.config.address (some cursor))
      fun generation id state => { state with
        paginationGeneration := generation
        activePagination := some (generation, [id])
        snapshot.activityPaginationResource := .loading }
    return .inr reserved

def finishLoadMoreActivity (generation : Nat) (result : Except DomainError ActivityPage) :
    Locked WalletUpdate :=
  finishLoad .pagination generation result applyActivityPage
    (fun resource state => { state with
      activePagination := none
      snapshot.activityPaginationResource := resource })
    fun outcome added snapshot => ⟨outcome, added, 0, snapshot⟩

def cancelLoadMoreActivityRegion : Locked (List HttpRequestId) :=
  cancelLoad .pagination fun state => { state with
    activePagination := none
    snapshot.activityPaginationResource := .idle }

namespace Engine

def loadMoreActivity : Engine P WalletUpdate := do
  match ← withLock reserveLoadMoreActivity with
  | .inl skipped => return skipped
  | .inr (generation, request) =>
    let result ← execute request
    withLock (finishLoadMoreActivity generation (result.bind P.views.parseActivity))

def cancelLoadMoreActivity : Engine P Unit := do
  let ids ← withLock cancelLoadMoreActivityRegion
  cancelRequests ids

end Engine

end Activity

section Nfts

/-- Items with the same address are kept once, the first one winning. -/
def deduplicateNfts (known : List TonAddressString) :
    List TonAddressString → List TonAddressString
  | [] => []
  | item :: rest =>
    if known.contains item then deduplicateNfts known rest
    else item :: deduplicateNfts (item :: known) rest

/-- The first page replaces the list. A refresh reports no added items. -/
def applyRefreshedNftPage (state : State) (page : NftPage) : State × Nat :=
  ({ state with
      snapshot.nfts := deduplicateNfts [] page.items
      nftOffset := page.rawCount
      nftsHasMore := page.hasMore
      snapshot.nftsHasMore := page.hasMore }, 0)

def applyNftPage (state : State) (page : NftPage) : State × Nat :=
  let added := deduplicateNfts state.snapshot.nfts page.items
  ({ state with
      snapshot.nfts := state.snapshot.nfts ++ added
      nftOffset := saturatingAdd state.nftOffset page.rawCount
      nftsHasMore := page.hasMore
      snapshot.nftsHasMore := page.hasMore }, added.length)

/-- Reserve the first page. The loads it supersedes are cancelled afterwards. -/
def reserveRefreshNfts : Locked (Nat × HttpRequest × List HttpRequestId × Network) := do
  ensureRunning
  let state ← get
  let ids (slot : Slot) := (slot.map (·.2)).getD []
  let previous := ids state.activeNftRefresh ++ ids state.activeNftPagination
  let (generation, request) ← reserveLoad (·.nftRefreshGeneration)
    (fun state => .nftItems state.config.address 0)
    fun generation id state => { state with
      nftRefreshGeneration := generation
      activeNftRefresh := some (generation, [id])
      activeNftPagination := none
      snapshot.nftsResource := .loading
      snapshot.nftsPaginationResource := .idle }
  return (generation, request, previous, state.config.network)

def finishRefreshNfts (generation : Nat) (result : Except DomainError NftPage) :
    Locked WalletUpdate :=
  finishLoad .nftRefresh generation result applyRefreshedNftPage
    (fun resource state => { state with
      activeNftRefresh := none
      snapshot.nftsResource := resource })
    fun outcome added snapshot => ⟨outcome, 0, added, snapshot⟩

def cancelRefreshNftsRegion : Locked (List HttpRequestId) :=
  cancelLoad .nftRefresh fun state => { state with
    activeNftRefresh := none
    snapshot.nftsResource := .idle }

def reserveLoadMoreNfts : Locked (WalletUpdate ⊕ (Nat × HttpRequest × Network)) := do
  ensureRunning
  let state ← get
  if state.activeNftRefresh.isSome || state.activeNftPagination.isSome || !state.nftsHasMore then
    return .inl ⟨.skipped, 0, 0, state.snapshot⟩
  let (generation, request) ← reserveLoad (·.nftPaginationGeneration)
    (fun state => .nftItems state.config.address state.nftOffset)
    fun generation id state => { state with
      nftPaginationGeneration := generation
      activeNftPagination := some (generation, [id])
      snapshot.nftsPaginationResource := .loading }
  return .inr (generation, request, state.config.network)

def finishLoadMoreNfts (generation : Nat) (result : Except DomainError NftPage) :
    Locked WalletUpdate :=
  finishLoad .nftPagination generation result applyNftPage
    (fun resource state => { state with
      activeNftPagination := none
      snapshot.nftsPaginationResource := resource })
    fun outcome added snapshot => ⟨outcome, 0, added, snapshot⟩

def cancelLoadMoreNftsRegion : Locked (List HttpRequestId) :=
  cancelLoad .nftPagination fun state => { state with
    activeNftPagination := none
    snapshot.nftsPaginationResource := .idle }

namespace Engine

def refreshNfts : Engine P WalletUpdate := do
  let (generation, request, previous, network) ← withLock reserveRefreshNfts
  cancelRequests previous
  let result ← execute request
  withLock (finishRefreshNfts generation (result.bind (P.views.parseNftPage · network)))

def cancelRefreshNfts : Engine P Unit := do
  let ids ← withLock cancelRefreshNftsRegion
  cancelRequests ids

def loadMoreNfts : Engine P WalletUpdate := do
  match ← withLock reserveLoadMoreNfts with
  | .inl skipped => return skipped
  | .inr (generation, request, network) =>
    let result ← execute request
    withLock (finishLoadMoreNfts generation (result.bind (P.views.parseNftPage · network)))

def cancelLoadMoreNfts : Engine P Unit := do
  let ids ← withLock cancelLoadMoreNftsRegion
  cancelRequests ids

end Engine

end Nfts

end WalletEngine
