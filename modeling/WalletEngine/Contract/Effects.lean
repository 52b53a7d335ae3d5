import WalletEngine.Contract.Regions

/-! # The effects of lock regions

Every way a lock region of a client changes its state, together with what the operation
that runs the region must own for it. An operation that reserved the send slot or the
resolution slot owns it until one of its regions finds the slot gone; an operation that
reserved a load keeps the generation of the load. What an operation owns is read off its
own log. -/

namespace WalletEngine

variable {P : Platform}

section States

/-- The generation counter of a family. -/
def State.generation (state : State) : OperationFamily → Nat
  | .refresh => state.refreshGeneration
  | .pagination => state.paginationGeneration
  | .nftRefresh => state.nftRefreshGeneration
  | .nftPagination => state.nftPaginationGeneration
  | .preview => state.previewGeneration
  | .send => state.sendGeneration
  | .resolution => state.resolutionGeneration

end States

section Effects

/-- What an operation may change that owns nothing. -/
inductive ClientEffect (call : PublicCall) (before : State) : State → Prop
  | allocate (nextId : Nat) (later : before.nextId ≤ nextId) (running : before.Running) :
      ClientEffect call before { before with nextId }
  /-- A reservation of the send slot that failed after it had been counted. -/
  | countSend (nextId : Nat) (later : before.nextId ≤ nextId) (running : before.Running)
      (vacant : before.Vacant) :
      ClientEffect call before { before with
        nextId, sendGeneration := before.sendGeneration + 1 }
  | countResolution (nextId : Nat) (later : before.nextId ≤ nextId) (running : before.Running)
      (vacant : before.Vacant) :
      ClientEffect call before { before with
        nextId, resolutionGeneration := before.resolutionGeneration + 1 }
  | countPreview (nextId : Nat) (later : before.nextId ≤ nextId) (running : before.Running) :
      ClientEffect call before { before with
        nextId, previewGeneration := before.previewGeneration + 1 }
  | reservePreview (nextId : Nat) (later : before.nextId ≤ nextId) (running : before.Running) :
      ClientEffect call before { before with
        nextId
        previewGeneration := before.previewGeneration + 1
        activePreview := some (before.previewGeneration + 1, []) }
  | trackPreview (generation : Nat) (ids tracked : List HttpRequestId) (running : before.Running)
      (active : before.activePreview = some (generation, ids)) :
      ClientEffect call before { before with activePreview := some (generation, tracked) }
  | releasePreview (active : before.activePreview.isSome = true) :
      ClientEffect call before { before with activePreview := none }
  | wait (after : Nat) (running : before.Running) (current : before.snapshot.revision ≤ after) :
      ClientEffect call before { before with waiters := before.waiters ++ [after] }
  | dropRefresh (generation : Nat) (active : before.activeRefresh = some (generation, [])) :
      ClientEffect call before { before with activeRefresh := none }
  | cancelRefresh (generation : Nat) (ids : List HttpRequestId)
      (active : before.activeRefresh = some (generation, ids)) :
      ClientEffect call before ({ before with
        activeRefresh := none
        snapshot.accountResource := markLoadingCancelled before.snapshot.accountResource
        snapshot.activityResource :=
          markLoadingCancelled before.snapshot.activityResource } : State).revised
  | cancelPagination (active : before.activePagination.isSome = true) :
      ClientEffect call before ({ before with
        activePagination := none
        snapshot.activityPaginationResource := .idle } : State).revised
  | cancelNftRefresh (active : before.activeNftRefresh.isSome = true) :
      ClientEffect call before ({ before with
        activeNftRefresh := none
        snapshot.nftsResource := .idle } : State).revised
  | cancelNftPagination (active : before.activeNftPagination.isSome = true) :
      ClientEffect call before ({ before with
        activeNftPagination := none
        snapshot.nftsPaginationResource := .idle } : State).revised
  /-- A cancellation that finds no send. -/
  | disarm (idle : before.activeSend = none) :
      ClientEffect call before { before with sendCommitStarted := false }
  | cancelSend (asked : call = .cancelSend) (active : before.activeSend.isSome = true)
      (workflow : Option SendWorkflow) (snapshot : SendSnapshot) :
      ClientEffect call before ({ before with
        activeSend := none
        sendCommitStarted := false
        sendWorkflow := workflow
        snapshot.send := snapshot } : State).revised
  | close (running : before.shutdown = false) :
      ClientEffect call before { before with closing := true }
  | closeAndWait (running : before.shutdown = false) :
      ClientEffect call before { before with
        closing := true
        waiters := before.waiters ++ [before.snapshot.revision] }
  | stop (rounds : Nat) (codec : JournalCodec) (asked : call = .shutdown rounds)
      (running : before.shutdown = false) (released : State)
      (releases : released = ({ before with closing := true } : State).releaseAll codec)
      (after : State)
      (revises : after = if before.hasActiveWork then released.revised else released) :
      ClientEffect call before { after with shutdown := true, waiters := [] }

/-- The reservations that succeed. -/
inductive OpeningEffect (before : State) : State → Prop
  | send (nextId : Nat) (workflow : SendWorkflow) (later : before.nextId ≤ nextId)
      (running : before.Running) (vacant : before.Vacant) :
      OpeningEffect before ({ before with
        nextId
        sendGeneration := before.sendGeneration + 1
        activeSend := some (before.sendGeneration + 1, [])
        sendCommitStarted := false
        snapshot.send := workflow.snapshot
        sendWorkflow := some workflow } : State).revised
  | resolution (nextId : Nat) (later : before.nextId ≤ nextId) (running : before.Running)
      (vacant : before.Vacant) :
      OpeningEffect before { before with
        nextId
        resolutionGeneration := before.resolutionGeneration + 1
        activeResolution := some (before.resolutionGeneration + 1, []) }
  | refresh (nextId : Nat) (account activity : HttpRequestId) (later : before.nextId ≤ nextId)
      (running : before.Running) :
      OpeningEffect before ({ before with
        nextId
        refreshGeneration := before.refreshGeneration + 1
        activeRefresh := some (before.refreshGeneration + 1, [account, activity])
        activePagination := none
        snapshot.accountResource := .loading
        snapshot.activityResource := .loading
        snapshot.activityPaginationResource := .idle } : State).revised
  | pagination (nextId : Nat) (id : HttpRequestId) (later : before.nextId ≤ nextId)
      (running : before.Running) (alone : before.activeRefresh = none)
      (idle : before.activePagination = none) :
      OpeningEffect before ({ before with
        nextId
        paginationGeneration := before.paginationGeneration + 1
        activePagination := some (before.paginationGeneration + 1, [id])
        snapshot.activityPaginationResource := .loading } : State).revised
  | nftRefresh (nextId : Nat) (id : HttpRequestId) (later : before.nextId ≤ nextId)
      (running : before.Running) :
      OpeningEffect before ({ before with
        nextId
        nftRefreshGeneration := before.nftRefreshGeneration + 1
        activeNftRefresh := some (before.nftRefreshGeneration + 1, [id])
        activeNftPagination := none
        snapshot.nftsResource := .loading
        snapshot.nftsPaginationResource := .idle } : State).revised
  | nftPagination (nextId : Nat) (id : HttpRequestId) (later : before.nextId ≤ nextId)
      (running : before.Running) (alone : before.activeNftRefresh = none)
      (idle : before.activeNftPagination = none) :
      OpeningEffect before ({ before with
        nextId
        nftPaginationGeneration := before.nftPaginationGeneration + 1
        activeNftPagination := some (before.nftPaginationGeneration + 1, [id])
        snapshot.nftsPaginationResource := .loading } : State).revised

/-- What the owner of the send slot or of the resolution slot may change, the requests it
lists there apart. -/
inductive OwnerEffect (before : State) : OperationFamily → Nat → State → Prop
  | publish (generation : Nat) (ids : List HttpRequestId)
      (active : before.activeSend = some (generation, ids)) (workflow : Option SendWorkflow)
      (snapshot : SendSnapshot) :
      OwnerEffect before .send generation ({ before with
        sendWorkflow := workflow
        snapshot.send := snapshot } : State).revised
  | commit (generation : Nat) (ids : List HttpRequestId)
      (active : before.activeSend = some (generation, ids)) :
      OwnerEffect before .send generation { before with sendCommitStarted := true }
  | releaseSend (generation : Nat) (ids : List HttpRequestId)
      (active : before.activeSend = some (generation, ids)) (workflow : Option SendWorkflow)
      (snapshot : SendSnapshot) :
      OwnerEffect before .send generation ({ before with
        activeSend := none
        sendCommitStarted := false
        sendWorkflow := workflow
        snapshot.send := snapshot } : State).revised
  | allocate (generation : Nat) (ids : List HttpRequestId)
      (active : before.activeResolution = some (generation, ids)) (nextId : Nat)
      (later : before.nextId ≤ nextId) :
      OwnerEffect before .resolution generation { before with nextId }
  | remember (generation : Nat) (ids : List HttpRequestId)
      (active : before.activeResolution = some (generation, ids)) (changes : List KeyChange) :
      OwnerEffect before .resolution generation { before with keyChanges := some changes }
  | releaseResolution (generation : Nat) (ids : List HttpRequestId)
      (active : before.activeResolution = some (generation, ids)) :
      OwnerEffect before .resolution generation { before with activeResolution := none }
  | completeResolution (generation : Nat) (ids : List HttpRequestId)
      (active : before.activeResolution = some (generation, ids)) (snapshot : SendSnapshot) :
      OwnerEffect before .resolution generation ({ before with
        activeResolution := none
        snapshot.send := snapshot } : State).revised

/-- The requests that an owner lists in its slot. -/
inductive TrackEffect (before : State) :
    OperationFamily → Nat → (listed tracked : List HttpRequestId) → State → Prop
  | send (generation : Nat) (listed tracked : List HttpRequestId)
      (active : before.activeSend = some (generation, listed)) :
      TrackEffect before .send generation listed tracked
        { before with activeSend := some (generation, tracked) }
  | resolution (generation : Nat) (listed tracked : List HttpRequestId)
      (active : before.activeResolution = some (generation, listed)) :
      TrackEffect before .resolution generation listed tracked
        { before with activeResolution := some (generation, tracked) }

end Effects

section Standing

/-- What an operation holds of the two exclusive slots, as its own log shows it. -/
inductive Standing where
  | free
  /-- It owns the slot and lists no request. -/
  | holds (family : OperationFamily) (generation : Nat)
  /-- It has listed a request and executes it next. -/
  | asks (family : OperationFamily) (generation : Nat) (id : HttpRequestId)
  /-- The request has been answered and is still listed. -/
  | heard (family : OperationFamily) (generation : Nat) (id : HttpRequestId)
  /-- It has released the slot or found it taken away. -/
  | gone (family : OperationFamily) (generation : Nat)
  deriving DecidableEq

/-- A region counted a new generation of the family and took its slot. -/
def taken (before after : State) (family : OperationFamily) : Bool :=
  after.generation family == before.generation family + 1 &&
    after.isCurrent family (after.generation family)

/-- The request that a region added to the slot of a family. -/
def started (before after : State) (family : OperationFamily) : Option HttpRequestId :=
  match before.slot family, after.slot family with
  | some (_, listed), some (_, tracked) =>
    if tracked.length = listed.length + 1 then tracked.getLast? else none
  | _, _ => none

/-- The standing of an operation whose region changed the state. -/
def Standing.step (standing : Standing) (before after : State) : Standing :=
  let kept (family : OperationFamily) (generation : Nat) : Standing :=
    if after.isCurrent family generation then
      match started before after family with
      | some id => .asks family generation id
      | none => .holds family generation
    else .gone family generation
  match standing with
  | .free =>
    if taken before after .send then .holds .send after.sendGeneration
    else if taken before after .resolution then .holds .resolution after.resolutionGeneration
    else .free
  | .holds family generation => kept family generation
  | .asks family generation _ => kept family generation
  | .heard family generation _ => kept family generation
  | .gone family generation => .gone family generation

/-- The standing of an operation after an answer. -/
def Standing.hear : Standing → HostCall P → Standing
  | .asks family generation id, .execute _ => .heard family generation id
  | standing, _ => standing

def standing : Log P → Standing
  | [] => .free
  | .locked before after :: older => (standing older).step before after
  | .answered call _ :: older => (standing older).hear call

/-- The load that a region reserved. -/
def loadTaken (before after : State) : Option (OperationFamily × Nat) :=
  [OperationFamily.refresh, .pagination, .nftRefresh, .nftPagination].findSome? fun family =>
    if taken before after family then some (family, after.generation family) else none

/-- The load that an operation has reserved. -/
def loading : Log P → Option (OperationFamily × Nat)
  | [] => none
  | .locked before after :: older => (loading older).or (loadTaken before after)
  | .answered _ _ :: older => loading older

/-- What holds of every state that a client has before its revisions are exhausted. -/
structure State.Orderly (state : State) : Prop where
  room : state.snapshot.revision + 1 < u64Bound
  stopped : state.shutdown = true → state.Vacant

/-- One of the operation's regions ran in a state that no client has below exhaustion, or
found a slot back in place that the operation had lost. -/
def Broken (log : Log P) : Prop :=
  ∃ before after older, (.locked before after :: older : Log P) <:+ log ∧
    (¬ before.Orderly ∨ ∃ family generation, standing older = .gone family generation ∧
      before.isCurrent family generation = true)

/-- The operation owns no exclusive slot. -/
def Unheld (log : Log P) : Prop :=
  standing log = .free ∨ (∃ family generation, standing log = .gone family generation) ∨
    Broken log

/-- The operation owns nothing. -/
def Free (log : Log P) : Prop := loading log = none ∧ Unheld log

/-- The operation has owned nothing so far. -/
def Untried (log : Log P) : Prop := loading log = none ∧ (standing log = .free ∨ Broken log)

def Owns (log : Log P) (family : OperationFamily) (generation : Nat) : Prop :=
  loading log = none ∧ (standing log = .holds family generation ∨ Broken log)

/-- The operation owned a slot and knows that it owns it no more. -/
def Gone (log : Log P) (family : OperationFamily) (generation : Nat) : Prop :=
  loading log = none ∧ (standing log = .gone family generation ∨ Broken log)

/-- A region of a refresh left a resource settled, unless the refresh was superseded. -/
def ResourceSettled (log : Log P) (generation : Nat) (resource : State → ResourceState) : Prop :=
  ∃ newer before after older,
    log = newer ++ (.locked before after : Observation State (walletHost P)) :: older ∧
    loading older = some (.refresh, generation) ∧
    (after.isCurrent .refresh generation = true → (resource after).phase ≠ .loading)

end Standing

section Effects

variable (log : Log P)

/-- The state after a page was applied, if there is one. -/
def loaded {α : Type} (load : State → α → State × Nat) (state : State) :
    Except DomainError α → State
  | .ok page => (load state page).1
  | .error _ => state

/-- The results of a load that is still current. -/
inductive LoadEffect (before : State) : OperationFamily → Nat → State → Prop
  | refreshed (generation : Nat) (value : RefreshValue)
      (current : before.isCurrent .refresh generation = true) :
      LoadEffect before .refresh generation (value.apply before).revised
  | refreshDone (generation : Nat) (current : before.isCurrent .refresh generation = true)
      (account : ResourceSettled log generation (·.snapshot.accountResource))
      (activity : ResourceSettled log generation (·.snapshot.activityResource)) :
      LoadEffect before .refresh generation { before with activeRefresh := none }
  | paged (generation : Nat) (result : Except DomainError ActivityPage)
      (current : before.isCurrent .pagination generation = true) :
      LoadEffect before .pagination generation ({ loaded applyActivityPage before result with
        activePagination := none
        snapshot.activityPaginationResource := (loadOutcome result).2 } : State).revised
  | nftsRefreshed (generation : Nat) (result : Except DomainError NftPage)
      (current : before.isCurrent .nftRefresh generation = true) :
      LoadEffect before .nftRefresh generation ({ loaded applyRefreshedNftPage before result with
        activeNftRefresh := none
        snapshot.nftsResource := (loadOutcome result).2 } : State).revised
  | nftsPaged (generation : Nat) (result : Except DomainError NftPage)
      (current : before.isCurrent .nftPagination generation = true) :
      LoadEffect before .nftPagination generation ({ loaded applyNftPage before result with
        activeNftPagination := none
        snapshot.nftsPaginationResource := (loadOutcome result).2 } : State).revised

variable (call : PublicCall)

/-- Every way a lock region changes the client state, by what its operation owns. -/
inductive Effect (before : State) : State → Prop
  | none (settled : ∀ family generation id,
        standing log = .asks family generation id → Broken log) : Effect before before
  | client (after : State) (free : Free log) (effect : ClientEffect call before after) :
      Effect before after
  | opening (after : State) (free : Free log) (effect : OpeningEffect before after)
      (untried : Untried log ∨
        ∃ family generation, loadTaken before after = some (family, generation)) :
      Effect before after
  | owner (family : OperationFamily) (generation : Nat) (after : State)
      (owns : Owns log family generation ∨ Gone log family generation)
      (effect : OwnerEffect before family generation after) : Effect before after
  | start (family : OperationFamily) (generation : Nat) (listed : List HttpRequestId)
      (id : HttpRequestId) (after : State) (owns : Owns log family generation)
      (effect : TrackEffect before family generation listed (listed ++ [id]) after) :
      Effect before after
  | finish (family : OperationFamily) (generation : Nat) (listed : List HttpRequestId)
      (id : HttpRequestId) (after : State) (unloaded : loading log = Option.none)
      (heard : standing log = .heard family generation id ∨ Broken log)
      (effect : TrackEffect before family generation listed (listed.filter (· != id)) after) :
      Effect before after
  | load (family : OperationFamily) (generation : Nat) (after : State)
      (reserved : loading log = some (family, generation))
      (effect : LoadEffect log before family generation after) : Effect before after

/-- An operation executes a request exactly while its slot lists it. -/
def Asks (request : HostCall P) : Prop :=
  Broken log ∨ match standing log with
    | .free | .gone _ _ => True
    | .holds _ _ => ∀ asked, request ≠ .execute asked
    | .asks _ _ id => ∃ asked, request = .execute asked ∧ asked.id = id
    | .heard _ _ _ => False

end Effects

/-- The discipline of what an operation owns. -/
def custodyRule (P : Platform) (call : PublicCall) : Discipline State (walletHost P) where
  call := fun log => Asks log
  region := fun log => Effect log call

end WalletEngine
