import WalletEngine.Async.Fleet
import WalletEngine.Contract.CustodyLoads
import WalletEngine.Contract.Slots
import WalletEngine.Host.Memory

/-! # Late results and loading flags

The loads of a client: the refresh of the account and of the history, the pages of the history,
and the two loads of the NFT list. Each has a slot, a generation and resources that show it.
What a lock region does to them is a move of a small machine. -/

namespace WalletEngine

section Machine

/-- What a state says about its loads. -/
structure LoadView where
  account : ResourceState
  activity : ResourceState
  pagination : ResourceState
  nfts : ResourceState
  nftsPagination : ResourceState
  activeRefresh : Slot
  activePagination : Slot
  activeNftRefresh : Slot
  activeNftPagination : Slot
  refreshGeneration : Nat
  paginationGeneration : Nat
  nftRefreshGeneration : Nat
  nftPaginationGeneration : Nat

def State.loads (state : State) : LoadView where
  account := state.snapshot.accountResource
  activity := state.snapshot.activityResource
  pagination := state.snapshot.activityPaginationResource
  nfts := state.snapshot.nftsResource
  nftsPagination := state.snapshot.nftsPaginationResource
  activeRefresh := state.activeRefresh
  activePagination := state.activePagination
  activeNftRefresh := state.activeNftRefresh
  activeNftPagination := state.activeNftPagination
  refreshGeneration := state.refreshGeneration
  paginationGeneration := state.paginationGeneration
  nftRefreshGeneration := state.nftRefreshGeneration
  nftPaginationGeneration := state.nftPaginationGeneration

/-- The resources of a client show exactly the loads that are active. -/
structure LoadView.Flagged (view : LoadView) : Prop where
  refresh : view.account.phase = .loading ∨ view.activity.phase = .loading →
    view.activeRefresh.isSome = true
  pagination : view.pagination.phase = .loading ↔ view.activePagination.isSome = true
  nfts : view.nfts.phase = .loading ↔ view.activeNftRefresh.isSome = true
  nftsPagination : view.nftsPagination.phase = .loading ↔ view.activeNftPagination.isSome = true
  activityAlone : view.activeRefresh = none ∨ view.activePagination = none
  nftsAlone : view.activeNftRefresh = none ∨ view.activeNftPagination = none
  listed : ∀ generation, view.activeRefresh ≠ some (generation, [])

/-- The moves of the loads. A refresh may be finished when `settled` tells that its two
resources are settled. -/
inductive LoadMove (settled : Prop) (view : LoadView) : LoadView → Prop
  | idle : LoadMove settled view view
  | refresh (ids : List HttpRequestId) (listed : ids ≠ []) : LoadMove settled view { view with
      refreshGeneration := view.refreshGeneration + 1
      activeRefresh := some (view.refreshGeneration + 1, ids)
      activePagination := none
      account := .loading
      activity := .loading
      pagination := .idle }
  | page (ids : List HttpRequestId) (alone : view.activeRefresh = none) :
      LoadMove settled view { view with
        paginationGeneration := view.paginationGeneration + 1
        activePagination := some (view.paginationGeneration + 1, ids)
        pagination := .loading }
  | nftRefresh (ids : List HttpRequestId) : LoadMove settled view { view with
      nftRefreshGeneration := view.nftRefreshGeneration + 1
      activeNftRefresh := some (view.nftRefreshGeneration + 1, ids)
      activeNftPagination := none
      nfts := .loading
      nftsPagination := .idle }
  | nftPage (ids : List HttpRequestId) (alone : view.activeNftRefresh = none) :
      LoadMove settled view { view with
        nftPaginationGeneration := view.nftPaginationGeneration + 1
        activeNftPagination := some (view.nftPaginationGeneration + 1, ids)
        nftsPagination := .loading }
  | publish (account activity : ResourceState)
      (accountSettles : account = view.account ∨ account.phase ≠ .loading)
      (activitySettles : activity = view.activity ∨ activity.phase ≠ .loading) :
      LoadMove settled view { view with account := account, activity := activity }
  | finish (done : settled → view.account.phase ≠ .loading ∧ view.activity.phase ≠ .loading) :
      LoadMove settled view { view with activeRefresh := none }
  | drop (generation : Nat) (active : view.activeRefresh = some (generation, [])) :
      LoadMove settled view { view with activeRefresh := none }
  | cancelRefresh : LoadMove settled view { view with
      activeRefresh := none
      account := markLoadingCancelled view.account
      activity := markLoadingCancelled view.activity }
  | endPage (resource : ResourceState) (ended : resource.phase ≠ .loading) :
      LoadMove settled view { view with activePagination := none, pagination := resource }
  | endNfts (resource : ResourceState) (ended : resource.phase ≠ .loading) :
      LoadMove settled view { view with activeNftRefresh := none, nfts := resource }
  | endNftPage (resource : ResourceState) (ended : resource.phase ≠ .loading) :
      LoadMove settled view { view with activeNftPagination := none, nftsPagination := resource }
  | stop (account activity pagination nfts nftsPagination : ResourceState)
      (accountEnds : account.phase = .loading → view.account.phase = .loading ∧
        view.activeRefresh = none)
      (activityEnds : activity.phase = .loading → view.activity.phase = .loading ∧
        view.activeRefresh = none)
      (paginationEnds : pagination.phase = .loading → view.pagination.phase = .loading ∧
        view.activePagination = none)
      (nftsEnds : nfts.phase = .loading → view.nfts.phase = .loading ∧
        view.activeNftRefresh = none)
      (nftsPaginationEnds : nftsPagination.phase = .loading →
        view.nftsPagination.phase = .loading ∧ view.activeNftPagination = none) :
      LoadMove settled view { view with
        account := account, activity := activity, pagination := pagination, nfts := nfts
        nftsPagination := nftsPagination, activeRefresh := none, activePagination := none
        activeNftRefresh := none, activeNftPagination := none }

variable {settled : Prop} {view next : LoadView}

theorem markLoadingCancelled_phase (resource : ResourceState) :
    (markLoadingCancelled resource).phase ≠ .loading := by
  unfold markLoadingCancelled
  split
  · nofun
  · assumption

theorem LoadMove.flagged (move : LoadMove settled view next) (holds : settled)
    (flagged : view.Flagged) : next.Flagged := by
  obtain ⟨refresh, pagination, nfts, nftsPagination, activityAlone, nftsAlone, listed⟩ := flagged
  cases move with
  | idle => exact ⟨refresh, pagination, nfts, nftsPagination, activityAlone, nftsAlone, listed⟩
  | refresh ids named =>
    refine ⟨fun _ => rfl, ⟨nofun, nofun⟩, nfts, nftsPagination, .inr rfl, nftsAlone, ?_⟩
    intro generation same
    cases same
    exact named rfl
  | page ids alone =>
    exact ⟨refresh, ⟨fun _ => rfl, fun _ => rfl⟩, nfts, nftsPagination, .inl alone, nftsAlone,
      listed⟩
  | nftRefresh ids =>
    exact ⟨refresh, pagination, ⟨fun _ => rfl, fun _ => rfl⟩, ⟨nofun, nofun⟩, activityAlone,
      .inr rfl, listed⟩
  | nftPage ids alone =>
    exact ⟨refresh, pagination, nfts, ⟨fun _ => rfl, fun _ => rfl⟩, activityAlone, .inl alone,
      listed⟩
  | publish account activity accountSettles activitySettles =>
    refine ⟨fun loads => refresh ?_, pagination, nfts, nftsPagination, activityAlone, nftsAlone,
      listed⟩
    rcases loads with loads | loads
    · rcases accountSettles with rfl | ended
      · exact .inl loads
      · exact absurd loads ended
    · rcases activitySettles with rfl | ended
      · exact .inr loads
      · exact absurd loads ended
  | finish done =>
    obtain ⟨accountDone, activityDone⟩ := done holds
    exact ⟨fun loads => (loads.elim accountDone activityDone).elim, pagination, nfts,
      nftsPagination, .inl rfl, nftsAlone, nofun⟩
  | drop generation active => exact absurd active (listed generation)
  | cancelRefresh =>
    refine ⟨fun loads => ?_, pagination, nfts, nftsPagination, .inl rfl, nftsAlone, nofun⟩
    exact (loads.elim (markLoadingCancelled_phase _) (markLoadingCancelled_phase _)).elim
  | endPage resource ended =>
    exact ⟨refresh, ⟨fun loads => absurd loads ended, nofun⟩, nfts, nftsPagination, .inr rfl,
      nftsAlone, listed⟩
  | endNfts resource ended =>
    exact ⟨refresh, pagination, ⟨fun loads => absurd loads ended, nofun⟩, nftsPagination,
      activityAlone, .inl rfl, listed⟩
  | endNftPage resource ended =>
    exact ⟨refresh, pagination, nfts, ⟨fun loads => absurd loads ended, nofun⟩, activityAlone,
      .inr rfl, listed⟩
  | stop account activity page list pages accountEnds activityEnds pageEnds listEnds pagesEnds =>
    have ended : ∀ {resource shown : ResourceState} {slot : Slot},
        (shown.phase = .loading → slot.isSome = true) →
        (resource.phase = .loading → shown.phase = .loading ∧ slot = none) →
        resource.phase ≠ .loading := by
      intro resource shown slot active ends loads
      obtain ⟨earlier, rfl⟩ := ends loads
      cases active earlier
    refine ⟨?_, ⟨fun loads => ?_, nofun⟩, ⟨fun loads => ?_, nofun⟩, ⟨fun loads => ?_, nofun⟩,
      .inl rfl, .inl rfl, nofun⟩
    · rintro (loads | loads)
      · exact absurd loads (ended (fun shown => refresh (.inl shown)) accountEnds)
      · exact absurd loads (ended (fun shown => refresh (.inr shown)) activityEnds)
    · exact absurd loads (ended pagination.mp pageEnds)
    · exact absurd loads (ended nfts.mp listEnds)
    · exact absurd loads (ended nftsPagination.mp pagesEnds)

/-- A resource that a refresh has settled stays settled as long as the refresh is current. -/
theorem LoadMove.stays_settled {generation : Nat} (move : LoadMove settled view next)
    (bound : generation ≤ view.refreshGeneration)
    (current : next.activeRefresh.any (·.1 == generation) = true) :
    (view.account.phase ≠ .loading → next.account.phase ≠ .loading) ∧
      (view.activity.phase ≠ .loading → next.activity.phase ≠ .loading) := by
  cases move with
  | idle | page | nftRefresh | nftPage | endPage | endNfts | endNftPage => exact ⟨id, id⟩
  | refresh ids listed =>
    have newest : view.refreshGeneration + 1 = generation := by simpa using current
    omega
  | publish account activity accountSettles activitySettles =>
    refine ⟨fun ended => ?_, fun ended => ?_⟩
    · rcases accountSettles with rfl | settles
      · exact ended
      · exact settles
    · rcases activitySettles with rfl | settles
      · exact ended
      · exact settles
  | finish | drop | cancelRefresh | stop => cases current

end Machine

section Effects

variable {P : Platform} {log : Log P} {call : PublicCall} {family : OperationFamily}
  {generation : Nat} {before after : State} {settled : Prop}

@[simp] theorem revised_loads (state : State) : state.revised.loads = state.loads := by
  rw [revised_eq]
  rfl

/-- The resources after a shutdown. -/
theorem releaseAll_loads (codec : JournalCodec) (state : State) :
    LoadMove settled state.loads (state.releaseAll codec).loads := by
  have mark : ∀ (slot : Slot) (resource : ResourceState),
      (if slot.isSome then markLoadingCancelled resource else resource).phase = .loading →
        resource.phase = .loading ∧ slot = none := by
    intro slot resource loads
    cases slot with
    | none => exact ⟨loads, rfl⟩
    | some active => exact absurd loads (markLoadingCancelled_phase _)
  have idle : ∀ (slot : Slot) (resource : ResourceState),
      (if slot.isSome then ResourceState.idle else resource).phase = .loading →
        resource.phase = .loading ∧ slot = none := by
    intro slot resource loads
    cases slot with
    | none => exact ⟨loads, rfl⟩
    | some active => cases loads
  unfold State.releaseAll
  cases state.activeSend with
  | none =>
    exact .stop _ _ _ _ _ (mark _ _) (mark _ _) (idle _ _) (mark _ _) (idle _ _)
  | some active =>
    obtain ⟨workflow, snapshot, cancelled⟩ := cancelWorkflow_eq codec state
    simp only [Option.isSome_some, if_true, cancelled]
    exact .stop _ _ _ _ _ (mark _ _) (mark _ _) (idle _ _) (mark _ _) (idle _ _)

theorem ClientEffect.loadMove (effect : ClientEffect call before after) :
    LoadMove settled before.loads after.loads := by
  cases effect with
  | allocate | countSend | countResolution | countPreview | reservePreview | trackPreview
  | releasePreview | wait | disarm | close | closeAndWait => exact .idle
  | dropRefresh generation active => exact .drop generation active
  | cancelRefresh generation ids active =>
    rw [revised_loads]
    exact .cancelRefresh
  | cancelPagination active =>
    rw [revised_loads]
    exact .endPage .idle nofun
  | cancelNftRefresh active =>
    rw [revised_loads]
    exact .endNfts .idle nofun
  | cancelNftPagination active =>
    rw [revised_loads]
    exact .endNftPage .idle nofun
  | cancelSend asked active workflow snapshot =>
    rw [revised_loads]
    exact .idle
  | stop rounds codec asked running released releases after revises =>
    have same : ({ after with shutdown := true, waiters := [] } : State).loads =
        released.loads := by
      rw [revises]
      change State.loads (if _ then _ else _) = _
      split
      · exact revised_loads released
      · rfl
    rw [same, releases]
    exact releaseAll_loads codec { before with closing := true }

theorem OpeningEffect.loadMove (effect : OpeningEffect before after) :
    LoadMove settled before.loads after.loads := by
  cases effect with
  | resolution nextId later running vacant => exact .idle
  | send nextId workflow later running vacant =>
    rw [revised_loads]
    exact .idle
  | refresh nextId account activity later running =>
    rw [revised_loads]
    exact .refresh _ nofun
  | pagination nextId id later running alone idle =>
    rw [revised_loads]
    exact .page _ alone
  | nftRefresh nextId id later running =>
    rw [revised_loads]
    exact .nftRefresh _
  | nftPagination nextId id later running alone idle =>
    rw [revised_loads]
    exact .nftPage _ alone

theorem OwnerEffect.loads_eq (effect : OwnerEffect before family generation after) :
    after.loads = before.loads := by
  cases effect with
  | commit | allocate | remember | releaseResolution => rfl
  | publish | releaseSend | completeResolution =>
    rw [revised_loads]
    rfl

theorem TrackEffect.loads_eq {listed tracked : List HttpRequestId}
    (effect : TrackEffect before family generation listed tracked after) :
    after.loads = before.loads := by
  cases effect <;> rfl

theorem loadOutcome_phase {page : Type} (result : Except DomainError page) :
    (loadOutcome result).2.phase ≠ .loading := by
  rcases result with error | page
  · simp only [loadOutcome]
    split <;> nofun
  · nofun

/-- What the log of a routine says about the loads of a state. -/
structure LoadFits (log : Log P) (state : State) : Prop where
  counted : ∀ {family generation}, loading log = some (family, generation) →
    generation ≤ state.generation family
  account : ∀ {generation}, ResourceSettled log generation (·.snapshot.accountResource) →
    state.isCurrent .refresh generation = true → state.snapshot.accountResource.phase ≠ .loading
  activity : ∀ {generation}, ResourceSettled log generation (·.snapshot.activityResource) →
    state.isCurrent .refresh generation = true →
    state.snapshot.activityResource.phase ≠ .loading

theorem LoadEffect.loadMove (effect : LoadEffect log before family generation after) :
    LoadMove (LoadFits log before) before.loads after.loads := by
  cases effect with
  | refreshed generation value current =>
    obtain ⟨_, account, activity, _, _, _, _, _, _, same, accountSettles, activitySettles⟩ :=
      RefreshValue.apply_eq before value
    rw [revised_loads, same]
    exact .publish account activity accountSettles activitySettles
  | refreshDone generation current account activity =>
    exact .finish fun fits => ⟨fits.account account current, fits.activity activity current⟩
  | paged generation result current =>
    obtain ⟨_, _, _, _, _, _, same⟩ := loaded_activity before result
    rw [revised_loads, same]
    exact .endPage _ (loadOutcome_phase result)
  | nftsRefreshed generation result current =>
    obtain ⟨_, _, _, _, same⟩ := loaded_nfts before result (.inl rfl)
    rw [revised_loads, same]
    exact .endNfts _ (loadOutcome_phase result)
  | nftsPaged generation result current =>
    obtain ⟨_, _, _, _, same⟩ := loaded_nfts before result (.inr rfl)
    rw [revised_loads, same]
    exact .endNftPage _ (loadOutcome_phase result)

/-- Every lock region moves the loads as the machine does. -/
theorem Effect.loadMove (effect : Effect log call before after) :
    LoadMove (LoadFits log before) before.loads after.loads := by
  cases effect with
  | none settled => exact .idle
  | client _ free effect => exact effect.loadMove
  | opening _ free effect untried => exact effect.loadMove
  | owner family generation _ owns effect =>
    rw [effect.loads_eq]
    exact .idle
  | start family generation listed id _ owns effect =>
    rw [effect.loads_eq]
    exact .idle
  | finish family generation listed id _ unloaded heard effect =>
    rw [effect.loads_eq]
    exact .idle
  | load family generation _ reserved effect => exact effect.loadMove

end Effects

section Fleet

variable {P : Platform} {log other : Log P} {call : PublicCall} {before after : State}

theorem loading_append {older : Log P} {reserved : OperationFamily × Nat}
    (known : loading older = some reserved) (newer : Log P) :
    loading (newer ++ older) = some reserved := by
  induction newer with
  | nil => exact known
  | cons observation newer ih =>
    cases observation with
    | locked before after =>
      rw [List.cons_append, loading, ih]
      rfl
    | answered request answer => exact ih

theorem ResourceSettled.loading {generation : Nat} {resource : State → ResourceState}
    (settled : ResourceSettled log generation resource) :
    loading log = some (.refresh, generation) := by
  obtain ⟨newer, before, after, older, rfl, reserved, -⟩ := settled
  rw [List.append_cons]
  exact loading_append reserved _

/-- The load that a region reserves carries the newest generation. -/
theorem loadTaken_generation {family : OperationFamily} {generation : Nat}
    (reserved : loadTaken before after = some (family, generation)) :
    generation = after.generation family := by
  obtain ⟨load, -, found⟩ := List.exists_of_findSome?_eq_some reserved
  split at found
  · cases found
    rfl
  · cases found

/-- A region leaves what the logs of all routines say about the loads true. -/
theorem LoadFits.kept (fits : LoadFits other before) (effect : Effect log call before after) :
    LoadFits other after := by
  have succeeds := effect.succeeds
  have settled : ∀ {generation resource}, ResourceSettled other generation resource →
      after.isCurrent .refresh generation = true →
      generation ≤ before.refreshGeneration ∧ before.isCurrent .refresh generation = true := by
    intro generation resource settled current
    have bound : generation ≤ before.refreshGeneration := fits.counted settled.loading
    exact ⟨bound, succeeds.current bound current⟩
  refine ⟨fun reserved => (fits.counted reserved).trans (succeeds.counted _), ?_, ?_⟩
  · intro generation known current
    obtain ⟨bound, earlier⟩ := settled known current
    exact (effect.loadMove.stays_settled bound current).1 (fits.account known earlier)
  · intro generation known current
    obtain ⟨bound, earlier⟩ := settled known current
    exact (effect.loadMove.stays_settled bound current).2 (fits.activity known earlier)

theorem ResourceSettled.of_cons {observation : Observation State (walletHost P)}
    {generation : Nat} {resource : State → ResourceState}
    (settled : ResourceSettled (observation :: log) generation resource) :
    ResourceSettled log generation resource ∨ ∃ before after, observation = .locked before after ∧
      (after.isCurrent .refresh generation = true → (resource after).phase ≠ .loading) := by
  obtain ⟨newer, before, after, older, split, reserved, ended⟩ := settled
  cases newer with
  | nil =>
    cases split
    exact .inr ⟨before, after, rfl, ended⟩
  | cons first rest =>
    cases split
    exact .inl ⟨rest, before, after, older, rfl, reserved, ended⟩

/-- The region of a routine itself. -/
theorem LoadFits.locked (fits : LoadFits log before) (effect : Effect log call before after) :
    LoadFits (.locked before after :: log) after := by
  have kept := fits.kept effect
  refine ⟨fun {family generation} reserved => ?_, fun known current => ?_,
    fun known current => ?_⟩
  · rw [loading] at reserved
    cases earlier : loading log with
    | none =>
      rw [earlier] at reserved
      exact (loadTaken_generation reserved).le
    | some load =>
      rw [earlier] at reserved
      cases reserved
      exact kept.counted earlier
  · rcases known.of_cons with earlier | ⟨_, _, same, ended⟩
    · exact kept.account earlier current
    · cases same
      exact ended current
  · rcases known.of_cons with earlier | ⟨_, _, same, ended⟩
    · exact kept.activity earlier current
    · cases same
      exact ended current

theorem LoadFits.answered {state : State} (fits : LoadFits log state) {request : HostCall P}
    {answer : HostCall.Answer P request} : LoadFits (.answered request answer :: log) state := by
  have earlier : ∀ {generation resource},
      ResourceSettled (.answered request answer :: log) generation resource →
      ResourceSettled log generation resource := by
    intro generation resource known
    rcases known.of_cons with earlier | ⟨_, _, same, _⟩
    · exact earlier
    · cases same
  exact ⟨fits.counted, fun known => fits.account (earlier known),
    fun known => fits.activity (earlier known)⟩

theorem loadFits_nil (state : State) : LoadFits ([] : Log P) state := by
  have unsettled : ∀ {generation resource},
      ¬ ResourceSettled ([] : Log P) generation resource := by
    intro generation resource settled
    cases settled.loading
  exact ⟨nofun, fun known => absurd known unsettled, fun known => absurd known unsettled⟩

/-- The resources of a client show its loads, whatever its routines do. -/
def loadFleet (host : HostModel P) : System.Fleet (custodyContract host) fun _ => True where
  state := fun state => state.loads.Flagged
  routine := LoadFits
  pair := fun _ _ => True
  symm := id
  fresh := fun setup => ⟨by nofun, ⟨nofun, nofun⟩, ⟨nofun, nofun⟩, ⟨nofun, nofun⟩, .inl rfl,
    .inl rfl, nofun⟩
  idle := fun _ => loadFits_nil _
  apart := fun _ => trivial
  locked := fun effect _ flagged fits =>
    ⟨(effect : Effect _ _ _ _).loadMove.flagged fits flagged, fits.locked effect⟩
  beside := fun effect _ _ _ fits _ => ⟨fits.kept effect, trivial⟩
  answered := fun _ _ fits => fits.answered
  overheard := fun _ _ _ _ _ => trivial

end Fleet

section Late

variable {P : Platform} {log : Log P} {call : PublicCall} {family : OperationFamily}
  {generation : Nat} {before after : State}

/-- A region of a load that has lost its slot changes nothing. -/
theorem Effect.late (effect : Effect log call before after)
    (reserved : loading log = some (family, generation))
    (stale : before.isCurrent family generation = false) : after = before := by
  cases effect with
  | none settled => rfl
  | client _ free effect => cases free.1.symm.trans reserved
  | opening _ free effect untried => cases free.1.symm.trans reserved
  | owner _ _ _ owns effect => cases (owns.elim (·.1) (·.1)).symm.trans reserved
  | start _ _ listed id _ owns effect => cases owns.1.symm.trans reserved
  | finish _ _ listed id _ unloaded heard effect => cases unloaded.symm.trans reserved
  | load _ _ _ known effect =>
    cases known.symm.trans reserved
    rw [effect.current] at stale
    cases stale

variable {host : HostModel P} {allowed : (walletSystem host).View → (walletSystem host).Event → Prop}

/-- The resources of a state show the loads that are active, and a refresh never runs beside a
page of the same list. -/
structure State.ShowsLoads (state : State) : Prop where
  refresh : state.snapshot.accountResource.phase = .loading ∨
    state.snapshot.activityResource.phase = .loading → state.activeRefresh.isSome = true
  pagination : state.snapshot.activityPaginationResource.phase = .loading ↔
    state.activePagination.isSome = true
  nfts : state.snapshot.nftsResource.phase = .loading ↔ state.activeNftRefresh.isSome = true
  nftsPagination : state.snapshot.nftsPaginationResource.phase = .loading ↔
    state.activeNftPagination.isSome = true
  activityAlone : ¬ (state.activeRefresh.isSome = true ∧ state.activePagination.isSome = true)
  nftsAlone : ¬ (state.activeNftRefresh.isSome = true ∧ state.activeNftPagination.isSome = true)

theorem LoadView.Flagged.shows {state : State} (flagged : state.loads.Flagged) :
    state.ShowsLoads := by
  have alone : ∀ {first second : Slot}, first = none ∨ second = none →
      ¬ (first.isSome = true ∧ second.isSome = true) := by
    rintro first second (rfl | rfl) ⟨one, two⟩
    · cases one
    · cases two
  exact ⟨flagged.refresh, flagged.pagination, flagged.nfts, flagged.nftsPagination,
    alone flagged.activityAlone, alone flagged.nftsAlone⟩

/-- A load that lost its slot to a newer load, a cancellation or a shutdown changes no field of
the state any more, whatever its requests are answered with. -/
def LateResultsIgnored (history : List (walletSystem host).Event) : Prop :=
  ∀ {newer between older : List (walletSystem host).Event} {client routine other : Nat}
    {family : OperationFamily} {generation : Nat} {held lost before after : State},
    history = newer ++ .observed client routine (.locked before after) ::
      (between ++ .observed client other (.locked held lost) :: older) →
    loading (System.traceOf routine older : Log P) = some (family, generation) →
    lost.isCurrent family generation = false → after = before

/-- Every state of a client succeeds the states its regions left. -/
theorem succeeds_of_run {start view : (walletSystem host).View}
    (run : System.Run (custodyContract host) allowed start view) (empty : start.history = [])
    (unlaunched : ∀ client, start.clients client = none) (client : Nat) :
    System.ClientKnown (fun regions state => ∀ region ∈ regions,
      State.Succeeds region.after state) view client := by
  refine run.client_invariant empty unlaunched
    (fun _ _ member => absurd member List.not_mem_nil) ?_ client
  intro view client routine invocation before after _ _ known effect region member
  have succeeds := Effect.succeeds (effect : Effect (P := P) _ _ before after)
  rcases List.mem_cons.mp member with rfl | earlier
  · exact .refl _
  · exact (known region earlier).trans succeeds

theorem lateResultsIgnored_of_run {start view : (walletSystem host).View}
    (run : System.Run (custodyContract host) allowed start view) (empty : start.history = [])
    (unlaunched : ∀ client, start.clients client = none) :
    LateResultsIgnored view.history := by
  intro newer between older client routine other family generation held lost before after split
    reserved lostSlot
  obtain ⟨late, _, lateRun, lateMove, _, lateHistory⟩ := run.origin empty split
  obtain ⟨losing, _, losingRun, losingMove, _, losingHistory⟩ :=
    lateRun.origin empty lateHistory
  have succeeded := succeeds_of_run lateRun empty unlaunched client
  cases lateMove with
  | locked _ _ invocation _ _ alive started effect =>
    have invoked : ∃ call, .invoked client routine call ∈ losing.history := by
      obtain ⟨observation, member⟩ : ∃ observation,
          observation ∈ System.traceOf routine losing.history := by
        refine List.exists_mem_of_ne_nil _ fun nothing => ?_
        rw [← losingHistory, nothing] at reserved
        cases reserved
      obtain ⟨owner, observed⟩ := System.mem_traceOf.mp member
      obtain ⟨call, invoked⟩ := losingRun.started empty observed
      have grows : losing.history ⊆ late.history :=
        losingHistory ▸ System.subset_of_split lateHistory
      obtain ⟨rfl, _⟩ := lateRun.invoked_unique empty started (grows invoked)
      exact ⟨call, invoked⟩
    -- When the slot was lost, the routine had counted its generation already.
    have counted : generation ≤ lost.generation family := by
      cases losingMove with
      | locked _ _ asked _ _ heldAlive _ losingEffect =>
        obtain ⟨call, invoked⟩ := invoked
        have holds := losingRun.fleet (loadFleet host) empty unlaunched (fun _ => trivial)
          heldAlive
        rw [← losingHistory] at reserved
        have bound := (holds.routine invoked).counted reserved
        exact bound.trans ((Effect.succeeds losingEffect).counted _)
    have stale : before.isCurrent family generation = false := by
      refine eq_false_of_ne_true fun current => ?_
      have member : (⟨other, held, lost⟩ : System.LockRegion (walletSystem host)) ∈
          System.regionsOf client late.history := by
        refine System.mem_regionsOf.mpr ?_
        rw [lateHistory]
        exact List.mem_append_right _ List.mem_cons_self
      have earlier := (succeeded.alive alive _ member).current counted current
      rw [lostSlot] at earlier
      cases earlier
    refine Effect.late effect ?_ stale
    have traced : System.traceOf routine late.history =
        System.traceOf routine (between ++ [.observed client other (.locked held lost)]) ++
          System.traceOf routine older := by
      rw [lateHistory, List.append_cons]
      exact List.filterMap_append
    rw [traced]
    exact loading_append reserved _

/-- Late results are ignored and the loading flags match the running work. -/
theorem loading_flags_match {world : host.World} {config : (walletSystem host).Config}
    (reached : System.Reachable allowed (System.initial world) config) :
    (∀ client state, config.clients client = some state → state.ShowsLoads) ∧
      LateResultsIgnored config.history := by
  have run := custody_disciplined reached
  refine ⟨fun client state alive => ?_, lateResultsIgnored_of_run run rfl fun _ => rfl⟩
  exact (run.fleet (loadFleet host) rfl (fun _ => rfl) (fun _ => trivial) alive).state.shows

/-- A refresh that is superseded while its requests are pending, and answered afterwards. -/
def supersededSchedule : List plainHost.system.Action :=
  plainInvoke .refresh ++ plainAdvance 0 4 noTransactionsBody ++ [.invoke 0 .refresh] ++
    plainAdvance 1 4 noTransactionsBody ++ plainAdvance 0 6 noTransactionsBody

/-- The routines of the client's regions, with the refresh that is current after each. -/
def refreshRegions (config : plainHost.system.Config) : List (Nat × Option Nat) :=
  (System.regionsOf 0 config.history).map fun region =>
    (region.routine, (State.activeRefresh region.after).map (·.1))

set_option maxRecDepth 20000 in
theorem loading_flags_match_superseded : ∃ config,
    plainStart.run System.unchecked supersededSchedule = some config ∧
      (refreshRegions config).take 5 =
        [(0, some 2), (0, some 2), (0, some 2), (1, some 2), (1, some 1)] ∧
      (∀ client state, config.clients client = some state → State.ShowsLoads state) ∧
      LateResultsIgnored config.history := by
  have ran : (plainStart.run System.unchecked supersededSchedule).map
      (fun config => (refreshRegions config).take 5) =
        some [(0, some 2), (0, some 2), (0, some 2), (1, some 2), (1, some 1)] := by
    decide +kernel
  obtain ⟨config, ran, regions⟩ := Option.map_eq_some_iff.mp ran
  exact ⟨config, ran, regions, loading_flags_match (.of_unchecked ran)⟩

end Late

end WalletEngine
