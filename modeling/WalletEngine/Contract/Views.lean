import WalletEngine.Contract.Client

/-! # Views and previews leave sends alone

A quiet operation runs lock regions that keep the tracked state, and calls that
carry no obligation. The page loads, the previews and the checks before an NFT
transfer are quiet. -/

namespace WalletEngine

variable {P : Platform} {α β : Type}

/-- No send generation has been taken. -/
def Unreserved (log : Log P) : Prop := ∀ generation, ¬ ReservedSend log generation

namespace Engine

variable {region : Locked α}

/-- Whatever call it is part of, the operation keeps the tracked state; `success`
holds of what it returns. -/
def Quiet (success : Log P → α → Prop) (log : Log P) (operation : Engine P α) : Prop :=
  ∀ call, (∀ rounds, call ≠ .shutdown rounds) →
    operation.Follows call (fun later value => success later value ∧
      (Unreserved log → Unreserved later)) log

variable {log : Log P} {success stronger : Log P → α → Prop} {final : Log P → β → Prop}

theorem Quiet.follows {operation : Engine P α} (quiet : operation.Quiet success log)
    {call : PublicCall} (other : ∀ rounds, call ≠ .shutdown rounds) :
    operation.Follows call success log :=
  (quiet call other).mono fun _ _ _ known => known.1

theorem Quiet.bind {operation : Engine P α} {next : α → Engine P β}
    (first : operation.Quiet success log)
    (rest : ∀ later value, success later value → (next value).Quiet final later) :
    (operation >>= next).Quiet final log := by
  intro call other
  refine (first call other).bind fun later value _ known => ?_
  refine (rest later value known.1 call other).mono fun last _ _ facts => ?_
  exact ⟨facts.1, fun free => facts.2 (known.2 free)⟩

theorem quiet_pure {value : α} (holds : success log value) :
    (pure value : Engine P α).Quiet success log :=
  fun _ _ => follows_pure ⟨holds, id⟩

theorem quiet_throw {error : WalletClientError} : (throw error : Engine P α).Quiet success log :=
  fun _ _ => follows_throw

theorem quiet_withLock {fact : State → State → α → Prop} (keeps : Keeps fact region)
    (succeeds : ∀ state after value, fact state after value →
      success (.locked state after :: log) value) :
    (withLock region : Engine P α).Quiet success log := by
  intro call other
  refine withLock_ends (fun state => (keeps state).mono fun result after ended => ?_)
    fun _ _ _ known => known
  refine ⟨ended.1 ▸ .untouched, fun value found => ?_⟩
  refine ⟨succeeds state after value (ended.2 _ found), fun free generation => ?_⟩
  rintro ⟨before, later, held, raised, reached⟩
  rcases List.mem_cons.mp held with same | earlier
  · cases same
    have kept : after.sendGeneration = state.sendGeneration :=
      congrArg Tracked.sendGeneration ended.1
    omega
  · exact free generation ⟨before, later, earlier, raised, reached⟩

/-- A region whose result carries no information. -/
theorem quiet_withLock_of_tracked (frame : ∀ state, (region state).2.tracked = state.tracked) :
    (withLock region : Engine P α).Quiet (fun _ _ => True) log := by
  have keeps : Keeps (fun _ _ _ => True) region := fun state => ⟨frame state, fun _ _ => trivial⟩
  exact quiet_withLock keeps fun _ _ _ _ => trivial

/-- A region that returns what is shown. -/
theorem quiet_displays {shown : α → WalletSnapshot}
    (keeps : Keeps (fun _ after value => shown value = after.snapshot) region) :
    (withLock region : Engine P α).Quiet
      (fun later value => Displayed later (shown value).send) log :=
  quiet_withLock keeps fun state after _ same =>
    ⟨state, after, List.mem_cons_self, congrArg WalletSnapshot.send same.symm⟩

theorem quiet_await {request : HostCall P}
    (allowed : ∀ call, (∀ rounds, call ≠ .shutdown rounds) → CallMove log call request)
    (spares : ∀ mutation, request = .compareExchangeJournal mutation → ¬ Commits mutation) :
    (await request : Engine P _).Quiet (fun _ _ => True) log := by
  intro call other
  refine await_follows (allowed call other) spares fun answer => ⟨trivial, fun free => ?_⟩
  rintro generation ⟨before, after, held, taken⟩
  exact free generation ⟨before, after, (List.mem_cons.mp held).resolve_left nofun, taken⟩

theorem quiet_execute {request : HttpRequest} (plain : ∀ boc, request.endpoint ≠ .sendBoc boc) :
    (execute request : Engine P _).Quiet (fun _ _ => True) log :=
  quiet_await (fun _ _ => callMove_execute plain) (by nofun)

theorem quiet_cancelRequests {ids : List HttpRequestId} :
    (cancelRequests ids : Engine P _).Quiet (fun _ _ => True) log := by
  induction ids generalizing log with
  | nil => exact quiet_pure trivial
  | cons id rest ih =>
    refine (quiet_await ?_ (by nofun)).bind fun _ _ _ => ih
    exact fun call other rounds same => absurd same (other rounds)

end Engine

open Engine

section Loads

variable {family : OperationFamily} {generation : Nat}

theorem kept_map {region : Locked α} {wrap : α → β} {tracked : Tracked} {state : State}
    {known : State → α → Prop} {fact : State → β → Prop}
    (kept : Region.Ends region state (Kept known tracked))
    (holds : ∀ after value, known after value → fact after (wrap value)) :
    Region.Ends (region >>= fun value => pure (wrap value)) state (Kept fact tracked) := by
  refine Region.ends_bind (kept.mono ?_)
  rintro (error | value) after ⟨same, facts⟩
  · exact kept_error same
  · exact kept_ok same (holds after value (facts value rfl))

theorem reserveLoad_keeps {counter : State → Nat} {endpoint : State → Endpoint}
    {take : Nat → HttpRequestId → State → State}
    (frame : ∀ generation id state, (take generation id state).tracked = state.tracked)
    (other : ∀ state boc, endpoint state ≠ .sendBoc boc) :
    Keeps (fun _ _ taken => Plain taken.2) (reserveLoad counter endpoint take) := by
  refine fun before => Region.ends_get ((allocateRequest_allocates _ _).ends
    (fun _ _ allocated => kept_error allocated.tracked) fun request _ asks allocated => ?_)
  refine Region.ends_get (Region.ends_guard (fun _ => kept_error allocated.tracked) fun _ => ?_)
  exact Region.ends_set (kept_revised ((frame ..).trans allocated.tracked)
    (.of_endpoint asks (other before)))

/-- The update of a page load has the snapshot that is left. -/
theorem finishLoad_keeps {result : Except DomainError α} {load : State → α → State × Nat}
    {settle : ResourceState → State → State}
    {report : WalletOperationOutcome → Nat → WalletSnapshot → WalletUpdate}
    (loads : ∀ state page, (load state page).1.tracked = state.tracked)
    (settles : ∀ resource state, (settle resource state).tracked = state.tracked)
    (reports : ∀ outcome added snapshot, (report outcome added snapshot).snapshot = snapshot) :
    Keeps (fun _ after update => update.snapshot = after.snapshot)
      (finishLoad family generation result load settle report) := by
  refine fun before => Region.ends_get (Region.ends_ite (fun _ => kept_ok rfl (reports ..)) ?_)
  refine fun _ => Region.ends_set (kept_revised ((settles ..).trans ?_) (reports ..))
  cases result with
  | ok page => exact loads before page
  | error error => rfl

theorem cancelLoad_tracked {settle : State → State}
    (settles : ∀ state, (settle state).tracked = state.tracked) (state : State) :
    (cancelLoad family settle state).2.tracked = state.tracked := by
  rw [cancelLoad, Region.get_bind, Region.ite_apply]
  split
  · rw [Region.set_bind, Region.bind_pure_state, nextRevision_tracked, settles]
  · rfl

/-- Reserving a load either reports a skipped one, or asks for a page. -/
def Reserves (log : Log P) {σ : Type} (request : σ → HttpRequest) : WalletUpdate ⊕ σ → Prop
  | .inl skipped => Displayed log skipped.snapshot.send
  | .inr reserved => ∀ boc, (request reserved).endpoint ≠ .sendBoc boc

theorem Reserves.of_kept {log : Log P} {σ : Type} {request : σ → HttpRequest}
    {found : WalletUpdate ⊕ σ} {state after : State}
    (kept : found.elim (·.snapshot = after.snapshot) (Plain <| request ·)) :
    Reserves (.locked state after :: log) request found := by
  rcases found with skipped | reserved
  · exact ⟨state, after, List.mem_cons_self, congrArg WalletSnapshot.send (Eq.symm kept)⟩
  · exact kept

end Loads

section Activity

variable {log : Log P}

theorem applyActivityPage_tracked (state : State) (page : ActivityPage) :
    (applyActivityPage state page).1.tracked = state.tracked := by
  unfold applyActivityPage
  split <;> rfl

theorem reserveLoadMoreActivity_keeps :
    Keeps (fun _ after found => found.elim (·.snapshot = after.snapshot) (Plain ·.2))
      reserveLoadMoreActivity := by
  refine fun before => ensureRunning_ends (fun _ => kept_error rfl) fun _ => Region.ends_get ?_
  refine Region.ends_ite (fun _ => kept_ok rfl rfl) fun _ => ?_
  rcases before.activityCursor with _ | cursor
  · exact kept_ok rfl rfl
  · refine kept_map (reserveLoad_keeps ?_ ?_ before) ?_
    · exact fun _ _ _ => rfl
    · rintro _ _ ⟨⟩
    · exact fun _ _ plain => plain

theorem finishLoadMoreActivity_keeps (generation : Nat)
    (result : Except DomainError ActivityPage) :
    Keeps (fun _ after update => update.snapshot = after.snapshot)
      (finishLoadMoreActivity generation result) :=
  finishLoad_keeps applyActivityPage_tracked (fun _ _ => rfl) fun _ _ _ => rfl

theorem loadMoreActivity_quiet : (loadMoreActivity : Engine P _).Quiet
    (fun later update => Displayed later update.snapshot.send) log := by
  have reserve : (withLock reserveLoadMoreActivity : Engine P _).Quiet
      (fun later found => Reserves later (·.2) found) log :=
    quiet_withLock reserveLoadMoreActivity_keeps fun _ _ _ => .of_kept
  refine reserve.bind fun later found reserved => ?_
  rcases found with skipped | ⟨generation, request⟩
  · exact quiet_pure reserved
  · refine (quiet_execute reserved).bind fun answered result _ => ?_
    exact quiet_displays (finishLoadMoreActivity_keeps _ _)

theorem cancelLoadMoreActivityRegion_tracked (state : State) :
    (cancelLoadMoreActivityRegion state).2.tracked = state.tracked := by
  apply cancelLoad_tracked
  intro state
  rfl

theorem cancelLoadMoreActivity_quiet :
    (cancelLoadMoreActivity : Engine P _).Quiet (fun _ _ => True) log :=
  (quiet_withLock_of_tracked cancelLoadMoreActivityRegion_tracked).bind
    fun _ _ _ => quiet_cancelRequests

end Activity

section Nfts

variable {generation : Nat} {state after : State} {log : Log P}

theorem reserveRefreshNfts_keeps :
    Keeps (fun _ _ taken => Plain taken.2.1) reserveRefreshNfts := by
  refine fun before => ensureRunning_ends (fun _ => kept_error rfl) fun _ => Region.ends_get ?_
  refine kept_map (reserveLoad_keeps ?_ ?_ before) ?_
  · exact fun _ _ _ => rfl
  · rintro _ _ ⟨⟩
  · exact fun _ _ plain => plain

theorem reserveLoadMoreNfts_keeps :
    Keeps (fun _ after found => found.elim (·.snapshot = after.snapshot) (Plain ·.2.1))
      reserveLoadMoreNfts := by
  refine fun before => ensureRunning_ends (fun _ => kept_error rfl) fun _ => Region.ends_get ?_
  refine Region.ends_ite (fun _ => kept_ok rfl rfl) fun _ => ?_
  refine kept_map (reserveLoad_keeps ?_ ?_ before) ?_
  · exact fun _ _ _ => rfl
  · rintro _ _ ⟨⟩
  · exact fun _ _ plain => plain

theorem finishRefreshNfts_keeps (generation : Nat) (result : Except DomainError NftPage) :
    Keeps (fun _ after update => update.snapshot = after.snapshot)
      (finishRefreshNfts generation result) :=
  finishLoad_keeps (fun _ _ => rfl) (fun _ _ => rfl) fun _ _ _ => rfl

theorem refreshNfts_quiet : (refreshNfts : Engine P _).Quiet
    (fun later update => Displayed later update.snapshot.send) log := by
  have reserve : (withLock reserveRefreshNfts : Engine P _).Quiet
      (fun _ taken => Plain taken.2.1) log :=
    quiet_withLock reserveRefreshNfts_keeps fun _ _ _ plain => plain
  refine reserve.bind fun later taken plain => ?_
  obtain ⟨generation, request, previous, network⟩ := taken
  refine quiet_cancelRequests.bind fun _ _ _ => (quiet_execute plain).bind fun _ result _ => ?_
  exact quiet_displays (finishRefreshNfts_keeps _ _)

theorem cancelRefreshNftsRegion_tracked (state : State) :
    (cancelRefreshNftsRegion state).2.tracked = state.tracked := by
  apply cancelLoad_tracked
  intro state
  rfl

theorem cancelRefreshNfts_quiet : (cancelRefreshNfts : Engine P _).Quiet (fun _ _ => True) log :=
  (quiet_withLock_of_tracked cancelRefreshNftsRegion_tracked).bind fun _ _ _ => quiet_cancelRequests

theorem finishLoadMoreNfts_keeps (generation : Nat) (result : Except DomainError NftPage) :
    Keeps (fun _ after update => update.snapshot = after.snapshot)
      (finishLoadMoreNfts generation result) :=
  finishLoad_keeps (fun _ _ => rfl) (fun _ _ => rfl) fun _ _ _ => rfl

theorem loadMoreNfts_quiet : (loadMoreNfts : Engine P _).Quiet
    (fun later update => Displayed later update.snapshot.send) log := by
  have reserve : (withLock reserveLoadMoreNfts : Engine P _).Quiet
      (fun later found => Reserves later (·.2.1) found) log :=
    quiet_withLock reserveLoadMoreNfts_keeps fun _ _ _ => .of_kept
  refine reserve.bind fun later found reserved => ?_
  rcases found with skipped | ⟨generation, request, network⟩
  · exact quiet_pure reserved
  · refine (quiet_execute reserved).bind fun answered result _ => ?_
    exact quiet_displays (finishLoadMoreNfts_keeps _ _)

theorem cancelLoadMoreNftsRegion_tracked (state : State) :
    (cancelLoadMoreNftsRegion state).2.tracked = state.tracked := by
  apply cancelLoad_tracked
  intro state
  rfl

theorem cancelLoadMoreNfts_quiet : (cancelLoadMoreNfts : Engine P _).Quiet (fun _ _ => True) log :=
  (quiet_withLock_of_tracked cancelLoadMoreNftsRegion_tracked).bind
    fun _ _ _ => quiet_cancelRequests

end Nfts

end WalletEngine
