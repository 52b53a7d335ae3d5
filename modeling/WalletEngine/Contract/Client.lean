import WalletEngine.Contract.Resolver

/-! # Recovery, refresh, cancellation and shutdown follow the rules -/

namespace WalletEngine

variable {P : Platform} {call : PublicCall} {log : Log P}

/-- The client showed a send snapshot when a region of the operation ended. -/
def Displayed (log : Log P) (snapshot : SendSnapshot) : Prop :=
  ∃ before after, Held log before after ∧ after.snapshot.send = snapshot

section Frames

/-- A region that leaves the tracked state alone. -/
theorem withLock_follows_of_tracked {α : Type} {region : Locked α}
    (frame : ∀ state, (region state).2.tracked = state.tracked) :
    (Engine.withLock region : Engine P α).Follows call (fun _ _ => True) log := by
  refine Engine.withLock_follows_of_moves fun state => ?_
  rw [frame]
  exact .untouched

/-- A region that leaves the tracked state alone and returns what is shown. -/
theorem withLock_displays {α : Type} {region : Locked α} {shown : α → WalletSnapshot}
    (keeps : Keeps (fun _ after value => shown value = after.snapshot) region) :
    (Engine.withLock region : Engine P α).Follows call
      (fun later value => Displayed later (shown value).send) log :=
  Engine.withLock_keeps keeps fun state after _ same =>
    ⟨state, after, List.mem_cons_self, congrArg WalletSnapshot.send same.symm⟩

theorem execute_follows {request : HttpRequest} (plain : ∀ boc, request.endpoint ≠ .sendBoc boc) :
    (Engine.execute request : Engine P _).Follows call (fun _ _ => True) log :=
  Engine.await_follows (callMove_execute plain) nofun fun _ => trivial

/-- Cancelling requests never fails. -/
theorem cancelRequests_obeys {rule : Discipline State (walletHost P)} {ids : List HttpRequestId}
    {failure : Log P → WalletClientError → Prop}
    (allowed : ∀ later, log <:+ later → ∀ id, rule.call later (.cancel id)) :
    Fallible.Obeys rule (fun later _ => log <:+ later ∧
      (Uncommitted log → Uncommitted later)) failure log
      (Engine.cancelRequests ids : Engine P _) := by
  induction ids generalizing log with
  | nil => exact ⟨List.suffix_refl log, id⟩
  | cons id rest ih =>
    have one : Fallible.Obeys rule (fun later _ => log <:+ later ∧
        (Uncommitted log → Uncommitted later)) failure log
        (Engine.cancelRequest id : Engine P _) :=
      Fallible.obeys_await (allowed log (List.suffix_refl log) id) fun _ =>
        ⟨List.suffix_cons _ _, fun free => free.answered nofun⟩
    refine one.bind fun later _ grows kept => ?_
    refine (ih fun last grown => allowed last (grows.trans grown)).mono ?_ fun _ _ _ held => held
    exact fun last _ _ known => ⟨grows.trans known.1, fun free => known.2 (kept.2 free)⟩

theorem cancelRequests_follows {ids : List HttpRequestId}
    (allowed : ∀ later, log <:+ later → ∀ id, CallMove later call (.cancel id)) :
    (Engine.cancelRequests ids : Engine P _).Follows call (fun _ _ => True) log :=
  (cancelRequests_obeys allowed).mono (fun _ _ _ known => ⟨trivial, known.2⟩)
    fun _ _ _ held => held

/-- Only a shutdown has to justify its cancellations. -/
theorem cancelRequests_follows_of_ne {ids : List HttpRequestId}
    (other : ∀ rounds, call ≠ .shutdown rounds) :
    (Engine.cancelRequests ids : Engine P _).Follows call (fun _ _ => True) log :=
  cancelRequests_follows fun _ _ _ rounds same => absurd same (other rounds)

end Frames

section Resolve

theorem reserveResolvePending_ends (state : State) :
    Region.Ends reserveResolvePending state fun result after =>
      StateMove log call state.tracked after.tracked ∧ ∀ ticket, result = .ok ticket →
        ticket.config = state.config ∧ ticket.journalKey = sendKey ticket.config ∧
          ticket.accountRequest.endpoint = .getAddressInformation ticket.config.address := by
  refine ensureRunning_ends (fun _ => ⟨.untouched, forall_of_error⟩) fun _ => Region.ends_bind ?_
  refine (reserveResolution_ends resolveRequests_allocates state).mono ?_
  rintro (error | taken) after reserved
  · exact ⟨reserved.moved.1, forall_of_error⟩
  · obtain ⟨moved, known⟩ := reserved.moved
    obtain ⟨same, asks⟩ := known taken rfl
    refine ⟨moved, ?_⟩
    rintro _ ⟨⟩
    exact ⟨same, rfl, asks.trans (by rw [same])⟩

theorem completeStandaloneResolution_follows {generation : Nat} {published : Option SendSnapshot}
    (presentable : ∀ snapshot ∈ published, Presentable log snapshot) :
    (Engine.withLock (completeStandaloneResolution generation published) : Engine P _).Follows call
      (fun later snapshot => Displayed later snapshot) log := by
  exact Engine.withLock_ends (completeStandaloneResolution_ends presentable)
    fun state after _ same => ⟨state, after, List.mem_cons_self, same⟩

/-- The request that reads the provider clock of a standalone resolution. -/
theorem clock_follows {generation : Nat} {config : WalletClientConfig} {request : HttpRequest}
    (asks : request.endpoint = .getAddressInformation config.address) :
    (Engine.executeTrackedStandaloneResolutionRequest generation request : Engine P _).Follows call
      (fun later answer => ∀ account, answer.bind (parseAccount P.serde) = .ok account →
        Clocked later config account.syncUtime) log := by
  have plain : Plain request := .of_endpoint asks nofun
  refine (executeTrackedStandaloneResolutionRequest_follows plain).mono ?_
  intro later answer _ known account parsed
  obtain ⟨older, _, suffix⟩ := known
  rcases answer with error | body
  · cases parsed
  · exact ⟨account, rfl, request, body, asks, suffix.subset List.mem_cons_self, parsed⟩

theorem resolvePending_follows :
    (Engine.resolvePending : Engine P _).Follows call
      (fun later snapshot => Displayed later snapshot) log := by
  refine Engine.withLock_bind reserveResolvePending_ends
    fun reserved state after ticket _ held known => ?_
  obtain ⟨same, key, clock⟩ := known
  have configured : Configured reserved ticket.config := ⟨state, after, held, same.symm⟩
  have owned : ∀ later : Log P, ResolutionOwner.Reserved later (.standalone ticket.generation) :=
    fun _ => trivial
  refine Engine.await_bind trivial nofun fun loaded answer grows answered => ?_
  replace configured := configured.mono grows
  rcases answer with error | (_ | journal)
  · exact resolutionFailedError_follows (owned _) _
  · exact completeStandaloneResolution_follows (by simp)
  have seen : Seen loaded (sendKey ticket.config) journal := .inl (key ▸ answered)
  dsimp only
  rcases found : pendingSendRecord P.codec journal ticket.config.recordId
    ticket.config.address with error | (_ | pending)
  · exact resolutionFailedError_follows (owned _) _
  · dsimp only
    rcases read : sendSnapshotFromJournal P.codec journal ticket.config.recordId
      ticket.config.address with error | snapshot
    · exact resolutionFailedError_follows (owned _) _
    · refine completeStandaloneResolution_follows ?_
      rintro shown ⟨⟩
      exact .inr (.stored ticket.config journal snapshot configured seen read)
  dsimp only
  have unsettled : Unsettled loaded ticket.config pending := .of_pendingSendRecord seen found
  refine (clock_follows clock).bind fun clocked answer grown known => ?_
  rcases parsed : answer.bind (parseAccount P.serde) with error | account
  · exact resolutionFailedError_follows (owned _) _
  rcases built : ResolutionRequests.new ticket.config pending.messageHash
    ticket.resolutionIds with error | requests
  · exact resolutionFailedError_follows (owned _) _
  dsimp only
  refine (resolvePendingWithOwner_follows (owned _) (configured.mono grown)
    (unsettled.mono grown) (known account parsed) (ResolutionRequests.new_ok built)).bind
    fun resolved result grown' settled => ?_
  refine completeStandaloneResolution_follows ?_
  rintro shown ⟨⟩
  have whole := grown.trans grown'
  exact .inr (.resolved ticket.config pending result.resolution (configured.mono whole)
    (unsettled.mono whole).inspected unsettled.blocks settled.why)

end Resolve

section Refresh

theorem refresh_follows (other : ∀ rounds, call ≠ .shutdown rounds) :
    (Engine.refresh : Engine P _).Follows call
      (fun later update => Displayed later update.snapshot.send) log := by
  refine (Engine.outcome_follows resolvePending_follows).bind fun resolved _ _ _ => ?_
  have reserve : (Engine.withLock reserveRefresh : Engine P _).Follows call
      (fun _ reserved => Plain reserved.2.1 ∧ Plain reserved.2.2.1) resolved :=
    Engine.withLock_keeps reserveRefresh_keeps fun _ _ _ plain => plain
  refine reserve.bind fun reserved taken _ plain => ?_
  obtain ⟨generation, account, activity, previous⟩ := taken
  refine (cancelRequests_follows_of_ne other).bind fun _ _ _ _ => ?_
  refine (execute_follows plain.1).bind fun _ account _ _ => ?_
  refine (execute_follows plain.2).bind fun _ activity _ _ => ?_
  refine (withLock_follows_of_tracked (publishRefreshComponent_tracked _ _)).bind
    fun _ _ _ _ => ?_
  refine (withLock_follows_of_tracked (publishRefreshComponent_tracked _ _)).bind
    fun _ _ _ _ => ?_
  exact withLock_displays (finishRefresh_keeps _)

theorem cancelRefresh_follows (other : ∀ rounds, call ≠ .shutdown rounds) :
    (Engine.cancelRefresh : Engine P _).Follows call (fun _ _ => True) log := by
  refine (withLock_follows_of_tracked cancelRefreshRegion_tracked).bind fun _ _ _ _ => ?_
  exact cancelRequests_follows_of_ne other

theorem waitForChange_follows {afterRevision : Nat} :
    (Engine.waitForChange afterRevision : Engine P _).Follows call
      (fun later snapshot => Displayed later snapshot.send) log := by
  refine (Engine.outcome_follows resolvePending_follows).bind fun resolved _ _ _ => ?_
  have look : (Engine.withLock (awaitRevision afterRevision) : Engine P _).Follows call
      (fun later found => ∀ snapshot ∈ found, Displayed later snapshot.send) resolved := by
    refine Engine.withLock_keeps (awaitRevision_keeps _) fun state after found known => ?_
    rintro snapshot ⟨⟩
    exact ⟨state, after, List.mem_cons_self, congrArg WalletSnapshot.send known.1.symm⟩
  refine look.bind fun looked found _ shown => ?_
  cases found with
  | some snapshot => exact Engine.follows_pure (shown snapshot rfl)
  | none =>
    refine Engine.await_bind trivial nofun fun _ revised _ _ => ?_
    split
    · exact Engine.follows_throw
    · exact withLock_displays readSnapshot_keeps

end Refresh

section Cancellation

theorem cancelSend_follows :
    (Engine.cancelSend : Engine P _).Follows .cancelSend (fun _ _ => True) log := by
  have region : (Engine.withLock (cancelSendRegion P.codec) : Engine P _).Follows .cancelSend
      (fun _ _ => True) log :=
    Engine.withLock_follows (cancelSendRegion_moves rfl) fun _ _ _ _ => trivial
  exact region.bind fun _ _ _ _ => cancelRequests_follows_of_ne nofun

end Cancellation

section Shutdown

theorem shutdown_follows {total rounds : Nat} (asked : call = .shutdown total) :
    (Engine.shutdown rounds : Engine P _).Follows call (fun _ _ => True) log := by
  induction rounds generalizing log with
  | zero => exact Engine.follows_pure trivial
  | succ rounds ih =>
    refine Engine.withLock_bind (shutdownRound_ends asked)
      fun found before after action _ held down => ?_
    cases action with
    | alreadyDown => exact Engine.follows_pure trivial
    | wait => exact Engine.await_bind trivial nofun fun _ _ _ _ => ih
    | finish ids =>
      have cancels : (Engine.cancelRequests ids : Engine P _).Follows call
          (fun _ _ => True) found :=
        cancelRequests_follows fun later grows _ _ _ =>
          ⟨before, after, held.mono grows, down ids rfl⟩
      exact cancels.bind fun _ _ _ _ => Engine.follows_pure trivial

end Shutdown

end WalletEngine
