import WalletEngine.Host.Attended
import WalletEngine.Safety.AbsenceEvidence

/-! # Recovery that runs alone

What `resolve_pending` comes to when nothing interrupts it: the record it loads and
the answers it gets decide what it stores and what it shows. -/

namespace WalletEngine

variable {P : Platform}

section Reservation

variable {config : WalletClientConfig} {state after : State}

/-- A client that can start a resolution. -/
structure State.Ready (state : State) : Prop where
  running : state.closing = false ∧ state.shutdown = false
  idle : state.activeSend = none ∧ state.activeResolution = none
  generation : state.resolutionGeneration + 1 < u64Bound
  identifiers : state.nextId + 5 < u64Bound
  addressable : acceptedBase state.config.providers.toncenterBaseUrl.toList = true

/-- The state in which the resolution that comes next is active. -/
def State.resolving (state : State) (ids : List HttpRequestId) : State :=
  { state with
    resolutionGeneration := state.resolutionGeneration + 1
    nextId := state.nextId + 5
    activeResolution := some (state.resolutionGeneration + 1, ids) }

/-- The state it leaves when it shows nothing new. -/
def State.resolved (state : State) : State :=
  { state with
    resolutionGeneration := state.resolutionGeneration + 1
    nextId := state.nextId + 5
    activeResolution := none }

theorem buildRequest_isOk_iff (id : HttpRequestId) (endpoint : Endpoint) :
    (∃ request, buildRequest config id endpoint = .ok request) ↔
      acceptedBase config.providers.toncenterBaseUrl.toList = true := by
  unfold buildRequest buildProviderUrl
  by_cases accepted : acceptedBase config.providers.toncenterBaseUrl.toList = true
  · simp [accepted, bind, Except.bind, pure, Except.pure]
  · simp [accepted, bind, Except.bind]

theorem allocateRequestId_of_lt (room : state.nextId + 1 < u64Bound) :
    allocateRequestId state = (.ok ⟨state.nextId⟩, { state with nextId := state.nextId + 1 }) := by
  rw [allocateRequestId, Region.get_bind, Region.ite_apply, if_pos room]
  rfl

theorem allocateRequestId_ok {id : HttpRequestId}
    (ran : allocateRequestId state = (.ok id, after)) :
    state.nextId + 1 < u64Bound ∧ id = ⟨state.nextId⟩ ∧
      after = { state with nextId := state.nextId + 1 } := by
  rw [allocateRequestId, Region.get_bind, Region.ite_apply] at ran
  split at ran
  · cases ran
    exact ⟨‹_›, rfl, rfl⟩
  · cases ran

theorem allocateRequest_of_lt (room : state.nextId + 1 < u64Bound)
    (accepted : acceptedBase config.providers.toncenterBaseUrl.toList = true)
    (endpoint : Endpoint) :
    ∃ request, allocateRequest config endpoint state =
      (.ok request, { state with nextId := state.nextId + 1 }) ∧ request.endpoint = endpoint := by
  obtain ⟨request, built⟩ := (buildRequest_isOk_iff ⟨state.nextId⟩ endpoint).mpr accepted
  refine ⟨request, ?_, (buildRequest_ok built).2⟩
  rw [allocateRequest, Region.bind_of_ok (allocateRequestId_of_lt room), Region.lift_apply, built]

theorem allocateRequest_addressable {endpoint : Endpoint} {request : HttpRequest}
    (ran : allocateRequest config endpoint state = (.ok request, after)) :
    acceptedBase config.providers.toncenterBaseUrl.toList = true ∧
      after = { state with nextId := state.nextId + 1 } := by
  obtain ⟨id, between, allocated, built⟩ := Region.bind_eq_ok.mp ran
  obtain ⟨-, -, rfl⟩ := allocateRequestId_ok allocated
  obtain ⟨built, same⟩ := Region.lift_eq_ok.mp built
  exact ⟨(buildRequest_isOk_iff id endpoint).mp ⟨request, built⟩, same.symm⟩

theorem allocateResolutionIds_of_lt (room : state.nextId + 4 < u64Bound) :
    allocateResolutionIds state =
      (.ok ⟨⟨state.nextId⟩, ⟨state.nextId + 1⟩, ⟨state.nextId + 2⟩, ⟨state.nextId + 3⟩⟩,
        { state with nextId := state.nextId + 4 }) := by
  have first := allocateRequestId_of_lt (show state.nextId + 1 < u64Bound by omega)
  unfold allocateResolutionIds
  rw [Region.bind_of_ok first, Region.bind_of_ok (allocateRequestId_of_lt (by dsimp only; omega)),
    Region.bind_of_ok (allocateRequestId_of_lt (by dsimp only; omega)),
    Region.bind_of_ok (allocateRequestId_of_lt (by dsimp only; omega))]
  rfl

theorem allocateResolutionIds_lt {ids : ResolutionIds}
    (ran : allocateResolutionIds state = (.ok ids, after)) : state.nextId + 4 < u64Bound := by
  unfold allocateResolutionIds at ran
  obtain ⟨_, _, first, ran⟩ := Region.bind_eq_ok.mp ran
  obtain ⟨-, -, rfl⟩ := allocateRequestId_ok first
  obtain ⟨_, _, second, ran⟩ := Region.bind_eq_ok.mp ran
  obtain ⟨-, -, rfl⟩ := allocateRequestId_ok second
  obtain ⟨_, _, third, ran⟩ := Region.bind_eq_ok.mp ran
  obtain ⟨-, -, rfl⟩ := allocateRequestId_ok third
  obtain ⟨_, _, fourth, -⟩ := Region.bind_eq_ok.mp ran
  exact (allocateRequestId_ok fourth).1

/-- What a resolution that comes next takes with it. -/
structure ResolutionTicket.For (ticket : ResolutionTicket) (state : State) : Prop where
  generation : ticket.generation = state.resolutionGeneration + 1
  config : ticket.config = state.config
  journalKey : ticket.journalKey = sendKey state.config
  account : ticket.accountRequest.endpoint = .getAddressInformation state.config.address

theorem reserveResolution_of_ok {σ : Type} {prepare : WalletClientConfig → Locked σ}
    {state after : State} {prepared : σ}
    (idle : state.activeSend = none ∧ state.activeResolution = none)
    (room : state.resolutionGeneration + 1 < u64Bound)
    (ran : prepare state.config
      { state with resolutionGeneration := state.resolutionGeneration + 1 } =
        (.ok prepared, after)) :
    reserveResolution prepare state =
      (.ok (state.resolutionGeneration + 1, state.config, prepared),
        { after with activeResolution := some (state.resolutionGeneration + 1, []) }) := by
  have free : ¬ (state.activeSend.isSome || state.activeResolution.isSome) = true := by
    rw [idle.1, idle.2]
    exact Bool.false_ne_true
  rw [reserveResolution, Region.get_bind, if_neg free]
  dsimp only
  rw [if_neg (Nat.not_le.mpr room), Region.set_bind, Region.bind_of_ok ran]
  rfl

theorem reserveResolvePending_of_ready (ready : state.Ready) :
    ∃ ticket, reserveResolvePending state = (.ok ticket, state.resolving []) ∧
      ticket.For state := by
  have ids := ready.identifiers
  have running : ¬ (state.closing || state.shutdown) = true := by
    rw [ready.running.1, ready.running.2]
    exact Bool.false_ne_true
  obtain ⟨request, asked, endpoint⟩ := @allocateRequest_of_lt state.config
    { state with resolutionGeneration := state.resolutionGeneration + 1 }
    (show state.nextId + 1 < u64Bound by omega) ready.addressable
    (.getAddressInformation state.config.address)
  have numbered := @allocateResolutionIds_of_lt
    { state with
      resolutionGeneration := state.resolutionGeneration + 1, nextId := state.nextId + 1 }
    (show state.nextId + 1 + 4 < u64Bound by omega)
  have reserved := @reserveResolution_of_ok _ (fun config => do
    let accountRequest ← allocateRequest config (.getAddressInformation config.address)
    let resolutionIds ← allocateResolutionIds
    return (accountRequest, resolutionIds)) _ _ _ ready.idle ready.generation
    (by rw [Region.bind_of_ok asked, Region.bind_of_ok numbered, Region.pure_apply])
  rw [reserveResolvePending, ensureRunning_bind, if_neg running, Region.bind_of_ok reserved]
  exact ⟨_, rfl, rfl, rfl, rfl, endpoint⟩

/-- Only a client that is ready starts a resolution. -/
theorem ready_of_reserveResolvePending {ticket : ResolutionTicket}
    (ran : reserveResolvePending state = (.ok ticket, after)) : state.Ready := by
  rw [reserveResolvePending, ensureRunning_bind] at ran
  split at ran
  · cases ran
  rename_i running
  obtain ⟨_, _, reserved, -⟩ := Region.bind_eq_ok.mp ran
  rw [reserveResolution, Region.get_bind] at reserved
  obtain ⟨free, reserved⟩ := Region.guard_eq_ok.mp reserved
  obtain ⟨room, reserved⟩ := Region.guard_eq_ok.mp reserved
  beta_reduce at reserved
  rw [Region.set_bind] at reserved
  obtain ⟨_, _, prepared, -⟩ := Region.bind_eq_ok.mp reserved
  obtain ⟨request, _, asked, prepared⟩ := Region.bind_eq_ok.mp prepared
  obtain ⟨addressable, rfl⟩ := allocateRequest_addressable asked
  obtain ⟨_, _, numbered, -⟩ := Region.bind_eq_ok.mp prepared
  have ids : state.nextId + 1 + 4 < u64Bound := allocateResolutionIds_lt numbered
  exact ⟨by simpa using running, by simpa using free, by omega, by omega, addressable⟩

end Reservation

section Steps

variable {attendant : Attendant P} {state : State} {α β : Type}

/-- The generation of the resolution that comes next. -/
abbrev State.nextResolution (state : State) : Nat := state.resolutionGeneration + 1

theorem trackResolution_resolving (ids : List HttpRequestId)
    (track : List HttpRequestId → List HttpRequestId) :
    trackResolution state.nextResolution track (state.resolving ids) =
      (.ok (), state.resolving (track ids)) := by
  rw [trackResolution, Region.get_bind]
  simp only [State.resolving, ne_eq, not_true_eq_false, if_false]
  rfl

theorem isCurrent_resolving (ids : List HttpRequestId) :
    (state.resolving ids).isCurrent .resolution state.nextResolution = true :=
  isCurrent_resolution.mpr ⟨ids, rfl⟩

/-- The operation reads, and goes on with a value. -/
def Yields (attendant : Attendant P) (state : State) (operation : Engine P α) (value : α) : Prop :=
  ∀ ids desk, ∃ later, operation.solo attendant (state.resolving ids, desk) =
    (.ok value, state.resolving later, desk)

/-- The operation reads, and gives up the resolution. -/
def GivesUp (attendant : Attendant P) (state : State) (operation : Engine P α) : Prop :=
  ∀ ids desk, ∃ error, operation.solo attendant (state.resolving ids, desk) =
    (.error error, state.resolved, desk)

theorem yields_pure (value : α) : Yields attendant state (pure value : Engine P α) value :=
  fun ids _ => ⟨ids, rfl⟩

variable {operation : Engine P α} {next : α → Engine P β} {value : α}

theorem GivesUp.bind (first : GivesUp attendant state operation) :
    GivesUp attendant state (operation >>= next) := by
  intro ids desk
  obtain ⟨error, ran⟩ := first ids desk
  rw [Engine.solo_bind, Region.bind_of_error ran]
  exact ⟨error, rfl⟩

theorem Yields.solo_bind (first : Yields attendant state operation value)
    (ids : List HttpRequestId) (desk : Desk P) :
    ∃ later, (operation >>= next).solo attendant (state.resolving ids, desk) =
      (next value).solo attendant (state.resolving later, desk) := by
  obtain ⟨later, ran⟩ := first ids desk
  rw [Engine.solo_bind, Region.bind_of_ok ran]
  exact ⟨later, rfl⟩

theorem resolutionFailedError_givesUp (message : String) :
    GivesUp attendant state
      (Engine.resolutionFailedError (.standalone state.nextResolution) message : Engine P α) := by
  intro ids desk
  have discarded : discardResolution state.nextResolution (state.resolving ids) =
      (.ok (), state.resolved) := by
    rw [discardResolution, Region.get_bind, if_pos (isCurrent_resolving ids)]
    rfl
  rw [Engine.resolutionFailedError, Engine.solo_bind, Region.bind_apply, Engine.solo_withLock,
    discarded]
  exact ⟨_, rfl⟩

theorem resolutionWorkflowError_givesUp (error : SendWorkflowError) :
    GivesUp attendant state
      (Engine.resolutionWorkflowError (.standalone state.nextResolution) error : Engine P α) :=
  resolutionFailedError_givesUp error.display

theorem executeTracked_yields (request : HttpRequest) :
    Yields attendant state (Engine.executeTrackedStandaloneResolutionRequest
      state.nextResolution request) (attendant.provider request) := by
  intro ids desk
  refine ⟨(ids ++ [request.id]).filter (· != request.id), ?_⟩
  rw [Engine.executeTrackedStandaloneResolutionRequest, Engine.solo_bind, Region.bind_apply,
    Engine.solo_withLock, startResolutionRequest, trackResolution_resolving]
  dsimp only
  rw [Engine.solo_bind, Region.bind_of_ok (Engine.solo_execute ..), Engine.solo_bind,
    Region.bind_apply, Engine.solo_withLock, finishResolutionRequest, trackResolution_resolving]
  rfl

theorem lookup_yields {request : HttpRequest} {parse : P.serde.Body → Except DomainError α}
    (parsed : (attendant.provider request).bind parse = .ok value) :
    Yields attendant state
      (Engine.lookup (.standalone state.nextResolution) request parse) value := by
  intro ids desk
  have executed : Yields attendant state _ _ := executeTracked_yields request
  obtain ⟨later, ran⟩ := executed.solo_bind ids desk
  refine ⟨later, ran.trans ?_⟩
  rw [parsed]
  rfl

theorem lookup_givesUp {request : HttpRequest} {parse : P.serde.Body → Except DomainError α}
    {error : DomainError} (failed : (attendant.provider request).bind parse = .error error) :
    GivesUp attendant state
      (Engine.lookup (.standalone state.nextResolution) request parse) := by
  intro ids desk
  have executed : Yields attendant state _ _ := executeTracked_yields request
  obtain ⟨later, ran⟩ := executed.solo_bind ids desk
  obtain ⟨shown, gaveUp⟩ := @resolutionFailedError_givesUp P attendant state α
    error.developerMessage later desk
  refine ⟨shown, ran.trans ?_⟩
  rw [failed]
  exact gaveUp

end Steps

section Resolver

/-- What the resolver concludes about an internal message; `none` if it fails. -/
def decideInternal (margin providerTime : Nat) (durable : DurableSendRecord)
    (answers : ResolutionAnswers P) : Option SendResolution :=
  match (answers .walletState).bind (parseWalletSeqno P.serde) with
  | .error _ => none
  | .ok indexedSeqno =>
    if durable.seqno < indexedSeqno then some .sequenceNumberConsumed
    else if resolutionWindowExpired providerTime durable.validUntil margin then some .expired
    else some (.stillPending .awaitingWindow)

/-- What the resolver concludes about a message. -/
def decideMessage (margin providerTime : Nat) (durable : DurableSendRecord)
    (answers : ResolutionAnswers P) : Option SendResolution :=
  match durable.kind with
  | .external => decideExternal margin providerTime durable answers
  | .internal => decideInternal margin providerTime durable answers

variable {attendant : Attendant P} {state : State} {α : Type}
  {pending : PendingSendRecord P.codec}

/-- The operation acts on a conclusion about the pending message: it gives up, leaves the message
pending, or goes on to record the resolution. -/
def ActsOn (attendant : Attendant P) (state : State) (pending : PendingSendRecord P.codec)
    (operation : Engine P (ResolvedPending P)) : Option SendResolution → Prop
  | none => GivesUp attendant state operation
  | some (.stillPending reason) =>
    Yields attendant state operation (Engine.stillPending pending reason)
  | some resolution => ∀ ids desk, ∃ later,
      operation.solo attendant (state.resolving ids, desk) =
        (Engine.persistResolution (.standalone state.nextResolution) pending resolution).solo
          attendant (state.resolving later, desk)

theorem Yields.actsOn {operation : Engine P α} {next : α → Engine P (ResolvedPending P)}
    {value : α} {verdict : Option SendResolution} (first : Yields attendant state operation value)
    (rest : ActsOn attendant state pending (next value) verdict) :
    ActsOn attendant state pending (operation >>= next) verdict := by
  have continues : ∀ ids desk, ∃ later,
      (operation >>= next).solo attendant (state.resolving ids, desk) =
        (next value).solo attendant (state.resolving later, desk) := first.solo_bind
  rcases verdict with _ | resolution
  · intro ids desk
    obtain ⟨later, ran⟩ := continues ids desk
    rw [ran]
    exact rest later desk
  · cases resolution with
    | stillPending reason =>
      intro ids desk
      obtain ⟨later, ran⟩ := continues ids desk
      rw [ran]
      exact rest later desk
    | _ =>
      intro ids desk
      obtain ⟨later, ran⟩ := continues ids desk
      rw [ran]
      exact rest later desk

theorem actsOn_persist {resolution : SendResolution}
    (terminal : ∀ reason, resolution ≠ .stillPending reason) :
    ActsOn attendant state pending
      (Engine.persistResolution (.standalone state.nextResolution) pending resolution)
      (some resolution) := by
  cases resolution with
  | stillPending reason => exact absurd rfl (terminal reason)
  | _ => exact fun ids desk => ⟨ids, rfl⟩

variable {config : WalletClientConfig} {providerTime : Nat} {requests : ResolutionRequests}

theorem resolveInternal_actsOn :
    ActsOn attendant state pending
      (Engine.resolveInternal (.standalone state.nextResolution) config pending providerTime requests)
      (decideInternal config.resolutionMarginSeconds providerTime pending.durable
        fun lookup => attendant.provider (requests.of lookup)) := by
  unfold Engine.resolveInternal decideInternal
  cases wallet : (attendant.provider requests.walletState).bind (parseWalletSeqno P.serde) with
  | error error =>
    simp only [ResolutionRequests.of, wallet]
    exact GivesUp.bind (lookup_givesUp wallet)
  | ok seqno =>
    simp only [ResolutionRequests.of, wallet]
    refine Yields.actsOn (lookup_yields wallet) ?_
    change ActsOn _ _ _ (if pending.durable.seqno < seqno then _ else _) _
    split
    · exact actsOn_persist nofun
    · change ActsOn _ _ _ (if resolutionWindowExpired providerTime pending.durable.validUntil
        config.resolutionMarginSeconds = true then _ else _) _
      split
      · exact actsOn_persist nofun
      · exact yields_pure _

/-- The part of the external resolver behind the pending set. -/
theorem resolveUnlisted_actsOn {observed : Bool} :
    ActsOn attendant state pending (do
      let indexedSeqno ← Engine.lookup (.standalone state.nextResolution) requests.walletState
        (parseWalletSeqno P.serde)
      if pending.seqno < indexedSeqno then
        match ← Engine.lookup (.standalone state.nextResolution) requests.executedRecheck
            (parseExecutedMessage P.serde P.hashFrom) with
        | some executed =>
          Engine.persistConfirmed (.standalone state.nextResolution) pending executed
        | none =>
          Engine.persistResolution (.standalone state.nextResolution) pending .replaced
      else if observed && resolutionWindowExpired providerTime pending.validUntil
          config.resolutionMarginSeconds then
        Engine.persistResolution (.standalone state.nextResolution) pending .expired
      else
        return Engine.stillPending pending .awaitingWindow)
      (match (attendant.provider requests.walletState).bind (parseWalletSeqno P.serde) with
        | .error _ => none
        | .ok indexedSeqno =>
          if pending.durable.seqno < indexedSeqno then
            match (attendant.provider requests.executedRecheck).bind
                (parseExecutedMessage P.serde P.hashFrom) with
            | .error _ => none
            | .ok (some executed) =>
              some (.confirmed executed.transactionHash executed.transactionLt)
            | .ok none => some .replaced
          else if observed && resolutionWindowExpired providerTime pending.durable.validUntil
              config.resolutionMarginSeconds then
            some .expired
          else some (.stillPending .awaitingWindow)) := by
  cases wallet : (attendant.provider requests.walletState).bind (parseWalletSeqno P.serde) with
  | error error => exact GivesUp.bind (lookup_givesUp wallet)
  | ok seqno =>
    refine Yields.actsOn (lookup_yields wallet) ?_
    change ActsOn _ _ _ (if pending.durable.seqno < seqno then _ else _) _
    dsimp only
    split
    · cases again : (attendant.provider requests.executedRecheck).bind
        (parseExecutedMessage P.serde P.hashFrom) with
      | error error => exact GivesUp.bind (lookup_givesUp again)
      | ok executed =>
        refine Yields.actsOn (lookup_yields again) ?_
        cases executed with
        | some executed => exact actsOn_persist nofun
        | none => exact actsOn_persist nofun
    · change ActsOn _ _ _ (if (observed && resolutionWindowExpired providerTime
        pending.durable.validUntil config.resolutionMarginSeconds) = true then _ else _) _
      split
      · exact actsOn_persist nofun
      · exact yields_pure _

theorem resolveExternal_actsOn :
    ActsOn attendant state pending
      (Engine.resolveExternal (.standalone state.nextResolution) config pending providerTime requests)
      (decideExternal config.resolutionMarginSeconds providerTime pending.durable
        fun lookup => attendant.provider (requests.of lookup)) := by
  unfold Engine.resolveExternal decideExternal
  simp only [ResolutionRequests.of]
  cases found : (attendant.provider requests.executed).bind
      (parseExecutedMessage P.serde P.hashFrom) with
  | error error => exact GivesUp.bind (lookup_givesUp found)
  | ok executed =>
    refine Yields.actsOn (lookup_yields found) ?_
    cases executed with
    | some executed => exact actsOn_persist nofun
    | none =>
      refine Yields.actsOn (executeTracked_yields requests.pending) ?_
      obtain ⟨⟨isPending, observed⟩, verdict⟩ : ∃ verdict, Engine.pendingVerdict
        ((attendant.provider requests.pending).bind
          (parsePendingMessage P.serde P.hashFrom · pending.durable.messageHash)) = verdict :=
        ⟨_, rfl⟩
      rw [show pending.messageHash = pending.durable.messageHash from rfl]
      simp only [verdict]
      cases isPending with
      | true => exact yields_pure _
      | false =>
        simp only [Bool.false_eq_true, if_false]
        exact resolveUnlisted_actsOn

theorem resolvePendingWithOwner_actsOn :
    ActsOn attendant state pending
      (Engine.resolvePendingWithOwner (.standalone state.nextResolution) config pending
        providerTime requests)
      (decideMessage config.resolutionMarginSeconds providerTime pending.durable
        fun lookup => attendant.provider (requests.of lookup)) := by
  unfold Engine.resolvePendingWithOwner decideMessage
  rw [show pending.kind = pending.durable.kind from rfl]
  cases pending.durable.kind with
  | external => exact resolveExternal_actsOn
  | internal => exact resolveInternal_actsOn

end Resolver

section Completion

variable {attendant : Attendant P} {state : State} {desk : Desk P}
  {pending : PendingSendRecord P.codec} {resolution : SendResolution}
  {mutation : JournalCompareExchange P.codec.Payload}

theorem PendingSendRecord.terminalMutation_expects
    (written : pending.terminalMutation resolution = .ok (some mutation)) :
    mutation.key = ⟨pending.recordId.value, sendSlot⟩ ∧
      mutation.expectedVersion = some pending.journalVersion := by
  rw [terminalMutation] at written
  cases resolved : pending.resolved resolution with
  | none => rw [resolved] at written; cases written
  | some durable =>
    rw [resolved] at written
    obtain ⟨version, -, written⟩ := except_bind_eq_ok.mp written
    obtain ⟨payload, -, written⟩ := except_bind_eq_ok.mp written
    obtain rfl := Option.some.inj (Except.ok.inj written)
    exact ⟨rfl, rfl⟩

/-- The resolver's exchange is applied when the record it inspected is still the newest. -/
theorem persistResolution_solo
    (written : pending.terminalMutation resolution = .ok (some mutation))
    (newest : (desk.slots ⟨pending.recordId.value, sendSlot⟩).head? = some pending.journal)
    (ids : List HttpRequestId) :
    (Engine.persistResolution (.standalone state.nextResolution) pending resolution).solo attendant
        (state.resolving ids, desk) =
      (.ok ⟨resolution, mutation.replacement⟩, state.resolving ids, desk.store mutation) := by
  obtain ⟨key, expected⟩ := PendingSendRecord.terminalMutation_expects written
  have current : (desk.slots mutation.key).head?.map (·.version) = mutation.expectedVersion := by
    rw [key, newest, expected]
    rfl
  have checked : ensureCurrent .resolution state.nextResolution (state.resolving ids) =
      (.ok (), state.resolving ids) := by
    rw [ensureCurrent, Region.get_bind, isCurrent_resolving]
    rfl
  rw [Engine.persistResolution, Engine.persistSendResolution, written]
  dsimp only
  rw [Engine.solo_bind, Region.bind_of_ok (Engine.solo_compareExchangeJournal _ _ _ current)]
  dsimp only
  rw [Engine.ensureCurrentResolution, Engine.solo_bind, Region.bind_apply, Engine.solo_withLock,
    checked]
  rfl

theorem persistResolution_givesUp {error : SendWorkflowError}
    (failed : pending.terminalMutation resolution = .error error) :
    GivesUp attendant state
      (Engine.persistResolution (.standalone state.nextResolution) pending resolution) := by
  unfold Engine.persistResolution Engine.persistSendResolution
  rw [failed]
  exact resolutionWorkflowError_givesUp error

/-- The state with another snapshot of the send on show. -/
def State.showing (state : State) (snapshot : SendSnapshot) : State :=
  if state.snapshot.send = snapshot then state
  else { state with
    snapshot.send := snapshot
    snapshot.revision := state.snapshot.revision + 1
    waiters := state.waiters.filter (state.snapshot.revision + 1 ≤ ·) }

theorem completeStandaloneResolution_none (ids : List HttpRequestId) :
    completeStandaloneResolution state.nextResolution none (state.resolving ids) =
      (.ok state.snapshot.send, state.resolved) := by
  rw [completeStandaloneResolution, ensureCurrent_bind, if_pos (isCurrent_resolving ids)]
  rfl

theorem nextRevision_apply {state : State} (room : state.snapshot.revision + 1 < u64Bound) :
    nextRevision state = (.ok (), { state with
      snapshot.revision := state.snapshot.revision + 1
      waiters := state.waiters.filter (state.snapshot.revision + 1 ≤ ·) }) := by
  rw [nextRevision, Region.get_bind, Region.ite_apply, if_pos room]
  rfl

theorem completeStandaloneResolution_some (ids : List HttpRequestId) {snapshot : SendSnapshot}
    (room : state.snapshot.send = snapshot ∨ state.snapshot.revision + 1 < u64Bound) :
    completeStandaloneResolution state.nextResolution (some snapshot) (state.resolving ids) =
      (.ok snapshot, state.resolved.showing snapshot) := by
  rw [completeStandaloneResolution, ensureCurrent_bind, if_pos (isCurrent_resolving ids),
    Region.modify_bind, Region.get_bind]
  dsimp only
  rw [Region.ite_apply, show (state.resolving ids).snapshot.send = state.snapshot.send from rfl,
    State.showing, show state.resolved.snapshot.send = state.snapshot.send from rfl]
  by_cases same : state.snapshot.send = snapshot
  · rw [if_neg (not_not.mpr same), if_pos same]
    rfl
  · rw [if_pos same, if_neg same, Region.set_bind]
    have revised := @nextRevision_apply
      { state.resolved with snapshot := { state.snapshot with send := snapshot } }
      (room.resolve_left same)
    exact Region.bind_of_ok revised

/-- A resolution that shows something new needs another revision. -/
theorem room_of_completed {ids : List HttpRequestId} {shown snapshot : SendSnapshot} {after : State}
    (ran : completeStandaloneResolution state.nextResolution (some snapshot)
      (state.resolving ids) = (.ok shown, after)) :
    state.snapshot.send = snapshot ∨ state.snapshot.revision + 1 < u64Bound := by
  by_contra full
  obtain ⟨differs, exhausted⟩ := not_or.mp full
  rw [completeStandaloneResolution, ensureCurrent_bind, if_pos (isCurrent_resolving ids),
    Region.modify_bind, Region.get_bind] at ran
  dsimp only at ran
  rw [Region.ite_apply, show (state.resolving ids).snapshot.send = state.snapshot.send from rfl,
    if_pos differs, Region.set_bind, nextRevision, Region.bind_apply, Region.get_bind,
    Region.ite_apply] at ran
  dsimp only at ran
  rw [show (state.resolving ids).snapshot.revision = state.snapshot.revision from rfl,
    if_neg exhausted] at ran
  cases ran

end Completion

section Recovery

variable {attendant : Attendant P} {state : State} {desk left : Desk P}

/-- The result and the state of an operation that ran alone. -/
abbrev Ending (P : Platform) (α : Type) := Except WalletClientError α × (State × Desk P)

/-- The resolution ends by showing a snapshot. -/
def Completes (state : State) (snapshot : SendSnapshot) (desk : Desk P)
    (ending : Ending P SendSnapshot) : Prop :=
  ∃ ids, ending = ((completeStandaloneResolution state.nextResolution (some snapshot)
    (state.resolving ids)).1, (completeStandaloneResolution state.nextResolution (some snapshot)
    (state.resolving ids)).2, desk)

variable {snapshot shown : SendSnapshot} {ending : Ending P SendSnapshot} {after : State}

theorem Completes.eq_ok (completes : Completes state snapshot desk ending)
    (room : state.snapshot.send = snapshot ∨ state.snapshot.revision + 1 < u64Bound) :
    ending = (.ok snapshot, state.resolved.showing snapshot, desk) := by
  obtain ⟨ids, rfl⟩ := completes
  rw [completeStandaloneResolution_some ids room]

theorem Completes.of_ok (completes : Completes state snapshot desk ending)
    (returned : ending = (.ok shown, after, left)) :
    (state.snapshot.send = snapshot ∨ state.snapshot.revision + 1 < u64Bound) ∧
      shown = snapshot ∧ after = state.resolved.showing snapshot ∧ left = desk := by
  have room : state.snapshot.send = snapshot ∨ state.snapshot.revision + 1 < u64Bound := by
    obtain ⟨ids, same⟩ := completes
    rw [returned, Prod.mk.injEq, Prod.mk.injEq] at same
    exact room_of_completed (Prod.ext same.1.symm same.2.1.symm)
  have same := completes.eq_ok room
  rw [returned, Prod.mk.injEq, Prod.mk.injEq] at same
  exact ⟨room, Except.ok.inj same.1, same.2.1, same.2.2⟩

/-- What the resolution loads: the newest record of the wallet. -/
abbrev Desk.newest (desk : Desk P) (config : WalletClientConfig) :
    Option (JournalRecord P.codec.Payload) :=
  (desk.slots (sendKey config)).head?

/-- What the resolution does with a pending message it has loaded. -/
def resolveBlocking (ticket : ResolutionTicket) (pending : PendingSendRecord P.codec) :
    Engine P SendSnapshot := do
  match (← Engine.executeTrackedStandaloneResolutionRequest ticket.generation
      ticket.accountRequest).bind (parseAccount P.serde) with
  | .error error => Engine.failStandaloneResolution ticket.generation error.developerMessage
  | .ok account =>
    match ResolutionRequests.new ticket.config pending.messageHash ticket.resolutionIds with
    | .error error => Engine.failStandaloneResolution ticket.generation error.display
    | .ok requests =>
      let resolved ← Engine.resolvePendingWithOwner (.standalone ticket.generation)
        ticket.config pending account.syncUtime requests
      Engine.withLock (completeStandaloneResolution ticket.generation
        (some (pending.snapshot resolved.resolution)))

/-- What the resolution does with what it has loaded. -/
def resolveLoaded (ticket : ResolutionTicket) :
    Except JournalHostError (Option (JournalRecord P.codec.Payload)) → Engine P SendSnapshot
  | .error error => Engine.failStandaloneResolution ticket.generation error.display
  | .ok none => Engine.withLock (completeStandaloneResolution ticket.generation none)
  | .ok (some journal) =>
    match pendingSendRecord P.codec journal ticket.config.recordId ticket.config.address with
    | .error error => Engine.failStandaloneResolution ticket.generation error.display
    | .ok none =>
      match sendSnapshotFromJournal P.codec journal ticket.config.recordId
          ticket.config.address with
      | .error error => Engine.failStandaloneResolution ticket.generation error.display
      | .ok snapshot => Engine.withLock
          (completeStandaloneResolution ticket.generation (some snapshot))
    | .ok (some pending) => resolveBlocking ticket pending

theorem resolvePending_eq : (Engine.resolvePending : Engine P SendSnapshot) = (do
    let ticket ← Engine.withLock reserveResolvePending
    resolveLoaded ticket (← Engine.loadJournal ticket.journalKey)) := rfl

theorem resolvePending_solo (ready : state.Ready) :
    ∃ ticket, ResolutionTicket.For ticket state ∧
      (Engine.resolvePending : Engine P SendSnapshot).solo attendant (state, desk) =
        (resolveLoaded ticket (.ok (desk.newest state.config))).solo attendant
          (state.resolving [], desk) := by
  obtain ⟨ticket, reserved, known⟩ := reserveResolvePending_of_ready ready
  refine ⟨ticket, known, ?_⟩
  rw [resolvePending_eq, Engine.solo_bind, Region.bind_apply, Engine.solo_withLock, reserved]
  dsimp only
  rw [Engine.solo_bind, Region.bind_of_ok (Engine.solo_loadJournal ..), known.journalKey]

theorem ready_of_resolvePending
    (ran : (Engine.resolvePending : Engine P SendSnapshot).solo attendant (state, desk) =
      (.ok snapshot, after, left)) : state.Ready := by
  rw [resolvePending_eq, Engine.solo_bind, Region.bind_apply, Engine.solo_withLock] at ran
  cases reserved : reserveResolvePending state with
  | mk result between =>
    cases result with
    | error error => rw [reserved] at ran; cases ran
    | ok ticket => exact ready_of_reserveResolvePending reserved

theorem resolvePending_solo_empty (ready : state.Ready)
    (absent : desk.newest state.config = none) :
    (Engine.resolvePending : Engine P SendSnapshot).solo attendant (state, desk) =
      (.ok state.snapshot.send, state.resolved, desk) := by
  obtain ⟨ticket, known, ran⟩ := @resolvePending_solo P attendant state desk ready
  rw [ran, absent, resolveLoaded, Engine.solo_withLock, known.generation,
    completeStandaloneResolution_none]

variable {record : JournalRecord P.codec.Payload}

/-- A record that does not block is shown as it is stored. -/
theorem resolvePending_solo_stored (ready : state.Ready)
    (newest : desk.newest state.config = some record)
    (settled : pendingSendRecord P.codec record state.config.recordId state.config.address =
      .ok none)
    (read : sendSnapshotFromJournal P.codec record state.config.recordId state.config.address =
      .ok snapshot) :
    Completes state snapshot desk
      ((Engine.resolvePending : Engine P SendSnapshot).solo attendant (state, desk)) := by
  obtain ⟨ticket, known, ran⟩ := @resolvePending_solo P attendant state desk ready
  refine ⟨[], ?_⟩
  rw [ran, newest, resolveLoaded, known.config, settled]
  dsimp only
  rw [read]
  dsimp only
  rw [Engine.solo_withLock, known.generation]

theorem resolvePending_solo_invalid (ready : state.Ready) {error : SendWorkflowError}
    (newest : desk.newest state.config = some record)
    (invalid : pendingSendRecord P.codec record state.config.recordId state.config.address =
      .error error) :
    ∃ failure, (Engine.resolvePending : Engine P SendSnapshot).solo attendant (state, desk) =
      (.error failure, state.resolved, desk) := by
  obtain ⟨ticket, known, ran⟩ := @resolvePending_solo P attendant state desk ready
  rw [ran, newest, resolveLoaded, known.config, invalid]
  dsimp only
  rw [Engine.failStandaloneResolution, known.generation]
  exact resolutionFailedError_givesUp error.display [] desk

theorem ResolutionRequests.new_of_accepted {config : WalletClientConfig}
    (accepted : acceptedBase config.providers.toncenterBaseUrl.toList = true)
    (messageHash : Base64Hash) (ids : ResolutionIds) :
    ∃ requests, ResolutionRequests.new config messageHash ids = .ok requests := by
  have build : ∀ id endpoint, ∃ request, buildRequest config id endpoint = .ok request :=
    fun id endpoint => (buildRequest_isOk_iff id endpoint).mpr accepted
  obtain ⟨executed, first⟩ := build ids.executed (.transactionsByMessage messageHash)
  obtain ⟨pending, second⟩ := build ids.pending (.pendingTransactions config.address)
  obtain ⟨walletState, third⟩ := build ids.walletState (.walletStates config.address)
  obtain ⟨recheck, fourth⟩ := build ids.executedRecheck (.transactionsByMessage messageHash)
  refine ⟨⟨executed, pending, walletState, recheck⟩, ?_⟩
  rw [ResolutionRequests.new, first, second, third, fourth]
  rfl

/-- The resolution fails and leaves everything as it was. -/
def Abandons (state : State) (desk : Desk P) (ending : Ending P SendSnapshot) : Prop :=
  ∃ failure, ending = (.error failure, state.resolved, desk)

/-- How a resolution of a pending message ends, given what it concludes. -/
structure Concludes (state : State) (desk : Desk P) (pending : PendingSendRecord P.codec)
    (verdict : Option SendResolution) (ending : Ending P SendSnapshot) : Prop where
  failed : verdict = none → Abandons state desk ending
  waits : ∀ reason, verdict = some (.stillPending reason) →
    Completes state (pending.snapshot (.stillPending reason)) desk ending
  recorded : ∀ resolution mutation, verdict = some resolution →
    pending.terminalMutation resolution = .ok (some mutation) →
    Completes state (pending.snapshot resolution) (desk.store mutation) ending
  unrecorded : ∀ resolution error, verdict = some resolution →
    pending.terminalMutation resolution = .error error → Abandons state desk ending

variable {pending : PendingSendRecord P.codec} {operation : Engine P (ResolvedPending P)}
  {verdict : Option SendResolution}

theorem terminal_of_written {resolution : SendResolution}
    {written : Except SendWorkflowError (JournalCompareExchange P.codec.Payload)}
    (made : pending.terminalMutation resolution = written.map some) (reason : PendingReason) :
    resolution ≠ .stillPending reason := by
  rintro rfl
  cases written <;> cases made

/-- The resolver, followed by the completion of its resolution. -/
theorem ActsOn.concludes (acts : ActsOn attendant state pending operation verdict)
    (newest : (desk.slots ⟨pending.recordId.value, sendSlot⟩).head? = some pending.journal)
    (ids : List HttpRequestId) :
    Concludes state desk pending verdict ((do
      let resolved ← operation
      Engine.withLock (completeStandaloneResolution state.nextResolution
        (some (pending.snapshot resolved.resolution))) : Engine P SendSnapshot).solo attendant
          (state.resolving ids, desk)) := by
  have goesOn : ∀ resolution, verdict = some resolution →
      (∀ reason, resolution ≠ .stillPending reason) → ∃ later,
        operation.solo attendant (state.resolving ids, desk) =
          (Engine.persistResolution (.standalone state.nextResolution) pending resolution).solo
            attendant (state.resolving later, desk) := by
    rintro resolution rfl terminal
    cases resolution with
    | stillPending reason => exact absurd rfl (terminal reason)
    | _ => exact acts ids desk
  refine ⟨?_, ?_, ?_, ?_⟩
  · rintro rfl
    exact GivesUp.bind acts ids desk
  · rintro reason rfl
    obtain ⟨later, ran⟩ := Yields.solo_bind acts ids desk
    exact ⟨later, ran⟩
  · intro resolution mutation concluded written
    obtain ⟨later, ran⟩ := goesOn resolution concluded (@terminal_of_written _ _ _ (.ok mutation) written)
    refine ⟨later, ?_⟩
    rw [persistResolution_solo written newest later] at ran
    rw [Engine.solo_bind, Region.bind_of_ok ran, Engine.solo_withLock]
  · intro resolution error concluded failed
    obtain ⟨later, ran⟩ := goesOn resolution concluded (@terminal_of_written _ _ _ (.error error) failed)
    obtain ⟨failure, gaveUp⟩ := persistResolution_givesUp failed later desk
    rw [gaveUp] at ran
    exact ⟨failure, by rw [Engine.solo_bind, Region.bind_of_error ran]⟩

/-- What the resolution concludes from the answers it gets. -/
def resolutionVerdict (attendant : Attendant P) (config : WalletClientConfig)
    (durable : DurableSendRecord) (account : HttpRequest) (requests : ResolutionRequests) :
    Option SendResolution :=
  match (attendant.provider account).bind (parseAccount P.serde) with
  | .error _ => none
  | .ok shown => decideMessage config.resolutionMarginSeconds shown.syncUtime durable
      fun lookup => attendant.provider (requests.of lookup)

theorem resolvePending_solo_pending (ready : state.Ready)
    (newest : desk.newest state.config = some pending.journal)
    (blocks : pendingSendRecord P.codec pending.journal state.config.recordId
      state.config.address = .ok (some pending)) :
    ∃ account requests, HttpRequest.endpoint account =
        .getAddressInformation state.config.address ∧
      RequestsFor state.config pending.messageHash requests ∧
      Concludes state desk pending
        (resolutionVerdict attendant state.config pending.durable account requests)
        ((Engine.resolvePending : Engine P SendSnapshot).solo attendant (state, desk)) := by
  obtain ⟨ticket, known, ran⟩ := @resolvePending_solo P attendant state desk ready
  obtain ⟨requests, built⟩ := ResolutionRequests.new_of_accepted ready.addressable
    pending.messageHash ticket.resolutionIds
  refine ⟨ticket.accountRequest, requests, known.account, ResolutionRequests.new_ok built, ?_⟩
  rw [ran, newest, resolveLoaded, known.config, blocks]
  dsimp only
  have owned := (decodeOwnedRecord_ok (pendingSendRecord_ok blocks).2.1).2.1
  have slot : (desk.slots ⟨pending.recordId.value, sendSlot⟩).head? = some pending.journal := by
    rw [show pending.recordId = state.config.recordId from owned]
    exact newest
  have asked : Yields attendant state (Engine.executeTrackedStandaloneResolutionRequest
    state.nextResolution ticket.accountRequest) _ := executeTracked_yields ticket.accountRequest
  unfold resolveBlocking resolutionVerdict
  rw [known.generation, known.config]
  obtain ⟨later, continues⟩ := asked.solo_bind [] desk
  rw [continues]
  cases (attendant.provider ticket.accountRequest).bind (parseAccount P.serde) with
  | error error =>
    obtain ⟨failure, gaveUp⟩ := @resolutionFailedError_givesUp P attendant state SendSnapshot
      error.developerMessage later desk
    exact ⟨fun _ => ⟨failure, gaveUp⟩, nofun, nofun, nofun⟩
  | ok shown =>
    dsimp only
    rw [built]
    exact resolvePendingWithOwner_actsOn.concludes slot later

end Recovery

end WalletEngine
