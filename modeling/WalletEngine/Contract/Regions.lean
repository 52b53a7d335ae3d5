import WalletEngine.Contract.Rules

/-! # The lock regions follow the rules

For each lock region, the move it makes and what its success shows. -/

namespace WalletEngine

variable {P : Platform} {log : Log P} {call : PublicCall} {α β : Type}

theorem forall_of_error {error : WalletClientError} {fact : α → Prop} :
    ∀ value, (.error error : Except WalletClientError α) = .ok value → fact value := nofun

section States

/-- The state with the next revision, or the same state when there is none. -/
def State.revised (state : State) : State := (nextRevision state).2

/-- Neither of the two slots that exclude each other is taken. -/
def State.Vacant (state : State) : Prop :=
  state.activeSend = none ∧ state.activeResolution = none

/-- No shutdown has begun. -/
def State.Running (state : State) : Prop :=
  state.closing = false ∧ state.shutdown = false

end States

section Guards

theorem isCurrent_send {state : State} {generation : Nat} :
    state.isCurrent .send generation = true ↔ ∃ ids, state.activeSend = some (generation, ids) := by
  simp [State.isCurrent, State.slot, Option.any_eq_true, Prod.exists]

theorem isCurrent_resolution {state : State} {generation : Nat} :
    state.isCurrent .resolution generation = true ↔
      ∃ ids, state.activeResolution = some (generation, ids) := by
  simp [State.isCurrent, State.slot, Option.any_eq_true, Prod.exists]

theorem ensureCurrent_bind (family : OperationFamily) (generation : Nat)
    (next : Unit → Locked β) (state : State) :
    (ensureCurrent family generation >>= next) state =
      if state.isCurrent family generation then next () state
      else (.error .stateUnavailable, state) := by
  unfold ensureCurrent
  cases current : state.isCurrent family generation <;>
    simp [Region.bind_apply, current]

theorem ensureNotShutdown_bind (next : Unit → Locked β) (state : State) :
    (ensureNotShutdown >>= next) state =
      if state.shutdown then (.error .shutdown, state) else next () state := by
  unfold ensureNotShutdown
  cases down : state.shutdown <;> simp [Region.bind_apply, down]

theorem ensureRunning_bind (next : Unit → Locked β) (state : State) :
    (ensureRunning >>= next) state =
      if state.closing || state.shutdown then (.error .shutdown, state) else next () state := by
  unfold ensureRunning
  cases closing : state.closing <;> cases down : state.shutdown <;>
    simp [Region.bind_apply, closing, down]

section Ends

variable {state : State}
variable {next : Unit → Locked β} {post : Except WalletClientError β → State → Prop}

theorem ensureRunning_ends (stops : ∀ error, post (.error error) state)
    (goesOn : state.Running → Region.Ends (next ()) state post) :
    Region.Ends (ensureRunning >>= next) state post := by
  rw [Region.Ends, ensureRunning_bind]
  split
  · exact stops _
  · rename_i running
    exact goesOn (by simpa [State.Running] using running)

theorem ensureNotShutdown_ends (stops : ∀ error, state.shutdown = true → post (.error error) state)
    (goesOn : state.shutdown = false → Region.Ends (next ()) state post) :
    Region.Ends (ensureNotShutdown >>= next) state post := by
  rw [Region.Ends, ensureNotShutdown_bind]
  split
  · exact stops _ ‹_›
  · rename_i running
    exact goesOn (by simpa using running)

theorem ensureCurrent_ends {family : OperationFamily} {generation : Nat}
    (stops : ∀ error, state.isCurrent family generation = false → post (.error error) state)
    (goesOn : state.isCurrent family generation = true → Region.Ends (next ()) state post) :
    Region.Ends (ensureCurrent family generation >>= next) state post := by
  rw [Region.Ends, ensureCurrent_bind]
  split
  · exact goesOn ‹_›
  · rename_i current
    exact stops _ (by simpa using current)

end Ends

end Guards

section Revisions

variable (state : State)

theorem nextRevision_of_room {state : State} (room : state.snapshot.revision + 1 < u64Bound) :
    nextRevision state = (.ok (), state.revised) := by
  rw [State.revised, nextRevision, Region.get_bind, Region.ite_apply, if_pos room]
  rfl

theorem revised_of_room {state : State} (room : state.snapshot.revision + 1 < u64Bound) :
    state.revised = { state with
      snapshot.revision := state.snapshot.revision + 1
      waiters := state.waiters.filter (state.snapshot.revision + 1 ≤ ·) } := by
  rw [State.revised, nextRevision, Region.get_bind, Region.ite_apply, if_pos room]
  rfl

theorem revised_of_exhausted {state : State} (full : ¬ state.snapshot.revision + 1 < u64Bound) :
    state.revised = state := by
  rw [State.revised, nextRevision, Region.get_bind, Region.ite_apply, if_neg full]
  rfl

/-- A revision changes the counter and the waiters, and nothing else. -/
theorem revised_eq : state.revised = { state with
    snapshot.revision := state.revised.snapshot.revision
    waiters := state.revised.waiters } := by
  by_cases room : state.snapshot.revision + 1 < u64Bound
  · rw [revised_of_room room]
  · rw [revised_of_exhausted room]

@[simp] theorem revised_tracked : state.revised.tracked = state.tracked := by
  rw [revised_eq]
  rfl

@[simp] theorem nextRevision_tracked : (nextRevision state).2.tracked = state.tracked :=
  revised_tracked state

theorem nextRevision_ends {post : Except WalletClientError Unit → State → Prop}
    (moves : state.snapshot.revision + 1 < u64Bound → post (.ok ()) state.revised)
    (stays : ¬ state.snapshot.revision + 1 < u64Bound →
      post (.error .identifierExhausted) state.revised) : Region.Ends nextRevision state post := by
  by_cases room : state.snapshot.revision + 1 < u64Bound
  · rw [Region.Ends, nextRevision_of_room room]
    exact moves room
  · have ran : nextRevision state = (.error .identifierExhausted, state.revised) := by
      rw [State.revised, nextRevision, Region.get_bind, Region.ite_apply, if_neg room]
      rfl
    rw [Region.Ends, ran]
    exact stays room

end Revisions

section Allocation

/-- A request that is no submission. -/
def Plain (request : HttpRequest) : Prop := ∀ boc, request.endpoint ≠ .sendBoc boc

theorem Plain.of_endpoint {request : HttpRequest} {endpoint : Endpoint}
    (same : request.endpoint = endpoint) (other : ∀ boc, endpoint ≠ .sendBoc boc) :
    Plain request := by
  intro boc
  rw [same]
  exact other boc

/-- A state that differs only in the identifiers that were handed out. -/
def Allocated (before after : State) : Prop :=
  ∃ nextId, before.nextId ≤ nextId ∧ after = { before with nextId }

theorem Allocated.refl (state : State) : Allocated state state := ⟨state.nextId, le_rfl, rfl⟩

theorem Allocated.tracked {before after : State} (allocated : Allocated before after) :
    after.tracked = before.tracked := by
  obtain ⟨nextId, -, rfl⟩ := allocated
  rfl

theorem Allocated.trans {first second third : State} (earlier : Allocated first second)
    (later : Allocated second third) : Allocated first third := by
  obtain ⟨middle, grows, rfl⟩ := earlier
  obtain ⟨last, growsOn, rfl⟩ := later
  exact ⟨last, grows.trans growsOn, rfl⟩

/-- A region that only hands out identifiers; `fact` is what its success shows. -/
def Allocates (fact : α → Prop) (region : Locked α) : Prop :=
  ∀ state, Region.Ends region state fun result after =>
    Allocated state after ∧ ∀ value, result = .ok value → fact value

section Allocates

variable {known : α → Prop} {fact : β → Prop} {region : Locked α} {next : α → Locked β}

theorem Allocates.pure {value : α} (holds : known value) :
    Allocates known (Pure.pure value : Locked α) := by
  refine fun state => ⟨.refl state, ?_⟩
  rintro _ ⟨⟩
  exact holds

theorem Allocates.bind (first : Allocates known region)
    (rest : ∀ value, known value → Allocates fact (next value)) :
    Allocates fact (region >>= next) := by
  refine fun state => Region.ends_bind ((first state).mono ?_)
  rintro (error | value) after ⟨allocated, holds⟩
  · exact ⟨allocated, nofun⟩
  · exact (rest value (holds value rfl) after).mono fun _ _ ended =>
      ⟨allocated.trans ended.1, ended.2⟩

/-- What comes after an allocation starts from a state that differs in the next identifier. -/
theorem Allocates.ends {state : State} {post : Except WalletClientError β → State → Prop}
    (allocates : Allocates known region)
    (stops : ∀ error after, Allocated state after → post (.error error) after)
    (goesOn : ∀ value after, known value → Allocated state after →
      Region.Ends (next value) after post) :
    Region.Ends (region >>= next) state post := by
  refine Region.ends_bind ((allocates state).mono ?_)
  rintro (error | value) after ⟨allocated, holds⟩
  · exact stops error after allocated
  · exact goesOn value after (holds value rfl) allocated

end Allocates

theorem unit_allocates : Allocates (fun _ => True) (pure () : Locked Unit) := .pure trivial

theorem lift_allocates (result : Except WalletClientError α) :
    Allocates (result = .ok ·) (liftM result) :=
  fun state => ⟨.refl state, fun _ found => found⟩

theorem allocateRequestId_allocates : Allocates (fun _ => True) allocateRequestId := by
  refine fun state => Region.ends_get (Region.ends_ite (fun _ => ?_) fun _ => ?_)
  · exact ⟨⟨state.nextId + 1, Nat.le_succ _, rfl⟩, fun _ _ => trivial⟩
  · exact ⟨.refl state, nofun⟩

/-- A request that is allocated goes to the endpoint that was asked for. -/
theorem allocateRequest_allocates (config : WalletClientConfig) (endpoint : Endpoint) :
    Allocates (·.endpoint = endpoint) (allocateRequest config endpoint) := by
  refine allocateRequestId_allocates.bind fun id _ state => ⟨.refl state, fun request built => ?_⟩
  exact (buildRequest_ok built).2

theorem allocateResolutionIds_allocates : Allocates (fun _ => True) allocateResolutionIds :=
  allocateRequestId_allocates.bind fun _ _ => allocateRequestId_allocates.bind fun _ _ =>
    allocateRequestId_allocates.bind fun _ _ => allocateRequestId_allocates.bind fun _ _ =>
      .pure trivial

theorem requestPair_allocates (config : WalletClientConfig) (first second : Endpoint) :
    Allocates (fun requests => requests.1.endpoint = first ∧ requests.2.endpoint = second) (do
      let first ← allocateRequest config first
      let second ← allocateRequest config second
      return (first, second)) :=
  (allocateRequest_allocates config first).bind fun _ one =>
    (allocateRequest_allocates config second).bind fun _ two => .pure ⟨one, two⟩

theorem resolveRequests_allocates (config : WalletClientConfig) :
    Allocates (fun prepared => prepared.1.endpoint = .getAddressInformation config.address) (do
      let request ← allocateRequest config (.getAddressInformation config.address)
      let ids ← allocateResolutionIds
      return (request, ids)) :=
  (allocateRequest_allocates _ _).bind fun _ asks =>
    allocateResolutionIds_allocates.bind fun _ _ => .pure asks

end Allocation

section SendRegions

variable {generation : Nat} {snapshot : SendSnapshot}

theorem publishPriorSendResolution_moves (reserved : ReservedSend log generation)
    (presentable : Presentable log snapshot) (live : snapshot.phase ≠ .cancelled) (state : State) :
    StateMove log call state.tracked
      (publishPriorSendResolution generation snapshot state).2.tracked := by
  rw [publishPriorSendResolution, ensureCurrent_bind]
  split
  · rename_i current
    obtain ⟨ids, active⟩ := isCurrent_send.mp current
    rw [Region.modify_bind, nextRevision_tracked]
    exact .showSend generation ids snapshot reserved active presentable live
  · exact .untouched

theorem blockSendForPending_moves (reserved : ReservedSend log generation)
    (presentable : Presentable log snapshot) (state : State) :
    StateMove log call state.tracked (blockSendForPending generation snapshot state).2.tracked := by
  rw [blockSendForPending, ensureCurrent_bind]
  split
  · rename_i current
    obtain ⟨ids, active⟩ := isCurrent_send.mp current
    rw [Region.modify_bind, Region.bind_pure_state, nextRevision_tracked]
    exact .releaseSend generation ids snapshot reserved active presentable
  · exact .untouched

theorem releaseSend_moves {phase : SendPhase} (reserved : ReservedSend log generation)
    (unresolved : phase.isResolved = false) (message : String) (state : State) :
    StateMove log call state.tracked (releaseSend generation phase message state).2.tracked := by
  rw [releaseSend, Region.get_bind, Region.ite_apply]
  split
  · rename_i current
    obtain ⟨ids, active⟩ := isCurrent_send.mp current
    rw [Region.set_bind, nextRevision_tracked]
    exact .releaseSend generation ids _ reserved active (.inl unresolved)
  · exact .untouched

theorem beginSendCommit_ends (reserved : ReservedSend log generation) (state : State) :
    Region.Ends (beginSendCommit generation) state fun result after =>
      StateMove log call state.tracked after.tracked ∧
        ∀ value, result = .ok value → after.tracked.Committed generation := by
  refine ensureNotShutdown_ends (fun _ _ => ⟨.untouched, forall_of_error⟩) fun running => ?_
  refine ensureCurrent_ends (fun _ _ => ⟨.untouched, forall_of_error⟩) fun current => ?_
  obtain ⟨ids, active⟩ := isCurrent_send.mp current
  exact ⟨.beginCommit generation ids reserved active running, fun _ _ => ⟨⟨ids, active⟩, rfl⟩⟩

theorem ensureCurrentSend_state (generation : Nat) (state : State) :
    (ensureCurrentSend generation state).2 = state := by
  rw [ensureCurrentSend, ensureNotShutdown_bind]
  split
  · rfl
  · unfold ensureCurrent
    rw [Region.get_bind, Region.ite_apply]
    split <;> rfl

theorem ensureCurrent_state (family : OperationFamily) (state : State) :
    (ensureCurrent family generation state).2 = state := by
  rw [ensureCurrent, Region.get_bind, Region.ite_apply]
  split <;> rfl

theorem publishSendWorkflow_tracked (generation : Nat) (workflow : SendWorkflow) (state : State) :
    (publishSendWorkflow generation workflow state).2.tracked =
      if state.isCurrent .send generation then { state.tracked with shown := workflow.snapshot }
      else state.tracked := by
  rw [publishSendWorkflow, ensureCurrent_bind]
  split
  · rw [Region.modify_bind, nextRevision_tracked]
    rfl
  · rfl

theorem publishSendWorkflow_moves {workflow : SendWorkflow}
    (reserved : ReservedSend log generation)
    (unresolved : workflow.stage.publicPhase.isResolved = false)
    (live : workflow.stage.publicPhase ≠ .cancelled) (state : State) :
    StateMove log call state.tracked
      (publishSendWorkflow generation workflow state).2.tracked := by
  rw [publishSendWorkflow_tracked]
  split
  · rename_i current
    obtain ⟨ids, active⟩ := isCurrent_send.mp current
    exact .showSend generation ids _ reserved active (.inl unresolved) live
  · exact .untouched

theorem finishSend_moves {workflow : SendWorkflow} (reserved : ReservedSend log generation)
    (unresolved : workflow.stage.publicPhase.isResolved = false) (state : State) :
    StateMove log call state.tracked (finishSend generation workflow state).2.tracked := by
  rw [finishSend, Region.get_bind, Region.ite_apply]
  split
  · rename_i current
    obtain ⟨ids, active⟩ := isCurrent_send.mp current
    rw [Region.set_bind, nextRevision_tracked]
    exact .releaseSend generation ids _ reserved active (.inl unresolved)
  · exact .untouched

end SendRegions

section Reservations

variable {σ : Type} {makeWorkflow : WalletClientConfig → Except WalletClientError SendWorkflow}
  {submission : Locked σ} {prepare : WalletClientConfig → Locked σ} {fact : σ → Prop}

variable (makeWorkflow) in
/-- How the reservation of a send ends: it fails, perhaps after it was counted, or it takes the
slot and hands out requests for the configured wallet. -/
def SendReserved (before : State) (result : Except WalletClientError (SendTicket × σ))
    (after : State) : Prop :=
  result.isOk = false ∧ (after = before ∨ before.Running ∧ before.Vacant ∧
    Allocated { before with sendGeneration := before.sendGeneration + 1 } after) ∨
  ∃ nextId workflow stage, before.nextId ≤ nextId ∧ before.Running ∧ before.Vacant ∧
    makeWorkflow before.config = .ok workflow ∧ workflow.stage.transition .begin = some stage ∧
    after = ({ before with
      nextId
      sendGeneration := before.sendGeneration + 1
      activeSend := some (before.sendGeneration + 1, [])
      sendCommitStarted := false
      snapshot.send := ({ workflow with stage } : SendWorkflow).snapshot
      sendWorkflow := some { workflow with stage } } : State).revised ∧
    (before.snapshot.revision + 1 < u64Bound → result.isOk = true) ∧
    ∀ ticket reserved, result = .ok (ticket, reserved) →
      ticket.generation = before.sendGeneration + 1 ∧ ticket.config = before.config ∧
      ticket.accountRequest.endpoint = .getAddressInformation before.config.address ∧
      ticket.seqnoRequest.endpoint = .runGetMethod before.config.address "seqno" ∧
      ticket.workflow = { workflow with stage } ∧
      ticket.journalKey = ticket.workflow.journalKey

theorem reserveSend_ends (allocates : Allocates fact submission) (before : State) :
    Region.Ends (reserveSend makeWorkflow submission) before
      (SendReserved makeWorkflow before) := by
  refine ensureRunning_ends (fun _ => .inl ⟨rfl, .inl rfl⟩) fun running => Region.ends_get ?_
  refine Region.ends_bind ?_
  rw [Region.Ends, Region.lift_apply]
  cases made : makeWorkflow before.config with
  | error error => exact .inl ⟨rfl, .inl rfl⟩
  | ok workflow =>
    refine Region.ends_guard (fun _ => .inl ⟨rfl, .inl rfl⟩) fun idle => ?_
    have vacant : before.Vacant := by simpa [State.Vacant] using idle
    refine Region.ends_guard (fun _ => .inl ⟨rfl, .inl rfl⟩) fun _ => Region.ends_set ?_
    -- The four allocations move the next identifier only.
    have counts : ∀ error after,
        Allocated { before with sendGeneration := before.sendGeneration + 1 } after →
        SendReserved (σ := σ) makeWorkflow before (.error error) after :=
      fun _ _ counted => .inl ⟨rfl, .inr ⟨running, vacant, counted⟩⟩
    refine (allocateRequest_allocates _ _).ends counts fun _ _ account first => ?_
    refine (allocateRequest_allocates _ _).ends (fun _ _ next => counts _ _ (first.trans next))
      fun _ _ seqno next => ?_
    have soFar := first.trans next
    refine allocateResolutionIds_allocates.ends
      (fun _ _ next => counts _ _ (soFar.trans next)) fun _ _ _ next => ?_
    have soFar := soFar.trans next
    refine allocates.ends (fun _ _ next => counts _ _ (soFar.trans next)) fun _ _ _ next => ?_
    obtain ⟨nextId, later, rfl⟩ := soFar.trans next
    cases begun : workflow.stage.transition .begin with
    | none => exact counts _ _ (soFar.trans next)
    | some stage =>
      have took : ∀ result : Except WalletClientError (SendTicket × σ),
          (before.snapshot.revision + 1 < u64Bound → result.isOk = true) →
          (∀ ticket reserved, result = .ok (ticket, reserved) → _) →
          SendReserved makeWorkflow before result _ := fun _ succeeds known =>
        .inr ⟨nextId, workflow, stage, later, running, vacant, made, begun, rfl, succeeds,
          known⟩
      refine Region.ends_modify (Region.ends_bind (nextRevision_ends _ (fun _ => ?_) ?_))
      · refine took _ (fun _ => rfl) ?_
        rintro _ _ ⟨⟩
        exact ⟨rfl, rfl, account, seqno, rfl, rfl⟩
      · refine fun full => took _ (fun room => absurd room full) ?_
        rintro _ _ ⟨⟩

/-- How the reservation of a resolution ends. -/
def ResolutionReserved (fact : σ → Prop) (before : State)
    (result : Except WalletClientError (Nat × WalletClientConfig × σ)) (after : State) : Prop :=
  result.isOk = false ∧ (after = before ∨ before.Vacant ∧
    Allocated { before with resolutionGeneration := before.resolutionGeneration + 1 } after) ∨
  ∃ nextId prepared, before.nextId ≤ nextId ∧ before.Vacant ∧ fact prepared ∧
    result = .ok (before.resolutionGeneration + 1, before.config, prepared) ∧
    after = { before with
      nextId
      resolutionGeneration := before.resolutionGeneration + 1
      activeResolution := some (before.resolutionGeneration + 1, []) }

theorem reserveResolution_ends {fact : WalletClientConfig → σ → Prop}
    (allocates : ∀ config, Allocates (fact config) (prepare config)) (before : State) :
    Region.Ends (reserveResolution prepare) before
      (ResolutionReserved (fact before.config) before) := by
  refine Region.ends_get (Region.ends_guard (fun _ => .inl ⟨rfl, .inl rfl⟩) fun idle => ?_)
  have vacant : before.Vacant := by simpa [State.Vacant] using idle
  refine Region.ends_guard (fun _ => .inl ⟨rfl, .inl rfl⟩) fun _ => Region.ends_set ?_
  refine (allocates before.config).ends (fun _ _ counted => .inl ⟨rfl, .inr ⟨vacant, counted⟩⟩) ?_
  rintro prepared _ known ⟨nextId, later, rfl⟩
  exact .inr ⟨nextId, prepared, later, vacant, known, rfl, rfl⟩

theorem ResolutionReserved.moved {before after : State}
    {result : Except WalletClientError (Nat × WalletClientConfig × σ)}
    (reserved : ResolutionReserved fact before result after) :
    StateMove log call before.tracked after.tracked ∧
      ∀ value, result = .ok value → value.2.1 = before.config ∧ fact value.2.2 := by
  rcases reserved with ⟨failed, same | ⟨vacant, counted⟩⟩ | ⟨_, _, -, vacant, known, rfl, rfl⟩
  · exact ⟨same ▸ .untouched, by rintro _ rfl; cases failed⟩
  · exact ⟨counted.tracked ▸ .countResolution vacant.1 vacant.2, by rintro _ rfl; cases failed⟩
  · refine ⟨.reserveResolution vacant.1 vacant.2, ?_⟩
    rintro _ ⟨⟩
    exact ⟨rfl, known⟩

end Reservations

section ResolutionRegions

variable {generation : Nat} {snapshot : SendSnapshot}

theorem discardResolution_moves (state : State) :
    StateMove log call state.tracked (discardResolution generation state).2.tracked := by
  rw [discardResolution, Region.get_bind, Region.ite_apply]
  split
  · rename_i current
    obtain ⟨ids, active⟩ := isCurrent_resolution.mp current
    exact .releaseResolution generation ids _ active (.inl rfl)
  · exact .untouched

/-- A standalone resolution returns what it leaves shown. -/
theorem completeStandaloneResolution_ends {published : Option SendSnapshot}
    (presentable : ∀ snapshot ∈ published, Presentable log snapshot) (state : State) :
    Region.Ends (completeStandaloneResolution generation published) state fun result after =>
      StateMove log call state.tracked after.tracked ∧
        ∀ snapshot, result = .ok snapshot → after.snapshot.send = snapshot := by
  refine ensureCurrent_ends (fun _ _ => ⟨.untouched, forall_of_error⟩) fun current => ?_
  obtain ⟨ids, active⟩ := isCurrent_resolution.mp current
  refine Region.ends_modify (Region.ends_get ?_)
  have released : StateMove log call state.tracked
      ({ state with activeResolution := none } : State).tracked :=
    .releaseResolution generation ids _ active (.inl rfl)
  cases published with
  | none => exact ⟨released, fun _ => Except.ok.inj⟩
  | some snapshot =>
    refine Region.ends_ite (fun _ => Region.ends_set ?_) fun same => ?_
    · refine Region.ends_bind (nextRevision_ends _ (fun _ => ⟨?_, ?_⟩) fun _ => ⟨?_, forall_of_error⟩)
      · exact (revised_tracked _).symm ▸
          .releaseResolution generation ids snapshot active (.inr (presentable _ rfl))
      · rintro _ ⟨⟩
        exact congrArg Tracked.shown (revised_tracked _)
      · exact (revised_tracked _).symm ▸
          .releaseResolution generation ids snapshot active (.inr (presentable _ rfl))
    · exact ⟨released, fun _ ok => (not_not.mp same).trans (Except.ok.inj ok)⟩

end ResolutionRegions

section Cancellation

variable {codec : JournalCodec}

/-- Cancelling a workflow shows the cancelled phase and nothing else changes. -/
theorem cancelWorkflow_tracked (codec : JournalCodec) (state : State) :
    ∃ snapshot : SendSnapshot, snapshot.phase = .cancelled ∧
      (cancelWorkflow codec state).tracked = { state.tracked with shown := snapshot } := by
  unfold cancelWorkflow
  split
  · exact ⟨_, rfl, rfl⟩
  · exact ⟨_, rfl, rfl⟩

theorem cancelSendRegion_moves (asked : call = .cancelSend) (state : State) :
    StateMove log call state.tracked (cancelSendRegion codec state).2.tracked := by
  rw [cancelSendRegion, Region.get_bind, Region.ite_apply]
  split
  · exact .untouched
  rename_i early
  have early : ¬ (state.activeSend.isSome = true ∧ state.sendCommitStarted = true) := by
    simpa using early
  dsimp only
  rw [Region.set_bind, Region.ite_apply]
  split
  · rw [Region.modify_bind, Region.bind_pure_state, nextRevision_tracked]
    obtain ⟨snapshot, cancelled, same⟩ := cancelWorkflow_tracked codec
      { state with activeSend := none, sendCommitStarted := false }
    rw [same]
    exact .cancel snapshot asked early (.inr cancelled)
  · exact .cancel _ asked early (.inl rfl)

/-- Past the commit boundary a cancellation is refused and changes nothing. -/
theorem cancelSendRegion_of_committed {state : State} {generation : Nat}
    (committed : state.tracked.Committed generation) :
    cancelSendRegion codec state = (.error .sendCancellationTooLate, state) := by
  obtain ⟨⟨ids, active⟩, started⟩ := committed
  change state.activeSend = _ at active
  change state.sendCommitStarted = true at started
  rw [cancelSendRegion, Region.get_bind, Region.ite_apply, active, started]
  rfl

theorem releaseAll_tracked (codec : JournalCodec) (state : State) :
    ∃ snapshot : SendSnapshot,
      (snapshot = state.snapshot.send ∨ snapshot.phase = .cancelled) ∧
      (state.releaseAll codec).tracked = { state.tracked with
        send := none, resolution := none, committed := false, shown := snapshot } := by
  unfold State.releaseAll
  cases state.activeSend with
  | none => exact ⟨_, .inl rfl, rfl⟩
  | some active =>
    obtain ⟨snapshot, cancelled, same⟩ := cancelWorkflow_tracked codec state
    refine ⟨snapshot, .inr cancelled, ?_⟩
    change { (cancelWorkflow codec state).tracked with
      send := none, resolution := none, committed := false } = _
    rw [same]

theorem releaseAll_revision (state : State) :
    (state.releaseAll codec).snapshot.revision = state.snapshot.revision := by
  unfold State.releaseAll cancelWorkflow
  cases state.activeSend with
  | none => rfl
  | some active => cases state.sendWorkflow <;> rfl

/-- Preparing the shutdown either fails before any change or releases everything
and sets the flag. -/
theorem prepareShutdown_cases (codec : JournalCodec) (state : State) :
    prepareShutdown codec state = (.error .identifierExhausted, state) ∨
      ∃ ids after snapshot, prepareShutdown codec state = (.ok ids, after) ∧
        (snapshot = state.snapshot.send ∨ snapshot.phase = .cancelled) ∧
        after.tracked = { state.tracked with
          send := none, resolution := none, committed := false, shutdown := true
          shown := snapshot } := by
  rw [prepareShutdown, Region.get_bind, Region.ite_apply]
  split
  · exact .inl rfl
  rename_i room
  obtain ⟨snapshot, shown, same⟩ := releaseAll_tracked codec state
  right
  dsimp only
  rw [Region.set_bind, Region.ite_apply]
  split
  · rename_i active
    have fits : (state.releaseAll codec).snapshot.revision + 1 < u64Bound := by
      rw [releaseAll_revision]
      simpa [active] using room
    rw [Region.bind_of_ok (nextRevision_of_room fits)]
    refine ⟨_, _, snapshot, rfl, shown, ?_⟩
    change { (state.releaseAll codec).revised.tracked with shutdown := true } = _
    rw [revised_tracked, same]
  · refine ⟨_, _, snapshot, rfl, shown, ?_⟩
    change { (state.releaseAll codec).tracked with shutdown := true } = _
    rw [same]

/-- A round that finishes has set the shutdown flag. -/
theorem shutdownRound_ends {rounds : Nat} (asked : call = .shutdown rounds) (state : State) :
    Region.Ends (shutdownRound codec) state fun result after =>
      StateMove log call state.tracked after.tracked ∧
        ∀ action, result = .ok action → ∀ ids, action = .finish ids → after.shutdown = true := by
  refine Region.ends_get (Region.ends_ite (fun _ => ⟨.untouched, ?_⟩) fun _ => ?_)
  · rintro _ ⟨⟩ _ ⟨⟩
  refine Region.ends_set (Region.ends_ite (fun _ => ⟨.untouched, ?_⟩) fun early => ?_)
  · rintro _ ⟨⟩ _ ⟨⟩
  have early : ¬ (state.activeSend.isSome = true ∧ state.sendCommitStarted = true) := by
    simpa using early
  refine Region.ends_bind ?_
  rcases prepareShutdown_cases codec { state with closing := true } with
    failed | ⟨ids, after, snapshot, finished, shown, same⟩
  · rw [Region.Ends, failed]
    exact ⟨.untouched, forall_of_error⟩
  · rw [Region.Ends, finished]
    refine ⟨?_, fun _ _ _ _ => congrArg Tracked.shutdown same⟩
    change StateMove log call state.tracked after.tracked
    rw [same]
    exact .stop rounds snapshot asked early shown

end Cancellation

section Views

variable {fact : State → α → Prop} {tracked : Tracked} {state : State}

/-- How a region ends that leaves alone what is tracked; `fact` is what its success shows. -/
def Kept (fact : State → α → Prop) (tracked : Tracked) (result : Except WalletClientError α)
    (after : State) : Prop :=
  after.tracked = tracked ∧ ∀ value, result = .ok value → fact after value

/-- A region that leaves alone what is tracked. -/
def Keeps (fact : State → State → α → Prop) (region : Locked α) : Prop :=
  ∀ before, Region.Ends region before (Kept (fact before) before.tracked)

theorem kept_error {error : WalletClientError} (same : state.tracked = tracked) :
    Kept fact tracked (.error error) state := ⟨same, forall_of_error⟩

theorem kept_ok {value : α} (same : state.tracked = tracked) (holds : fact state value) :
    Kept fact tracked (.ok value) state := by
  refine ⟨same, ?_⟩
  rintro _ ⟨⟩
  exact holds

theorem Keeps.of_ok {fact : State → State → α → Prop} {region : Locked α} {after : State}
    {value : α} (keeps : Keeps fact region) (ran : region state = (.ok value, after)) :
    fact state after value := by
  have known := (keeps state).2 value
  rw [ran] at known
  exact known rfl

/-- A region that publishes a revision before it returns. -/
theorem kept_revised {value : State → α} (same : state.tracked = tracked)
    (holds : fact state.revised (value state.revised)) :
    Region.Ends (do
      nextRevision
      return value (← get)) state (Kept fact tracked) := by
  have kept := (revised_tracked state).trans same
  exact Region.ends_bind (nextRevision_ends _ (fun _ => kept_ok kept holds) fun _ => kept_error kept)

theorem ensureRunning_tracked (state : State) :
    (ensureRunning state).2.tracked = state.tracked := by
  rw [ensureRunning, Region.get_bind, Region.ite_apply]
  split <;> rfl

theorem reserveRefresh_keeps :
    Keeps (fun _ _ reserved => Plain reserved.2.1 ∧ Plain reserved.2.2.1) reserveRefresh := by
  intro before
  refine ensureRunning_ends (fun _ => kept_error rfl) fun _ => Region.ends_get ?_
  have stops : ∀ error after, Allocated before after → Kept
      (fun _ (reserved : Nat × HttpRequest × HttpRequest × List HttpRequestId) =>
        Plain reserved.2.1 ∧ Plain reserved.2.2.1) before.tracked (.error error) after :=
    fun _ _ allocated => kept_error allocated.tracked
  refine allocateRequestId_allocates.ends stops fun _ _ _ first => ?_
  refine allocateRequestId_allocates.ends (fun _ _ next => stops _ _ (first.trans next))
    fun _ _ _ next => ?_
  have soFar := first.trans next
  refine (lift_allocates _).ends (fun _ _ next => stops _ _ (soFar.trans next))
    fun _ _ account next => ?_
  have soFar := soFar.trans next
  refine (lift_allocates _).ends (fun _ _ next => stops _ _ (soFar.trans next))
    fun _ _ activity next => ?_
  have soFar := soFar.trans next
  refine Region.ends_get (Region.ends_guard (fun _ => stops _ _ soFar) fun _ => ?_)
  exact Region.ends_set (kept_revised soFar.tracked
    ⟨.of_endpoint (buildRequest_ok account).2 nofun,
      .of_endpoint (buildRequest_ok activity).2 nofun⟩)

theorem applyRefreshed_tracked (value : RefreshValue) (state : State) :
    (value.apply state).tracked = state.tracked := by
  rcases value with (_ | _) | (_ | page)
  · rfl
  · rfl
  · rfl
  · simp only [RefreshValue.apply, applyRefreshedActivityPage]
    split <;> rfl

theorem publishRefreshComponent_tracked (generation : Nat) (value : RefreshValue) (state : State) :
    (publishRefreshComponent generation value state).2.tracked = state.tracked := by
  rw [publishRefreshComponent, Region.get_bind, Region.ite_apply]
  split
  · rw [Region.set_bind, nextRevision_tracked, applyRefreshed_tracked]
  · rfl

theorem cancelRefreshRegion_tracked (state : State) :
    (cancelRefreshRegion state).2.tracked = state.tracked := by
  rw [cancelRefreshRegion, Region.get_bind, Region.set_bind, Region.ite_apply]
  split
  · rw [Region.modify_bind, Region.bind_pure_state, nextRevision_tracked]
    rfl
  · rfl

/-- The snapshots that views return are those of the state. -/
theorem finishRefresh_keeps (generation : Nat) :
    Keeps (fun _ after update => update.snapshot = after.snapshot) (finishRefresh generation) :=
  fun _ => Region.ends_get (Region.ends_ite (fun _ => kept_ok rfl rfl) fun _ => kept_ok rfl rfl)

theorem awaitRevision_keeps (afterRevision : Nat) :
    Keeps (fun before after found => match found with
      | some snapshot => snapshot = after.snapshot ∧ afterRevision < snapshot.revision
      | none => after.waiters = before.waiters ++ [afterRevision]) (awaitRevision afterRevision) :=
  fun _ => ensureRunning_ends (fun _ => kept_error rfl) fun _ => Region.ends_get
    (Region.ends_ite (fun newer => kept_ok rfl ⟨rfl, newer⟩) fun _ => kept_ok rfl rfl)

theorem readSnapshot_keeps :
    Keeps (fun _ after snapshot => snapshot = after.snapshot) readSnapshot :=
  fun _ => ensureNotShutdown_ends (fun _ _ => kept_error rfl) fun _ => kept_ok rfl rfl

end Views

end WalletEngine
