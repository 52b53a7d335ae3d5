import WalletEngine.Contract.Effects

/-! # Lock regions and their effects

For each lock region of the engine, the effect it has on the client state and, where the
region belongs to the owner of a slot, whether the slot is still owned afterwards. -/

namespace WalletEngine

variable {α β : Type}

section Revisions

variable (state : State)

@[simp] theorem revised_slot (family : OperationFamily) :
    state.revised.slot family = state.slot family := by
  rw [revised_eq]
  cases family <;> rfl

@[simp] theorem revised_generation (family : OperationFamily) :
    state.revised.generation family = state.generation family := by
  rw [revised_eq]
  cases family <;> rfl

@[simp] theorem revised_isCurrent (family : OperationFamily) (generation : Nat) :
    state.revised.isCurrent family generation = state.isCurrent family generation := by
  rw [State.isCurrent, State.isCurrent, revised_slot]

end Revisions

section Specifications

/-- A region of an operation that owns nothing. -/
def Roams (call : PublicCall) (region : Locked α) : Prop :=
  ∀ before, Region.Ends region before fun _ after =>
    after = before ∨ ClientEffect call before after

/-- A region of the owner of a slot that succeeds exactly if the slot is still owned. -/
def Grips (family : OperationFamily) (generation : Nat) (region : Locked α) : Prop :=
  ∀ before, Region.Ends region before fun result after =>
    (after = before ∨ OwnerEffect before family generation after) ∧
    (before.Orderly → after.isCurrent family generation = result.isOk)

/-- A region of the owner of a slot after which the slot is not owned. -/
def Drops (family : OperationFamily) (generation : Nat) (region : Locked α) : Prop :=
  ∀ before, Region.Ends region before fun _ after =>
    (after = before ∨ OwnerEffect before family generation after) ∧
    (before.Orderly → after.isCurrent family generation = false)

/-- The two regions that change the requests of a slot. -/
def Lists (family : OperationFamily) (generation : Nat)
    (region : (List HttpRequestId → List HttpRequestId) → Locked Unit) : Prop :=
  ∀ track before, Region.Ends (region track) before fun result after =>
    (∃ listed, TrackEffect before family generation listed (track listed) after ∧
      result.isOk = true) ∨
    after = before ∧ result.isOk = false ∧
      (before.Orderly → before.isCurrent family generation = false)

/-- How a reservation ends. -/
def Opened (call : PublicCall) (family : OperationFamily) (generation : α → Nat) (before : State)
    (result : Except WalletClientError α) (after : State) : Prop :=
  (after = before ∨ ClientEffect call before after) ∧ result.isOk = false ∨
  OpeningEffect before after ∧ taken before after family = true ∧
    (∀ value, result = .ok value → generation value = after.generation family) ∧
    (before.Orderly → result.isOk = true)

/-- A region that reserves the slot of a family. -/
def Opens (call : PublicCall) (family : OperationFamily) (generation : α → Nat)
    (region : Locked α) : Prop :=
  ∀ before, Region.Ends region before (Opened call family generation before)

end Specifications

section SendRegions

variable {generation : Nat}

/-- A region that publishes under the send slot. -/
theorem publish_grips {change : State → State} {workflow : State → Option SendWorkflow}
    {snapshot : State → SendSnapshot}
    (changes : ∀ state, change state = { state with
      sendWorkflow := workflow state
      snapshot.send := snapshot state }) :
    Grips .send generation (do
      ensureCurrent .send generation
      modify change
      nextRevision) := by
  intro before
  refine ensureCurrent_ends (fun _ stale => ⟨.inl rfl, fun _ => stale⟩) fun current => ?_
  obtain ⟨ids, active⟩ := isCurrent_send.mp current
  refine Region.ends_modify ?_
  rw [changes]
  refine nextRevision_ends _ (fun _ => ?_) fun full => ?_
  · exact ⟨.inr (.publish generation ids active _ _), fun _ => (revised_isCurrent ..).trans current⟩
  · exact ⟨.inr (.publish generation ids active _ _), fun orderly => absurd orderly.room full⟩

theorem publishPriorSendResolution_grips (snapshot : SendSnapshot) :
    Grips .send generation (publishPriorSendResolution generation snapshot) :=
  publish_grips fun _ => rfl

theorem publishSendWorkflow_grips (workflow : SendWorkflow) :
    Grips .send generation (publishSendWorkflow generation workflow) :=
  publish_grips fun _ => rfl

theorem beginSendCommit_grips : Grips .send generation (beginSendCommit generation) := by
  intro before
  refine ensureNotShutdown_ends (fun _ down => ⟨.inl rfl, fun orderly => ?_⟩) fun _ => ?_
  · rw [State.isCurrent, State.slot, (orderly.stopped down).1]
    rfl
  refine ensureCurrent_ends (fun _ stale => ⟨.inl rfl, fun _ => stale⟩) fun current => ?_
  obtain ⟨ids, active⟩ := isCurrent_send.mp current
  exact ⟨.inr (.commit generation ids active), fun _ => current⟩

theorem ensureCurrent_grips {family : OperationFamily} :
    Grips family generation (ensureCurrent family generation) := by
  intro before
  have ran := ensureCurrent_bind family generation Pure.pure before
  rw [bind_pure] at ran
  rw [Region.Ends, ran]
  split
  · rename_i current
    exact ⟨.inl rfl, fun _ => current⟩
  · rename_i stale
    exact ⟨.inl rfl, fun _ => eq_false_of_ne_true stale⟩

theorem ensureCurrentSend_grips : Grips .send generation (ensureCurrentSend generation) := by
  intro before
  refine ensureNotShutdown_ends (fun _ down => ⟨.inl rfl, fun orderly => ?_⟩) fun _ => ?_
  · rw [State.isCurrent, State.slot, (orderly.stopped down).1]
    rfl
  · exact ensureCurrent_grips before

theorem blockSendForPending_drops (snapshot : SendSnapshot) :
    Drops .send generation (blockSendForPending generation snapshot) := by
  intro before
  refine ensureCurrent_ends (fun _ stale => ⟨.inl rfl, fun _ => stale⟩) fun current => ?_
  obtain ⟨ids, active⟩ := isCurrent_send.mp current
  rw [Region.Ends, Region.modify_bind, Region.bind_pure_state]
  exact ⟨.inr (.releaseSend generation ids active _ _), fun _ => revised_isCurrent ..⟩

/-- A region that releases the send slot if it is still owned. -/
theorem release_drops {change : State → State} {workflow : State → Option SendWorkflow}
    {snapshot : State → SendSnapshot}
    (changes : ∀ state, change state = { state with
      activeSend := none
      sendCommitStarted := false
      sendWorkflow := workflow state
      snapshot.send := snapshot state }) :
    Drops .send generation (do
      let state ← get
      if state.isCurrent .send generation then
        set (change state)
        nextRevision) := by
  intro before
  rw [Region.Ends, Region.get_bind, Region.ite_apply]
  split
  · rename_i current
    obtain ⟨ids, active⟩ := isCurrent_send.mp current
    rw [Region.set_bind, changes]
    refine ⟨.inr (.releaseSend generation ids active _ _), fun _ => ?_⟩
    exact revised_isCurrent ..
  · rename_i stale
    exact ⟨.inl rfl, fun _ => by simpa using stale⟩

theorem releaseSend_drops (phase : SendPhase) (message : String) :
    Drops .send generation (releaseSend generation phase message) :=
  release_drops fun _ => rfl

theorem finishSend_drops (workflow : SendWorkflow) :
    Drops .send generation (finishSend generation workflow) :=
  release_drops fun _ => rfl

end SendRegions

section ResolutionRegions

variable {generation : Nat}

theorem completeResolution_drops : Drops .resolution generation (completeResolution generation) := by
  intro before
  refine ensureCurrent_ends (fun _ stale => ⟨.inl rfl, fun _ => stale⟩) fun current => ?_
  obtain ⟨ids, active⟩ := isCurrent_resolution.mp current
  exact ⟨.inr (.releaseResolution generation ids active), fun _ => rfl⟩

theorem discardResolution_drops : Drops .resolution generation (discardResolution generation) := by
  intro before
  rw [discardResolution]
  refine Region.ends_get ?_
  rw [Region.Ends, Region.ite_apply]
  split
  · rename_i current
    obtain ⟨ids, active⟩ := isCurrent_resolution.mp current
    exact ⟨.inr (.releaseResolution generation ids active), fun _ => rfl⟩
  · rename_i stale
    exact ⟨.inl rfl, fun _ => eq_false_of_ne_true stale⟩

theorem completeStandaloneResolution_drops (snapshot : Option SendSnapshot) :
    Drops .resolution generation (completeStandaloneResolution generation snapshot) := by
  intro before
  refine ensureCurrent_ends (fun _ stale => ⟨.inl rfl, fun _ => stale⟩) fun current => ?_
  obtain ⟨ids, active⟩ := isCurrent_resolution.mp current
  refine Region.ends_modify (Region.ends_get ?_)
  cases snapshot with
  | none => exact ⟨.inr (.releaseResolution generation ids active), fun _ => rfl⟩
  | some snapshot =>
    dsimp only
    rw [Region.Ends, Region.ite_apply]
    split
    · rw [Region.set_bind, Region.bind_pure_state]
      refine ⟨.inr (.completeResolution generation ids active snapshot), fun _ => ?_⟩
      exact revised_isCurrent ..
    · exact ⟨.inr (.releaseResolution generation ids active), fun _ => rfl⟩

theorem storeKeyChanges_grips (changes : List KeyChange) :
    Grips .resolution generation (storeKeyChanges generation changes) := by
  intro before
  refine ensureCurrent_ends (fun _ stale => ⟨.inl rfl, fun _ => stale⟩) fun current => ?_
  obtain ⟨ids, active⟩ := isCurrent_resolution.mp current
  exact ⟨.inr (.remember generation ids active changes), fun _ => current⟩

/-- The reservation of a page may fail under the slot, which its caller then releases. -/
theorem reserveKeyChangePage_effect (offset : Nat) (before : State) :
    Region.Ends (reserveKeyChangePage generation offset) before fun result after =>
      (after = before ∨ OwnerEffect before .resolution generation after) ∧
      after.isCurrent .resolution generation = before.isCurrent .resolution generation ∧
      (result.isOk = true → before.isCurrent .resolution generation = true) := by
  refine ensureCurrent_ends (fun _ _ => ⟨.inl rfl, rfl, fun failed => by cases failed⟩)
    fun current => ?_
  obtain ⟨ids, active⟩ := isCurrent_resolution.mp current
  refine Region.ends_get ?_
  have allocated : ∀ after, Allocated before after →
      (after = before ∨ OwnerEffect before .resolution generation after) ∧
      after.isCurrent .resolution generation = before.isCurrent .resolution generation := by
    rintro _ ⟨nextId, later, rfl⟩
    exact ⟨.inr (.allocate generation ids active nextId later), rfl⟩
  refine (allocateRequest_allocates _ _).ends (fun value after reached => ?_)
    fun _ after _ reached => ?_
  · exact ⟨(allocated after reached).1, (allocated after reached).2, fun _ => current⟩
  · exact ⟨(allocated after reached).1, (allocated after reached).2, fun _ => current⟩

theorem trackSend_lists : Lists .send generation (trackSend generation) := by
  intro track before
  refine ensureNotShutdown_ends (fun _ down => .inr ⟨rfl, rfl, fun orderly => ?_⟩) fun _ => ?_
  · rw [State.isCurrent, State.slot, (orderly.stopped down).1]
    rfl
  refine Region.ends_get ?_
  rcases active : before.activeSend with _ | ⟨owner, listed⟩
  · refine .inr ⟨rfl, rfl, fun _ => ?_⟩
    rw [State.isCurrent, State.slot, active]
    rfl
  · dsimp only
    refine Region.ends_guard (fun other => .inr ⟨rfl, rfl, fun _ => ?_⟩) fun same => ?_
    · rw [State.isCurrent, State.slot, active]
      simpa using other
    · obtain rfl := not_not.mp same
      exact .inl ⟨listed, .send owner listed (track listed) active, rfl⟩

theorem trackResolution_lists : Lists .resolution generation (trackResolution generation) := by
  intro track before
  refine Region.ends_get ?_
  rcases active : before.activeResolution with _ | ⟨owner, listed⟩
  · refine .inr ⟨rfl, rfl, fun _ => ?_⟩
    rw [State.isCurrent, State.slot, active]
    rfl
  · dsimp only
    refine Region.ends_guard (fun other => .inr ⟨rfl, rfl, fun _ => ?_⟩) fun same => ?_
    · rw [State.isCurrent, State.slot, active]
      simpa using other
    · obtain rfl := not_not.mp same
      exact .inl ⟨listed, .resolution owner listed (track listed) active, rfl⟩

end ResolutionRegions

section Reservations

variable {call : PublicCall} {σ : Type}
variable {before : State} {family : OperationFamily} {generation : α → Nat}
  {prepare : WalletClientConfig → Locked σ}

theorem taken_of_slot {after : State} {ids : List HttpRequestId}
    (counted : after.generation family = before.generation family + 1)
    (slot : after.slot family = some (before.generation family + 1, ids)) :
    taken before after family = true := by
  simp [taken, State.isCurrent, counted, slot]

/-- A reservation that ends by publishing a new revision. -/
theorem opened_revised {state : State} {value : α} {ids : List HttpRequestId}
    (effect : OpeningEffect before state.revised)
    (counted : state.generation family = before.generation family + 1)
    (slot : state.slot family = some (before.generation family + 1, ids))
    (known : generation value = state.generation family)
    (same : state.snapshot.revision = before.snapshot.revision) :
    Region.Ends (do
      nextRevision
      return value) state (Opened call family generation before) := by
  have took : taken before state.revised family = true :=
    taken_of_slot ((revised_generation ..).trans counted) ((revised_slot ..).trans slot)
  refine Region.ends_bind (nextRevision_ends state (fun _ => ?_) fun full => ?_)
  · refine Or.inr ⟨effect, took, ?_, fun _ => rfl⟩
    rintro _ ⟨⟩
    exact known.trans (revised_generation state family).symm
  · refine Or.inr ⟨effect, took, nofun, fun orderly => ?_⟩
    exact absurd (same ▸ orderly.room) full

theorem reserveSend_opens {fact : σ → Prop}
    {makeWorkflow : WalletClientConfig → Except WalletClientError SendWorkflow}
    {submission : Locked σ} (allocates : Allocates fact submission) :
    Opens call .send (·.1.generation) (reserveSend makeWorkflow submission) := by
  refine fun before => (reserveSend_ends allocates before).mono ?_
  rintro result _ (⟨failed, rfl | ⟨running, vacant, nextId, later, rfl⟩⟩ |
    ⟨nextId, workflow, stage, later, running, vacant, -, -, rfl, succeeds, known⟩)
  · exact .inl ⟨.inl rfl, failed⟩
  · exact .inl ⟨.inr (.countSend nextId later running vacant), failed⟩
  · refine .inr ⟨.send nextId { workflow with stage } later running vacant, ?_, ?_, ?_⟩
    · exact taken_of_slot (revised_generation ..) (revised_slot ..)
    · rintro ⟨ticket, reserved⟩ found
      rw [revised_generation]
      exact (known ticket reserved found).1
    · exact fun orderly => succeeds orderly.room

theorem reserveResolution_opens {fact : WalletClientConfig → σ → Prop}
    (allocates : ∀ config, Allocates (fact config) (prepare config)) (before : State)
    (running : before.Running) :
    Region.Ends (reserveResolution prepare) before
      (Opened call .resolution (·.1) before) := by
  refine (reserveResolution_ends allocates before).mono ?_
  rintro result _ (⟨failed, rfl | ⟨vacant, nextId, later, rfl⟩⟩ |
    ⟨nextId, prepared, later, vacant, -, rfl, rfl⟩)
  · exact .inl ⟨.inl rfl, failed⟩
  · exact .inl ⟨.inr (.countResolution nextId later running vacant), failed⟩
  · refine .inr ⟨.resolution nextId later running vacant, taken_of_slot rfl rfl, ?_, fun _ => rfl⟩
    rintro _ ⟨⟩
    rfl

/-- The value of a reservation may be wrapped up further. -/
theorem opened_map {later : β → Nat} {region : Locked α} {wrap : α → β}
    (opened : Region.Ends region before (Opened call family generation before))
    (same : ∀ value, later (wrap value) = generation value) :
    Region.Ends (region >>= fun value => pure (wrap value)) before
      (Opened call family later before) := by
  refine Region.ends_bind ?_
  unfold Region.Ends at opened ⊢
  rcases ran : region before with ⟨_ | value, after⟩
  · rw [ran] at opened
    rcases opened with ⟨effect, failed⟩ | ⟨effect, took, _, succeeds⟩
    · exact .inl ⟨effect, rfl⟩
    · exact .inr ⟨effect, took, nofun, fun orderly => by cases succeeds orderly⟩
  · rw [ran] at opened
    rcases opened with ⟨effect, failed⟩ | ⟨effect, took, known, succeeds⟩
    · cases failed
    · refine .inr ⟨effect, took, ?_, fun _ => rfl⟩
      rintro _ ⟨⟩
      exact (same value).trans (known value rfl)

theorem reserveResolvePending_opens :
    Opens call .resolution (·.generation) reserveResolvePending := by
  intro before
  refine ensureRunning_ends (fun _ => .inl ⟨.inl rfl, rfl⟩) fun running => ?_
  exact opened_map (reserveResolution_opens resolveRequests_allocates before running) fun _ => rfl

theorem reserveWithoutSecret_opens {fact : WalletClientConfig → σ → Prop}
    (allocates : ∀ config, Allocates (fact config) (prepare config)) :
    Opens call .resolution (·.1) (reserveWithoutSecret prepare) := by
  intro before
  refine ensureRunning_ends (fun _ => .inl ⟨.inl rfl, rfl⟩) fun running => ?_
  exact reserveResolution_opens allocates before running

theorem reserveWithSecret_opens {fact : WalletClientConfig → σ → Prop}
    {reason : SecretAccessReason} {prompt : String}
    (allocates : ∀ config, Allocates (fact config) (prepare config)) :
    Opens call .resolution (·.2.1) (reserveWithSecret reason prompt prepare) := by
  intro before
  refine ensureRunning_ends (fun _ => .inl ⟨.inl rfl, rfl⟩) fun running => ?_
  refine Region.ends_bind (Region.ends_get ?_)
  cases before.config.localSecretRef with
  | none => exact .inl ⟨.inl rfl, rfl⟩
  | some secretRef => exact opened_map (reserveResolution_opens allocates before running) fun _ => rfl

theorem reserveRefresh_opens : Opens call .refresh (·.1) reserveRefresh := by
  intro before
  refine ensureRunning_ends (fun _ => .inl ⟨.inl rfl, rfl⟩) fun running => Region.ends_get ?_
  have counts : ∀ error after, Allocated before after → Opened call .refresh
      (fun reserved : Nat × HttpRequest × HttpRequest × List HttpRequestId => reserved.1) before
      (.error error) after := by
    rintro error _ ⟨nextId, later, rfl⟩
    exact .inl ⟨.inr (.allocate nextId later running), rfl⟩
  refine allocateRequestId_allocates.ends counts fun account _ _ first => ?_
  refine allocateRequestId_allocates.ends (fun _ _ next => counts _ _ (first.trans next))
    fun activity _ _ next => ?_
  have soFar := first.trans next
  refine (lift_allocates _).ends (fun _ _ next => counts _ _ (soFar.trans next))
    fun _ _ _ next => ?_
  have soFar := soFar.trans next
  refine (lift_allocates _).ends (fun _ _ next => counts _ _ (soFar.trans next))
    fun _ _ _ next => ?_
  have soFar := soFar.trans next
  refine Region.ends_get (Region.ends_guard (fun _ => counts _ _ soFar) fun _ => ?_)
  obtain ⟨nextId, later, rfl⟩ := soFar
  refine Region.ends_set (opened_revised ?_ rfl rfl rfl rfl)
  exact .refresh nextId account activity later running

/-- A load is reserved by counting its generation and taking its slot. -/
theorem reserveLoad_opens {family : OperationFamily} {counter : State → Nat}
    {endpoint : State → Endpoint} {take : Nat → HttpRequestId → State → State} {before : State}
    (running : before.Running)
    (opens : ∀ nextId id, before.nextId ≤ nextId →
      let opened := take (counter before + 1) id { before with nextId }
      OpeningEffect before opened.revised ∧
      opened.generation family = before.generation family + 1 ∧
      (∃ ids, opened.slot family = some (before.generation family + 1, ids)) ∧
      opened.snapshot.revision = before.snapshot.revision)
    (counts : ∀ nextId, counter { before with nextId } = counter before)
    (counted : counter before = before.generation family) :
    Region.Ends (reserveLoad counter endpoint take) before (Opened call family (·.1) before) := by
  refine Region.ends_get ((allocateRequest_allocates _ _).ends ?_ ?_)
  · rintro error _ ⟨nextId, later, rfl⟩
    exact .inl ⟨.inr (.allocate nextId later running), rfl⟩
  · rintro request _ - ⟨nextId, later, rfl⟩
    refine Region.ends_get (Region.ends_guard (fun _ => ?_) fun _ => ?_)
    · exact .inl ⟨.inr (.allocate nextId later running), rfl⟩
    · dsimp only
      rw [counts]
      obtain ⟨effect, raised, ⟨ids, slot⟩, same⟩ := opens nextId request.id later
      exact Region.ends_set (opened_revised effect raised slot
        ((congrArg (· + 1) counted).trans raised.symm) same)

theorem reserveRefreshNfts_opens : Opens call .nftRefresh (·.1) reserveRefreshNfts := by
  intro before
  refine ensureRunning_ends (fun _ => .inl ⟨.inl rfl, rfl⟩) fun running => Region.ends_get ?_
  refine opened_map (reserveLoad_opens running ?_ (fun _ => rfl) rfl) fun _ => rfl
  intro nextId id later
  exact ⟨.nftRefresh nextId id later running, rfl, ⟨_, rfl⟩, rfl⟩

/-- How the reservation of a page ends: the page is skipped, or its slot is taken. -/
def Paged (call : PublicCall) (family : OperationFamily) (generation : α → Nat) (before : State)
    (result : Except WalletClientError (WalletUpdate ⊕ α)) (after : State) : Prop :=
  (∃ update, result = .ok (.inl update) ∧ update.snapshot = before.snapshot) ∧ after = before ∨
  Opened call family (Sum.elim (fun _ => 0) generation) before result after

theorem paged_of_opened {later : β → Nat} {region : Locked α} {wrap : α → β}
    (opened : Region.Ends region before (Opened call family generation before))
    (same : ∀ value, later (wrap value) = generation value) :
    Region.Ends (region >>= fun value => pure (.inr (wrap value))) before
      (Paged call family later before) := by
  have mapped : Region.Ends (region >>= fun value => pure (Sum.inr (wrap value))) before
      (Opened call family (Sum.elim (fun _ : WalletUpdate => 0) later) before) :=
    opened_map opened same
  exact .inr mapped

theorem reserveLoadMoreActivity_paged (before : State) :
    Region.Ends reserveLoadMoreActivity before (Paged call .pagination (·.1) before) := by
  refine ensureRunning_ends (fun _ => .inr (.inl ⟨.inl rfl, rfl⟩)) fun running =>
    Region.ends_get (Region.ends_ite (fun _ => .inl ⟨⟨_, rfl, rfl⟩, rfl⟩) fun proceeds => ?_)
  obtain ⟨⟨alone, idle⟩, -⟩ : (before.activeRefresh = none ∧ before.activePagination = none) ∧
      before.activityHasMore = true := by simpa using proceeds
  cases before.activityCursor with
  | none => exact .inl ⟨⟨_, rfl, rfl⟩, rfl⟩
  | some cursor =>
    refine paged_of_opened (reserveLoad_opens running ?_ (fun _ => rfl) rfl) fun _ => rfl
    intro nextId id later
    exact ⟨.pagination nextId id later running alone idle, rfl, ⟨_, rfl⟩, rfl⟩

theorem reserveLoadMoreNfts_paged (before : State) :
    Region.Ends reserveLoadMoreNfts before (Paged call .nftPagination (·.1) before) := by
  refine ensureRunning_ends (fun _ => .inr (.inl ⟨.inl rfl, rfl⟩)) fun running =>
    Region.ends_get (Region.ends_ite (fun _ => .inl ⟨⟨_, rfl, rfl⟩, rfl⟩) fun proceeds => ?_)
  obtain ⟨⟨alone, idle⟩, -⟩ : (before.activeNftRefresh = none ∧
      before.activeNftPagination = none) ∧ before.nftsHasMore = true := by simpa using proceeds
  refine paged_of_opened (reserveLoad_opens running ?_ (fun _ => rfl) rfl) fun _ => rfl
  intro nextId id later
  exact ⟨.nftPagination nextId id later running alone idle, rfl, ⟨_, rfl⟩, rfl⟩

end Reservations

section ClientRegions

variable {call : PublicCall} {σ : Type}

theorem reservePreview_roams {prepare : WalletClientConfig → Locked σ}
    {fact : WalletClientConfig → σ → Prop}
    (allocates : ∀ config, Allocates (fact config) (prepare config)) :
    Roams call (reservePreview prepare) := by
  intro before
  refine ensureRunning_ends (fun _ => .inl rfl) fun running => Region.ends_get ?_
  refine Region.ends_guard (fun _ => .inl rfl) fun _ => ?_
  refine Region.ends_guard (fun _ => .inl rfl) fun _ => ?_
  refine Region.ends_guard (fun _ => .inl rfl) fun _ => Region.ends_set ?_
  refine (allocates _).ends ?_ ?_
  · rintro _ _ ⟨nextId, later, rfl⟩
    exact .inr (.countPreview nextId later running)
  · rintro _ _ - ⟨nextId, later, rfl⟩
    exact .inr (.reservePreview nextId later running)

theorem trackPreview_roams {generation : Nat} {track : List HttpRequestId → List HttpRequestId} :
    Roams call (trackPreview generation track) := by
  intro before
  refine ensureRunning_ends (fun _ => .inl rfl) fun running => Region.ends_get ?_
  rcases active : before.activePreview with _ | ⟨owner, ids⟩
  · exact .inl rfl
  · exact Region.ends_guard (fun _ => .inl rfl) fun _ =>
      .inr (.trackPreview owner ids (track ids) running active)

theorem finishPreview_roams {generation : Nat} : Roams call (finishPreview generation) := by
  intro before
  refine Region.ends_get (Region.ends_ite (fun current => ?_) fun _ => ?_)
  · refine .inr (.releasePreview ?_)
    rw [State.isCurrent, State.slot, Option.any_eq_true] at current
    obtain ⟨active, found, -⟩ := current
    exact Option.isSome_iff_exists.mpr ⟨active, found⟩
  · exact Region.ends_ite (fun _ => .inl rfl) fun _ => .inl rfl

theorem cancelSendPreviewRegion_roams : Roams call cancelSendPreviewRegion := by
  intro before
  refine ensureRunning_ends (fun _ => .inl rfl) fun _ => Region.ends_get (Region.ends_set ?_)
  cases active : before.activePreview with
  | none =>
    have same : { before with activePreview := none } = before := by rw [← active]
    exact .inl same
  | some found => exact .inr (.releasePreview (by rw [active]; rfl))

/-- A cancelled load leaves its slot empty and its resource idle. -/
theorem cancelLoad_roams {family : OperationFamily} {settle : State → State}
    (cancels : ∀ state, (state.slot family).isSome = true →
      ClientEffect call state (settle state).revised) :
    Roams call (cancelLoad family settle) := by
  intro before
  refine Region.ends_get ?_
  by_cases active : (before.slot family).isSome = true
  · rw [if_pos active]
    refine Region.ends_set (Region.ends_bind (nextRevision_ends _ (fun _ => ?_) fun _ => ?_))
    · exact .inr (cancels before active)
    · exact .inr (cancels before active)
  · rw [if_neg active]
    exact .inl rfl

theorem cancelLoadMoreActivityRegion_roams : Roams call cancelLoadMoreActivityRegion :=
  cancelLoad_roams fun _ active => .cancelPagination active

theorem cancelRefreshNftsRegion_roams : Roams call cancelRefreshNftsRegion :=
  cancelLoad_roams fun _ active => .cancelNftRefresh active

theorem cancelLoadMoreNftsRegion_roams : Roams call cancelLoadMoreNftsRegion :=
  cancelLoad_roams fun _ active => .cancelNftPagination active

theorem cancelRefreshRegion_roams : Roams call cancelRefreshRegion := by
  intro before
  refine Region.ends_get (Region.ends_set ?_)
  rcases active : before.activeRefresh with _ | ⟨generation, ids⟩
  · have same : { before with activeRefresh := none } = before := by rw [← active]
    exact .inl same
  · cases ids with
    | nil => exact .inr (.dropRefresh generation active)
    | cons id rest =>
      refine Region.ends_modify (Region.ends_bind (nextRevision_ends _ (fun _ => ?_) fun _ => ?_))
      · exact .inr (.cancelRefresh generation _ active)
      · exact .inr (.cancelRefresh generation _ active)

theorem awaitRevision_roams {afterRevision : Nat} : Roams call (awaitRevision afterRevision) := by
  intro before
  refine ensureRunning_ends (fun _ => .inl rfl) fun running => Region.ends_get ?_
  refine Region.ends_ite (fun _ => .inl rfl) fun current => ?_
  exact .inr (.wait afterRevision running (Nat.le_of_not_lt current))

theorem cancelWorkflow_eq (codec : JournalCodec) (state : State) :
    ∃ workflow snapshot, cancelWorkflow codec state = { state with
      sendWorkflow := workflow
      snapshot.send := snapshot } := by
  unfold cancelWorkflow
  cases state.sendWorkflow with
  | none => exact ⟨none, _, rfl⟩
  | some workflow => exact ⟨_, _, rfl⟩

theorem cancelSendRegion_roams {codec : JournalCodec} (asked : call = .cancelSend) :
    Roams call (cancelSendRegion codec) := by
  intro before
  refine Region.ends_get (Region.ends_guard (fun _ => .inl rfl) fun _ => Region.ends_set ?_)
  cases active : before.activeSend with
  | none =>
    have same : { before with activeSend := none, sendCommitStarted := false } =
        { before with sendCommitStarted := false } := by rw [← active]
    have disarmed : ClientEffect call before
        { before with activeSend := none, sendCommitStarted := false } := same ▸ .disarm active
    exact .inr disarmed
  | some found =>
    refine Region.ends_modify ?_
    obtain ⟨workflow, snapshot, cancelled⟩ := cancelWorkflow_eq codec
      { before with activeSend := none, sendCommitStarted := false }
    rw [cancelled]
    refine Region.ends_bind (nextRevision_ends _ (fun _ => ?_) fun _ => ?_)
    · exact .inr (.cancelSend asked (by rw [active]; rfl) workflow snapshot)
    · exact .inr (.cancelSend asked (by rw [active]; rfl) workflow snapshot)

theorem shutdownRound_roams {codec : JournalCodec} {rounds : Nat}
    (asked : call = .shutdown rounds) : Roams call (shutdownRound codec) := by
  intro before
  refine Region.ends_get (Region.ends_ite (fun _ => .inl rfl) fun up => Region.ends_set ?_)
  have running : before.shutdown = false := eq_false_of_ne_true up
  refine Region.ends_ite (fun _ => .inr (.closeAndWait running)) fun _ => ?_
  refine Region.ends_bind (Region.ends_get (Region.ends_guard (fun _ => ?_) fun spare => ?_))
  · exact .inr (.close running)
  refine Region.ends_set ?_
  have stops : ClientEffect call before _ := .stop rounds codec asked running _ rfl _ rfl
  by_cases busy : before.hasActiveWork = true
  · rw [if_pos busy] at stops
    have room : before.snapshot.revision + 1 < u64Bound := by
      by_contra full
      refine spare ?_
      change (before.hasActiveWork && decide (u64Bound ≤ before.snapshot.revision + 1)) = true
      rw [busy, decide_eq_true (Nat.le_of_not_lt full)]
      rfl
    refine Region.ends_ite (fun _ => ?_) fun idle => absurd busy idle
    refine Region.ends_bind (nextRevision_ends _ (fun _ => .inr stops) fun full => ?_)
    rw [releaseAll_revision] at full
    exact absurd room full
  · rw [if_neg busy] at stops
    exact Region.ends_ite (fun work => absurd work busy) fun _ => .inr stops

end ClientRegions

section LoadRegions

variable {P : Platform} {log : Log P} {generation : Nat}

/-- A region that delivers a result of a load. -/
def Delivers (log : Log P) (family : OperationFamily) (generation : Nat) (region : Locked α) :
    Prop :=
  ∀ before, Region.Ends region before fun _ after =>
    after = before ∨ LoadEffect log before family generation after

theorem publishRefreshComponent_delivers (value : RefreshValue) :
    Delivers log .refresh generation (publishRefreshComponent generation value) := by
  intro before
  refine Region.ends_get (Region.ends_ite (fun current => Region.ends_set ?_) fun _ => .inl rfl)
  refine nextRevision_ends _ (fun _ => ?_) fun _ => ?_
  · exact .inr (.refreshed generation value current)
  · exact .inr (.refreshed generation value current)

theorem finishRefresh_delivers (account : ResourceSettled log generation (·.snapshot.accountResource))
    (activity : ResourceSettled log generation (·.snapshot.activityResource)) :
    Delivers log .refresh generation (finishRefresh generation) := by
  intro before
  refine Region.ends_get (Region.ends_ite (fun _ => .inl rfl) fun stays => ?_)
  have current : before.isCurrent .refresh generation = true := by simpa using stays
  exact .inr (.refreshDone generation current account activity)

theorem finishLoad_delivers {page : Type} {family : OperationFamily}
    {result : Except DomainError page} {load : State → page → State × Nat}
    {settle : ResourceState → State → State}
    {report : WalletOperationOutcome → Nat → WalletSnapshot → WalletUpdate}
    (delivers : ∀ before, before.isCurrent family generation = true →
      LoadEffect log before family generation
        (settle (loadOutcome result).2 (loaded load before result)).revised) :
    Delivers log family generation (finishLoad family generation result load settle report) := by
  intro before
  refine Region.ends_get (Region.ends_ite (fun _ => .inl rfl) fun stays => ?_)
  have current : before.isCurrent family generation = true := by simpa using stays
  have delivered := delivers before current
  cases result with
  | ok page =>
    refine Region.ends_set (Region.ends_bind (nextRevision_ends _ (fun _ => ?_) fun _ => ?_))
    · exact .inr delivered
    · exact .inr delivered
  | error error =>
    refine Region.ends_set (Region.ends_bind (nextRevision_ends _ (fun _ => ?_) fun _ => ?_))
    · exact .inr delivered
    · exact .inr delivered

theorem finishLoadMoreActivity_delivers (result : Except DomainError ActivityPage) :
    Delivers log .pagination generation (finishLoadMoreActivity generation result) :=
  finishLoad_delivers fun _ current => .paged generation result current

theorem finishRefreshNfts_delivers (result : Except DomainError NftPage) :
    Delivers log .nftRefresh generation (finishRefreshNfts generation result) :=
  finishLoad_delivers fun _ current => .nftsRefreshed generation result current

theorem finishLoadMoreNfts_delivers (result : Except DomainError NftPage) :
    Delivers log .nftPagination generation (finishLoadMoreNfts generation result) :=
  finishLoad_delivers fun _ current => .nftsPaged generation result current

/-- A page of the history changes the list of records and where it ends. -/
theorem loaded_activity (before : State) (result : Except DomainError ActivityPage) :
    ∃ activity cursor hasMore items shownCursor shownMore,
      loaded applyActivityPage before result = { before with
        activity := activity
        activityCursor := cursor
        activityHasMore := hasMore
        snapshot.activityItems := items
        snapshot.activityCursor := shownCursor
        snapshot.activityHasMore := shownMore } := by
  rcases result with error | page
  · exact ⟨_, _, _, _, _, _, rfl⟩
  · simp only [loaded, applyActivityPage]
    split
    · exact ⟨_, _, _, _, _, _, rfl⟩
    · exact ⟨_, _, _, _, _, _, rfl⟩

/-- A page of the NFT list changes the list and where it ends. -/
theorem loaded_nfts {load : State → NftPage → State × Nat} (before : State)
    (result : Except DomainError NftPage)
    (loads : load = applyRefreshedNftPage ∨ load = applyNftPage) :
    ∃ nfts offset hasMore shownMore, loaded load before result = { before with
      snapshot.nfts := nfts
      nftOffset := offset
      nftsHasMore := hasMore
      snapshot.nftsHasMore := shownMore } := by
  rcases result with error | page
  · exact ⟨_, _, _, _, rfl⟩
  · rcases loads with rfl | rfl
    · exact ⟨_, _, _, _, rfl⟩
    · exact ⟨_, _, _, _, rfl⟩

/-- A component of a refresh settles its own resource. -/
theorem RefreshValue.apply_eq (before : State) (value : RefreshValue) :
    ∃ account accountResource activityResource activity cursor hasMore items shownCursor shownMore,
      value.apply before = { before with
        snapshot.account := account
        snapshot.accountResource := accountResource
        snapshot.activityResource := activityResource
        snapshot.activityItems := items
        snapshot.activityCursor := shownCursor
        snapshot.activityHasMore := shownMore
        activity := activity
        activityCursor := cursor
        activityHasMore := hasMore } ∧
      (accountResource = before.snapshot.accountResource ∨ accountResource.phase ≠ .loading) ∧
      (activityResource = before.snapshot.activityResource ∨
        activityResource.phase ≠ .loading) := by
  rcases value with (error | loaded) | (error | page)
  · exact ⟨_, _, _, _, _, _, _, _, _, rfl, .inr nofun, .inl rfl⟩
  · exact ⟨_, _, _, _, _, _, _, _, _, rfl, .inr nofun, .inl rfl⟩
  · exact ⟨_, _, _, _, _, _, _, _, _, rfl, .inl rfl, .inr nofun⟩
  · simp only [RefreshValue.apply, applyRefreshedActivityPage]
    split
    · exact ⟨_, _, _, _, _, _, _, _, _, rfl, .inl rfl, .inr nofun⟩
    · exact ⟨_, _, _, _, _, _, _, _, _, rfl, .inl rfl, .inr nofun⟩

theorem LoadEffect.current {family : OperationFamily} {before after : State}
    (effect : LoadEffect log before family generation after) :
    before.isCurrent family generation = true := by
  cases effect <;> assumption

/-- What a result of a load leaves as it was, apart from the slot of the load. -/
structure State.Spared (before changed : State) : Prop where
  generation : ∀ family, changed.generation family = before.generation family
  slot : ∀ family, changed.slot family = before.slot family ∨ changed.slot family = none
  waiters : changed.waiters = before.waiters
  shutdown : changed.shutdown = before.shutdown
  revision : changed.snapshot.revision = before.snapshot.revision

theorem LoadEffect.spares {family : OperationFamily} {before after : State}
    (effect : LoadEffect log before family generation after) :
    after = { before with activeRefresh := none } ∨
      ∃ changed, after = changed.revised ∧ before.Spared changed := by
  cases effect with
  | refreshDone => exact .inl rfl
  | refreshed generation value current =>
    obtain ⟨_, _, _, _, _, _, _, _, _, same, -⟩ := RefreshValue.apply_eq before value
    rw [same]
    exact .inr ⟨_, rfl, by rintro ⟨⟩ <;> rfl, by rintro ⟨⟩ <;> exact .inl rfl, rfl, rfl, rfl⟩
  | paged generation result current =>
    obtain ⟨_, _, _, _, _, _, same⟩ := loaded_activity before result
    rw [same]
    exact .inr ⟨_, rfl, by rintro ⟨⟩ <;> rfl,
      by rintro ⟨⟩ <;> first | exact .inl rfl | exact .inr rfl, rfl, rfl, rfl⟩
  | nftsRefreshed generation result current =>
    obtain ⟨_, _, _, _, same⟩ := loaded_nfts before result (.inl rfl)
    rw [same]
    exact .inr ⟨_, rfl, by rintro ⟨⟩ <;> rfl,
      by rintro ⟨⟩ <;> first | exact .inl rfl | exact .inr rfl, rfl, rfl, rfl⟩
  | nftsPaged generation result current =>
    obtain ⟨_, _, _, _, same⟩ := loaded_nfts before result (.inr rfl)
    rw [same]
    exact .inr ⟨_, rfl, by rintro ⟨⟩ <;> rfl,
      by rintro ⟨⟩ <;> first | exact .inl rfl | exact .inr rfl, rfl, rfl, rfl⟩

theorem LoadEffect.generation_eq {loads family : OperationFamily} {before after : State}
    (effect : LoadEffect log before loads generation after) :
    after.generation family = before.generation family := by
  rcases effect.spares with rfl | ⟨changed, rfl, spared⟩
  · cases family <;> rfl
  · rw [revised_generation, spared.generation]

end LoadRegions

end WalletEngine
