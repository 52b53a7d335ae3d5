import WalletEngine.Contract.EffectRegions

/-! # Operations that follow the rules

`Engine.Follows` says that an operation makes only moves its call allows, and
what it knows when it succeeds. This module has the rules of sequencing and the
tracked requests and failure paths that all operations share. -/

namespace WalletEngine

variable {P : Platform} {call : PublicCall} {log : Log P} {α β : Type}

namespace Engine

variable {operation : Engine P α}

/-- The operation makes only moves its call allows, and `success` holds of what
it returns. -/
def Performs (call : PublicCall) (success : Log P → α → Prop) (log : Log P)
    (operation : Engine P α) : Prop :=
  Fallible.Obeys (walletRule P call) success (fun _ _ => True) log operation

/-- As `Performs`, for an operation that stores no message of its own. -/
def Follows (call : PublicCall) (success : Log P → α → Prop) (log : Log P)
    (operation : Engine P α) : Prop :=
  Fallible.Obeys (walletRule P call)
    (fun later value => success later value ∧ (Uncommitted log → Uncommitted later))
    (fun later _ => Uncommitted log → Uncommitted later) log operation

variable {success stronger : Log P → α → Prop} {final : Log P → β → Prop}

section Performs

variable {operation : Engine P α}

theorem Performs.bind {next : α → Engine P β} (first : operation.Performs call success log)
    (rest : ∀ later value, log <:+ later → success later value →
      (next value).Performs call final later) : (operation >>= next).Performs call final log :=
  Fallible.Obeys.bind first rest

theorem performs_pure {value : α} (holds : success log value) :
    (pure value : Engine P α).Performs call success log := holds

theorem await_performs {request : HostCall P}
    {success : Log P → HostCall.Answer P request → Prop} (allowed : CallMove log call request)
    (answered : ∀ answer, success (.answered request answer :: log) answer) :
    (await request : Engine P _).Performs call success log :=
  Fallible.obeys_await allowed answered

theorem Follows.performs (follows : operation.Follows call success log) :
    operation.Performs call success log :=
  Fallible.Obeys.mono follows (fun _ _ _ known => known.1) fun _ _ _ _ => trivial

/-- Go on with an operation that may store a message. -/
theorem Follows.continue {next : α → Engine P β} (first : operation.Follows call success log)
    (rest : ∀ later value, log <:+ later → success later value →
      (Uncommitted log → Uncommitted later) → (next value).Performs call final later) :
    (operation >>= next).Performs call final log := by
  have opened : operation.Performs call (fun later value => success later value ∧
      (Uncommitted log → Uncommitted later)) log :=
    Fallible.Obeys.mono first (fun _ _ _ known => known) fun _ _ _ _ => trivial
  exact opened.bind fun later value grows known => rest later value grows known.1 known.2

end Performs

theorem Follows.bind {next : α → Engine P β} (first : operation.Follows call success log)
    (rest : ∀ later value, log <:+ later → success later value →
      (next value).Follows call final later) : (operation >>= next).Follows call final log := by
  refine Fallible.Obeys.bind first fun later value grows known => ?_
  refine Fallible.Obeys.mono (rest later value grows known.1) ?_ ?_
  · exact fun last _ _ facts => ⟨facts.1, fun free => facts.2 (known.2 free)⟩
  · exact fun last _ _ kept free => kept (known.2 free)

theorem Follows.mono (follows : operation.Follows call stronger log)
    (weaken : ∀ later value, log <:+ later → stronger later value → success later value) :
    operation.Follows call success log :=
  Fallible.Obeys.mono follows
    (fun later value grows known => ⟨weaken later value grows known.1, known.2⟩)
    fun _ _ _ kept => kept

theorem follows_pure {value : α} (holds : success log value) :
    (pure value : Engine P α).Follows call success log := ⟨holds, id⟩

theorem Follows.map {change : α → β}
    (follows : operation.Follows call (fun later value => final later (change value)) log) :
    Follows call final log (change <$> operation) := by
  refine Async.Obeys.bind follows fun later result _ holds => ?_
  cases result with
  | ok value => exact holds
  | error error => exact holds

theorem follows_throw {error : WalletClientError} :
    (throw error : Engine P α).Follows call success log := fun free => free

theorem withLock_follows {region : Locked α}
    (moves : ∀ state, StateMove log call state.tracked (region state).2.tracked)
    (succeeds : ∀ state value after, region state = (.ok value, after) →
      success (.locked state after :: log) value) :
    (withLock region : Engine P α).Follows call success log :=
  Fallible.obeys_locked moves
    (fun state value after ran => ⟨succeeds state value after ran, Uncommitted.locked⟩)
    fun _ _ _ _ => Uncommitted.locked

theorem withLock_ends {region : Locked α} {fact : State → State → α → Prop}
    (ends : ∀ state, Region.Ends region state fun result after =>
      StateMove log call state.tracked after.tracked ∧
        ∀ value, result = .ok value → fact state after value)
    (succeeds : ∀ state after value, fact state after value →
      success (.locked state after :: log) value) :
    (withLock region : Engine P α).Follows call success log := by
  refine withLock_follows (fun state => (ends state).1) fun state value after ran => ?_
  have known := (ends state).2 value
  rw [ran] at known
  exact succeeds state after value (known rfl)

/-- A region that leaves alone what is tracked. -/
theorem withLock_keeps {region : Locked α} {fact : State → State → α → Prop}
    (keeps : Keeps fact region)
    (succeeds : ∀ state after value, fact state after value →
      success (.locked state after :: log) value) :
    (withLock region : Engine P α).Follows call success log :=
  withLock_ends (fun state => (keeps state).mono fun _ _ ended => ⟨ended.1 ▸ .untouched, ended.2⟩)
    succeeds

/-- A region whose result carries no information. -/
theorem withLock_follows_of_moves {region : Locked α}
    (moves : ∀ state, StateMove log call state.tracked (region state).2.tracked) :
    (withLock region : Engine P α).Follows call (fun _ _ => True) log :=
  withLock_follows moves fun _ _ _ _ => trivial

theorem await_follows {request : HostCall P}
    {success : Log P → HostCall.Answer P request → Prop} (allowed : CallMove log call request)
    (spares : ∀ mutation, request = .compareExchangeJournal mutation → ¬ Commits mutation)
    (answered : ∀ answer, success (.answered request answer :: log) answer) :
    (await request : Engine P _).Follows call success log :=
  Fallible.obeys_await allowed fun answer => ⟨answered answer, fun free => free.answered spares⟩

/-- Wait for an answer, and go on with it. -/
theorem await_bind {request : HostCall P} {next : HostCall.Answer P request → Engine P β}
    (allowed : CallMove log call request)
    (spares : ∀ mutation, request = .compareExchangeJournal mutation → ¬ Commits mutation)
    (rest : ∀ later answer, log <:+ later → Answered later request answer →
      (next answer).Follows call final later) :
    (await request >>= next).Follows call final log := by
  have asks : (await request : Engine P _).Follows call
      (fun later answer => Answered later request answer) log :=
    await_follows allowed spares fun _ => List.mem_cons_self
  exact asks.bind rest

/-- Run a region, and go on with what it returns. -/
theorem withLock_bind {region : Locked α} {next : α → Engine P β}
    {fact : State → State → α → Prop}
    (ends : ∀ state, Region.Ends region state fun result after =>
      StateMove log call state.tracked after.tracked ∧
        ∀ value, result = .ok value → fact state after value)
    (rest : ∀ later state after value, log <:+ later → Held later state after →
      fact state after value → (next value).Follows call final later) :
    (withLock region >>= next).Follows call final log := by
  have runs : (withLock region : Engine P α).Follows call
      (fun later value => ∃ state after, Held later state after ∧ fact state after value) log :=
    withLock_ends ends fun state after _ known => ⟨state, after, List.mem_cons_self, known⟩
  exact runs.bind fun later value grows ⟨state, after, held, known⟩ =>
    rest later state after value grows held known

theorem outcome_follows {success : Log P → α → Prop}
    (follows : operation.Follows call success log) :
    Follows call (fun _ _ => True) log (Fallible.outcome operation) :=
  Fallible.obeys_outcome
    (Fallible.Obeys.mono follows (fun _ _ _ known => ⟨trivial, known.2⟩)
      fun _ _ _ kept => ⟨trivial, kept⟩)

end Engine

section CommitHeld

variable {generation : Nat}
variable {state : State}

theorem CommitHeld.answered {request : HostCall P} {answer : HostCall.Answer P request}
    (held : CommitHeld log generation) :
    CommitHeld ((.answered request answer : Observation State (walletHost P)) :: log)
      generation := by
  obtain ⟨newer, before, after, older, rfl, reserved, committed, kept⟩ := held
  refine ⟨_ :: newer, before, after, older, rfl, reserved, committed, ?_⟩
  intro earlier later member
  exact kept earlier later ((List.mem_cons.mp member).resolve_left nofun)

theorem CommitHeld.locked {next : State} (held : CommitHeld log generation)
    (keeps : state.tracked.Committed generation → next.tracked.Committed generation) :
    CommitHeld ((.locked state next : Observation State (walletHost P)) :: log) generation := by
  obtain ⟨newer, before, after, older, rfl, reserved, committed, kept⟩ := held
  refine ⟨_ :: newer, before, after, older, rfl, reserved, committed, ?_⟩
  intro earlier later member
  rcases List.mem_cons.mp member with same | old
  · cases same
    exact keeps
  · exact kept earlier later old

theorem CommitHeld.begun {next : State} (reserved : ReservedSend log generation)
    (committed : next.tracked.Committed generation) :
    CommitHeld ((.locked state next : Observation State (walletHost P)) :: log) generation :=
  ⟨[], state, next, log, rfl, reserved, committed, fun _ _ member => absurd member List.not_mem_nil⟩

theorem TrackEffect.moves {family : OperationFamily} {listed tracked : List HttpRequestId}
    {before after : State} (effect : TrackEffect before family generation listed tracked after)
    (reserved : family = .send → ReservedSend log generation) :
    StateMove log call before.tracked after.tracked := by
  cases effect with
  | send generation listed tracked active =>
    exact .trackSend generation listed tracked (reserved rfl) active
  | resolution generation listed tracked active =>
    exact .trackResolution generation listed tracked active

theorem Lists.moves {family : OperationFamily}
    {region : (List HttpRequestId → List HttpRequestId) → Locked Unit}
    (lists : Lists family generation region)
    (reserved : family = .send → ReservedSend log generation)
    {track : List HttpRequestId → List HttpRequestId} (state : State) :
    StateMove log call state.tracked (region track state).2.tracked := by
  rcases lists track state with ⟨listed, effect, -⟩ | ⟨same, -⟩
  · exact effect.moves reserved
  · rw [same]
    exact .untouched

theorem trackSend_keeps {track : List HttpRequestId → List HttpRequestId} {after : State}
    {outcome : Except WalletClientError Unit}
    (ran : trackSend generation track state = (outcome, after))
    (committed : state.tracked.Committed generation) : after.tracked.Committed generation := by
  have ended : Region.Ends (trackSend generation track) state _ := trackSend_lists track state
  rw [Region.Ends, ran] at ended
  rcases ended with ⟨listed, ⟨⟩, -⟩ | ⟨rfl, -⟩
  · exact ⟨⟨track listed, rfl⟩, committed.2⟩
  · exact committed

theorem publishSendWorkflow_keeps {workflow : SendWorkflow} {after : State}
    {outcome : Except WalletClientError Unit}
    (ran : publishSendWorkflow generation workflow state = (outcome, after))
    (committed : state.tracked.Committed generation) : after.tracked.Committed generation := by
  have shown := publishSendWorkflow_tracked generation workflow state
  rw [ran] at shown
  change after.tracked = _ at shown
  rw [shown]
  split
  · exact ⟨committed.1, committed.2⟩
  · exact committed

end CommitHeld

section Failures

variable {generation : Nat} {success : Log P → α → Prop}
variable {owner : ResolutionOwner}

theorem releaseAndThrow_follows {phase : SendPhase} (reserved : ReservedSend log generation)
    (unresolved : phase.isResolved = false) (message : String) (error : WalletClientError) :
    Engine.Follows call success log
      (do Engine.withLock (releaseSend generation phase message); throw error) := by
  apply Engine.Follows.bind
  · exact Engine.withLock_follows_of_moves (releaseSend_moves reserved unresolved message)
  · intro later _ _ _
    exact Engine.follows_throw

theorem sendFailedError_follows (reserved : ReservedSend log generation) (message : String) :
    (Engine.sendFailedError generation message : Engine P α).Follows call success log :=
  releaseAndThrow_follows reserved rfl _ _

theorem sendWorkflowError_follows (reserved : ReservedSend log generation)
    (error : SendWorkflowError) :
    (Engine.sendWorkflowError generation error : Engine P α).Follows call success log :=
  releaseAndThrow_follows reserved rfl _ _

theorem submissionUnknownError_follows (reserved : ReservedSend log generation)
    (message : String) :
    (Engine.submissionUnknownError generation message : Engine P α).Follows call success log :=
  releaseAndThrow_follows reserved rfl _ _

/-- The slot of a resolver that runs inside a send is that send's. -/
def ResolutionOwner.Reserved (log : Log P) : ResolutionOwner → Prop
  | .send generation => ReservedSend log generation
  | .standalone _ => True

theorem ResolutionOwner.Reserved.mono {later : Log P} (reserved : owner.Reserved log)
    (grows : log <:+ later) : owner.Reserved later := by
  cases owner with
  | send generation => exact ReservedSend.mono reserved grows
  | standalone generation => trivial

theorem resolutionFailedError_follows (reserved : owner.Reserved log) (message : String) :
    (Engine.resolutionFailedError owner message : Engine P α).Follows call success log := by
  cases owner with
  | send generation => exact sendFailedError_follows reserved message
  | standalone generation =>
    apply Engine.Follows.bind
    · exact Engine.withLock_follows_of_moves discardResolution_moves
    · intro later _ _ _
      exact Engine.follows_throw

theorem resolutionWorkflowError_follows (reserved : owner.Reserved log)
    (error : SendWorkflowError) :
    (Engine.resolutionWorkflowError owner error : Engine P α).Follows call success log := by
  cases owner with
  | send generation => exact sendWorkflowError_follows reserved error
  | standalone generation =>
    have free : ResolutionOwner.Reserved log (.standalone generation) := trivial
    exact resolutionFailedError_follows free _

end Failures

section Requests

variable {generation : Nat} {request : HttpRequest}

/-- An answer that arrived after everything in `log` was known. -/
def AnsweredAfter (log : Log P) (request : HttpRequest)
    (answer : Except DomainError P.serde.Body) (later : Log P) : Prop :=
  ∃ older, log <:+ older ∧
    ((.answered (.execute request) answer : Observation State (walletHost P)) :: older) <:+ later

/-- Only submissions carry an obligation. -/
theorem callMove_execute (plain : ∀ boc, request.endpoint ≠ .sendBoc boc) :
    CallMove log call (.execute request) :=
  fun boc same => absurd same (plain boc)

theorem executeTrackedSendRequest_follows (reserved : ReservedSend log generation)
    (allowed : ∀ later, log <:+ later → (CommitHeld log generation → CommitHeld later generation) →
      CallMove later call (.execute request)) :
    (Engine.executeTrackedSendRequest generation request : Engine P _).Follows call
      (fun later answer => AnsweredAfter log request answer later ∧
        (CommitHeld log generation → CommitHeld later generation)) log := by
  have start : (Engine.withLock (startSendRequest generation request.id) : Engine P _).Follows call
      (fun later _ => CommitHeld log generation → CommitHeld later generation) log := by
    refine Engine.withLock_follows (trackSend_lists.moves fun _ => reserved) ?_
    intro state _ after ran held
    exact held.locked (trackSend_keeps ran)
  refine start.bind fun tracked _ grows heldThen => ?_
  have ask : (Engine.execute request : Engine P _).Follows call
      (fun later answer => AnsweredAfter log request answer later ∧
        (CommitHeld log generation → CommitHeld later generation)) tracked := by
    refine Engine.await_follows (allowed tracked grows heldThen) nofun ?_
    intro answer
    exact ⟨⟨tracked, grows, List.suffix_refl _⟩, fun held => (heldThen held).answered⟩
  refine ask.bind fun answered answer _ known => ?_
  obtain ⟨⟨older, before, suffix⟩, heldThen⟩ := known
  have stop : (Engine.withLock (finishSendRequest generation request.id) : Engine P _).Follows call
      (fun later _ => answered <:+ later ∧
        (CommitHeld log generation → CommitHeld later generation)) answered := by
    refine Engine.withLock_follows (trackSend_lists.moves fun _ => reserved.mono ?_) ?_
    · exact before.trans ((List.suffix_cons _ _).trans suffix)
    · intro state _ after ran
      exact ⟨List.suffix_cons _ _, fun held => (heldThen held).locked (trackSend_keeps ran)⟩
  refine stop.bind fun later _ _ known => ?_
  exact Engine.follows_pure ⟨⟨older, before, suffix.trans known.1⟩, known.2⟩

theorem executeTrackedStandaloneResolutionRequest_follows
    (plain : ∀ boc, request.endpoint ≠ .sendBoc boc) :
    (Engine.executeTrackedStandaloneResolutionRequest generation request : Engine P _).Follows call
      (fun later answer => AnsweredAfter log request answer later) log := by
  have start : (Engine.withLock (startResolutionRequest generation request.id) :
      Engine P _).Follows call (fun _ _ => True) log :=
    Engine.withLock_follows_of_moves (trackResolution_lists.moves nofun)
  refine start.bind fun tracked _ grows _ => ?_
  have ask : (Engine.execute request : Engine P _).Follows call
      (fun later answer => AnsweredAfter log request answer later) tracked :=
    Engine.await_follows (callMove_execute plain) nofun fun answer =>
      ⟨tracked, grows, List.suffix_refl _⟩
  refine ask.bind fun answered answer _ known => ?_
  have stop : (Engine.withLock (finishResolutionRequest generation request.id) :
      Engine P _).Follows call (fun _ _ => True) answered :=
    Engine.withLock_follows_of_moves (trackResolution_lists.moves nofun)
  refine stop.bind fun later _ grows _ => ?_
  obtain ⟨older, before, suffix⟩ := known
  exact Engine.follows_pure ⟨older, before, suffix.trans grows⟩

theorem executeResolutionRequest_follows {owner : ResolutionOwner} (reserved : owner.Reserved log)
    (plain : ∀ boc, request.endpoint ≠ .sendBoc boc) :
    (Engine.executeResolutionRequest owner request : Engine P _).Follows call
      (fun later answer => AnsweredAfter log request answer later) log := by
  cases owner with
  | send generation =>
    refine (executeTrackedSendRequest_follows reserved ?_).mono fun _ _ _ known => known.1
    intro later _ _
    exact callMove_execute plain
  | standalone generation => exact executeTrackedStandaloneResolutionRequest_follows plain

theorem ensureCurrentResolution_follows {owner : ResolutionOwner} :
    (Engine.ensureCurrentResolution owner : Engine P _).Follows call (fun _ _ => True) log := by
  cases owner with
  | send generation =>
    refine Engine.withLock_follows_of_moves fun state => ?_
    rw [ensureCurrentSend_state]
    exact .untouched
  | standalone generation =>
    refine Engine.withLock_follows_of_moves fun state => ?_
    rw [ensureCurrent_state]
    exact .untouched

end Requests

end WalletEngine
