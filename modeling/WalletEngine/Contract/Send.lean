import WalletEngine.Contract.Resolver

/-! # The sending operations follow the rules

`send`, `sign_message` and `send_boc`: what they know after each phase, up to the
durable record that has to precede every submission and handoff. -/

namespace WalletEngine

variable {P : Platform} {call : PublicCall} {log later : Log P} {config : WalletClientConfig}

/-- The workflow of a call, before anything was signed. -/
structure WorkflowFor (call : PublicCall) (config : WalletClientConfig)
    (workflow : SendWorkflow) : Prop where
  recordId : workflow.recordId = config.recordId
  source : workflow.source = config.address
  force : workflow.request.force = call.force
  providerReference : workflow.providerReference = none
  diagnostic : workflow.diagnostic = none

/-- What a reservation gives a call. -/
structure TicketFor (log : Log P) (call : PublicCall) (ticket : SendTicket) : Prop where
  configured : Configured log ticket.config
  reserved : ReservedSend log ticket.generation
  account : ticket.accountRequest.endpoint = .getAddressInformation ticket.config.address
  seqno : ticket.seqnoRequest.endpoint = .runGetMethod ticket.config.address "seqno"
  key : ticket.journalKey = sendKey ticket.config
  workflow : WorkflowFor call ticket.config ticket.workflow

theorem TicketFor.mono {ticket : SendTicket} (known : TicketFor log call ticket)
    (grows : log <:+ later) : TicketFor later call ticket :=
  { known with
    configured := known.configured.mono grows
    reserved := known.reserved.mono grows }

/-- The workflow compares against a version that its call may replace. -/
structure Seeded (log : Log P) (call : PublicCall) (config : WalletClientConfig)
    (workflow : SendWorkflow) : Prop extends WorkflowFor call config workflow where
  base : ∃ base : Option (JournalRecord P.codec.Payload),
    workflow.journalVersion = base.map (·.version) ∧
    ∀ record ∈ base, ∃ durable, Inspected log config record durable ∧
      (durable.stage.permitsReplacement = true ∨
        call.force = true ∧ durable.stage.permitsForcedReplacement = true)

theorem Seeded.mono {workflow : SendWorkflow} (known : Seeded log call config workflow)
    (grows : log <:+ later) : Seeded later call config workflow := by
  obtain ⟨base, version, based⟩ := known.base
  refine { known with base := ⟨base, version, fun record member => ?_⟩ }
  obtain ⟨durable, inspected, permitted⟩ := based record member
  exact ⟨durable, inspected.mono grows, permitted⟩

section Phases

variable {ticket : SendTicket}
variable {workflow : SendWorkflow} {generation : Nat}

theorem reduce_follows {α : Type} {method : Reducer α}
    {fail : SendWorkflowError → Engine P (α × SendWorkflow)}
    {success : Log P → α × SendWorkflow → Prop}
    (failed : ∀ error, (fail error).Follows call success log)
    (reduced : ∀ value next, method workflow = (.ok value, next) → success log (value, next)) :
    (Engine.reduce workflow method fail).Follows call success log := by
  unfold Engine.reduce
  rcases ran : method workflow with ⟨error | value, next⟩
  · exact failed error
  · exact Engine.follows_pure (reduced value next ran)

section Reducing

variable {α β : Type} {method : Reducer α} {final : Log P → β → Prop}
  {fail : SendWorkflowError → Engine P (α × SendWorkflow)} {next : α × SendWorkflow → Engine P β}

/-- A method of the reducer observes nothing, so what was known before it is known after it. -/
theorem reduce_bind_follows (failed : ∀ error, (fail error).Follows call (fun _ _ => False) log)
    (reduced : ∀ value after, method workflow = (.ok value, after) →
      (next (value, after)).Follows call final log) :
    (Engine.reduce workflow method fail >>= next).Follows call final log := by
  unfold Engine.reduce
  rcases ran : method workflow with ⟨error | value, after⟩
  · exact (failed error).bind fun _ _ _ => False.elim
  · exact reduced value after ran

theorem reduce_bind_performs (failed : ∀ error, (fail error).Follows call (fun _ _ => False) log)
    (reduced : ∀ value after, method workflow = (.ok value, after) →
      (next (value, after)).Performs call final log) :
    (Engine.reduce workflow method fail >>= next).Performs call final log := by
  unfold Engine.reduce
  rcases ran : method workflow with ⟨error | value, after⟩
  · exact (failed error).performs.bind fun _ _ _ => False.elim
  · exact reduced value after ran

end Reducing

theorem ensureCurrentSend_follows :
    (Engine.withLock (ensureCurrentSend generation) : Engine P _).Follows call
      (fun later _ => ∀ generation, CommitHeld log generation → CommitHeld later generation)
      log := by
  refine Engine.withLock_follows (fun state => ?_) fun state _ after ran owner held => ?_
  · rw [ensureCurrentSend_state]
    exact .untouched
  · have same := ensureCurrentSend_state generation state
    rw [ran] at same
    change after = state at same
    exact held.locked fun committed => same ▸ committed

/-- A stage that shows neither a resolution nor a cancellation. -/
def SendStage.isOpen (stage : SendStage) : Bool :=
  !stage.publicPhase.isResolved && stage.publicPhase != .cancelled

theorem publishSendWorkflow_follows (reserved : ReservedSend log generation)
    (opened : workflow.stage.isOpen = true) :
    (Engine.withLock (publishSendWorkflow generation workflow) : Engine P _).Follows call
      (fun later _ => CommitHeld log generation → CommitHeld later generation) log := by
  obtain ⟨unresolved, live⟩ : workflow.stage.publicPhase.isResolved = false ∧
      workflow.stage.publicPhase ≠ .cancelled := by simpa [SendStage.isOpen] using opened
  refine Engine.withLock_follows (publishSendWorkflow_moves reserved unresolved live) ?_
  intro state _ after ran held
  exact held.locked (publishSendWorkflow_keeps ran)

theorem loadSendJournal_follows (known : TicketFor log call ticket) :
    (Engine.loadSendJournal ticket : Engine P _).Follows call
      (fun later found => (∀ record ∈ found.1, Seen later (sendKey ticket.config) record) ∧
        ∀ pending ∈ found.2, Unsettled later ticket.config pending) log := by
  refine Engine.await_bind trivial nofun fun loaded answer grows answered => ?_
  have reserved := known.reserved.mono grows
  rcases answer with error | (_ | record)
  · exact sendFailedError_follows reserved _
  · refine ensureCurrentSend_follows.bind fun later _ _ _ => ?_
    exact Engine.follows_pure ⟨by simp, by simp⟩
  · refine ensureCurrentSend_follows.bind fun later _ grown _ => ?_
    have seen : Seen later (sendKey ticket.config) record :=
      .inl (known.key ▸ answered.mono grown)
    rcases found : pendingSendRecord P.codec record ticket.config.recordId
      ticket.config.address with error | pending
    · exact sendWorkflowError_follows (reserved.mono grown) error
    · refine Engine.follows_pure ⟨?_, ?_⟩
      · rintro _ ⟨⟩
        exact seen
      · rintro _ ⟨⟩
        exact .of_pendingSendRecord seen found

theorem fetch_follows {α : Type} {request : HttpRequest} {endpoint : Endpoint}
    {parse : P.serde.Body → Except DomainError α} (reserved : ReservedSend log generation)
    (asks : request.endpoint = endpoint) (other : ∀ boc, endpoint ≠ .sendBoc boc) :
    (Engine.fetch generation request parse).Follows call
      (fun later value => Shown later endpoint parse value) log := by
  have ask : (Engine.executeTrackedSendRequest generation request : Engine P _).Follows call
      (fun later answer => Answered later (.execute request) answer) log := by
    refine (executeTrackedSendRequest_follows reserved fun _ _ _ =>
      callMove_execute (Plain.of_endpoint asks other)).mono ?_
    rintro later answer _ ⟨⟨older, _, suffix⟩, _⟩
    exact suffix.subset List.mem_cons_self
  refine ask.bind fun later answer grows answered => ?_
  rcases answer with error | body
  · exact sendFailedError_follows (reserved.mono grows) _
  · rcases parsed : parse body with error | value
    · simp only [Except.bind, parsed]
      exact sendFailedError_follows (reserved.mono grows) _
    · simp only [Except.bind, parsed]
      exact Engine.follows_pure ⟨request, body, asks, answered, parsed⟩

/-- A record that blocks replacement is not shown as cancelled. -/
theorem snapshot_phase_ne_cancelled {pending : PendingSendRecord P.codec}
    (blocks : pending.durable.stage.permitsReplacement = false) (resolution : SendResolution) :
    (pending.snapshot resolution).phase ≠ .cancelled := by
  cases resolution with
  | stillPending reason =>
    simp only [PendingSendRecord.snapshot, PendingSendRecord.stage]
    revert blocks
    cases pending.durable.stage <;> simp [SendStage.permitsReplacement, SendStage.publicPhase]
  | _ => rintro ⟨⟩

theorem settlePending_follows {pending : PendingSendRecord P.codec} {providerTime : Nat}
    (known : TicketFor log call ticket) (unsettled : Unsettled log ticket.config pending)
    (clocked : Clocked log ticket.config providerTime) :
    (Engine.settlePending ticket pending providerTime).Follows call
      (fun later journal => Seen later (sendKey ticket.config) journal) log := by
  unfold Engine.settlePending
  rcases built : ResolutionRequests.new ticket.config pending.messageHash
    ticket.resolutionIds with error | requests
  · exact sendFailedError_follows known.reserved _
  have owned : ResolutionOwner.Reserved log (.send ticket.generation) := known.reserved
  refine (resolvePendingWithOwner_follows owned known.configured unsettled clocked
    (ResolutionRequests.new_ok built)).bind fun later resolved grows settled => ?_
  have presentable : ∀ last, later <:+ last →
      Presentable last (pending.snapshot resolved.resolution) := fun last grown =>
    .inr (.resolved ticket.config pending resolved.resolution
      (known.configured.mono (grows.trans grown)) (unsettled.inspected.mono (grows.trans grown))
      unsettled.blocks (settled.why.mono grown))
  have live := snapshot_phase_ne_cancelled unsettled.blocks resolved.resolution
  have publish : (Engine.withLock (publishPriorSendResolution ticket.generation
      (pending.snapshot resolved.resolution)) : Engine P _).Follows call (fun _ _ => True) later :=
    Engine.withLock_follows_of_moves (publishPriorSendResolution_moves
      (known.reserved.mono grows) (presentable later (List.suffix_refl later)) live)
  refine publish.bind fun last _ grown _ => ?_
  cases decision : resolved.resolution with
  | stillPending reason =>
    have block : (Engine.withLock (blockSendForPending ticket.generation
        (pending.snapshot resolved.resolution)) : Engine P _).Follows call
        (fun _ _ => True) last :=
      Engine.withLock_follows_of_moves (blockSendForPending_moves
        (known.reserved.mono (grows.trans grown)) (presentable last grown))
    rw [decision] at block
    exact block.bind fun _ _ _ _ => Engine.follows_throw
  | _ => exact Engine.follows_pure (settled.seen.mono grown)

theorem priorRecord_follows {record : Option (JournalRecord P.codec.Payload)}
    {pending : Option (PendingSendRecord P.codec)} {force : Bool} {providerTime : Nat}
    (known : TicketFor log call ticket)
    (seen : ∀ stored ∈ record, Seen log (sendKey ticket.config) stored)
    (unsettled : ∀ held ∈ pending, Unsettled log ticket.config held)
    (clocked : Clocked log ticket.config providerTime) :
    (Engine.priorRecord ticket force record pending providerTime).Follows call
      (fun later base => ∀ stored ∈ base, Seen later (sendKey ticket.config) stored) log := by
  unfold Engine.priorRecord
  cases pending with
  | none => exact Engine.follows_pure seen
  | some pending =>
    dsimp only
    split
    · exact Engine.follows_pure seen
    · refine ((settlePending_follows known (unsettled _ rfl) clocked).mono ?_).map
      rintro later journal _ found _ ⟨⟩
      exact found

theorem journalLoaded_seeded {base : Option (JournalRecord P.codec.Payload)} {next : SendWorkflow}
    {directive : SendDirective P.codec} (known : WorkflowFor call config workflow)
    (seen : ∀ stored ∈ base, Seen log (sendKey config) stored)
    (ran : SendWorkflow.journalLoaded P.codec base workflow = (.ok directive, next)) :
    Seeded log call config next ∧ next.stage = .fetchingFreshAccount := by
  obtain ⟨rfl, permitted⟩ := SendWorkflow.journalLoaded_ok ran
  refine ⟨⟨⟨known.recordId, known.source, known.force, known.providerReference,
    known.diagnostic⟩, base, rfl, fun record member => ?_⟩, rfl⟩
  obtain ⟨durable, decoded, permits⟩ := permitted record member
  rw [known.recordId, known.source] at decoded
  rw [known.force] at permits
  exact ⟨durable, ⟨seen record member, decoded⟩, permits⟩

theorem openSend_follows {force : Bool} (known : TicketFor log call ticket) :
    (Engine.openSend ticket force : Engine P _).Follows call
      (fun later opened => Seeded later call ticket.config opened.2) log := by
  refine (loadSendJournal_follows known).bind fun loaded found grows facts => ?_
  obtain ⟨seen, unsettled⟩ := facts
  replace known := known.mono grows
  refine (fetch_follows known.reserved known.account nofun).bind fun read account grown shown => ?_
  replace known := known.mono grown
  have clocked : Clocked read ticket.config account.syncUtime := ⟨account, rfl, shown⟩
  refine (priorRecord_follows known (fun stored member => (seen stored member).mono grown)
    (fun held member => (unsettled held member).mono grown) clocked).bind
    fun based base grown seen => ?_
  replace known := known.mono grown
  refine reduce_bind_follows (sendWorkflowError_follows known.reserved)
    fun directive workflow ran => ?_
  obtain ⟨seeded, stage⟩ := journalLoaded_seeded known.workflow seen ran
  cases directive with
  | fetchFreshAccount =>
    have opened : workflow.stage.isOpen = true := stage ▸ rfl
    refine (publishSendWorkflow_follows known.reserved opened).bind fun last _ grown _ => ?_
    exact Engine.follows_pure (seeded.mono grown)
  | _ => exact sendFailedError_follows known.reserved _

theorem freshSeqno_follows {account : AccountSnapshot} (known : TicketFor log call ticket) :
    (Engine.freshSeqno ticket account : Engine P _).Follows call (fun _ _ => True) log := by
  unfold Engine.freshSeqno
  split
  · exact (fetch_follows known.reserved known.seqno nofun).mono fun _ _ _ _ => trivial
  · exact Engine.follows_pure trivial

theorem authorize_follows {fresh : FreshSendAccount} {message : String}
    (known : TicketFor log call ticket) (seeded : Seeded log call ticket.config workflow) :
    (Engine.authorize ticket workflow fresh message : Engine P _).Follows call
      (fun later authorized => Seeded later call ticket.config authorized.2) log := by
  refine reduce_bind_follows (sendWorkflowError_follows known.reserved) fun directive next ran => ?_
  obtain ⟨seeded, stage⟩ : Seeded log call ticket.config next ∧ next.stage = .authorizing := by
    obtain rfl := SendWorkflow.freshAccountLoaded_ok ran
    exact ⟨{ seeded with }, rfl⟩
  cases directive with
  | readProtectedSecret read =>
    have opened : next.stage.isOpen = true := stage ▸ rfl
    refine (publishSendWorkflow_follows known.reserved opened).bind fun shown _ grown _ => ?_
    replace known := known.mono grown
    replace seeded := seeded.mono grown
    refine Engine.await_bind trivial nofun fun answered answer grown _ => ?_
    replace known := known.mono grown
    replace seeded := seeded.mono grown
    rcases answer with error | secret
    · exact sendFailedError_follows known.reserved _
    refine ensureCurrentSend_follows.bind fun checked _ grown _ => ?_
    replace known := known.mono grown
    replace seeded := seeded.mono grown
    rcases derived : deriveSource P.crypto secret ticket.config.network with error | source
    · exact releaseAndThrow_follows known.reserved rfl _ _
    dsimp only
    split
    · exact sendFailedError_follows known.reserved _
    refine reduce_bind_follows (fun error => sendFailedError_follows known.reserved _)
      fun directive last ran => ?_
    obtain ⟨seeded, stage⟩ : Seeded checked call ticket.config last ∧ last.stage = .preparing := by
      obtain rfl := SendWorkflow.authorizationSucceeded_ok ran
      exact ⟨{ seeded with }, rfl⟩
    cases directive with
    | prepareTransfer request account =>
      have opened : last.stage.isOpen = true := stage ▸ rfl
      refine (publishSendWorkflow_follows known.reserved opened).bind fun last _ grown _ => ?_
      exact Engine.follows_pure (seeded.mono grown)
    | _ => exact sendFailedError_follows known.reserved _
  | _ => exact sendFailedError_follows known.reserved _

end Phases

section Commit

variable {generation : Nat} {prepared : PreparedTransfer}
  {mutation : JournalCompareExchange P.codec.Payload}
variable {workflow next : SendWorkflow} {directive : SendDirective P.codec}

theorem Stored.mono (stored : Stored log call generation config prepared mutation)
    (grows : log <:+ later) (held : CommitHeld later generation) :
    Stored later call generation config prepared mutation :=
  { stored with
    configured := stored.configured.mono grows
    applied := stored.applied.mono grows
    held := held }

/-- The workflow of a message that has been stored. -/
structure Persisted (log : Log P) (call : PublicCall) (generation : Nat)
    (config : WalletClientConfig) (prepared : PreparedTransfer)
    (mutation : JournalCompareExchange P.codec.Payload) (workflow : SendWorkflow) : Prop where
  stored : Stored log call generation config prepared mutation
  message : workflow.prepared = some prepared
  recordId : prepared.recordId = workflow.recordId
  version : workflow.journalVersion = some mutation.replacement.version

/-- What the reducer asks for once the message has been stored. -/
def Handover (prepared : PreparedTransfer) (workflow : SendWorkflow)
    (directive : SendDirective P.codec) : Prop :=
  (prepared.kind = .external ∧ workflow.stage = .readyToSubmit ∧
      directive = .submit prepared.signedBoc prepared.messageHash) ∨
    (prepared.kind = .internal ∧ workflow.stage = .handedOff ∧
      directive = .handOff prepared.signedBoc prepared.validUntil) ∨
    directive = .finished

/-- The mutation of a prepared workflow stores its message. -/
theorem transferPrepared_stores (known : WorkflowFor call config workflow)
    (ran : SendWorkflow.transferPrepared P.codec prepared workflow = (.ok directive, next)) :
    next = { workflow with prepared := some prepared, stage := .persistingPrepared } ∧
      prepared.recordId = workflow.recordId ∧ prepared.kind = workflow.kind ∧
      ∃ mutation, directive = .persistJournal mutation ∧ mutation.Stores workflow.journalVersion
        (prepared.durable prepared.kind.commitStage none none) := by
  obtain ⟨moved, valid, mutation, stored, rfl⟩ := SendWorkflow.transferPrepared_ok ran
  obtain ⟨account, _, accepted⟩ := SendWorkflow.validatePrepared_ok valid
  obtain ⟨sameId, sameKind⟩ := SendWorkflow.preparedMatches_eq accepted
  refine ⟨moved, sameId, sameKind, mutation, rfl, ?_⟩
  have stage : next.durableStage = prepared.kind.commitStage := by
    rw [moved, sameKind]
    cases workflow.kind <;> rfl
  have unconfirmed : next.durableStage ≠ .confirmed := by
    rw [stage]
    cases prepared.kind <;> nofun
  have message : next.prepared = some prepared := by rw [moved]
  have owned : prepared.recordId = next.recordId := by rw [moved, sameId]
  have stores := SendWorkflow.persistMutation_ok message owned unconfirmed stored
  rw [stage, moved] at stores
  simpa only [known.providerReference, known.diagnostic] using stores

/-- An applied write of a prepared workflow hands its message over. -/
theorem journalPersisted_handover {result : JournalCompareExchangeResult P.codec.Payload}
    (message : workflow.prepared = some prepared) (kind : prepared.kind = workflow.kind)
    (stage : workflow.stage = .persistingPrepared)
    (ran : SendWorkflow.journalPersisted P.codec result workflow = (.ok directive, next)) :
    Handover prepared next directive := by
  obtain ⟨_, version, _, admitted, _, handover⟩ := SendWorkflow.journalPersisted_ok ran
  rw [SendWorkflow.persistedEvent, if_pos stage, stage, ← kind] at admitted
  rcases handover with ⟨found, held, reached, asks⟩ | ⟨found, held, reached, asks⟩ | finished
  · obtain rfl : prepared = found := Option.some.inj (message.symm.trans held)
    cases external : prepared.kind with
    | external => exact .inl ⟨external, reached, asks⟩
    | internal => rw [external, reached] at admitted; cases admitted
  · obtain rfl : prepared = found := Option.some.inj (message.symm.trans held)
    cases internal : prepared.kind with
    | external => rw [internal, reached] at admitted; cases admitted
    | internal => exact .inr (.inl ⟨internal, reached, asks⟩)
  · exact .inr (.inr finished)

theorem commitPrepared_performs {message : String} (first : Uncommitted log)
    (reserved : ReservedSend log generation) (configured : Configured log config)
    (seeded : Seeded log call config workflow) (prepares : call.Prepares P config prepared) :
    (Engine.commitPrepared generation workflow prepared message : Engine P _).Performs call
      (fun later committed => Handover prepared committed.2 committed.1 ∧
        ∃ mutation, Persisted later call generation config prepared mutation committed.2) log := by
  refine reduce_bind_performs (fun error => sendFailedError_follows reserved _)
    fun directive next ran => ?_
  obtain ⟨moved, sameId, sameKind, mutation, rfl, stores⟩ :=
    transferPrepared_stores seeded.toWorkflowFor ran
  have opened : next.stage.isOpen = true := by rw [moved]; rfl
  refine (publishSendWorkflow_follows reserved opened).continue fun shown _ grows _ kept => ?_
  replace first := kept first
  have begin_ : (Engine.withLock (beginSendCommit generation) : Engine P _).Follows call
      (fun later _ => CommitHeld later generation) shown :=
    Engine.withLock_ends (beginSendCommit_ends (reserved.mono grows)) fun _ _ _ committed =>
      .begun (reserved.mono grows) committed
  refine begin_.continue fun begun _ grown held kept => ?_
  replace grows := grows.trans grown
  obtain ⟨base, version, based⟩ := (seeded.mono grows).base
  have move : JournalMove begun call mutation :=
    .commit config prepared base (configured.mono grows) prepares (kept first) based
      (version ▸ stores) generation held
  have exchange : (Engine.compareExchangeJournal mutation : Engine P _).Performs call
      (fun later answer => CommitHeld later generation ∧
        Answered later (.compareExchangeJournal mutation) answer) begun :=
    Engine.await_performs move fun answer => ⟨held.answered, List.mem_cons_self⟩
  refine exchange.bind fun stored answer grown facts => ?_
  obtain ⟨held, answered⟩ := facts
  replace grows := grows.trans grown
  rcases answer with error | journal
  · exact (submissionUnknownError_follows (reserved.mono grows) _).performs
  refine ensureCurrentSend_follows.performs.bind fun checked _ grown kept => ?_
  replace grows := grows.trans grown
  replace reserved := reserved.mono grows
  refine (reduce_follows (fun error => ?_) fun directive last ran => ?_).performs
  · split
    · exact submissionUnknownError_follows reserved _
    · exact sendWorkflowError_follows reserved _
  obtain ⟨applied, reached, versioned, _, persisted, _⟩ := SendWorkflow.journalPersisted_ok ran
  have message : next.prepared = some prepared := by rw [moved]
  refine ⟨journalPersisted_handover message (by rw [moved, sameKind]) (by rw [moved]) ran,
    mutation, ?_, ?_, ?_, ?_⟩
  · exact ⟨configured.mono grows, prepares, ⟨_, stores⟩,
      ⟨journal, answered.mono grown, applied⟩, kept generation held⟩
  · rw [persisted]
    exact message
  · rw [persisted, moved]
    exact sameId
  · have known := stores.version
    rw [moved] at versioned
    rw [versioned] at known
    rw [persisted, Except.ok.inj known]

/-- A submission outcome stores the message under the stage it stands for. -/
def Settles (prepared : PreparedTransfer) (mutation : JournalCompareExchange P.codec.Payload)
    (stage : SendStage) (workflow next : SendWorkflow) (directive : SendDirective P.codec) : Prop :=
  next = { workflow with
    stage := stage, providerReference := next.providerReference, diagnostic := next.diagnostic } ∧
  ∃ reference diagnostic settled, directive = .persistJournal settled ∧
    settled.Stores (some mutation.replacement.version)
      (prepared.durable stage reference diagnostic)

theorem submissionNoted_settles {workflow next : SendWorkflow} {directive : SendDirective P.codec}
    {event : SendEvent} {name : String} {target : SendStage} {note : SendWorkflow → SendWorkflow}
    (persisted : Persisted log call generation config prepared mutation workflow)
    (forward : SendWorkflow.SendEvent.target event = some target)
    (outcome : target = .submitted ∨ target = .submissionUnknown ∨ target = .failed)
    (ran : (do
      SendWorkflow.applyEvent event name
      modify note
      SendWorkflow.persistDirective P.codec) workflow = (.ok directive, next))
    (notes : ∀ workflow, note workflow = { workflow with
      providerReference := (note workflow).providerReference
      diagnostic := (note workflow).diagnostic }) :
    Settles prepared mutation target workflow next directive := by
  obtain ⟨moved, settled, stored, rfl⟩ := SendWorkflow.submissionNoted_ok forward ran
  rw [notes] at moved
  have same : next = { workflow with stage := target
                                     providerReference := next.providerReference
                                     diagnostic := next.diagnostic } := by
    rw [moved]
  refine ⟨same, next.providerReference, next.diagnostic, settled, rfl, ?_⟩
  have stage : next.durableStage = target := by
    rw [same]
    rcases outcome with rfl | rfl | rfl <;> rfl
  have unconfirmed : next.durableStage ≠ .confirmed := by
    rw [stage]
    rcases outcome with rfl | rfl | rfl <;> nofun
  have message : next.prepared = some prepared := by rw [same]; exact persisted.message
  have owned : prepared.recordId = next.recordId := by rw [same]; exact persisted.recordId
  have version : next.journalVersion = some mutation.replacement.version := by
    rw [same]
    exact persisted.version
  have stores := SendWorkflow.persistMutation_ok message owned unconfirmed stored
  rwa [stage, version] at stores

theorem submissionOutcome_settles {outcome : Except DomainError SendBocResponse}
    (persisted : Persisted log call generation config prepared mutation workflow)
    (ran : Engine.submissionOutcome outcome workflow = (.ok directive, next)) :
    Settles prepared mutation (submissionStage outcome) workflow next directive := by
  rcases outcome with error | (_ | message)
  · unfold Engine.submissionOutcome at ran
    unfold submissionStage
    dsimp only at ran ⊢
    split
    · rename_i rejected
      rw [if_pos rejected] at ran
      exact submissionNoted_settles persisted rfl (.inr (.inr rfl)) ran fun _ => rfl
    · rename_i unknown
      rw [if_neg unknown] at ran
      exact submissionNoted_settles persisted rfl (.inr (.inl rfl)) ran fun _ => rfl
  · exact submissionNoted_settles persisted rfl (.inl rfl) ran fun _ => rfl
  · exact submissionNoted_settles persisted rfl (.inr (.inr rfl)) ran fun _ => rfl

theorem Persisted.mono (persisted : Persisted log call generation config prepared mutation workflow)
    (grows : log <:+ later) (held : CommitHeld later generation) :
    Persisted later call generation config prepared mutation workflow :=
  { persisted with stored := persisted.stored.mono grows held }

theorem submissionStage_cases (outcome : Except DomainError SendBocResponse) :
    submissionStage outcome = .submitted ∨ submissionStage outcome = .submissionUnknown ∨
      submissionStage outcome = .failed := by
  rcases outcome with error | (_ | message)
  · unfold submissionStage
    dsimp only
    split
    · exact .inr (.inr rfl)
    · exact .inr (.inl rfl)
  · exact .inl rfl
  · exact .inr (.inr rfl)

/-- Storing an outcome keeps its stage. -/
theorem journalPersisted_outcome {result : JournalCompareExchangeResult P.codec.Payload}
    {outcome : Except DomainError SendBocResponse}
    (stage : workflow.stage = submissionStage outcome)
    (ran : SendWorkflow.journalPersisted P.codec result workflow = (.ok directive, next)) :
    next.stage.isOpen = true := by
  obtain ⟨_, _, _, admitted, _, _⟩ := SendWorkflow.journalPersisted_ok ran
  rw [SendWorkflow.persistedEvent, stage] at admitted
  rcases submissionStage_cases outcome with same | same | same <;> rw [same] at admitted <;>
    · rw [← Option.some.inj admitted]
      rfl

variable {request : HttpRequest}

/-- The call that submits a stored message, and the outcome it is settled with. -/
theorem submit_follows (persisted : Stored log call generation config prepared mutation)
    (reserved : ReservedSend log generation) (external : prepared.kind = .external)
    (submits : request.endpoint = .sendBoc prepared.signedBoc) :
    (Engine.executeTrackedSendRequest generation request : Engine P _).Follows call
      (fun later answer => Answered later (.execute request) answer ∧
        CommitHeld later generation) log := by
  refine (executeTrackedSendRequest_follows reserved fun later grows kept => ?_).mono ?_
  · intro boc same
    obtain rfl : prepared.signedBoc = boc := by simpa [submits] using same
    exact ⟨generation, config, prepared, mutation, external, rfl,
      persisted.mono grows (kept persisted.held)⟩
  · rintro later answer _ ⟨⟨older, _, suffix⟩, kept⟩
    exact ⟨suffix.subset List.mem_cons_self, kept persisted.held⟩

theorem submitDurable_performs
    (persisted : Persisted log call generation config prepared mutation workflow)
    (reserved : ReservedSend log generation) (external : prepared.kind = .external)
    (submits : request.endpoint = .sendBoc prepared.signedBoc) :
    (Engine.submitDurable generation request workflow : Engine P _).Performs call
      (fun _ workflow => workflow.stage.isOpen = true) log := by
  refine reduce_bind_performs (fun error => submissionUnknownError_follows reserved _)
    fun _ submitting ran => ?_
  have moved := SendWorkflow.submissionStarted_ok ran
  have opened : submitting.stage.isOpen = true := by rw [moved]; rfl
  refine (publishSendWorkflow_follows reserved opened).performs.bind fun shown _ grows kept => ?_
  have held := kept persisted.stored.held
  replace reserved := reserved.mono grows
  have submitted : Persisted shown call generation config prepared mutation submitting := by
    refine ⟨persisted.stored.mono grows held, ?_, ?_, ?_⟩ <;> rw [moved]
    · exact persisted.message
    · exact persisted.recordId
    · exact persisted.version
  refine (submit_follows submitted.stored reserved external submits).performs.bind
    fun answered answer grown facts => ?_
  obtain ⟨known, held⟩ := facts
  replace reserved := reserved.mono grown
  replace submitted := submitted.mono grown held
  refine reduce_bind_performs (fun error => submissionUnknownError_follows reserved _)
    fun directive settling ran => ?_
  obtain ⟨moved, reference, diagnostic, settled, rfl, stores⟩ :=
    submissionOutcome_settles submitted ran
  have stage : settling.stage = submissionStage (answer.bind (parseSendResponse P.serde)) := by
    rw [moved]
  have opened : settling.stage.isOpen = true := by
    rw [stage]
    rcases submissionStage_cases (answer.bind (parseSendResponse P.serde)) with
      same | same | same <;> rw [same] <;> rfl
  refine (publishSendWorkflow_follows reserved opened).performs.bind fun shown _ grows kept => ?_
  replace held := kept held
  refine ensureCurrentSend_follows.performs.bind fun checked _ grown kept => ?_
  replace held := kept generation held
  replace grows := grows.trans grown
  replace reserved := reserved.mono grows
  have move : JournalMove checked call settled :=
    .settle generation config prepared mutation request answer reference diagnostic external
      (submitted.stored.mono grows held) submits (known.mono grows) stores
  have exchange : (Engine.compareExchangeJournal settled : Engine P _).Performs call
      (fun _ _ => True) checked := Engine.await_performs move fun _ => trivial
  refine exchange.bind fun last answer grown _ => ?_
  replace reserved := reserved.mono grown
  rcases answer with error | journal
  · exact (submissionUnknownError_follows reserved _).performs
  refine ensureCurrentSend_follows.performs.bind fun final _ grown _ => ?_
  replace reserved := reserved.mono grown
  exact reduce_bind_performs (fun error => submissionUnknownError_follows reserved _)
    fun _ _ ran => Engine.performs_pure (journalPersisted_outcome stage ran)

theorem finishSend_follows (reserved : ReservedSend log generation)
    (opened : workflow.stage.isOpen = true) :
    (Engine.withLock (finishSend generation workflow) : Engine P _).Follows call
      (fun _ _ => True) log := by
  have unresolved : workflow.stage.publicPhase.isResolved = false := by
    simp only [SendStage.isOpen, Bool.and_eq_true, Bool.not_eq_true'] at opened
    exact opened.1
  exact Engine.withLock_follows_of_moves (finishSend_moves reserved unresolved)

theorem submitPreparedSend_performs {id : HttpRequestId} (first : Uncommitted log)
    (reserved : ReservedSend log generation) (configured : Configured log config)
    (seeded : Seeded log call config workflow) (prepares : call.Prepares P config prepared) :
    (Engine.submitPreparedSend generation config id workflow prepared : Engine P _).Performs call
      (fun _ _ => True) log := by
  unfold Engine.submitPreparedSend
  rcases built : buildRequest config id (.sendBoc prepared.signedBoc) with error | request
  · exact (sendFailedError_follows reserved _).performs
  refine (commitPrepared_performs first reserved configured seeded prepares).bind
    fun later committed grows facts => ?_
  obtain ⟨directive, workflow⟩ := committed
  obtain ⟨handover, mutation, persisted⟩ := facts
  replace reserved := reserved.mono grows
  rcases handover with ⟨external, _, rfl⟩ | ⟨_, _, rfl⟩ | rfl
  · refine (submitDurable_performs persisted reserved external (buildRequest_ok built).2).bind
      fun submitted workflow grown opened => ?_
    refine (finishSend_follows (reserved.mono grown) opened).performs.bind fun _ _ _ _ => ?_
    exact Engine.performs_pure trivial
  · exact (submissionUnknownError_follows reserved _).performs
  · exact (submissionUnknownError_follows reserved _).performs

end Commit

section Operations

/-- Every workflow made from a configuration is a new one of the call. -/
def FreshFor (call : PublicCall)
    (makeWorkflow : WalletClientConfig → Except WalletClientError SendWorkflow) : Prop :=
  ∀ config workflow, makeWorkflow config = .ok workflow →
    workflow.stage = .validating ∧ WorkflowFor call config workflow

theorem reserveSend_follows {σ : Type} {fact : σ → Prop}
    {makeWorkflow : WalletClientConfig → Except WalletClientError SendWorkflow}
    {submission : Locked σ} (first : ∀ generation, ¬ ReservedSend log generation)
    (fresh : FreshFor call makeWorkflow) (allocates : Allocates fact submission) :
    (Engine.withLock (reserveSend makeWorkflow submission) : Engine P _).Follows call
      (fun later reserved => TicketFor later call reserved.1) log := by
  refine Engine.withLock_ends (fun state => (reserveSend_ends allocates state).mono ?_)
    fun _ _ _ known => known
  rintro result after (⟨failed, rest⟩ |
    ⟨nextId, workflow, stage, -, running, vacant, made, begun, rfl, -, known⟩)
  · refine ⟨?_, by rintro _ rfl; cases failed⟩
    rcases rest with rfl | ⟨-, vacant, counted⟩
    · exact .untouched
    · rw [counted.tracked]
      exact .countSend first vacant.1 vacant.2
  obtain ⟨starts, owned⟩ := fresh _ _ made
  rw [starts] at begun
  cases begun
  refine ⟨?_, ?_⟩
  · rw [revised_tracked]
    exact .reserveSend _ first vacant.1 vacant.2 running.2 rfl
  rintro ⟨ticket, reserved⟩ found
  obtain ⟨generation, sameConfig, account, seqno, same, key⟩ := known ticket reserved found
  refine ⟨⟨state, _, List.mem_cons_self, sameConfig.symm⟩,
    ⟨state, _, List.mem_cons_self, ?_, ?_⟩, ?_, ?_, ?_, ?_⟩
  · exact generation ▸ Nat.lt_succ_self _
  · rw [revised_eq]
    exact generation.symm
  · rw [account, sameConfig]
  · rw [seqno, sameConfig]
  · rw [key, same, sameConfig]
    simp [SendWorkflow.journalKey, sendKey, owned.recordId]
  · rw [same, sameConfig]
    exact { owned with }

theorem localWorkflow_fresh
    {make : NonEmptyString → TonAddressString → SendRequest → ProtectedSecretRef → SendWorkflow}
    {request : SendRequest} (forced : request.force = call.force)
    (makes : ∀ recordId source secretRef, make recordId source request secretRef =
      SendWorkflow.newWithKind recordId source request (some secretRef)
        (make recordId source request secretRef).kind) :
    FreshFor call (Engine.localWorkflow make request) := by
  intro config workflow made
  unfold Engine.localWorkflow at made
  split at made
  · cases made
  · rw [makes] at made
    cases made
    exact ⟨rfl, rfl, rfl, forced, rfl, rfl⟩

theorem rejectSend_follows {α : Type} {generation : Nat} {success : Log P → α → Prop}
    (reserved : ReservedSend log generation) (error : WalletClientError) :
    (Engine.rejectSend generation error : Engine P α).Follows call success log :=
  releaseAndThrow_follows reserved rfl _ _

theorem send_performs {request : SendRequest} (free : ∀ generation, ¬ ReservedSend log generation)
    (first : Uncommitted log) (forced : request.force = call.force)
    (signs : ∀ config prepared, PublicCall.Signed P .external config request prepared →
      call.Prepares P config prepared) :
    (Engine.send request : Engine P _).Performs call (fun _ _ => True) log := by
  have fresh : FreshFor call (Engine.localWorkflow SendWorkflow.new request) :=
    localWorkflow_fresh forced fun _ _ _ => rfl
  refine (reserveSend_follows free fresh allocateRequestId_allocates).continue
    fun reserved taken _ known kept => ?_
  replace first := kept first
  obtain ⟨ticket, submitRequestId⟩ := taken
  refine (openSend_follows known).continue fun opened result grown seeded kept => ?_
  replace first := kept first
  obtain ⟨account, workflow⟩ := result
  replace known := known.mono grown
  dsimp only
  rcases total : request.intent.exactValueTotal with error | requested
  · exact (rejectSend_follows known.reserved _).performs
  dsimp only
  split
  · exact (rejectSend_follows known.reserved _).performs
  refine (freshSeqno_follows known).continue fun fetched seqno grown _ kept => ?_
  replace first := kept first
  replace known := known.mono grown
  replace seeded := seeded.mono grown
  rcases expires : resolveSendExpiration request.intent.expiration account.syncUtime
    ticket.config.sendValiditySeconds with error | validUntil
  · exact (sendFailedError_follows known.reserved _).performs
  refine (authorize_follows known seeded).continue fun authorized result grown seeded kept => ?_
  replace first := kept first
  obtain ⟨secret, workflow⟩ := result
  replace known := known.mono grown
  dsimp only
  rcases signed : prepareTransfer P.crypto secret ticket.config.recordId ticket.config.address
    ticket.config.network request ⟨account.status, seqno⟩ validUntil with error | prepared
  · exact (sendFailedError_follows known.reserved _).performs
  · exact submitPreparedSend_performs first known.reserved known.configured seeded
      (signs _ _ ⟨secret, ⟨account.status, seqno⟩, validUntil, signed⟩)

theorem signMessage_performs {request : SignMessageRequest} :
    (Engine.signMessage request : Engine P _).Performs (.signMessage request)
      (fun later result => ∃ config prepared mutation,
        HandedOff later (.signMessage request) result config prepared mutation) [] := by
  have fresh : FreshFor (.signMessage request) (Engine.localWorkflow SendWorkflow.newInternal
      ⟨request.operationId, request.force, request.intent⟩) :=
    localWorkflow_fresh rfl fun _ _ _ => rfl
  have first : Uncommitted ([] : Log P) := uncommitted_nil
  refine (reserveSend_follows (fun _ => not_reservedSend_nil) fresh unit_allocates).continue
    fun reserved taken _ known kept => ?_
  replace first := kept first
  obtain ⟨ticket, _⟩ := taken
  refine (openSend_follows known).continue fun opened result grown seeded kept => ?_
  replace first := kept first
  obtain ⟨account, workflow⟩ := result
  replace known := known.mono grown
  dsimp only
  rcases total : request.intent.exactValueTotal with error | requested
  · exact (rejectSend_follows known.reserved _).performs
  refine (freshSeqno_follows known).continue fun fetched seqno grown _ kept => ?_
  replace first := kept first
  replace known := known.mono grown
  replace seeded := seeded.mono grown
  rcases expires : resolveSendExpiration request.intent.expiration account.syncUtime
    ticket.config.sendValiditySeconds with error | validUntil
  · exact (sendFailedError_follows known.reserved _).performs
  refine (authorize_follows known seeded).continue fun authorized result grown seeded kept => ?_
  replace first := kept first
  obtain ⟨secret, workflow⟩ := result
  replace known := known.mono grown
  dsimp only
  rcases signed : prepareInternalSignedTransfer P.crypto secret ticket.config.recordId
    ticket.config.address ticket.config.network
    ⟨request.operationId, request.force, request.intent⟩ ⟨account.status, seqno⟩
    validUntil with error | prepared
  · exact (sendFailedError_follows known.reserved _).performs
  have prepares : PublicCall.Prepares P (.signMessage request) ticket.config prepared :=
    ⟨secret, ⟨account.status, seqno⟩, validUntil, signed⟩
  refine (commitPrepared_performs first known.reserved known.configured seeded prepares).bind
    fun committed result grown facts => ?_
  obtain ⟨directive, workflow⟩ := result
  obtain ⟨handover, mutation, persisted⟩ := facts
  replace known := known.mono grown
  rcases handover with ⟨_, _, rfl⟩ | ⟨internal, stage, rfl⟩ | rfl
  · exact (submissionUnknownError_follows known.reserved _).performs
  · refine (finishSend_follows known.reserved (stage ▸ rfl)).performs.bind fun last _ grown _ => ?_
    refine Engine.performs_pure ⟨ticket.config, prepared, mutation, prepares, ?_,
      persisted.stored.applied.mono grown, ?_, rfl, rfl⟩
    · have stores := persisted.stored.stores
      rwa [internal] at stores
    · exact (prepareSigned_ok signed).1
  · exact (submissionUnknownError_follows known.reserved _).performs

theorem sendBoc_performs {request : SendBocRequest} :
    (Engine.sendBoc request : Engine P _).Performs (.sendBoc request) (fun _ _ => True) [] := by
  have fresh : FreshFor (.sendBoc request) (fun config => .ok (SendWorkflow.newPreparedExternal
      config.recordId config.address request.operationId request.force request.validUntil)) := by
    rintro config workflow ⟨⟩
    exact ⟨rfl, rfl, rfl, rfl, rfl, rfl⟩
  have first : Uncommitted ([] : Log P) := uncommitted_nil
  refine (reserveSend_follows (fun _ => not_reservedSend_nil) fresh
    allocateRequestId_allocates).continue fun reserved taken _ known kept => ?_
  replace first := kept first
  obtain ⟨ticket, submitRequestId⟩ := taken
  refine (openSend_follows known).continue fun opened result grown seeded kept => ?_
  replace first := kept first
  obtain ⟨account, workflow⟩ := result
  replace known := known.mono grown
  refine (freshSeqno_follows known).continue fun fetched seqno grown _ kept => ?_
  replace first := kept first
  replace known := known.mono grown
  replace seeded := seeded.mono grown
  dsimp only
  split
  · exact (sendFailedError_follows known.reserved _).performs
  rcases expires : resolveSendExpiration (.exact request.validUntil) account.syncUtime
    ticket.config.sendValiditySeconds with error | validUntil
  · exact (sendFailedError_follows known.reserved _).performs
  refine reduce_bind_performs (sendWorkflowError_follows known.reserved) fun _ next ran => ?_
  obtain ⟨seeded, stage⟩ : Seeded fetched (.sendBoc request) ticket.config next ∧
      next.stage = .preparing := by
    obtain rfl := SendWorkflow.preparedAccountLoaded_ok ran
    exact ⟨{ seeded with }, rfl⟩
  have opened : next.stage.isOpen = true := stage ▸ rfl
  refine (publishSendWorkflow_follows known.reserved opened).continue fun shown _ grown _ kept => ?_
  replace first := kept first
  replace known := known.mono grown
  replace seeded := seeded.mono grown
  rcases checked : prepareSignedBoc P.crypto ticket.config.recordId ticket.config.address
    request with error | prepared
  · exact (sendFailedError_follows known.reserved _).performs
  · exact submitPreparedSend_performs first known.reserved known.configured seeded checked

end Operations

end WalletEngine
