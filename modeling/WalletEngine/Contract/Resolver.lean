import WalletEngine.Contract.Tracking

/-! # The resolver follows the rules

What a finished resolution rests on: the resolver decides from the answers it
read, and records its decision by advancing the record it inspected. -/

namespace WalletEngine

variable {P : Platform} {call : PublicCall} {log : Log P} {owner : ResolutionOwner}
  {config : WalletClientConfig} {pending subject : PendingSendRecord P.codec}
  {resolution : SendResolution}

/-- The outcome of a resolution, with the record that holds it. -/
structure Settled (log : Log P) (config : WalletClientConfig) (durable : DurableSendRecord)
    (resolved : ResolvedPending P) : Prop where
  why : Conclusion log config durable resolved.resolution
  seen : Seen log (sendKey config) resolved.journal

/-- A record of the configured wallet that still blocks replacement signing. -/
structure Unsettled (log : Log P) (config : WalletClientConfig)
    (pending : PendingSendRecord P.codec) : Prop where
  inspected : Inspected log config pending.journal pending.durable
  blocks : pending.durable.stage.permitsReplacement = false

theorem Unsettled.mono {later : Log P} (known : Unsettled log config pending)
    (grows : log <:+ later) : Unsettled later config pending :=
  ⟨known.inspected.mono grows, known.blocks⟩

theorem Unsettled.of_pendingSendRecord {record : JournalRecord P.codec.Payload}
    (seen : Seen log (sendKey config) record)
    (ok : pendingSendRecord P.codec record config.recordId config.address = .ok (some pending)) :
    Unsettled log config pending := by
  obtain ⟨rfl, decoded, blocks⟩ := pendingSendRecord_ok ok
  exact ⟨⟨seen, decoded⟩, blocks⟩

/-- The move that records a resolution. -/
theorem resolve_move {mutation : JournalCompareExchange P.codec.Payload}
    (configured : Configured log config) (examined : Unsettled log config subject)
    (evidence : Evidence log config subject.durable resolution)
    (unsettled : Unsettled log config pending)
    (sameOperation : subject.operationId = pending.operationId)
    (sameMessage : subject.messageHash = pending.messageHash)
    (ok : pending.terminalMutation resolution = .ok (some mutation)) :
    JournalMove log call mutation ∧ ¬ Commits mutation ∧ mutation.key = sendKey config ∧
      ∃ attempt, decodeDurableRecord P.codec mutation.replacement = .ok attempt ∧
        attempt.Shows resolution ∧ attempt.operationId = subject.durable.operationId ∧
        attempt.messageHash = subject.durable.messageHash := by
  obtain ⟨decoded, sameId, sameSource⟩ := decodeOwnedRecord_ok unsettled.inspected.2
  obtain ⟨_, _, schema⟩ := decodeDurableRecord_ok decoded
  obtain ⟨durable, resolved, stores⟩ :=
    PendingSendRecord.terminalMutation_ok schema evidence.lt_bound ok
  obtain ⟨shows, same⟩ := PendingSendRecord.resolved_eq resolved
  refine ⟨?_, ?_, ?_, durable, stores.decoded, shows, ?_, ?_⟩
  · exact .resolve config pending subject resolution durable configured unsettled.inspected
      unsettled.blocks examined.inspected sameOperation sameMessage evidence resolved stores
  · rintro ⟨found, decoded, stage⟩
    obtain rfl : durable = found := Except.ok.inj (stores.decoded.symm.trans decoded)
    have permits := shows.permitsReplacement
    rcases stage with stage | stage <;> rw [stage] at permits <;> cases permits
  · rw [stores.key, same]
    simp [sendKey, sameId]
  · rw [same]
    exact sameOperation.symm
  · rw [same]
    exact sameMessage.symm

theorem persistSendResolution_follows {attempts : Nat} (reserved : owner.Reserved log)
    (configured : Configured log config) (examined : Unsettled log config subject)
    (evidence : Evidence log config subject.durable resolution)
    (unsettled : Unsettled log config pending)
    (sameOperation : subject.operationId = pending.operationId)
    (sameMessage : subject.messageHash = pending.messageHash) :
    (Engine.persistSendResolution owner resolution attempts pending).Follows call
      (fun later resolved => Settled later config subject.durable resolved) log := by
  induction attempts generalizing pending log with
  | zero => exact resolutionFailedError_follows reserved _
  | succ attempts ih =>
    unfold Engine.persistSendResolution
    rcases stored : pending.terminalMutation resolution with error | (_ | mutation)
    · exact resolutionWorkflowError_follows reserved error
    · exact resolutionFailedError_follows reserved _
    obtain ⟨move, spares, key, attempt, attempted, settles, attemptOperation, attemptMessage⟩ :
        JournalMove log call mutation ∧ _ :=
      resolve_move configured examined evidence unsettled sameOperation sameMessage stored
    refine Engine.await_bind move (by rintro _ ⟨⟩; exact spares)
      fun answered answer grows known => ?_
    rcases answer with error | result
    · exact resolutionFailedError_follows (reserved.mono grows) _
    refine ensureCurrentResolution_follows.bind fun later _ grown _ => ?_
    replace known := known.mono grown
    replace grows := grows.trans grown
    cases applied : result.applied with
    | true =>
      simp only [if_true]
      refine Engine.follows_pure ⟨.evidence (evidence.mono grows), ?_⟩
      exact .inr ⟨mutation, key, .inl ⟨⟨result, known, applied⟩, rfl⟩⟩
    | false =>
      simp only [Bool.false_eq_true, if_false]
      cases current : result.current with
      | none => exact resolutionFailedError_follows (reserved.mono grows) _
      | some record =>
        have refused : Refused later mutation record := ⟨result, known, applied, current⟩
        have seen : Seen later (sendKey config) record := .inr ⟨mutation, key, .inr refused⟩
        obtain ⟨_, sameId, sameSource⟩ := decodeOwnedRecord_ok unsettled.inspected.2
        have ownId : pending.recordId = config.recordId := sameId
        have ownSource : pending.source = config.address := sameSource
        dsimp only
        rw [ownId, ownSource]
        rcases terminal : terminalSendResolution P.codec record config.recordId
          config.address with error | (_ | adopted)
        · exact resolutionWorkflowError_follows (reserved.mono grows) error
        · dsimp only
          rcases still : pendingSendRecord P.codec record config.recordId
            config.address with error | (_ | currentPending)
          · exact resolutionWorkflowError_follows (reserved.mono grows) error
          · exact resolutionFailedError_follows (reserved.mono grows) _
          dsimp only
          split
          · exact resolutionFailedError_follows (reserved.mono grows) _
          · rename_i same
            obtain ⟨sameId, sameHash⟩ := not_or.mp same
            exact ih (reserved.mono grows) (configured.mono grows) (examined.mono grows)
              (evidence.mono grows) (.of_pendingSendRecord seen still)
              (sameOperation.trans (not_not.mp sameId).symm)
              (sameMessage.trans (not_not.mp sameHash).symm)
        · obtain ⟨winner, decoded, shows⟩ := terminalSendResolution_ok terminal
          refine Engine.follows_pure ⟨?_, seen⟩
          exact .adopted mutation attempt resolution record winner attempted settles
            attemptOperation attemptMessage refused decoded shows

theorem lookup_follows {α : Type} {request : HttpRequest} {endpoint : Endpoint}
    {parse : P.serde.Body → Except DomainError α} (reserved : owner.Reserved log)
    (asks : request.endpoint = endpoint) (other : ∀ boc, endpoint ≠ .sendBoc boc) :
    (Engine.lookup owner request parse).Follows call
      (fun later value => ShownAfter later (log <:+ ·) endpoint parse value) log := by
  refine (executeResolutionRequest_follows reserved (Plain.of_endpoint asks other)).bind
    fun later answer grows known => ?_
  obtain ⟨older, before, suffix⟩ := known
  rcases answer with error | body
  · exact resolutionFailedError_follows (reserved.mono grows) _
  · rcases parsed : parse body with error | value
    · simp only [Except.bind, parsed]
      exact resolutionFailedError_follows (reserved.mono grows) _
    · simp only [Except.bind, parsed]
      exact Engine.follows_pure ⟨older, before, request, body, asks, parsed, suffix⟩

/-- The requests of a resolution ask about the inspected message and wallet. -/
structure RequestsFor (config : WalletClientConfig) (messageHash : Base64Hash)
    (requests : ResolutionRequests) : Prop where
  executed : requests.executed.endpoint = .transactionsByMessage messageHash
  pending : requests.pending.endpoint = .pendingTransactions config.address
  walletState : requests.walletState.endpoint = .walletStates config.address
  executedRecheck : requests.executedRecheck.endpoint = .transactionsByMessage messageHash

theorem ResolutionRequests.new_ok {messageHash : Base64Hash} {ids : ResolutionIds}
    {requests : ResolutionRequests}
    (ok : ResolutionRequests.new config messageHash ids = .ok requests) :
    RequestsFor config messageHash requests := by
  unfold ResolutionRequests.new at ok
  obtain ⟨executed, first, ok⟩ := except_bind_eq_ok.mp ok
  obtain ⟨pending, second, ok⟩ := except_bind_eq_ok.mp ok
  obtain ⟨walletState, third, ok⟩ := except_bind_eq_ok.mp ok
  obtain ⟨executedRecheck, fourth, ok⟩ := except_bind_eq_ok.mp ok
  cases ok
  exact ⟨(buildRequest_ok first).2, (buildRequest_ok second).2, (buildRequest_ok third).2,
    (buildRequest_ok fourth).2⟩

/-- The provider time a resolution is judged by was read from the wallet account. -/
def Clocked (log : Log P) (config : WalletClientConfig) (providerTime : Nat) : Prop :=
  ∃ account, account.syncUtime = providerTime ∧
    Shown log (.getAddressInformation config.address) (parseAccount P.serde) account

theorem persistResolution_follows (reserved : owner.Reserved log)
    (configured : Configured log config) (unsettled : Unsettled log config pending)
    (evidence : Evidence log config pending.durable resolution) :
    (Engine.persistResolution owner pending resolution).Follows call
      (fun later resolved => Settled later config pending.durable resolved) log :=
  persistSendResolution_follows reserved configured unsettled evidence unsettled rfl rfl

theorem stillPending_settled (unsettled : Unsettled log config pending) (reason : PendingReason) :
    Settled log config pending.durable (Engine.stillPending pending reason) :=
  ⟨.undecided reason rfl, unsettled.inspected.1⟩

variable {providerTime : Nat} {requests : ResolutionRequests}

theorem resolveInternal_follows (reserved : owner.Reserved log)
    (configured : Configured log config) (unsettled : Unsettled log config pending)
    (internal : pending.kind = .internal) (clocked : Clocked log config providerTime)
    (asks : RequestsFor config pending.messageHash requests) :
    (Engine.resolveInternal owner config pending providerTime requests).Follows call
      (fun later resolved => Settled later config pending.durable resolved) log := by
  refine (lookup_follows reserved asks.walletState nofun).bind fun later seqno grows known => ?_
  split
  · rename_i passed
    exact persistResolution_follows (reserved.mono grows) (configured.mono grows)
      (unsettled.mono grows) (.consumed seqno internal passed known.shown)
  · rename_i unused
    split
    · rename_i past
      obtain ⟨account, rfl, clock⟩ := clocked
      refine persistResolution_follows (reserved.mono grows) (configured.mono grows)
        (unsettled.mono grows) (.expiredInternal account seqno internal past ?_ ?_)
      · exact Nat.le_of_not_lt unused
      · exact known.imp fun older before => clock.mono before
    · exact Engine.follows_pure (stillPending_settled (unsettled.mono grows) _)

theorem persistConfirmed_follows {executed : ExecutedMessage} (reserved : owner.Reserved log)
    (configured : Configured log config) (unsettled : Unsettled log config pending)
    (external : pending.kind = .external)
    (found : Shown log (.transactionsByMessage pending.messageHash)
      (parseExecutedMessage P.serde P.hashFrom) (some executed)) :
    (Engine.persistConfirmed owner pending executed).Follows call
      (fun later resolved => Settled later config pending.durable resolved) log :=
  persistResolution_follows reserved configured unsettled (.confirmed executed external found)

/-- The second half of an external resolution: the message was not found and is
not in the mempool. -/
theorem resolveExternal_seqno_follows {pendingObserved : Bool} {start : Log P}
    (reserved : owner.Reserved log) (configured : Configured log config)
    (unsettled : Unsettled log config pending) (external : pending.kind = .external)
    (clocked : Clocked start config providerTime)
    (asks : RequestsFor config pending.messageHash requests)
    (absent : ShownAfter log (start <:+ ·) (.transactionsByMessage pending.messageHash)
      (parseExecutedMessage P.serde P.hashFrom) none) :
    Engine.Follows call (fun later resolved => Settled later config pending.durable resolved) log
      (do
        let indexedSeqno ← Engine.lookup owner requests.walletState (parseWalletSeqno P.serde)
        if pending.seqno < indexedSeqno then
          match ← Engine.lookup owner requests.executedRecheck
              (parseExecutedMessage P.serde P.hashFrom) with
          | some executed => Engine.persistConfirmed owner pending executed
          | none => Engine.persistResolution owner pending .replaced
        else if pendingObserved && resolutionWindowExpired providerTime pending.validUntil
            config.resolutionMarginSeconds then
          Engine.persistResolution owner pending .expired
        else
          return Engine.stillPending pending .awaitingWindow) := by
  refine (lookup_follows reserved asks.walletState nofun).bind fun later seqno grows known => ?_
  split
  · rename_i passed
    refine (lookup_follows (reserved.mono grows) asks.executedRecheck nofun).bind
      fun last executed grown found => ?_
    replace grows := grows.trans grown
    rcases executed with _ | executed
    · refine persistResolution_follows (reserved.mono grows) (configured.mono grows)
        (unsettled.mono grows) (.replaced seqno external passed ?_)
      exact found.imp fun older before => known.shown.mono before
    · exact persistConfirmed_follows (reserved.mono grows) (configured.mono grows)
        (unsettled.mono grows) external found.shown
  · split
    · rename_i past
      obtain ⟨account, rfl, clock⟩ := clocked
      have past := (Bool.and_eq_true_iff.mp past).2
      refine persistResolution_follows (reserved.mono grows) (configured.mono grows)
        (unsettled.mono grows) (.expired account external past ?_)
      exact (absent.mono grows).imp fun older before => clock.mono before
    · exact Engine.follows_pure (stillPending_settled (unsettled.mono grows) _)

theorem resolveExternal_follows (reserved : owner.Reserved log)
    (configured : Configured log config) (unsettled : Unsettled log config pending)
    (external : pending.kind = .external) (clocked : Clocked log config providerTime)
    (asks : RequestsFor config pending.messageHash requests) :
    (Engine.resolveExternal owner config pending providerTime requests).Follows call
      (fun later resolved => Settled later config pending.durable resolved) log := by
  refine (lookup_follows reserved asks.executed nofun).bind fun later executed grows known => ?_
  rcases executed with _ | executed
  · have plain : Plain requests.pending := .of_endpoint asks.pending nofun
    refine (executeResolutionRequest_follows (reserved.mono grows) plain).bind
      fun last answer grown _ => ?_
    replace grows := grows.trans grown
    dsimp only
    split
    · exact Engine.follows_pure (stillPending_settled (unsettled.mono grows) _)
    · exact resolveExternal_seqno_follows (reserved.mono grows) (configured.mono grows)
        (unsettled.mono grows) external clocked asks (known.mono grown)
  · exact persistConfirmed_follows (reserved.mono grows) (configured.mono grows)
      (unsettled.mono grows) external known.shown

theorem resolvePendingWithOwner_follows (reserved : owner.Reserved log)
    (configured : Configured log config) (unsettled : Unsettled log config pending)
    (clocked : Clocked log config providerTime)
    (asks : RequestsFor config pending.messageHash requests) :
    (Engine.resolvePendingWithOwner owner config pending providerTime requests).Follows call
      (fun later resolved => Settled later config pending.durable resolved) log := by
  unfold Engine.resolvePendingWithOwner
  cases kind : pending.kind with
  | internal => exact resolveInternal_follows reserved configured unsettled kind clocked asks
  | external => exact resolveExternal_follows reserved configured unsettled kind clocked asks

end WalletEngine
