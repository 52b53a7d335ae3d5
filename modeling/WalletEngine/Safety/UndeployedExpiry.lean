import WalletEngine.Safety.ResolveIdempotence
import WalletEngine.Safety.RestartRefinement

/-! # Deployments that never execute

A message that deploys the wallet is signed for sequence number zero, which the sender takes from
the account state. The resolver reads the sequence number from the wallet index. An index that has
no row for an undeployed wallet therefore never lets the message expire. -/

namespace WalletEngine

variable {P : Platform}

section Expiry

/-- The provider shows that the window of the message is over and that nobody has the message. -/
structure Lapsed (attendant : Attendant P) (config : WalletClientConfig)
    (durable : DurableSendRecord) : Prop where
  past : ∀ request : HttpRequest, request.endpoint = .getAddressInformation config.address →
    ∃ account, (attendant.provider request).bind (parseAccount P.serde) = .ok account ∧
      resolutionWindowExpired account.syncUtime durable.validUntil
        config.resolutionMarginSeconds = true
  unexecuted : ∀ request : HttpRequest,
    request.endpoint = .transactionsByMessage durable.messageHash →
    (attendant.provider request).bind (parseExecutedMessage P.serde P.hashFrom) = .ok none
  unlisted : ∀ request : HttpRequest, request.endpoint = .pendingTransactions config.address →
    (attendant.provider request).bind
      (parsePendingMessage P.serde P.hashFrom · durable.messageHash) = .ok false

/-- The recovery reports the message as expired and stores it so, and the next send of the wallet
goes on without an override. -/
structure Expires (config : WalletClientConfig) (ending : Ending P SendSnapshot) : Prop where
  reported : ∃ snapshot, ending.1 = .ok snapshot ∧ snapshot.phase = .expired
  stored : ∃ record durable, ending.2.2.newest config = some record ∧
    decodeOwnedRecord P.codec record config.recordId config.address = .ok durable ∧
    durable.stage = .expired ∧
    pendingSendRecord P.codec record config.recordId config.address = .ok none ∧
    ∀ workflow : SendWorkflow, workflow.recordId = config.recordId →
      workflow.source = config.address → workflow.stage = .loadingJournal →
      (SendWorkflow.journalLoaded P.codec (some record) workflow).1 = .ok .fetchFreshAccount

/-- The index has no row for the wallet, or one without a sequence number. -/
def Unindexed (body : P.serde.Body) : Prop :=
  ∃ rows, decodeBody P.serde walletStatesResponse body = .ok rows ∧
    (rows = [] ∨ rows.head? = some none)

theorem parseWalletSeqno_of_unindexed {body : P.serde.Body} (unindexed : Unindexed body) :
    ∃ error, parseWalletSeqno P.serde body = .error error := by
  obtain ⟨rows, decoded, absent⟩ := unindexed
  rw [parseWalletSeqno, decoded]
  rcases rows with _ | ⟨_ | seqno, rest⟩
  · exact ⟨_, rfl⟩
  · exact ⟨_, rfl⟩
  · simp at absent

variable {attendant : Attendant P} {state : State} {desk : Desk P}
  {pending : PendingSendRecord P.codec} {answer : Except DomainError P.serde.Body}

/-- What is left to decide once the message has lapsed: what the index says. -/
theorem lapsed_verdict {account : HttpRequest} {requests : ResolutionRequests}
    (lapsed : Lapsed attendant state.config pending.durable)
    (external : pending.durable.kind = .external)
    (asked : account.endpoint = .getAddressInformation state.config.address)
    (asks : RequestsFor state.config pending.messageHash requests)
    (shown : ∀ request : HttpRequest, request.endpoint = .walletStates state.config.address →
      attendant.provider request = answer) :
    resolutionVerdict attendant state.config pending.durable account requests =
      match answer.bind (parseWalletSeqno P.serde) with
      | .error _ => none
      | .ok seqno => some (if pending.durable.seqno < seqno then .replaced else .expired) := by
  obtain ⟨clock, timed, past⟩ := lapsed.past account asked
  rw [resolutionVerdict, timed]
  simp only [decideMessage, external]
  have first := lapsed.unexecuted requests.executed asks.executed
  have again := lapsed.unexecuted requests.executedRecheck asks.executedRecheck
  have unlisted : Engine.pendingVerdict ((attendant.provider requests.pending).bind
      (parsePendingMessage P.serde P.hashFrom · pending.durable.messageHash)) = (false, true) := by
    rw [lapsed.unlisted requests.pending asks.pending]
    rfl
  have index := shown requests.walletState asks.walletState
  cases read : answer.bind (parseWalletSeqno P.serde) with
  | error error => simp [decideExternal, ResolutionRequests.of, first, unlisted, index, read]
  | ok seqno =>
    rw [← index] at read
    dsimp only
    by_cases passed : pending.durable.seqno < seqno
    · rw [if_pos passed]
      exact decideExternal_replaced first unlisted read passed again
    · rw [if_neg passed]
      exact decideExternal_expired first unlisted read passed past

/-- A stored terminal record lets the next send go on. -/
theorem expires_of_stored {mutation : JournalCompareExchange P.codec.Payload}
    {durable : DurableSendRecord} {config : WalletClientConfig} {snapshot : SendSnapshot}
    {after : State}
    (key : mutation.key = sendKey config)
    (owned : decodeOwnedRecord P.codec mutation.replacement config.recordId config.address =
      .ok durable) (expired : durable.stage = .expired) (phase : snapshot.phase = .expired) :
    Expires config (.ok snapshot, after, desk.store mutation) where
  reported := ⟨snapshot, rfl, phase⟩
  stored := by
    have settled : durable.stage.permitsReplacement = true := by rw [expired]; rfl
    obtain ⟨decoded, sameId, sameSource⟩ := decodeOwnedRecord_ok owned
    refine ⟨mutation.replacement, durable, newest_store key, owned, expired,
      pendingSendRecord_of_settled owned settled, ?_⟩
    intro workflow ownId ownSource loading
    rw [journalLoaded_apply workflow decoded (ownId.trans sameId.symm)
      (ownSource.trans sameSource.symm) loading, settled]
    rfl

/-- A recovery that concludes something else, or nothing, does not report the message as expired. -/
theorem not_expires_of_concluded {verdict : Option SendResolution} {ending : Ending P SendSnapshot}
    (concludes : Concludes state desk pending verdict ending)
    (other : verdict = none ∨ verdict = some .replaced) : ¬ Expires state.config ending := by
  rintro ⟨⟨snapshot, reported, phase⟩, -⟩
  have abandoned : Abandons state desk ending → False := by
    rintro ⟨failure, rfl⟩
    cases reported
  rcases other with none | replaced
  · exact abandoned (concludes.failed none)
  · cases written : pending.terminalMutation .replaced with
    | error error => exact abandoned (concludes.unrecorded _ error replaced written)
    | ok stored =>
      obtain ⟨mutation, rfl⟩ : ∃ mutation, stored = some mutation := by
        cases stored with
        | none =>
          obtain ⟨reason, impossible⟩ := stillPending_of_unwritten written
          cases impossible
        | some mutation => exact ⟨mutation, rfl⟩
      obtain ⟨result, after, left⟩ := ending
      obtain rfl : result = .ok snapshot := reported
      obtain ⟨-, rfl, -⟩ := (concludes.recorded _ mutation replaced written).of_ok rfl
      cases phase

/-- A recovery that concludes that the message has expired stores and reports it. -/
theorem expires_of_concluded {ending : Ending P SendSnapshot}
    {mutation : JournalCompareExchange P.codec.Payload}
    (room : state.snapshot.revision + 1 < u64Bound)
    (owned : decodeOwnedRecord P.codec pending.journal state.config.recordId
      state.config.address = .ok pending.durable)
    (written : pending.terminalMutation .expired = .ok (some mutation))
    (concludes : Concludes state desk pending (some .expired) ending) :
    Expires state.config ending := by
  obtain ⟨durable, resolved, stores⟩ := PendingSendRecord.terminalMutation_ok
    (decodeDurableRecord_ok (decodeOwnedRecord_ok owned).1).2.2
    (fun _ _ confirmed => by cases confirmed) written
  obtain ⟨key, replaced⟩ := replaces_of_stores owned resolved stores
  rw [(concludes.recorded _ mutation rfl written).eq_ok (.inr room)]
  have expired : durable.stage = .expired := by
    cases resolved
    rfl
  exact expires_of_stored key replaced expired rfl

end Expiry

/-- A deployment whose window is over and that nobody has expires exactly when the index answers
with the sequence number zero, which an index without a row for the wallet never does. -/
theorem undeployed_expires_iff {attendant : Attendant P} {state : State} {desk : Desk P}
    {pending : PendingSendRecord P.codec} {answer : Except DomainError P.serde.Body}
    {mutation : JournalCompareExchange P.codec.Payload}
    (ready : state.Ready) (room : state.snapshot.revision + 1 < u64Bound)
    (newest : desk.newest state.config = some pending.journal)
    (blocks : pendingSendRecord P.codec pending.journal state.config.recordId
      state.config.address = .ok (some pending))
    (external : pending.durable.kind = .external) (_deploys : pending.durable.needsStateInit = true)
    (unused : pending.durable.seqno = 0)
    (written : pending.terminalMutation .expired = .ok (some mutation))
    (lapsed : Lapsed attendant state.config pending.durable)
    (shown : ∀ request : HttpRequest, request.endpoint = .walletStates state.config.address →
      attendant.provider request = answer) :
    (Expires state.config
        ((Engine.resolvePending : Engine P SendSnapshot).solo attendant (state, desk)) ↔
      answer.bind (parseWalletSeqno P.serde) = .ok 0) ∧
    ∀ body, answer = .ok body → Unindexed body → ¬ Expires state.config
      ((Engine.resolvePending : Engine P SendSnapshot).solo attendant (state, desk)) := by
  obtain ⟨account, requests, asked, asks, concludes⟩ :=
    @resolvePending_solo_pending P attendant state desk pending ready newest blocks
  have verdict := lapsed_verdict lapsed external asked asks shown
  have decides : Expires state.config
      ((Engine.resolvePending : Engine P SendSnapshot).solo attendant (state, desk)) ↔
        answer.bind (parseWalletSeqno P.serde) = .ok 0 := by
    rcases read : answer.bind (parseWalletSeqno P.serde) with error | (_ | seqno)
    · rw [read] at verdict
      exact iff_of_false (not_expires_of_concluded concludes (.inl verdict)) nofun
    · rw [read] at verdict
      dsimp only at verdict
      rw [if_neg (Nat.not_lt_zero _)] at verdict
      rw [verdict] at concludes
      exact iff_of_true (expires_of_concluded room (pendingSendRecord_ok blocks).2.1 written
        concludes) rfl
    · rw [read] at verdict
      dsimp only at verdict
      rw [if_pos (unused ▸ Nat.succ_pos seqno)] at verdict
      exact iff_of_false (not_expires_of_concluded concludes (.inr verdict)) nofun
  refine ⟨decides, ?_⟩
  rintro body rfl unindexed expires
  obtain ⟨error, failed⟩ := parseWalletSeqno_of_unindexed unindexed
  have read : parseWalletSeqno P.serde body = .ok 0 := decides.mp expires
  rw [failed] at read
  cases read

section Samples

/-- A provider past the window of the message that has never seen it, and the row that its index
has for the wallet. -/
def lapsedAttendant (index : Json) : Attendant plainPlatform where
  provider request := .ok (match request.endpoint with
    | .getAddressInformation _ => accountBody "uninitialized" 1000000
    | .walletStates _ => index
    | _ => noTransactionsBody)
  secret := .ok ()
  woken := true

/-- The record of a deployment that was submitted. -/
def deployment : DurableSendRecord :=
  { unresolvedRecord 0 with stage := .submitted, seqno := 0, needsStateInit := true }

def deploymentDesk : Desk plainPlatform where
  slots := fun _ => [⟨1, deployment⟩]
  writes := []

/-- The recovery of the deployment by a new client. -/
def lapsedEnding (index : Json) : Ending plainPlatform SendSnapshot :=
  (Engine.resolvePending : Engine plainPlatform SendSnapshot).solo (lapsedAttendant index)
    (.initial plainConfig, deploymentDesk)

theorem deployment_lapsed (index : Json) :
    Lapsed (lapsedAttendant index) plainConfig deployment where
  past request asks := by
    rw [show (lapsedAttendant index).provider request =
      .ok (accountBody "uninitialized" 1000000) by simp [lapsedAttendant, asks]]
    exact ⟨_, rfl, rfl⟩
  unexecuted request asks := by
    rw [show (lapsedAttendant index).provider request = .ok noTransactionsBody by
      simp [lapsedAttendant, asks]]
    rfl
  unlisted request asks := by
    rw [show (lapsedAttendant index).provider request = .ok noTransactionsBody by
      simp [lapsedAttendant, asks]]
    rfl

theorem lapsedAttendant_index (index : Json) (request : HttpRequest)
    (asks : request.endpoint = .walletStates plainConfig.address) :
    (lapsedAttendant index).provider request = .ok index := by
  simp [lapsedAttendant, asks]

theorem plain_ready : (State.initial plainConfig).Ready where
  running := ⟨rfl, rfl⟩
  idle := ⟨rfl, rfl⟩
  generation := by decide
  identifiers := by decide
  addressable := by decide

/-- With a row that shows zero the deployment expires. -/
theorem undeployed_expires_indexed : Expires plainConfig (lapsedEnding (walletBody 0)) :=
  (@undeployed_expires_iff plainPlatform (lapsedAttendant (walletBody 0)) (.initial plainConfig)
    deploymentDesk ⟨deployment, ⟨1, deployment⟩⟩ (.ok (walletBody 0)) _ plain_ready
    (by decide) rfl rfl rfl rfl rfl rfl (deployment_lapsed _)
    (lapsedAttendant_index _)).1.mpr rfl

/-- Without a row the recovery fails, and the record goes on blocking the wallet. -/
theorem undeployed_blocks_unindexed :
    let index : Json := .obj [("wallets", .arr [])]
    Unindexed (P := plainPlatform) index ∧ Lapsed (lapsedAttendant index) plainConfig deployment ∧
    ¬ Expires plainConfig (lapsedEnding index) ∧
    (lapsedEnding index).2.2.newest plainConfig = some ⟨1, deployment⟩ := by
  refine ⟨⟨[], rfl, .inl rfl⟩, deployment_lapsed _, ?_, rfl⟩
  rintro ⟨⟨snapshot, reported, -⟩, -⟩
  cases reported

end Samples

end WalletEngine
