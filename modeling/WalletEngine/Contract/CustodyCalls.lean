import WalletEngine.Contract.Custody

/-! # Every operation gives back what it takes

The operations of the engine under the slots they own. An operation that owns a slot fails
only after it has released the slot or found it taken away. -/

namespace WalletEngine

namespace Engine

variable {P : Platform} {call : PublicCall} {generation : Nat} {α : Type}

section Failures

theorem sendFailedError_failing (message : String) :
    (sendFailedError generation message : Engine P α).Failing call .send generation :=
  failing_withLock (releaseSend_drops _ _) _

theorem sendWorkflowError_failing (error : SendWorkflowError) :
    (sendWorkflowError generation error : Engine P α).Failing call .send generation :=
  failing_withLock (releaseSend_drops _ _) _

theorem submissionUnknownError_failing (message : String) :
    (submissionUnknownError generation message : Engine P α).Failing call .send generation :=
  failing_withLock (releaseSend_drops _ _) _

theorem rejectSend_failing (error : WalletClientError) :
    (rejectSend generation error : Engine P α).Failing call .send generation :=
  failing_withLock (releaseSend_drops _ _) _

theorem abandon_failing (error : WalletClientError) :
    (abandon generation error : Engine P α).Failing call .resolution generation :=
  failing_withLock discardResolution_drops _

end Failures

section Journal

variable {family : OperationFamily}

theorem loadJournal_owned (key : JournalKey) :
    (loadJournal key : Engine P _).Owned call family generation :=
  owned_await fun _ impossible => by cases impossible

theorem compareExchangeJournal_owned (mutation : JournalCompareExchange P.codec.Payload) :
    (compareExchangeJournal mutation).Owned call family generation :=
  owned_await fun _ impossible => by cases impossible

theorem readProtectedSecret_owned (read : ProtectedSecretRead) :
    (readProtectedSecret read : Engine P _).Owned call family generation :=
  owned_await fun _ impossible => by cases impossible

end Journal

end Engine

/-- The slot of an owner. -/
def ResolutionOwner.family : ResolutionOwner → OperationFamily
  | .send _ => .send
  | .standalone _ => .resolution

def ResolutionOwner.generation : ResolutionOwner → Nat
  | .send generation => generation
  | .standalone generation => generation

namespace Engine

variable {P : Platform} {call : PublicCall} {generation : Nat} {α : Type}

section Resolver

variable {owner : ResolutionOwner}

theorem resolutionFailedError_failing (message : String) :
    (resolutionFailedError owner message : Engine P α).Failing call owner.family
      owner.generation := by
  cases owner with
  | send generation => exact sendFailedError_failing message
  | standalone generation => exact abandon_failing _

theorem resolutionWorkflowError_failing (error : SendWorkflowError) :
    (resolutionWorkflowError owner error : Engine P α).Failing call owner.family
      owner.generation := by
  cases owner with
  | send generation => exact sendWorkflowError_failing error
  | standalone generation => exact resolutionFailedError_failing _

theorem executeTrackedSendRequest_owned (request : HttpRequest) :
    (executeTrackedSendRequest generation request : Engine P _).Owned call .send generation :=
  owned_tracked trackSend_lists

theorem executeTrackedStandaloneResolutionRequest_owned (request : HttpRequest) :
    (executeTrackedStandaloneResolutionRequest generation request : Engine P _).Owned call
      .resolution generation :=
  owned_tracked trackResolution_lists

theorem executeResolutionRequest_owned (request : HttpRequest) :
    (executeResolutionRequest owner request : Engine P _).Owned call owner.family
      owner.generation := by
  cases owner with
  | send generation => exact executeTrackedSendRequest_owned request
  | standalone generation => exact executeTrackedStandaloneResolutionRequest_owned request

theorem ensureCurrentResolution_owned :
    (ensureCurrentResolution owner : Engine P Unit).Owned call owner.family owner.generation := by
  cases owner with
  | send generation => exact owned_withLock ensureCurrentSend_grips
  | standalone generation => exact owned_withLock ensureCurrent_grips

theorem persistSendResolution_owned (resolution : SendResolution) (attempts : Nat)
    (pending : PendingSendRecord P.codec) :
    (persistSendResolution owner resolution attempts pending).Owned call owner.family
      owner.generation := by
  induction attempts generalizing pending with
  | zero => exact (resolutionFailedError_failing _).owned
  | succ attempts ih =>
    unfold persistSendResolution
    split
    · exact (resolutionWorkflowError_failing _).owned
    · exact (resolutionFailedError_failing _).owned
    · refine (compareExchangeJournal_owned _).bind fun exchanged => ?_
      split
      · exact (resolutionFailedError_failing _).owned
      · refine ensureCurrentResolution_owned.bind fun _ => ?_
        split
        · exact owned_pure _
        · split
          · exact (resolutionFailedError_failing _).owned
          · split
            · exact (resolutionWorkflowError_failing _).owned
            · exact owned_pure _
            · split
              · exact (resolutionWorkflowError_failing _).owned
              · exact (resolutionFailedError_failing _).owned
              · split
                · exact (resolutionFailedError_failing _).owned
                · exact ih _

theorem persistResolution_owned (pending : PendingSendRecord P.codec)
    (resolution : SendResolution) :
    (persistResolution owner pending resolution).Owned call owner.family owner.generation :=
  persistSendResolution_owned resolution 3 pending

theorem lookup_owned (request : HttpRequest) (parse : P.serde.Body → Except DomainError α) :
    (lookup owner request parse).Owned call owner.family owner.generation := by
  refine (executeResolutionRequest_owned request).bind fun answer => ?_
  split
  · exact owned_pure _
  · exact (resolutionFailedError_failing _).owned

theorem resolvePendingWithOwner_owned (config : WalletClientConfig)
    (pending : PendingSendRecord P.codec) (providerTime : Nat) (requests : ResolutionRequests) :
    (resolvePendingWithOwner owner config pending providerTime requests).Owned call owner.family
      owner.generation := by
  unfold resolvePendingWithOwner
  split
  · refine (lookup_owned _ _).bind fun indexed => ?_
    split
    · exact persistResolution_owned _ _
    · split
      · exact persistResolution_owned _ _
      · exact owned_pure _
  · refine (lookup_owned _ _).bind fun executed => ?_
    split
    · exact persistResolution_owned _ _
    · refine (executeResolutionRequest_owned _).bind fun answer => ?_
      split
      split
      · exact owned_pure _
      · refine (lookup_owned _ _).bind fun indexed => ?_
        split
        · refine (lookup_owned _ _).bind fun rechecked => ?_
          split
          · exact persistResolution_owned _ _
          · exact persistResolution_owned _ _
        · split
          · exact persistResolution_owned _ _
          · exact owned_pure _

theorem resolvePending_errand : (resolvePending : Engine P SendSnapshot).Errand call := by
  refine errand_withLock reserveResolvePending_opens (.inr rfl) fun ticket => ?_
  refine (loadJournal_owned _).closing fun loaded => ?_
  split
  · exact (abandon_failing _).closing
  · exact closing_withLock (completeStandaloneResolution_drops none)
  · split
    · exact (abandon_failing _).closing
    · split
      · exact (abandon_failing _).closing
      · exact closing_withLock (completeStandaloneResolution_drops _)
    · refine (executeTrackedStandaloneResolutionRequest_owned _).closing fun answer => ?_
      split
      · exact (abandon_failing _).closing
      · split
        · exact (abandon_failing _).closing
        · refine Owned.closing (@resolvePendingWithOwner_owned P call
            (.standalone ticket.generation) _ _ _ _) fun resolved => ?_
          exact closing_withLock (completeStandaloneResolution_drops _)

end Resolver

section Sends

theorem reduce_owned {workflow : SendWorkflow} {method : Reducer α}
    {fail : SendWorkflowError → Engine P (α × SendWorkflow)}
    (fails : ∀ error, (fail error).Failing call .send generation) :
    (reduce workflow method fail).Owned call .send generation := by
  unfold reduce
  split
  · exact owned_pure _
  · exact (fails _).owned

theorem loadSendJournal_owned (ticket : SendTicket) :
    (loadSendJournal ticket : Engine P _).Owned call .send ticket.generation := by
  refine (loadJournal_owned _).bind fun loaded => ?_
  split
  · exact (sendFailedError_failing _).owned
  · exact (owned_withLock ensureCurrentSend_grips).bind fun _ => owned_pure _
  · refine (owned_withLock ensureCurrentSend_grips).bind fun _ => ?_
    split
    · exact (sendWorkflowError_failing _).owned
    · exact owned_pure _

theorem fetch_owned (request : HttpRequest) (parse : P.serde.Body → Except DomainError α) :
    (fetch generation request parse).Owned call .send generation := by
  refine (executeTrackedSendRequest_owned request).bind fun answer => ?_
  split
  · exact owned_pure _
  · exact (sendFailedError_failing _).owned

theorem settlePending_owned (ticket : SendTicket) (pending : PendingSendRecord P.codec)
    (providerTime : Nat) :
    (settlePending ticket pending providerTime).Owned call .send ticket.generation := by
  unfold settlePending
  split
  · exact (sendFailedError_failing _).owned
  · refine Owned.bind (@resolvePendingWithOwner_owned P call (.send ticket.generation) _ _ _ _)
      fun resolved => ?_
    refine (owned_withLock (publishPriorSendResolution_grips _)).bind fun _ => ?_
    split
    · intro log owns
      refine Fallible.Obeys.bind (drops_withLock (blockSendForPending_drops _) (.inl owns)) ?_
      exact fun _ _ _ gone => Fallible.obeys_throw gone
    · exact owned_pure _

theorem priorRecord_owned (ticket : SendTicket) (force : Bool)
    (record : Option (JournalRecord P.codec.Payload))
    (pending : Option (PendingSendRecord P.codec)) (providerTime : Nat) :
    (priorRecord ticket force record pending providerTime).Owned call .send
      ticket.generation := by
  unfold priorRecord
  split
  · exact owned_pure _
  · split
    · exact owned_pure _
    · exact (settlePending_owned _ _ _).map

theorem openSend_owned (ticket : SendTicket) (force : Bool) :
    (openSend ticket force : Engine P _).Owned call .send ticket.generation := by
  refine (loadSendJournal_owned ticket).bind fun found => ?_
  refine (fetch_owned _ _).bind fun account => ?_
  refine (priorRecord_owned _ _ _ _ _).bind fun base => ?_
  refine (reduce_owned sendWorkflowError_failing).bind fun reduced => ?_
  split
  split
  · exact (owned_withLock (publishSendWorkflow_grips _)).bind fun _ => owned_pure _
  · exact (sendFailedError_failing _).owned

theorem freshSeqno_owned (ticket : SendTicket) (account : AccountSnapshot) :
    (freshSeqno ticket account : Engine P Nat).Owned call .send ticket.generation := by
  unfold freshSeqno
  split
  · exact fetch_owned _ _
  · exact owned_pure _

theorem authorize_owned (ticket : SendTicket) (workflow : SendWorkflow) (fresh : FreshSendAccount)
    (invalid : String) :
    (authorize ticket workflow fresh invalid : Engine P _).Owned call .send
      ticket.generation := by
  refine (reduce_owned sendWorkflowError_failing).bind fun reduced => ?_
  split
  split
  · refine (owned_withLock (publishSendWorkflow_grips _)).bind fun _ => ?_
    refine (readProtectedSecret_owned _).bind fun secret => ?_
    split
    · exact (sendFailedError_failing _).owned
    · refine (owned_withLock ensureCurrentSend_grips).bind fun _ => ?_
      split
      · exact (failing_withLock (releaseSend_drops _ _) _).owned
      · split
        · exact (sendFailedError_failing _).owned
        · refine (reduce_owned fun _ => sendFailedError_failing _).bind fun authorized => ?_
          split
          split
          · exact (owned_withLock (publishSendWorkflow_grips _)).bind fun _ => owned_pure _
          · exact (sendFailedError_failing _).owned
  · exact (sendFailedError_failing _).owned

theorem commitPrepared_owned (workflow : SendWorkflow) (prepared : PreparedTransfer)
    (invalid : String) :
    (commitPrepared generation workflow prepared invalid : Engine P _).Owned call .send
      generation := by
  refine (reduce_owned fun _ => sendFailedError_failing _).bind fun reduced => ?_
  split
  split
  · refine (owned_withLock (publishSendWorkflow_grips _)).bind fun _ => ?_
    refine (owned_withLock beginSendCommit_grips).bind fun _ => ?_
    refine (compareExchangeJournal_owned _).bind fun exchanged => ?_
    split
    · exact (submissionUnknownError_failing _).owned
    · refine (owned_withLock ensureCurrentSend_grips).bind fun _ => ?_
      refine reduce_owned fun error => ?_
      split
      · exact submissionUnknownError_failing _
      · exact sendWorkflowError_failing _
  · exact (sendFailedError_failing _).owned

theorem submitDurable_owned (request : HttpRequest) (workflow : SendWorkflow) :
    (submitDurable generation request workflow : Engine P _).Owned call .send generation := by
  have fails : ∀ (error : SendWorkflowError) {β : Type},
      (submissionUnknownError generation error.display : Engine P β).Failing call .send
        generation := fun _ _ => submissionUnknownError_failing _
  refine (reduce_owned fun error => fails error).bind fun begun => ?_
  refine (owned_withLock (publishSendWorkflow_grips _)).bind fun _ => ?_
  refine (executeTrackedSendRequest_owned _).bind fun answer => ?_
  refine (reduce_owned fun error => fails error).bind fun settled => ?_
  split
  split
  · refine (owned_withLock (publishSendWorkflow_grips _)).bind fun _ => ?_
    refine (owned_withLock ensureCurrentSend_grips).bind fun _ => ?_
    refine (compareExchangeJournal_owned _).bind fun exchanged => ?_
    split
    · exact (submissionUnknownError_failing _).owned
    · refine (owned_withLock ensureCurrentSend_grips).bind fun _ => ?_
      exact (reduce_owned fun error => fails error).bind fun _ => owned_pure _
  · exact (submissionUnknownError_failing _).owned

theorem submitPreparedSend_closing (config : WalletClientConfig) (id : HttpRequestId)
    (workflow : SendWorkflow) (prepared : PreparedTransfer) :
    (submitPreparedSend generation config id workflow prepared : Engine P _).Closing call .send
      generation := by
  unfold submitPreparedSend
  split
  · exact (sendFailedError_failing _).closing
  · refine (commitPrepared_owned _ _ _).closing fun committed => ?_
    split
    split
    · refine (submitDurable_owned _ _).closing fun submitted => ?_
      exact (closing_withLock (finishSend_drops _)).return _
    · exact (submissionUnknownError_failing _).closing

theorem send_errand (request : SendRequest) : (send request : Engine P _).Errand call := by
  refine errand_withLock (reserveSend_opens allocateRequestId_allocates) (.inl rfl)
    fun reserved => ?_
  refine (openSend_owned _ _).closing fun opened => ?_
  dsimp only
  split
  · exact (rejectSend_failing _).closing
  · split
    · exact (rejectSend_failing _).closing
    · refine (freshSeqno_owned _ _).closing fun seqno => ?_
      split
      · exact (sendFailedError_failing _).closing
      · refine (authorize_owned _ _ _ _).closing fun authorized => ?_
        split
        · exact (sendFailedError_failing _).closing
        · exact submitPreparedSend_closing _ _ _ _

theorem signMessage_errand (request : SignMessageRequest) :
    (signMessage request : Engine P _).Errand call := by
  refine errand_withLock (reserveSend_opens unit_allocates) (.inl rfl) fun reserved => ?_
  refine (openSend_owned _ _).closing fun opened => ?_
  dsimp only
  split
  · exact (rejectSend_failing _).closing
  · refine (freshSeqno_owned _ _).closing fun seqno => ?_
    split
    · exact (sendFailedError_failing _).closing
    · refine (authorize_owned _ _ _ _).closing fun authorized => ?_
      split
      · exact (sendFailedError_failing _).closing
      · refine (commitPrepared_owned _ _ _).closing fun committed => ?_
        split
        · exact (closing_withLock (finishSend_drops _)).return _
        · exact (submissionUnknownError_failing _).closing

theorem sendBoc_errand (request : SendBocRequest) :
    (sendBoc request : Engine P _).Errand call := by
  refine errand_withLock (reserveSend_opens allocateRequestId_allocates) (.inl rfl)
    fun reserved => ?_
  refine (openSend_owned _ _).closing fun opened => ?_
  refine (freshSeqno_owned _ _).closing fun seqno => ?_
  split
  · exact (sendFailedError_failing _).closing
  · split
    · exact (sendFailedError_failing _).closing
    · refine (reduce_owned sendWorkflowError_failing).closing fun loaded => ?_
      refine (owned_withLock (publishSendWorkflow_grips _)).closing fun _ => ?_
      split
      · exact (sendFailedError_failing _).closing
      · exact submitPreparedSend_closing _ _ _ _

end Sends

section Standalone

/-- A request whose failure to start is told apart from its answer. -/
theorem askProvider_owned (request : HttpRequest) (fail : String → WalletClientError) :
    (askProvider generation request fail : Engine P _).Owned call .resolution generation := by
  intro log owns
  have asked : Fallible.Obeys (custodyRule P call)
      (fun later (result : Except WalletClientError (Except DomainError P.serde.Body)) =>
        if result.isOk then Owns later .resolution generation
        else Gone later .resolution generation)
      (fun later _ => Gone later .resolution generation) log
      (Fallible.outcome (executeTrackedStandaloneResolutionRequest generation request)) :=
    Fallible.obeys_outcome (executeTrackedStandaloneResolutionRequest_owned request log owns)
  refine Fallible.Obeys.bind asked fun later result _ known => ?_
  split
  · exact Fallible.Obeys.mono (abandon_failing _ later (.inr known)) (fun _ _ _ => False.elim)
      fun _ _ _ gone => gone
  · exact Fallible.Obeys.mono (abandon_failing _ later (.inl known)) (fun _ _ _ => False.elim)
      fun _ _ _ gone => gone
  · exact Fallible.obeys_pure known

theorem required_owned {ε : Type} (result : Except ε α) (fail : ε → WalletClientError) :
    (required generation result fail : Engine P α).Owned call .resolution generation := by
  unfold required
  split
  · exact owned_pure _
  · exact (abandon_failing _).owned

theorem askAndParse_owned (request : HttpRequest) (parse : P.serde.Body → Except DomainError α)
    (fail : String → WalletClientError) :
    (askAndParse generation request parse fail).Owned call .resolution generation :=
  (askProvider_owned _ _).bind fun _ => required_owned _ _

theorem unlock_owned (read : ProtectedSecretRead) (fail : String → WalletClientError) :
    (unlock generation read fail : Engine P _).Owned call .resolution generation := by
  refine (readProtectedSecret_owned _).bind fun answer => ?_
  refine (required_owned _ _).bind fun secret => ?_
  exact (owned_withLock ensureCurrent_grips).bind fun _ => owned_pure _

theorem standaloneSeqno_owned (status : AccountStatus) (request : HttpRequest)
    (fail : String → WalletClientError) (unavailable : AccountStatus → WalletClientError) :
    (standaloneSeqno generation status request fail unavailable : Engine P Nat).Owned call
      .resolution generation := by
  unfold standaloneSeqno
  split
  · exact askAndParse_owned _ _ _
  · exact owned_pure _
  · exact owned_pure _
  · exact (abandon_failing _).owned

/-- The last region of a standalone operation. -/
theorem completed_closing {value : α} :
    (do
      withLock (completeResolution generation)
      return value : Engine P α).Closing call .resolution generation :=
  (closing_withLock completeResolution_drops).return fun _ => value

theorem prepareTransfer_errand (request : PrepareTransferRequest) :
    (prepareTransfer request : Engine P _).Errand call := by
  unfold prepareTransfer
  split
  · exact (roaming_throw _).errand
  · refine errand_withLock (reserveWithSecret_opens fun _ => requestPair_allocates _ _ _) (.inr rfl)
      fun reserved => ?_
    refine (askAndParse_owned _ _ _).closing fun account => ?_
    refine (required_owned _ _).closing fun _ => ?_
    refine (standaloneSeqno_owned _ _ _ _).closing fun seqno => ?_
    refine (required_owned _ _).closing fun validUntil => ?_
    refine (unlock_owned _ _).closing fun secret => ?_
    refine (required_owned _ _).closing fun _ => ?_
    refine (required_owned _ _).closing fun pair => ?_
    exact completed_closing

theorem resolveDns_errand (name : String) : (resolveDns name : Engine P _).Errand call := by
  unfold resolveDns
  split
  · exact (roaming_throw _).errand
  · refine errand_withLock (reserveWithoutSecret_opens fun _ => allocateRequest_allocates _ _)
      (.inr rfl) fun reserved => ?_
    exact (askAndParse_owned _ _ _).closing fun _ => completed_closing

theorem prepareKeyRotation_errand (request : PrepareKeyRotationRequest) :
    (prepareKeyRotation request : Engine P _).Errand call := by
  unfold prepareKeyRotation
  split
  · exact (roaming_throw _).errand
  · refine errand_withLock (reserveWithSecret_opens fun _ => requestPair_allocates _ _ _) (.inr rfl)
      fun reserved => ?_
    refine (askAndParse_owned _ _ _).closing fun account => ?_
    refine (standaloneSeqno_owned _ _ _ _).closing fun seqno => ?_
    refine (unlock_owned _ _).closing fun secret => ?_
    exact (required_owned _ _).closing fun _ => completed_closing

theorem requiredComment_owned (result : Except EncryptedCommentError α) :
    (requiredComment generation result : Engine P α).Owned call .resolution generation := by
  unfold requiredComment
  split
  · exact owned_pure _
  · exact (failing_withLock completeResolution_drops _).owned
  · exact (abandon_failing _).owned

theorem askRecipientKey_owned (request : HttpRequest) :
    (askRecipientKey generation request : Engine P _).Owned call .resolution generation := by
  refine (askAndParse_owned _ _ _).bind fun answer => ?_
  split
  · exact owned_pure _
  · exact (abandon_failing _).owned

theorem resolveRecipientPublicKey_owned (recipient : TonAddressString) (network : Network)
    (hint : Option PublicKey) (accountRequest keyRequest : HttpRequest) :
    (resolveRecipientPublicKey generation recipient network hint accountRequest keyRequest :
      Engine P _).Owned call .resolution generation := by
  refine (askAndParse_owned _ _ _).bind fun account => ?_
  split
  · exact askRecipientKey_owned _
  · split
    · exact (abandon_failing _).owned
    · exact (required_owned _ _).bind fun _ => owned_pure _
  · split
    · exact (abandon_failing _).owned
    · exact (required_owned _ _).bind fun _ => owned_pure _
  · exact (abandon_failing _).owned
  · exact (abandon_failing _).owned

theorem createEncryptedComment_errand (request : CreateEncryptedCommentRequest) :
    (createEncryptedComment request : Engine P _).Errand call := by
  unfold createEncryptedComment
  split
  · exact (roaming_throw _).errand
  · split
    · exact (roaming_throw _).errand
    · refine errand_withLock (reserveWithSecret_opens fun _ => requestPair_allocates _ _ _)
        (.inr rfl) fun reserved => ?_
      refine (resolveRecipientPublicKey_owned _ _ _ _ _).closing fun key => ?_
      refine (unlock_owned _ _).closing fun secret => ?_
      exact (requiredComment_owned _).closing fun _ => completed_closing

theorem resolveEncryptedCommentRecipient_errand (request : EncryptedCommentRecipientRequest) :
    (resolveEncryptedCommentRecipient request : Engine P _).Errand call := by
  unfold resolveEncryptedCommentRecipient
  split
  · exact (roaming_throw _).errand
  · refine errand_withLock (reserveWithoutSecret_opens fun _ => requestPair_allocates _ _ _)
      (.inr rfl) fun reserved => ?_
    exact (resolveRecipientPublicKey_owned _ _ _ _ _).closing fun _ => completed_closing

/-- The reservation of a page succeeds under the slot only. -/
theorem reservedPage_held {log : Log P} (offset : Nat)
    (held : Owns log .resolution generation ∨ Gone log .resolution generation) :
    Fallible.Obeys (custodyRule P call)
      (fun later (result : Except WalletClientError (HttpRequest × TonAddressString)) =>
        Owns later .resolution generation ∨
          result.isOk = false ∧ Gone later .resolution generation)
      (fun later _ => Gone later .resolution generation) log
      (Fallible.outcome (withLock (reserveKeyChangePage generation offset) : Engine P _)) := by
  refine Fallible.obeys_outcome (custody_ends fun state => ?_)
  refine Region.Ends.mono (reserveKeyChangePage_effect offset state) ?_
  rintro result after ⟨change, same, current⟩
  have step : Effect log call state after ∧
      (Owns (.locked state after :: log) .resolution generation ∨
        result.isOk = false ∧ Gone (.locked state after :: log) .resolution generation) := by
    rcases held with owns | gone
    · obtain ⟨effect, kept⟩ := owns.step change fun _ => same
      refine ⟨effect, ?_⟩
      cases slot : state.isCurrent .resolution generation with
      | true =>
        rw [slot, if_pos rfl] at kept
        exact .inl kept
      | false =>
        rw [slot, if_neg (by decide)] at kept
        refine .inr ⟨?_, kept⟩
        rw [slot] at current
        simpa using current
    · obtain ⟨effect, kept⟩ := gone.step change
      refine ⟨effect, ?_⟩
      cases succeeded : result.isOk with
      | true => exact .inl ⟨kept.1, .inr (gone.broken (current succeeded))⟩
      | false => exact .inr ⟨rfl, kept⟩
  cases result <;> exact step

theorem keyChangePages_held {log : Log P} (pages offset : Nat) (changes : List KeyChange)
    (held : Owns log .resolution generation ∨ Gone log .resolution generation) :
    Fallible.Obeys (custodyRule P call)
      (fun later _ => Owns later .resolution generation ∨ Gone later .resolution generation)
      (fun later _ => Gone later .resolution generation) log
      (keyChangePages generation pages offset changes : Engine P _) := by
  induction pages generalizing offset changes log with
  | zero => exact Fallible.obeys_pure held
  | succ pages ih =>
    refine Fallible.Obeys.bind (reservedPage_held offset held) fun later result _ known => ?_
    split
    · exact Fallible.Obeys.mono (abandon_failing _ later (known.imp_right (·.2)))
        (fun _ _ _ => False.elim) fun _ _ _ gone => gone
    · have kept := known.resolve_right fun ⟨failed, _⟩ => by cases failed
      refine Fallible.Obeys.bind (askAndParse_owned _ _ _ later kept) fun last page _ owns => ?_
      split
      · exact ih _ _ (.inl owns)
      · exact Fallible.obeys_pure (.inl owns)

/-- The operation runs under a slot and may end without it. -/
def Lasting (call : PublicCall) (generation : Nat) (operation : Engine P α) : Prop :=
  ∀ log, Owns log .resolution generation → Fallible.Obeys (custodyRule P call)
    (fun later _ => Owns later .resolution generation ∨ Gone later .resolution generation)
    (fun later _ => Gone later .resolution generation) log operation

theorem Owned.lasting {operation : Engine P α}
    (owned : operation.Owned call .resolution generation) : operation.Lasting call generation :=
  fun log owns => Fallible.Obeys.mono (owned log owns) (fun _ _ _ => .inl) fun _ _ _ gone => gone

/-- The cached history is read without a look at the slot. -/
theorem keyChangeHistory_lasting (currentPublicKey : PublicKey) :
    (keyChangeHistory generation currentPublicKey : Engine P _).Lasting call generation := by
  intro log owns
  have reads : Fallible.Obeys (custodyRule P call)
      (fun later _ => Owns later .resolution generation ∨ Gone later .resolution generation)
      (fun later _ => Gone later .resolution generation) log
      (withLock (cachedKeyChanges currentPublicKey) : Engine P _) := by
    refine custody_ends fun state => ?_
    obtain ⟨effect, kept⟩ := owns.step (.inl rfl : state = state ∨ _) fun _ => rfl
    refine ⟨effect, ?_⟩
    split at kept
    · exact .inl kept
    · exact .inr kept
  refine Fallible.Obeys.bind reads fun later cached _ held => ?_
  split
  · exact Fallible.obeys_pure held
  · refine Fallible.Obeys.bind (keyChangePages_held _ _ _ held) fun later changes _ held => ?_
    have stores : Fallible.Obeys (custodyRule P call)
        (fun later _ => Owns later .resolution generation ∨ Gone later .resolution generation)
        (fun later _ => Gone later .resolution generation) later
        (withLock (storeKeyChanges generation changes) : Engine P _) := by
      rcases held with owns | gone
      · exact (owned_withLock (storeKeyChanges_grips _)).lasting later owns
      · refine Fallible.Obeys.mono (gone_withLock gone fun state => ?_) (fun _ _ _ => .inr)
          fun _ _ _ gone => gone
        exact (storeKeyChanges_grips changes state).1
    exact Fallible.Obeys.bind stores fun _ _ _ held => Fallible.obeys_pure held

theorem decryptWithEarlierKeys_lasting (anchor signing : P.keys.SigningKey)
    (request : DecryptCommentRequest) :
    (decryptWithEarlierKeys generation anchor signing request).Lasting call generation := by
  intro log owns
  refine Fallible.Obeys.bind (keyChangeHistory_lasting _ log owns) fun later changes _ held => ?_
  split
  · unfold required
    dsimp only
    split
    · exact Fallible.obeys_pure held
    · exact Fallible.Obeys.mono (abandon_failing _ later held) (fun _ _ _ => False.elim)
        fun _ _ _ gone => gone
  · exact Fallible.Obeys.mono (abandon_failing _ later held) (fun _ _ _ => False.elim)
      fun _ _ _ gone => gone

theorem decryptWithKeys_lasting (anchor signing : P.keys.SigningKey)
    (request : DecryptCommentRequest) :
    (decryptWithKeys generation anchor signing request).Lasting call generation := by
  unfold decryptWithKeys
  dsimp only
  split
  · exact (owned_pure _).lasting
  · split
    · exact decryptWithEarlierKeys_lasting _ _ _
    · exact (abandon_failing _).owned.lasting

theorem decryptComment_errand (request : DecryptCommentRequest) :
    (decryptComment request : Engine P _).Errand call := by
  unfold decryptComment
  split
  · exact (roaming_throw _).errand
  · refine errand_withLock (reserveWithSecret_opens fun _ => unit_allocates) (.inr rfl)
      fun reserved => ?_
    refine (unlock_owned _ _).closing fun secret => ?_
    refine (requiredComment_owned _).closing fun keys => ?_
    intro log owns
    refine Fallible.Obeys.bind (decryptWithKeys_lasting _ _ _ log owns) fun later _ _ held => ?_
    refine Fallible.Obeys.bind (drops_withLock completeResolution_drops held) fun _ _ _ gone => ?_
    exact Fallible.obeys_pure gone

end Standalone

end Engine

end WalletEngine
