import WalletEngine.Contract.Views

/-! # Previews and NFT transfers follow the rules -/

namespace WalletEngine

open Engine

variable {P : Platform} {log : Log P} {generation : Nat} {α : Type}

section Regions

variable {config : WalletClientConfig} {state after : State}

theorem reservePreview_keeps {σ : Type} {prepare : WalletClientConfig → Locked σ}
    {fact : WalletClientConfig → σ → Prop}
    (allocates : ∀ config, Allocates (fact config) (prepare config)) :
    Keeps (fun _ _ taken => ∃ config, fact config taken.2.2) (reservePreview prepare) := by
  refine fun before => ensureRunning_ends (fun _ => kept_error rfl) fun _ => Region.ends_get ?_
  refine Region.ends_guard (fun _ => kept_error rfl) fun _ => ?_
  refine Region.ends_guard (fun _ => kept_error rfl) fun _ => ?_
  refine Region.ends_guard (fun _ => kept_error rfl) fun _ => Region.ends_set ?_
  refine (allocates _).ends (fun _ _ allocated => kept_error allocated.tracked) ?_
  rintro _ _ known allocated
  exact Region.ends_modify (kept_ok allocated.tracked ⟨_, known⟩)

theorem previewRequests_allocates (config : WalletClientConfig) :
    Allocates (fun requests => Plain requests.1 ∧ Plain requests.2.1) (previewRequests config) :=
  (allocateRequest_allocates _ _).bind fun _ account =>
    (allocateRequest_allocates _ _).bind fun _ seqno => allocateRequestId_allocates.bind fun _ _ =>
      .pure ⟨.of_endpoint account nofun, .of_endpoint seqno nofun⟩

theorem trackPreview_tracked (track : List HttpRequestId → List HttpRequestId) (state : State) :
    (trackPreview generation track state).2.tracked = state.tracked := by
  rw [trackPreview, ensureRunning_bind]
  split
  · rfl
  rw [Region.get_bind]
  rcases state.activePreview with _ | ⟨owner, ids⟩
  · rfl
  · dsimp only
    rw [Region.ite_apply]
    split <;> rfl

theorem finishPreview_tracked (state : State) :
    (finishPreview generation state).2.tracked = state.tracked := by
  rw [finishPreview, Region.get_bind, Region.ite_apply]
  split
  · rfl
  · rw [Region.ite_apply]
    split <;> rfl

theorem cancelSendPreviewRegion_tracked (state : State) :
    (cancelSendPreviewRegion state).2.tracked = state.tracked := by
  rw [cancelSendPreviewRegion, ensureRunning_bind]
  split <;> rfl

end Regions

section Previews

variable {success : Log P → α → Prop}
variable {request : HttpRequest}

theorem previewError_quiet {error : WalletClientError} :
    (previewError generation error : Engine P α).Quiet success log :=
  (quiet_withLock_of_tracked finishPreview_tracked).bind fun _ _ _ => quiet_throw

theorem previewFailed_quiet {message : String} :
    (previewFailed generation message : Engine P α).Quiet success log :=
  previewError_quiet

theorem previewCheck_quiet {problem : Option WalletClientError} :
    (previewCheck generation problem : Engine P _).Quiet (fun _ _ => True) log := by
  cases problem with
  | some error => exact previewError_quiet
  | none => exact quiet_pure trivial

theorem executeTrackedPreviewRequest_quiet (plain : Plain request) :
    (executeTrackedPreviewRequest generation request : Engine P _).Quiet (fun _ _ => True) log := by
  refine (quiet_withLock_of_tracked (trackPreview_tracked _)).bind fun _ _ _ => ?_
  refine (quiet_execute plain).bind fun _ result _ => ?_
  refine (quiet_withLock_of_tracked (trackPreview_tracked _)).bind fun _ _ _ => ?_
  exact quiet_pure trivial

theorem fetchPreview_quiet {parse : P.serde.Body → Except DomainError α} (plain : Plain request) :
    (fetchPreview generation request parse).Quiet (fun _ _ => True) log := by
  refine (executeTrackedPreviewRequest_quiet plain).bind fun _ answer _ => ?_
  rcases answer.bind parse with error | value
  · exact previewFailed_quiet
  · exact quiet_pure trivial

theorem previewSeqno_quiet {status : AccountStatus} (plain : Plain request) :
    (previewSeqno generation status request : Engine P _).Quiet (fun _ _ => True) log := by
  cases status with
  | active => exact fetchPreview_quiet plain
  | nonexistent => exact quiet_pure trivial
  | uninitialized => exact quiet_pure trivial
  | frozen => exact previewError_quiet
  | unknown => exact previewError_quiet

theorem previewExpiration_quiet {expiration : SendExpiration} {providerTime : Nat}
    {config : WalletClientConfig} :
    (previewExpiration generation expiration providerTime config : Engine P _).Quiet
      (fun _ _ => True) log := by
  unfold previewExpiration
  split
  · exact quiet_pure trivial
  · exact previewError_quiet

theorem emulatePreviewBoc_quiet {config : WalletClientConfig} {id : HttpRequestId} {boc : Boc} :
    (emulatePreviewBoc generation config id boc : Engine P _).Quiet (fun _ _ => True) log := by
  unfold emulatePreviewBoc
  rcases built : buildRequest config id (.emulateTrace boc) with error | request
  · exact previewFailed_quiet
  refine (executeTrackedPreviewRequest_quiet (.of_endpoint (buildRequest_ok built).2 nofun)).bind
    fun _ answer _ => ?_
  rcases answer.bind (P.views.parseEmulation · config.address) with error | evaluated
  · exact previewError_quiet
  · dsimp only
    split
    · exact quiet_pure trivial
    · exact previewError_quiet

theorem reservePreviewRequests_quiet :
    (withLock (reservePreview previewRequests) : Engine P _).Quiet
      (fun _ taken => Plain taken.2.2.1 ∧ Plain taken.2.2.2.1) log :=
  quiet_withLock (reservePreview_keeps previewRequests_allocates) fun _ _ _ ⟨_, plain⟩ => plain

theorem previewSend_quiet {request : SendPreviewRequest} :
    (previewSend request : Engine P _).Quiet (fun _ _ => True) log := by
  refine reservePreviewRequests_quiet.bind fun _ taken plain => ?_
  obtain ⟨generation, config, accountRequest, seqnoRequest, emulationRequestId⟩ := taken
  refine (fetchPreview_quiet plain.1).bind fun _ account _ => ?_
  rcases request.intent.exactValueTotal with error | requested
  · exact previewError_quiet
  refine previewCheck_quiet.bind fun _ _ _ => ?_
  refine (previewSeqno_quiet plain.2).bind fun _ seqno _ => ?_
  refine previewExpiration_quiet.bind fun _ validUntil _ => ?_
  rcases prepareTransferEmulation P.keys config.address config.publicKey config.network
    request.intent ⟨account.status, seqno⟩ validUntil with error | boc
  · exact previewFailed_quiet
  refine emulatePreviewBoc_quiet.bind fun _ emulation _ => ?_
  refine previewCheck_quiet.bind fun _ _ _ => ?_
  exact (quiet_withLock_of_tracked finishPreview_tracked).bind fun _ _ _ => quiet_pure trivial

theorem previewSendBoc_quiet {request : SendBocRequest} :
    (previewSendBoc request : Engine P _).Quiet (fun _ _ => True) log := by
  refine reservePreviewRequests_quiet.bind fun _ taken plain => ?_
  obtain ⟨generation, config, accountRequest, seqnoRequest, emulationRequestId⟩ := taken
  dsimp only
  rcases prepareSignedBoc P.crypto config.recordId config.address request with error | prepared
  · exact previewFailed_quiet
  refine (fetchPreview_quiet plain.1).bind fun _ account _ => ?_
  refine (previewSeqno_quiet plain.2).bind fun _ seqno _ => ?_
  refine previewCheck_quiet.bind fun _ _ _ => ?_
  refine previewExpiration_quiet.bind fun _ validUntil _ => ?_
  refine emulatePreviewBoc_quiet.bind fun _ emulation _ => ?_
  exact (quiet_withLock_of_tracked finishPreview_tracked).bind fun _ _ _ => quiet_pure trivial

theorem previewSignMessage_quiet {request : SendPreviewRequest} :
    (previewSignMessage request : Engine P _).Quiet (fun _ _ => True) log := by
  have reserve : (withLock (reservePreview fun config =>
      allocateRequest config (.getAddressInformation config.address)) : Engine P _).Quiet
      (fun _ taken => Plain taken.2.2) log := by
    refine quiet_withLock (reservePreview_keeps fun _ => allocateRequest_allocates _ _) ?_
    rintro _ _ _ ⟨config, asks⟩
    exact .of_endpoint asks nofun
  refine reserve.bind fun _ taken plain => ?_
  obtain ⟨generation, config, accountRequest⟩ := taken
  dsimp only
  rcases request.intent.exactValueTotal with error | requested
  · exact previewError_quiet
  refine (fetchPreview_quiet plain).bind fun _ account _ => ?_
  refine previewCheck_quiet.bind fun _ _ _ => ?_
  refine previewExpiration_quiet.bind fun _ validUntil _ => ?_
  exact (quiet_withLock_of_tracked finishPreview_tracked).bind fun _ _ _ => quiet_pure trivial

theorem cancelSendPreview_quiet :
    (cancelSendPreview : Engine P _).Quiet (fun _ _ => True) log :=
  (quiet_withLock_of_tracked cancelSendPreviewRegion_tracked).bind
    fun _ _ _ => quiet_cancelRequests

end Previews

section NftTransfers

theorem nftTransferSource_tracked (state : State) :
    (nftTransferSource state).2.tracked = state.tracked := by
  rw [nftTransferSource, ensureRunning_bind]
  split <;> rfl

theorem reserveNftItem_keeps (address : TonAddressString) :
    Keeps (fun _ _ taken => Plain taken.1) (reserveNftItem address) := by
  refine fun before => ensureRunning_ends (fun _ => kept_error rfl) fun _ => Region.ends_get ?_
  refine (allocateRequest_allocates _ _).ends (fun _ _ allocated => kept_error allocated.tracked) ?_
  exact fun _ _ asks allocated => kept_ok allocated.tracked (.of_endpoint asks nofun)

theorem loadFreshNftForTransfer_quiet {address : TonAddressString} :
    (loadFreshNftForTransfer address : Engine P _).Quiet (fun _ _ => True) log := by
  have reserve : (withLock (reserveNftItem address) : Engine P _).Quiet
      (fun _ taken => Plain taken.1) log :=
    quiet_withLock (reserveNftItem_keeps address) fun _ _ _ plain => plain
  refine reserve.bind fun _ taken plain => ?_
  obtain ⟨request, network⟩ := taken
  refine (quiet_execute plain).bind fun _ answer _ => ?_
  rcases answer with error | body
  · exact quiet_throw
  refine (quiet_withLock_of_tracked ensureRunning_tracked).bind fun _ _ _ => ?_
  rcases P.views.parseSingleNftItem body address network with error | item
  · exact quiet_throw
  · exact quiet_pure trivial

theorem checkedNftTransfer_quiet {operationId : NonEmptyString} {intent : NftTransferIntent} :
    (checkedNftTransfer operationId intent : Engine P _).Quiet (fun _ canonical => ∃ source,
      canonicalizeNftTransfer P.keys operationId source intent = .ok canonical) log := by
  refine (quiet_withLock_of_tracked nftTransferSource_tracked).bind fun _ source _ => ?_
  rcases built : canonicalizeNftTransfer P.keys operationId source intent with error | canonical
  · exact quiet_throw
  refine loadFreshNftForTransfer_quiet.bind fun _ item _ => ?_
  rcases validateTransferableNft item source with error | _
  · exact quiet_throw
  · exact quiet_pure ⟨source, built⟩

theorem previewNftTransfer_quiet {request : NftTransferPreviewRequest} :
    (previewNftTransfer request : Engine P _).Quiet (fun _ _ => True) log := by
  refine checkedNftTransfer_quiet.bind fun _ canonical _ => ?_
  refine previewSend_quiet.bind fun _ preview _ => ?_
  rcases validateNftEmulation preview request.intent.nftAddress with error | _
  · exact quiet_throw
  · exact quiet_pure trivial

end NftTransfers

end WalletEngine
