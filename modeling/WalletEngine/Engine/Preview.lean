import WalletEngine.Engine.Client

/-! # Previews and NFT transfers

A preview emulates a transfer under its own slot, before anything is signed. An
NFT transfer checks the item and goes on as an ordinary preview or send. -/

namespace WalletEngine

variable {P : Platform}

section Slots

/-- Reserve the preview slot. `prepare` allocates the requests. -/
def reservePreview {σ : Type} (prepare : WalletClientConfig → Locked σ) :
    Locked (Nat × WalletClientConfig × σ) := do
  ensureRunning
  let state ← get
  if state.activeSend.isSome then
    throw .sendAlreadyInProgress
  if state.activePreview.isSome then
    throw .sendPreviewAlreadyInProgress
  if u64Bound ≤ state.previewGeneration + 1 then
    throw .identifierExhausted
  let generation := state.previewGeneration + 1
  set { state with previewGeneration := generation }
  let prepared ← prepare state.config
  modify fun state => { state with activePreview := some (generation, []) }
  return (generation, state.config, prepared)

/-- The requests of a preview that emulates a message. -/
def previewRequests (config : WalletClientConfig) :
    Locked (HttpRequest × HttpRequest × HttpRequestId) := do
  let accountRequest ← allocateRequest config (.getAddressInformation config.address)
  let seqnoRequest ← allocateRequest config (.runGetMethod config.address "seqno")
  let emulationRequestId ← allocateRequestId
  return (accountRequest, seqnoRequest, emulationRequestId)

/-- Change the tracked requests of the active preview. -/
def trackPreview (generation : Nat) (track : List HttpRequestId → List HttpRequestId) :
    Locked Unit := do
  ensureRunning
  let state ← get
  match state.activePreview with
  | none => throw .stateUnavailable
  | some (active, ids) =>
    if active ≠ generation then
      throw .stateUnavailable
    set { state with activePreview := some (active, track ids) }

def startPreviewRequest (generation : Nat) (id : HttpRequestId) : Locked Unit :=
  trackPreview generation (· ++ [id])

def finishPreviewRequest (generation : Nat) (id : HttpRequestId) : Locked Unit :=
  trackPreview generation (·.filter (· != id))

def finishPreview (generation : Nat) : Locked Unit := do
  let state ← get
  if state.isCurrent .preview generation then
    set { state with activePreview := none }
  else if state.shutdown then
    throw .shutdown
  else
    throw .stateUnavailable

def cancelSendPreviewRegion : Locked (List HttpRequestId) := do
  ensureRunning
  let state ← get
  set { state with activePreview := none }
  return (state.activePreview.map (·.2)).getD []

end Slots

section Previews

/-- The emulator did not accept the external message. -/
def isMessageNotAccepted (error : DomainError) : Bool :=
  let diagnostic := error.developerMessage.toList.map Char.toLower
  let contains (text : String) := diagnostic.tails.any (text.toList.isPrefixOf ·)
  contains "external message" && contains "not accepted"

/-- The exact value of a request exceeds the balance. -/
def insufficient (available : UnsignedDecimalString) (requested : Option UnsignedDecimalString) :
    Option WalletClientError :=
  match requested with
  | some nanograms =>
    if available < nanograms then some (.insufficientBalance available nanograms) else none
  | none => none

/-- An exact send must leave a positive remainder after the wallet fee. -/
def insufficientForFees (available : UnsignedDecimalString)
    (requested : Option UnsignedDecimalString) (fees : UnsignedDecimalString) :
    Option WalletClientError :=
  match requested with
  | some nanograms =>
    if available ≤ nanograms + fees then
      some (.insufficientBalanceForFees available nanograms fees)
    else none
  | none => none

namespace Engine

/-- End a preview with an error; a preview that is no longer current reports that
instead. -/
def previewError {α : Type} (generation : Nat) (error : WalletClientError) : Engine P α := do
  withLock (finishPreview generation)
  throw error

def previewFailed {α : Type} (generation : Nat) (message : String) : Engine P α :=
  previewError generation (.sendPreviewFailed (boundedDiagnostic message))

def executeTrackedPreviewRequest (generation : Nat) (request : HttpRequest) :
    Engine P (Except DomainError P.serde.Body) := do
  withLock (startPreviewRequest generation request.id)
  let result ← execute request
  withLock (finishPreviewRequest generation request.id)
  return result

/-- Execute a request of a preview and parse its answer. -/
def fetchPreview {α : Type} (generation : Nat) (request : HttpRequest)
    (parse : P.serde.Body → Except DomainError α) : Engine P α := do
  match (← executeTrackedPreviewRequest generation request).bind parse with
  | .ok value => return value
  | .error error => previewFailed generation error.developerMessage

/-- The sequence number a message of this account must carry. -/
def previewSeqno (generation : Nat) (status : AccountStatus) (request : HttpRequest) :
    Engine P Nat :=
  match status with
  | .active => fetchPreview generation request (parseSeqno P.serde)
  | .nonexistent | .uninitialized => return 0
  | status => previewError generation (.sendAccountUnavailable status)

/-- End the preview if a check found a problem. -/
def previewCheck (generation : Nat) (problem : Option WalletClientError) : Engine P Unit :=
  match problem with
  | some error => previewError generation error
  | none => pure ()

def previewExpiration (generation : Nat) (expiration : SendExpiration) (providerTime : Nat)
    (config : WalletClientConfig) : Engine P Nat :=
  match resolveSendExpiration expiration providerTime config.sendValiditySeconds with
  | .ok validUntil => return validUntil
  | .error error => previewError generation (.sendPreviewFailed error.display)

def emulatePreviewBoc (generation : Nat) (config : WalletClientConfig) (id : HttpRequestId)
    (boc : Boc) : Engine P SendEmulation := do
  match buildRequest config id (.emulateTrace boc) with
  | .error error => previewFailed generation error.display
  | .ok request =>
    match (← executeTrackedPreviewRequest generation request).bind
        (P.views.parseEmulation · config.address) with
    | .error error =>
      let diagnostic := boundedDiagnostic error.developerMessage
      previewError generation (if isMessageNotAccepted error
        then .emulationMessageNotAccepted diagnostic else .emulationFailed diagnostic)
    | .ok evaluated =>
      if evaluated.walletSucceeded then
        return evaluated.summary
      else
        previewError generation (.emulationRejected
          "emulated transfer did not complete successfully"
          evaluated.computeExitCode evaluated.actionResultCode)

def previewSend (request : SendPreviewRequest) : Engine P SendPreview := do
  let (generation, config, accountRequest, seqnoRequest, emulationRequestId) ←
    withLock (reservePreview previewRequests)
  let account ← fetchPreview generation accountRequest (parseAccount P.serde)
  match request.intent.exactValueTotal with
  | .error _ => previewError generation .invalidSendRequest
  | .ok requested =>
    previewCheck generation (insufficient account.balanceNanograms requested)
    let seqno ← previewSeqno generation account.status seqnoRequest
    let validUntil ←
      previewExpiration generation request.intent.expiration account.syncUtime config
    match prepareTransferEmulation P.keys config.address config.publicKey config.network
        request.intent ⟨account.status, seqno⟩ validUntil with
    | .error error => previewFailed generation ("failed to prepare preview: " ++ error)
    | .ok boc =>
      let emulation ← emulatePreviewBoc generation config emulationRequestId boc
      previewCheck generation (insufficientForFees account.balanceNanograms requested
        emulation.walletFeesNanograms)
      withLock (finishPreview generation)
      return { messages := request.intent.messages, validUntil, messageBocBase64 := boc
               emulation }

def previewSendBoc (request : SendBocRequest) : Engine P SendPreview := do
  let (generation, config, accountRequest, seqnoRequest, emulationRequestId) ←
    withLock (reservePreview previewRequests)
  match prepareSignedBoc P.crypto config.recordId config.address request with
  | .error error => previewFailed generation ("invalid prepared BOC: " ++ error)
  | .ok prepared =>
    let account ← fetchPreview generation accountRequest (parseAccount P.serde)
    let seqno ← previewSeqno generation account.status seqnoRequest
    previewCheck generation (if seqno = request.seqno then none else
      some (.sendPreviewFailed ("prepared BOC seqno " ++ toString request.seqno ++
        " does not match current wallet seqno " ++ toString seqno)))
    let validUntil ←
      previewExpiration generation (.exact request.validUntil) account.syncUtime config
    let emulation ← emulatePreviewBoc generation config emulationRequestId prepared.signedBoc
    withLock (finishPreview generation)
    return { messages := prepared.messages, validUntil
             messageBocBase64 := prepared.signedBoc, emulation }

def previewTonConnect (request : SendRequest) : Engine P SendPreview :=
  previewSend ⟨request.intent⟩

def previewSignMessage (request : SendPreviewRequest) : Engine P SignMessagePreview := do
  let (generation, config, accountRequest) ← withLock (reservePreview fun config =>
    allocateRequest config (.getAddressInformation config.address))
  match request.intent.exactValueTotal with
  | .error _ => previewError generation .invalidSendRequest
  | .ok _ =>
    let account ← fetchPreview generation accountRequest (parseAccount P.serde)
    previewCheck generation (if account.status = .frozen ∨ account.status = .unknown
      then some (.sendAccountUnavailable account.status) else none)
    let validUntil ←
      previewExpiration generation request.intent.expiration account.syncUtime config
    withLock (finishPreview generation)
    return { messages := request.intent.messages, validUntil
             needsStateInit := account.status != .active }

def cancelSendPreview : Engine P Unit := do
  let ids ← withLock cancelSendPreviewRegion
  cancelRequests ids

end Engine

end Previews

section NftTransfers

def nftUnavailable (diagnostic : String) : WalletClientError :=
  .nftTransferUnavailable (boundedDiagnostic diagnostic)

def nftEmulationRejected (diagnostic : String) : WalletClientError :=
  .nftTransferEmulationRejected (boundedDiagnostic diagnostic)

def validateTransferableNft (item : NftItem) (source : TonAddressString) :
    Except WalletClientError Unit :=
  if !item.initialized then .error (nftUnavailable "NFT item is not initialized")
  else if item.ownerAddress ≠ some source then
    .error (nftUnavailable "the current wallet is not the NFT item's direct owner")
  else if item.onSale || item.saleContractAddress.isSome || item.auctionContractAddress.isSome then
    .error (nftUnavailable "NFT item is controlled by an active sale or auction")
  else .ok ()

def validateNftEmulation (preview : SendPreview) (nftAddress : TonAddressString) :
    Except WalletClientError Unit :=
  if preview.emulation.isIncomplete then
    .error (nftEmulationRejected "Toncenter returned an incomplete NFT transfer trace")
  else if preview.emulation.transactions.any
      (fun transaction => transaction.account == nftAddress && transaction.succeeded) then .ok ()
  else .error (nftEmulationRejected "emulation did not contain a successful NFT item transaction")

def nftTransferSource : Locked TonAddressString := do
  ensureRunning
  return (← get).config.address

def reserveNftItem (address : TonAddressString) : Locked (HttpRequest × Network) := do
  ensureRunning
  let config := (← get).config
  let request ← allocateRequest config (.nftItem address)
  return (request, config.network)

namespace Engine

def loadFreshNftForTransfer (address : TonAddressString) : Engine P NftItem := do
  let (request, network) ← withLock (reserveNftItem address)
  match ← execute request with
  | .error error =>
    throw (nftUnavailable ("failed to load fresh NFT state: " ++ error.developerMessage))
  | .ok body =>
    withLock ensureRunning
    match P.views.parseSingleNftItem body address network with
    | .ok item => return item
    | .error error =>
      throw (nftUnavailable ("failed to parse fresh NFT state: " ++ error.developerMessage))

/-- Build the transfer of an NFT and check that the wallet can make it. -/
def checkedNftTransfer (operationId : NonEmptyString) (intent : NftTransferIntent) :
    Engine P SendIntent := do
  let source ← withLock nftTransferSource
  match canonicalizeNftTransfer P.keys operationId source intent with
  | .error error => throw (nftUnavailable ("failed to build TEP-62 transfer: " ++ error))
  | .ok canonical =>
    let item ← loadFreshNftForTransfer intent.nftAddress
    match validateTransferableNft item source with
    | .error error => throw error
    | .ok () => return canonical

def previewNftTransfer (request : NftTransferPreviewRequest) : Engine P SendPreview := do
  let canonical ← checkedNftTransfer request.operationId request.intent
  let preview ← previewSend ⟨canonical⟩
  match validateNftEmulation preview request.intent.nftAddress with
  | .error error => throw error
  | .ok () => return preview

def sendNftTransfer (request : NftTransferRequest) : Engine P SendResult := do
  let canonical ← checkedNftTransfer request.operationId request.intent
  send ⟨request.operationId, request.force, canonical⟩

end Engine

end NftTransfers

end WalletEngine
