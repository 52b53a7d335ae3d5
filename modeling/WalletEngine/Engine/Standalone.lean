import WalletEngine.Engine.Preview

/-! # Operations under the resolution slot

Transfer preparation, name resolution, key rotation and encrypted comments. Each
reserves the resolution slot, so none of them runs beside a send. -/

namespace WalletEngine

variable {P : Platform}

section Slot

/-- The requests that read the wallet's own account and sequence number. -/
def walletRequests (config : WalletClientConfig) : Locked (HttpRequest × HttpRequest) := do
  let accountRequest ← allocateRequest config (.getAddressInformation config.address)
  let seqnoRequest ← allocateRequest config (.runGetMethod config.address "seqno")
  return (accountRequest, seqnoRequest)

/-- The configured reference of the protected phrase. -/
def localSecret : Locked ProtectedSecretRef := do
  match (← get).config.localSecretRef with
  | some secretRef => return secretRef
  | none => throw .localSigningUnavailable

/-- Reserve the resolution slot for an operation that needs the protected phrase. -/
def reserveWithSecret {σ : Type} (reason : SecretAccessReason) (prompt : String)
    (prepare : WalletClientConfig → Locked σ) :
    Locked (ProtectedSecretRead × Nat × WalletClientConfig × σ) := do
  ensureRunning
  let secretRef ← localSecret
  let reserved ← reserveResolution prepare
  return ({ secretRef, reason, prompt }, reserved)

def reserveWithoutSecret {σ : Type} (prepare : WalletClientConfig → Locked σ) :
    Locked (Nat × WalletClientConfig × σ) := do
  ensureRunning
  reserveResolution prepare

/-- Release the slot of an operation that succeeded. -/
def completeResolution (generation : Nat) : Locked Unit := do
  ensureCurrent .resolution generation
  modify fun state => { state with activeResolution := none }

namespace Engine

/-- Release the slot of an operation that failed. -/
def abandon {α : Type} (generation : Nat) (error : WalletClientError) : Engine P α := do
  withLock (discardResolution generation)
  throw error

/-- Execute a request under the resolution slot. `fail` makes the public error of
a provider that did not answer. -/
def askProvider (generation : Nat) (request : HttpRequest) (fail : String → WalletClientError) :
    Engine P P.serde.Body := do
  match ← Fallible.outcome (executeTrackedStandaloneResolutionRequest generation request) with
  | .error error => abandon generation error
  | .ok (.error error) => abandon generation (fail error.developerMessage)
  | .ok (.ok body) => return body

/-- A result that the operation cannot continue without. -/
def required {α ε : Type} (generation : Nat) (result : Except ε α)
    (fail : ε → WalletClientError) : Engine P α :=
  match result with
  | .ok value => return value
  | .error error => abandon generation (fail error)

def askAndParse {α : Type} (generation : Nat) (request : HttpRequest)
    (parse : P.serde.Body → Except DomainError α) (fail : String → WalletClientError) :
    Engine P α := do
  let body ← askProvider generation request fail
  required generation (parse body) (fail ·.developerMessage)

/-- Read the protected phrase and check that the operation is still current. -/
def unlock (generation : Nat) (read : ProtectedSecretRead) (fail : String → WalletClientError) :
    Engine P P.crypto.Secret := do
  let secret ← required generation (← readProtectedSecret read) (fail ·.display)
  withLock (ensureCurrent .resolution generation)
  return secret

end Engine

end Slot

section Transfers

def transferPreparationFailed (message : String) : WalletClientError :=
  .sendFailed (boundedDiagnostic message)

/-- The protected phrase belongs to the configured wallet. -/
def checkSource (crypto : WalletCrypto) (secret : crypto.Secret) (config : WalletClientConfig) :
    Except WalletClientError Unit :=
  match deriveSource crypto secret config.network with
  | .error _ => .error .invalidProtectedSecret
  | .ok source =>
    if source = config.address then .ok ()
    else .error (transferPreparationFailed "protected mnemonic does not belong to this wallet")

namespace Engine

def standaloneSeqno (generation : Nat) (status : AccountStatus) (request : HttpRequest)
    (fail : String → WalletClientError) (unavailable : AccountStatus → WalletClientError) :
    Engine P Nat :=
  match status with
  | .active => askAndParse generation request (parseSeqno P.serde) fail
  | .nonexistent | .uninitialized => return 0
  | status => abandon generation (unavailable status)

def prepareTransfer (request : PrepareTransferRequest) : Engine P PreparedTransferPair := do
  match request.intent.exactValueTotal with
  | .error _ => throw .invalidSendRequest
  | .ok requested =>
    let (secretRequest, generation, config, accountRequest, seqnoRequest) ←
      withLock (reserveWithSecret .signTransfer
        "Authenticate to prepare this wallet transaction" walletRequests)
    let account ← askAndParse generation accountRequest (parseAccount P.serde)
      transferPreparationFailed
    required generation ((insufficient account.balanceNanograms requested).elim (.ok ()) .error)
      id
    let seqno ← standaloneSeqno generation account.status seqnoRequest
      transferPreparationFailed .sendAccountUnavailable
    let validUntil ← required generation (resolveSendExpiration request.intent.expiration
      account.syncUtime config.sendValiditySeconds) (transferPreparationFailed ·.display)
    let secret ← unlock generation secretRequest transferPreparationFailed
    required generation (checkSource P.crypto secret config) id
    let (external, internal) ← required generation
      (prepareTransferPair P.crypto secret config.recordId config.address config.network
        ⟨request.operationId, false, request.intent⟩ ⟨account.status, seqno⟩ validUntil)
      fun error => transferPreparationFailed ("failed to prepare transfer messages: " ++ error)
    withLock (completeResolution generation)
    return { operationId := request.operationId, externalBoc := external.signedBoc
             internalBoc := internal.signedBoc, seqno, validUntil }

end Engine

end Transfers

section Names

def dnsError (message : String) : WalletClientError :=
  .dnsResolutionUnavailable (boundedDiagnostic message)

/-- Split at every dot. -/
def splitLabels : List Char → List (List Char)
  | [] => [[]]
  | c :: rest =>
    match splitLabels rest with
    | [] => [[c]]
    | label :: labels => if c = '.' then [] :: label :: labels else (c :: label) :: labels

def normalizeDnsName (name : String) : Except String String :=
  let chars := name.toList
  if chars.isEmpty || 126 < name.utf8ByteSize then
    .error "TON DNS name must contain 1 to 126 ASCII bytes"
  else if chars.any fun c => 127 ≤ c.toNat || c.toNat ≤ 32 then
    .error "TON DNS name must contain printable ASCII without spaces"
  else
    let normalized := chars.map Char.toLower
    match splitLabels normalized with
    | [] => .error "TON DNS name is empty"
    | first :: remaining =>
      if first.isEmpty then .error "TON DNS labels must not be empty"
      else if remaining.isEmpty || remaining.any (·.isEmpty) ||
          remaining.getLast? != some "ton".toList then
        .error "TON DNS name must be a valid .ton domain"
      else .ok (String.ofList normalized)

def defaultDnsRootAddress : Network → String
  | .mainnet => "-1:e56754f83426f69b09267bd876ac97c44821345b7e266bd956a7bfbfb98df35c"
  | .testnet => "-1:efe71d13860afaa6aeaeaf636f9168487f80f1031b0bf8d939ae49d3ea7f7da0"

def effectiveDnsRootAddress (config : WalletClientConfig) : String :=
  match config.providers.dnsRootAddress with
  | some address => address.asStr
  | none => defaultDnsRootAddress config.network

namespace Engine

def resolveDns (name : String) : Engine P (Option TonAddressString) := do
  match normalizeDnsName name with
  | .error message => throw (dnsError message)
  | .ok name =>
    let (generation, config, request) ← withLock (reserveWithoutSecret fun config =>
      allocateRequest config (.dnsResolve (effectiveDnsRootAddress config) name))
    let address ← askAndParse generation request
      (P.views.parseDnsWalletAddress · config.network) dnsError
    withLock (completeResolution generation)
    return address

end Engine

end Names

section Rotation

def keyRotationError (message : String) : WalletClientError :=
  .keyRotationUnavailable (boundedDiagnostic message)

def keyRotationPublicError : KeyRotationError → WalletClientError
  | .invalidMnemonic => .invalidProtectedSecret
  | .walletIdentityMismatch =>
    keyRotationError "the protected mnemonic does not belong to this wallet"
  | .expirationOutOfRange => keyRotationError "the expiration timestamp exceeds uint32"
  | .rotatedWalletRequiresActiveAccount =>
    keyRotationError "a rotated recovery phrase requires an already deployed wallet"
  | .preparation => keyRotationError "failed to generate, sign, or serialize key-rotation data"

namespace Engine

def prepareKeyRotation (request : PrepareKeyRotationRequest) : Engine P PreparedKeyRotation := do
  if u32Bound ≤ request.validUntil then
    throw (keyRotationError "the expiration timestamp exceeds uint32")
  else
    let (secretRequest, generation, config, accountRequest, seqnoRequest) ←
      withLock (reserveWithSecret .prepareKeyRotation
        "Authenticate to create a new wallet signing key" walletRequests)
    let account ← askAndParse generation accountRequest (parseAccount P.serde) keyRotationError
    let seqno ← standaloneSeqno generation account.status seqnoRequest keyRotationError
      fun status => keyRotationError
        ("wallet account state " ++ status.debug ++ " does not permit key rotation")
    let secret ← unlock generation secretRequest keyRotationError
    let prepared ← required generation
      (P.keys.prepareRotation secret config.network config.address seqno
        (account.status != .active) request.validUntil request.messageKind)
      keyRotationPublicError
    withLock (completeResolution generation)
    return { replacementRecoveryPhrase := prepared.replacementPhrase
             newPublicKey := prepared.newPublicKey, signedBoc := prepared.signedBoc, seqno
             validUntil := request.validUntil, messageKind := request.messageKind }

end Engine

end Rotation

section Comments

def encryptedCommentError (message : String) : WalletClientError :=
  .encryptedCommentUnavailable (boundedDiagnostic message)

def encryptedCommentLookupError (message : String) : WalletClientError :=
  .encryptedCommentLookupFailed (boundedDiagnostic message)

def recipientKeyHint (key : Option (List UInt8)) : Except WalletClientError (Option PublicKey) :=
  match key with
  | none => .ok none
  | some bytes =>
    match PublicKey.tryFrom bytes with
    | some key => .ok (some key)
    | none => .error (encryptedCommentError EncryptedCommentError.invalidPeerPublicKey.display)

/-- The requests that read the account and the key of a recipient. -/
def recipientKeyLookup (recipient : TonAddressString) (config : WalletClientConfig) :
    Locked (HttpRequest × HttpRequest) := do
  let account ← allocateRequest config (.getAddressInformation recipient)
  let publicKey ← allocateRequest config (.runGetMethod recipient "get_public_key")
  return (account, publicKey)

/-- The cached history, if it reaches the current key. -/
def cachedKeyChanges (currentPublicKey : PublicKey) : Locked (Option (List KeyChange)) := do
  let state ← get
  return state.keyChanges.filter (historyReaches · currentPublicKey)

def reserveKeyChangePage (generation offset : Nat) : Locked (HttpRequest × TonAddressString) := do
  ensureCurrent .resolution generation
  let config := (← get).config
  let request ← allocateRequest config (.keyChanges config.address offset)
  return (request, config.address)

def storeKeyChanges (generation : Nat) (changes : List KeyChange) : Locked Unit := do
  ensureCurrent .resolution generation
  modify fun state => { state with keyChanges := some changes }

namespace Engine

/-- A result that needs the protected phrase. A phrase that cannot be read ends
the operation as completed. -/
def requiredComment {α : Type} (generation : Nat) (result : Except EncryptedCommentError α) :
    Engine P α :=
  match result with
  | .ok value => return value
  | .error .invalidMnemonic => do
      withLock (completeResolution generation)
      throw .invalidProtectedSecret
  | .error error => abandon generation (encryptedCommentError error.display)

def askRecipientKey (generation : Nat) (request : HttpRequest) : Engine P PublicKey := do
  let answer ← askAndParse generation request P.views.parsePublicKey encryptedCommentLookupError
  match answer with
  | .key key => return key
  | .noKey reason => abandon generation (encryptedCommentError reason)

/-- An active contract reports its own key; the hint is used only for a wallet
that is not deployed, and only if it derives the address. -/
def resolveRecipientPublicKey (generation : Nat) (recipient : TonAddressString)
    (network : Network) (hint : Option PublicKey) (accountRequest keyRequest : HttpRequest) :
    Engine P PublicKey := do
  let account ← askAndParse generation accountRequest (parseAccount P.serde)
    encryptedCommentLookupError
  match account.status with
  | .active => askRecipientKey generation keyRequest
  | .nonexistent | .uninitialized =>
    match hint with
    | none => abandon generation (encryptedCommentError
        "the recipient wallet is not deployed and no recipient public key was supplied")
    | some key =>
      required generation (P.keys.verifyRecipientPublicKey recipient key network)
        (encryptedCommentError ·.display)
      return key
  | .frozen => abandon generation (encryptedCommentError
      "the recipient account is frozen and cannot report its public key")
  | .unknown => abandon generation (encryptedCommentLookupError
      "the provider returned an unrecognized recipient account state")

def createEncryptedComment (request : CreateEncryptedCommentRequest) : Engine P Boc := do
  if maxEncryptedCommentBytes < request.comment.utf8ByteSize then
    throw (encryptedCommentError "the encrypted comment exceeds 960 UTF-8 bytes")
  else
    match recipientKeyHint request.recipientPublicKey with
    | .error error => throw error
    | .ok hint =>
      let (secretRequest, generation, config, accountRequest, keyRequest) ←
        withLock (reserveWithSecret .encryptComment
          "Authenticate to encrypt this transfer comment"
          (recipientKeyLookup request.recipient))
      let key ← resolveRecipientPublicKey generation request.recipient config.network hint
        accountRequest keyRequest
      let secret ← unlock generation secretRequest encryptedCommentError
      let body ← requiredComment generation (P.keys.encryptComment secret config.network
        config.address key request.comment)
      withLock (completeResolution generation)
      return body

def resolveEncryptedCommentRecipient (request : EncryptedCommentRecipientRequest) :
    Engine P PublicKey := do
  match recipientKeyHint request.recipientPublicKey with
  | .error error => throw error
  | .ok hint =>
    let (generation, config, accountRequest, keyRequest) ←
      withLock (reserveWithoutSecret (recipientKeyLookup request.recipient))
    let key ← resolveRecipientPublicKey generation request.recipient config.network hint
      accountRequest keyRequest
    withLock (completeResolution generation)
    return key

/-- Read the pages of the key-change history, at most `pages` of them. -/
def keyChangePages (generation : Nat) :
    (pages offset : Nat) → (changes : List KeyChange) → Engine P (List KeyChange)
  | 0, _, changes => return changes
  | pages + 1, offset, changes => do
      match ← Fallible.outcome (withLock (reserveKeyChangePage generation offset)) with
      | .error error => abandon generation error
      | .ok (request, address) =>
        let page ← askAndParse generation request (P.views.parseKeyChangePage · address)
          encryptedCommentLookupError
        if page.hasMore then
          keyChangePages generation pages (saturatingAdd offset page.rawCount)
            (changes ++ page.changes)
        else
          return changes ++ page.changes

def keyChangeHistory (generation : Nat) (currentPublicKey : PublicKey) :
    Engine P (List KeyChange) := do
  match ← withLock (cachedKeyChanges currentPublicKey) with
  | some changes => return changes
  | none =>
    let changes ← keyChangePages generation maxKeyChangePages 0 []
    withLock (storeKeyChanges generation changes)
    return changes

/-- Try the earlier signing keys, recovered from the public history. -/
def decryptWithEarlierKeys (generation : Nat) (anchor signing : P.keys.SigningKey)
    (request : DecryptCommentRequest) : Engine P String := do
  let current := P.keys.verifyingKey signing
  let changes ← keyChangeHistory generation current
  if historyReaches changes current then
    let earlier := P.keys.recoverSigningKeys (P.keys.verifyingKey anchor) signing changes
    required generation (P.keys.decryptCommentWithKeys earlier request.sender request.body)
      (encryptedCommentError ·.display)
  else
    abandon generation (encryptedCommentLookupError
      "the provider's key-change history does not include the current signing key yet")

/-- Try the keys the phrase holds, then the earlier ones of a rotated wallet. -/
def decryptWithKeys (generation : Nat) (anchor signing : P.keys.SigningKey)
    (request : DecryptCommentRequest) : Engine P String :=
  let rotated := P.keys.verifyingKey anchor != P.keys.verifyingKey signing
  match P.keys.decryptCommentWithKeys (if rotated then [signing, anchor] else [signing])
      request.sender request.body with
  | .ok comment => return comment
  | .error error =>
    if rotated && error.isKeyMismatch then
      decryptWithEarlierKeys generation anchor signing request
    else
      abandon generation (encryptedCommentError error.display)

def decryptComment (request : DecryptCommentRequest) : Engine P String := do
  match P.keys.validateEncryptedCommentBody request.body with
  | .error error => throw (encryptedCommentError error.display)
  | .ok () =>
    let (secretRequest, generation, config, _) ← withLock (reserveWithSecret .decryptComment
      "Authenticate to decrypt this transfer comment" fun _ => pure ())
    let secret ← unlock generation secretRequest encryptedCommentError
    let (anchor, signing) ← requiredComment generation
      (P.keys.commentKeys secret config.network config.address)
    let comment ← decryptWithKeys generation anchor signing request
    withLock (completeResolution generation)
    return comment

end Engine

end Comments

end WalletEngine
