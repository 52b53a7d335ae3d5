import WalletEngine.Async.Region
import WalletEngine.Wallet.Send

/-! # Construction of signed transfers

Key derivation, cell building and signing are given functions; the model keeps
the checks around them and what a prepared transfer records. -/

namespace WalletEngine

/-- What a signed message says about itself. -/
inductive ParsedMessage where
  | external (destination : TonAddressString) (hasStateInit : Bool)
      (normalizedHash : Except String Base64Hash)
  | other

/-- The wallet cryptography and the cell codec. Errors are their display texts. -/
structure WalletCrypto where
  Secret : Type
  Wallet : Type
  Cells : Type
  deriveWallet : Secret → Network → Except String Wallet
  address : Wallet → TonAddressString
  isPreRotation : Wallet → Bool
  buildInternalMessages : List SendMessage → Except String Cells
  createSigned : Wallet → SignedMessageKind → Cells → (seqno validUntil : Nat) →
    (needsStateInit : Bool) → Except String (Boc × Base64Hash)
  parseMessage : Boc → Except String ParsedMessage

variable (crypto : WalletCrypto)

def SendIntentError.display : SendIntentError → String
  | .invalidMessageCount => "wallet message batch must contain between 1 and 255 messages"
  | .wholeBalanceInBatch => "whole-balance transfer must be the only message in its batch"

def expirationOutOfRange : String :=
  "transfer expiration timestamp exceeds the wallet uint32 field"

def deriveSource (secret : crypto.Secret) (network : Network) : Except String TonAddressString :=
  (crypto.deriveWallet secret network).map crypto.address

/-- Sign a transfer for one of the two entry points of the wallet. -/
def prepareSigned (kind : SignedMessageKind) (secret : crypto.Secret) (recordId : NonEmptyString)
    (source : TonAddressString) (network : Network) (request : SendRequest)
    (account : FreshSendAccount) (validUntil : Nat) : Except String PreparedTransfer := do
  let wallet ← crypto.deriveWallet secret network
  if account.needsStateInit && !crypto.isPreRotation wallet then
    throw "a rotated recovery phrase requires an already deployed wallet"
  let _ ← request.intent.exactValueTotal.mapError SendIntentError.display
  let cells ← crypto.buildInternalMessages request.intent.messages
  if u32Bound ≤ validUntil then
    throw expirationOutOfRange
  let (signedBoc, messageHash) ←
    crypto.createSigned wallet kind cells account.seqno validUntil account.needsStateInit
  return {
    operationId := request.operationId
    recordId
    source
    kind
    messages := request.intent.messages
    seqno := account.seqno
    needsStateInit := account.needsStateInit
    validUntil
    signedBoc
    messageHash }

theorem prepareSigned_ok {crypto : WalletCrypto} {kind : SignedMessageKind}
    {secret : crypto.Secret} {recordId : NonEmptyString} {source : TonAddressString}
    {network : Network} {request : SendRequest} {account : FreshSendAccount} {validUntil : Nat}
    {prepared : PreparedTransfer}
    (ok : prepareSigned crypto kind secret recordId source network request account validUntil =
      .ok prepared) :
    prepared.operationId = request.operationId ∧ prepared.recordId = recordId ∧
      prepared.source = source ∧ prepared.kind = kind := by
  unfold prepareSigned at ok
  obtain ⟨wallet, _, ok⟩ := except_bind_eq_ok.mp ok
  obtain ⟨_, ok⟩ := except_guard_eq_ok.mp ok
  obtain ⟨_, _, ok⟩ := except_bind_eq_ok.mp ok
  obtain ⟨cells, _, ok⟩ := except_bind_eq_ok.mp ok
  obtain ⟨_, ok⟩ := except_guard_eq_ok.mp ok
  obtain ⟨⟨signedBoc, messageHash⟩, _, ok⟩ := except_bind_eq_ok.mp ok
  cases ok
  exact ⟨rfl, rfl, rfl, rfl⟩

def prepareTransfer (secret : crypto.Secret) (recordId : NonEmptyString)
    (source : TonAddressString) (network : Network) (request : SendRequest)
    (account : FreshSendAccount) (validUntil : Nat) : Except String PreparedTransfer :=
  prepareSigned crypto .external secret recordId source network request account validUntil

def prepareInternalSignedTransfer (secret : crypto.Secret) (recordId : NonEmptyString)
    (source : TonAddressString) (network : Network) (request : SendRequest)
    (account : FreshSendAccount) (validUntil : Nat) : Except String PreparedTransfer :=
  prepareSigned crypto .internal secret recordId source network request account validUntil

/-- Check a message that the caller signed. -/
def prepareSignedBoc (recordId : NonEmptyString) (source : TonAddressString)
    (request : SendBocRequest) : Except String PreparedTransfer := do
  if u32Bound ≤ request.validUntil then
    throw expirationOutOfRange
  match ← crypto.parseMessage request.signedBoc with
  | .other => throw "prepared BOC is not an incoming external message"
  | .external destination hasStateInit normalizedHash =>
    if destination ≠ source then
      throw "prepared BOC destination does not match the configured wallet"
    let messageHash ← normalizedHash
    return {
      operationId := request.operationId
      recordId
      source
      kind := .external
      messages := []
      seqno := request.seqno
      needsStateInit := hasStateInit
      validUntil := request.validUntil
      signedBoc := request.signedBoc
      messageHash }

theorem prepareSignedBoc_ok {crypto : WalletCrypto} {recordId : NonEmptyString}
    {source : TonAddressString} {request : SendBocRequest} {prepared : PreparedTransfer}
    (ok : prepareSignedBoc crypto recordId source request = .ok prepared) :
    prepared.operationId = request.operationId ∧ prepared.recordId = recordId ∧
      prepared.source = source ∧ prepared.kind = .external := by
  unfold prepareSignedBoc at ok
  obtain ⟨_, ok⟩ := except_guard_eq_ok.mp ok
  obtain ⟨message, _, ok⟩ := except_bind_eq_ok.mp ok
  cases message with
  | other => cases ok
  | external destination hasStateInit normalizedHash =>
    obtain ⟨_, ok⟩ := except_guard_eq_ok.mp ok
    obtain ⟨messageHash, _, ok⟩ := except_bind_eq_ok.mp ok
    cases ok
    exact ⟨rfl, rfl, rfl, rfl⟩

end WalletEngine
