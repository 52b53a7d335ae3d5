import WalletEngine.Domain.Views
import WalletEngine.Wallet.Transfer

/-! # Other uses of the wallet's keys

NFT transfer bodies, emulated messages, key rotation and encrypted comments. As
in `Wallet.Transfer`, cells and cryptography are given functions. -/

namespace WalletEngine

/-- What the rotation of a signing key produced. -/
structure PreparedKeyRotationMaterial where
  replacementPhrase : String
  newPublicKey : PublicKey
  signedBoc : Boc
  deriving DecidableEq

/-- The remaining cryptography. -/
structure KeyServices (crypto : WalletCrypto) where
  SigningKey : Type
  verifyingKey : SigningKey → PublicKey
  /-- A wallet message with a placeholder signature. -/
  createUnsigned : TonAddressString → (publicKey : List UInt8) → Network → crypto.Cells →
    (seqno validUntil : Nat) → (needsStateInit : Bool) → Except String Boc
  nftTransferBody : (queryId : Nat) → (responseDestination : TonAddressString) →
    NftTransferIntent → Except String Boc
  prepareRotation : crypto.Secret → Network → TonAddressString → (seqno : Nat) →
    (needsStateInit : Bool) → (validUntil : Nat) → KeyRotationMessageKind →
    Except KeyRotationError PreparedKeyRotationMaterial
  validateEncryptedCommentBody : Boc → Except EncryptedCommentError Unit
  verifyRecipientPublicKey : TonAddressString → PublicKey → Network →
    Except EncryptedCommentError Unit
  encryptComment : crypto.Secret → Network → TonAddressString → PublicKey → String →
    Except EncryptedCommentError Boc
  /-- The anchor key and the current signing key. -/
  commentKeys : crypto.Secret → Network → TonAddressString →
    Except EncryptedCommentError (SigningKey × SigningKey)
  decryptCommentWithKeys : List SigningKey → TonAddressString → Boc →
    Except EncryptedCommentError String
  recoverSigningKeys : PublicKey → SigningKey → List KeyChange → List SigningKey

section Transfers

variable {crypto : WalletCrypto} (keys : KeyServices crypto)

variable (crypto) in
def prepareTransferPair (secret : crypto.Secret) (recordId : NonEmptyString)
    (source : TonAddressString) (network : Network) (request : SendRequest)
    (account : FreshSendAccount) (validUntil : Nat) :
    Except String (PreparedTransfer × PreparedTransfer) := do
  let external ← prepareTransfer crypto secret recordId source network request account validUntil
  let internal ← prepareInternalSignedTransfer crypto secret recordId source network request
    account validUntil
  return (external, internal)

def prepareTransferEmulation (source : TonAddressString) (publicKey : List UInt8)
    (network : Network) (intent : SendIntent) (account : FreshSendAccount) (validUntil : Nat) :
    Except String Boc := do
  let _ ← intent.exactValueTotal.mapError SendIntentError.display
  let cells ← crypto.buildInternalMessages intent.messages
  if u32Bound ≤ validUntil then
    throw expirationOutOfRange
  keys.createUnsigned source publicKey network cells account.seqno validUntil
    account.needsStateInit

/-- A stable query identifier: the FNV-1a hash of the operation identifier. -/
def operationQueryId (operationId : NonEmptyString) : Nat :=
  operationId.value.toUTF8.toList.foldl
    (fun hash byte => (hash ^^^ byte.toNat) * 0x00000100000001b3 % u64Bound) 0xcbf29ce484222325

def canonicalizeNftTransfer (operationId : NonEmptyString) (source : TonAddressString)
    (nft : NftTransferIntent) : Except String SendIntent := do
  if 2 ^ 128 ≤ nft.attachedNanograms then
    throw "NFT attached amount exceeds the TON coin representation"
  if 2 ^ 128 ≤ nft.forwardNanograms then
    throw "NFT forward amount exceeds the TON coin representation"
  if nft.attachedNanograms ≤ nft.forwardNanograms then
    throw "NFT attached amount must be greater than the forward amount"
  let boc ← keys.nftTransferBody (operationQueryId operationId) source nft
  return {
    expiration := nft.expiration
    messages := [{
      destination := nft.nftAddress
      amount := .exact nft.attachedNanograms
      body := .rawPayload boc
      bounce := true
      stateInit := none }] }

end Transfers

end WalletEngine
