import WalletEngine.Domain.Send

/-! # Previews, NFT transfers and key material

The requests and results of the operations that do not submit through the
journal themselves. -/

namespace WalletEngine

section Previews

structure SendPreviewRequest where
  intent : SendIntent
  deriving DecidableEq

structure SendEmulationAction where
  actionId : Base64Hash
  kind : NonEmptyString
  succeeded : Bool
  accounts : List TonAddressString
  transactionHashes : List Base64Hash
  detailsJson : String
  deriving DecidableEq

structure SendEmulationTransaction where
  account : TonAddressString
  succeeded : Bool
  isRoot : Bool
  deriving DecidableEq

structure SendEmulation where
  mcBlockSeqno : Nat
  walletFeesNanograms : UnsignedDecimalString
  traceFeesNanograms : UnsignedDecimalString
  transactionCount : Nat
  actions : List SendEmulationAction
  transactions : List SendEmulationTransaction
  traceSucceeded : Bool
  isIncomplete : Bool
  deriving DecidableEq

/-- An emulation with the outcome of the wallet's own transaction. -/
structure EvaluatedEmulation where
  summary : SendEmulation
  walletSucceeded : Bool
  computeExitCode : Option Int
  actionResultCode : Option Int
  deriving DecidableEq

structure SendPreview where
  messages : List SendMessage
  validUntil : Nat
  messageBocBase64 : Boc
  emulation : SendEmulation
  deriving DecidableEq

structure SignMessagePreview where
  messages : List SendMessage
  validUntil : Nat
  needsStateInit : Bool
  deriving DecidableEq

end Previews

section Nfts

/-- The fields of an NFT item that decide whether it can be transferred. -/
structure NftItem where
  address : TonAddressString
  ownerAddress : Option TonAddressString
  saleContractAddress : Option TonAddressString
  auctionContractAddress : Option TonAddressString
  initialized : Bool
  onSale : Bool
  deriving DecidableEq

inductive NftTransferPayload where
  | empty
  | comment (text : String)
  | rawPayload (boc : Boc)
  deriving DecidableEq

structure NftTransferIntent where
  nftAddress : TonAddressString
  recipient : TonAddressString
  attachedNanograms : UnsignedDecimalString
  forwardNanograms : UnsignedDecimalString
  payload : NftTransferPayload
  expiration : SendExpiration
  deriving DecidableEq

structure NftTransferPreviewRequest where
  operationId : NonEmptyString
  intent : NftTransferIntent
  deriving DecidableEq

structure NftTransferRequest where
  operationId : NonEmptyString
  force : Bool
  intent : NftTransferIntent
  deriving DecidableEq

end Nfts

section Keys

structure PrepareTransferRequest where
  operationId : NonEmptyString
  intent : SendIntent
  deriving DecidableEq

/-- Two delivery forms of one transfer. -/
structure PreparedTransferPair where
  operationId : NonEmptyString
  externalBoc : Boc
  internalBoc : Boc
  seqno : Nat
  validUntil : Nat
  deriving DecidableEq

inductive KeyRotationMessageKind where
  | external | internal
  deriving DecidableEq

structure PrepareKeyRotationRequest where
  validUntil : Nat
  messageKind : KeyRotationMessageKind
  deriving DecidableEq

inductive KeyRotationError where
  | invalidMnemonic | walletIdentityMismatch | expirationOutOfRange
  | rotatedWalletRequiresActiveAccount | preparation
  deriving DecidableEq

/-- An Ed25519 public key. -/
structure PublicKey where
  bytes : List UInt8
  sized : bytes.length = 32
  deriving DecidableEq

def PublicKey.tryFrom (bytes : List UInt8) : Option PublicKey :=
  if sized : bytes.length = 32 then some ⟨bytes, sized⟩ else none

structure PreparedKeyRotation where
  replacementRecoveryPhrase : String
  newPublicKey : PublicKey
  signedBoc : Boc
  seqno : Nat
  validUntil : Nat
  messageKind : KeyRotationMessageKind
  deriving DecidableEq

/-- One reported rotation: the installed key, and the replaced one encrypted with it. -/
structure KeyChange where
  newPublicKey : PublicKey
  encryptedOldPrivateKey : Vector UInt8 32
  deriving DecidableEq

def historyReaches (changes : List KeyChange) (publicKey : PublicKey) : Bool :=
  changes.any (·.newPublicKey == publicKey)

structure KeyChangePage where
  changes : List KeyChange
  rawCount : Nat
  deriving DecidableEq

def keyChangePageSize : Nat := 100
def maxKeyChangePages : Nat := 10

def KeyChangePage.hasMore (page : KeyChangePage) : Bool :=
  keyChangePageSize ≤ page.rawCount

end Keys

section Comments

inductive PublicKeyAnswer where
  | key (key : PublicKey)
  | noKey (reason : String)
  deriving DecidableEq

structure CreateEncryptedCommentRequest where
  recipient : TonAddressString
  comment : String
  recipientPublicKey : Option (List UInt8)
  deriving DecidableEq

structure EncryptedCommentRecipientRequest where
  recipient : TonAddressString
  recipientPublicKey : Option (List UInt8)
  deriving DecidableEq

structure DecryptCommentRequest where
  sender : TonAddressString
  body : Boc
  deriving DecidableEq

inductive EncryptedCommentError where
  | commentTooLong | invalidMnemonic | walletIdentityMismatch | invalidPeerPublicKey
  | recipientPublicKeyMismatch | randomGeneration | invalidBody | authenticationFailed
  | invalidUtf8 | cellEncoding
  deriving DecidableEq

def EncryptedCommentError.display : EncryptedCommentError → String
  | .commentTooLong => "the encrypted comment exceeds 960 UTF-8 bytes"
  | .invalidMnemonic => "the protected mnemonic is invalid"
  | .walletIdentityMismatch => "the protected mnemonic does not belong to this wallet"
  | .invalidPeerPublicKey => "the peer Ed25519 public key is invalid"
  | .recipientPublicKeyMismatch =>
    "the recipient public key does not match a supported wallet address with default parameters"
  | .randomGeneration => "secure random generation failed"
  | .invalidBody => "the encrypted comment body is malformed"
  | .authenticationFailed => "the encrypted comment authentication failed"
  | .invalidUtf8 => "the decrypted comment is not valid UTF-8"
  | .cellEncoding => "the encrypted comment cell could not be encoded"

/-- Whether the tried key is only not the one the body uses. -/
def EncryptedCommentError.isKeyMismatch : EncryptedCommentError → Bool
  | .authenticationFailed | .invalidPeerPublicKey => true
  | _ => false

def maxEncryptedCommentBytes : Nat := 960
def encryptedCommentOpcode : Nat := 0x2167da4b

end Comments

end WalletEngine
