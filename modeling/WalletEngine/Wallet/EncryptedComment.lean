import WalletEngine.Data.Blocks
import WalletEngine.Data.Snake
import WalletEngine.Wallet.KeyRotation

/-! # Encrypted comments

A comment is encrypted under a secret that the sender and the recipient of a message share. The
body names the two public keys by their exclusive or, so that either party finds the other one.
Curves, hashes, the block cipher and the bag-of-cells codec are given functions; the padding, the
chaining, the framing in cells and the search for a key are the wallet's own. -/

namespace WalletEngine

/-- Functions of the cryptographic libraries and of the cell codec. -/
structure CommentServices extends RotationServices where
  Point : Type
  decompress : List UInt8 → Option Point
  isSmallOrder : Point → Bool
  /-- The product of the Montgomery form of a point with a clamped scalar. -/
  mulClamped : Point → Vector UInt8 32 → Vector UInt8 32
  sha512 : List UInt8 → Vector UInt8 64
  hmacSha512 : (key data : List UInt8) → Vector UInt8 64
  encryptBlock : (key : Vector UInt8 32) → Vector UInt8 16 → Vector UInt8 16
  decryptBlock : (key : Vector UInt8 32) → Vector UInt8 16 → Vector UInt8 16
  toBoc : Cell → Option (List UInt8)
  fromBoc : List UInt8 → Option Cell
  validateSingleRootBoc : List UInt8 → Bool
  parseTonAddress : String → Option TonAddressString
  /-- The user-friendly spelling: mainnet, bounceable and URL-safe. -/
  toBase64 : TonAddressString → String

/-- An address together with the text it was parsed from. -/
structure SpelledAddress (services : CommentServices) where
  value : String
  address : TonAddressString
  parsed : services.parseTonAddress value = some address

def publicKeyBytes : Nat := 32
def messageKeyBytes : Nat := 16
def aesBlockBytes : Nat := 16
def rootPayloadBytes : Nat := 35
def refPayloadBytes : Nat := 127
def maxEncryptedPayloadBytes : Nat := 1024

variable (services : CommentServices)

section Primitives

/-- A part of a byte array of known size. -/
def sliceOf {size : Nat} (bytes : Vector UInt8 size) (start length : Nat)
    (inside : start + length ≤ size) : Vector UInt8 length :=
  ⟨bytes.toArray.extract start (start + length), by simp; omega⟩

def salt (address : SpelledAddress services) : List UInt8 :=
  utf8 (services.toBase64 address.address)

def ed25519SharedSecret (privateSeed : SigningKey) (peerPublicKey : List UInt8) :
    Except EncryptedCommentError (Vector UInt8 32) := do
  let point ← ((services.decompress peerPublicKey).filter
    fun point => !services.isSmallOrder point).elim (.error .invalidPeerPublicKey) .ok
  let scalar := sliceOf (services.sha512 privateSeed.toList) 0 32 (by decide)
  let shared := services.mulClamped point scalar
  if shared = Vector.replicate 32 0 then
    throw .invalidPeerPublicKey
  return shared

def xorBlock (block mask : Vector UInt8 16) : Vector UInt8 16 :=
  block.zipWith (· ^^^ ·) mask

/-- The bytes can be ciphered block by block. -/
def Blockwise (data : List UInt8) : Prop :=
  data ≠ [] ∧ data.length % aesBlockBytes = 0

instance (data : List UInt8) : Decidable (Blockwise data) :=
  inferInstanceAs (Decidable (_ ∧ _))

def encryptAes256Cbc (key : Vector UInt8 32) (iv : Vector UInt8 16) (data : List UInt8) :
    Except EncryptedCommentError (List UInt8) :=
  if Blockwise data then
    .ok (unblock (cbcEncrypt xorBlock (services.encryptBlock key) iv (chunksExact 16 data)))
  else .error .invalidBody

def decryptAes256Cbc (key : Vector UInt8 32) (iv : Vector UInt8 16) (data : List UInt8) :
    Except EncryptedCommentError (List UInt8) :=
  if Blockwise data then
    .ok (unblock (cbcDecrypt xorBlock (services.decryptBlock key) iv (chunksExact 16 data)))
  else .error .invalidBody

/-- The first bytes of the authentication code of the padded comment. -/
def messageKeyOf (sender : SpelledAddress services) (paddedData : List UInt8) : List UInt8 :=
  (services.hmacSha512 (salt services sender) paddedData).toList.take messageKeyBytes

/-- The cipher key and the initialization vector of a message. -/
def cipherKey (sharedSecret : Vector UInt8 32) (messageKey : List UInt8) :
    Vector UInt8 32 × Vector UInt8 16 :=
  let x := services.hmacSha512 sharedSecret.toList messageKey
  (sliceOf x 0 32 (by decide), sliceOf x 32 16 (by decide))

end Primitives

section Framing

def encryptedPayloadBoc (payload : List UInt8) : Except EncryptedCommentError Boc := do
  if maxEncryptedPayloadBytes < payload.length ∨ payload.length < rootPayloadBytes then
    throw .invalidBody
  let reference ← (snakeChain (chunks refPayloadBytes (payload.drop rootPayloadBytes))).elim
    (.error .cellEncoding) .ok
  let root ← (buildCell (.bytes (beBytes 4 encryptedCommentOpcode) ::
    .bytes (payload.take rootPayloadBytes) :: (reference.map CellField.ref).toList)).elim
    (.error .cellEncoding) .ok
  let bytes ← (services.toBoc root).elim (.error .cellEncoding) .ok
  -- Bytes become a bag of cells only after the envelope is validated and the cells are read.
  if services.validateSingleRootBoc bytes = false ∨ services.fromBoc bytes = none then
    throw .cellEncoding
  return ⟨bytes⟩

def encryptedPayload (body : Boc) : Except EncryptedCommentError (List UInt8) := do
  let root ← (services.fromBoc body.bytes).elim (.error .invalidBody) .ok
  let (opcode, rest) ← (root.readNum 32).elim (.error .invalidBody) .ok
  if opcode ≠ encryptedCommentOpcode then
    throw .invalidBody
  let payload ← (readSnake rest).elim (.error .invalidBody) .ok
  if payload.length < publicKeyBytes + messageKeyBytes + aesBlockBytes ∨
      maxEncryptedPayloadBytes < payload.length then
    throw .invalidBody
  return payload

end Framing

section Encryption

/-- The padding in front of a comment fills up the last block and is at least one block long. -/
def paddedPrefixLength (commentLength : Nat) : Except EncryptedCommentError Nat :=
  let length := (commentLength + 31) / 16 * 16 - commentLength
  if 16 ≤ length ∧ length ≤ 31 then .ok length else .error .invalidBody

def encryptWithPrefix (senderSeed : SigningKey) (recipientPublicKey : List UInt8)
    (sender : SpelledAddress services) (comment padding : List UInt8) :
    Except EncryptedCommentError Boc := do
  if maxEncryptedCommentBytes < comment.length ∨ ¬ (16 ≤ padding.length ∧ padding.length ≤ 31) ∨
      padding.head?.map UInt8.toNat ≠ some padding.length ∨
      (padding.length + comment.length) % aesBlockBytes ≠ 0 then
    throw .invalidBody
  let paddedData := padding ++ comment
  let sharedSecret ← ed25519SharedSecret services senderSeed recipientPublicKey
  let messageKey := messageKeyOf services sender paddedData
  let (key, iv) := cipherKey services sharedSecret messageKey
  let ciphertext ← encryptAes256Cbc services key iv paddedData
  encryptedPayloadBoc services
    (xorBytes (services.verifyingKey senderSeed).bytes recipientPublicKey ++ messageKey ++
      ciphertext)

/-- The anchor key and the signing key of the wallet's phrase. Only the anchor decides the
address. -/
def commentKeys (mnemonicBytes : List UInt8) (network : Network)
    (expectedWallet : SpelledAddress services) : Except EncryptedCommentError RotationKeys := do
  let phrase ← (String.fromUTF8? ⟨mnemonicBytes.toArray⟩).elim (.error .invalidMnemonic) .ok
  let mnemonic ← (RotationMnemonic.parse services.toMnemonicServices phrase).mapError
    fun _ => .invalidMnemonic
  let keys := deriveRotationKeys services.toRotationServices mnemonic
  let (address, _) ← (services.walletPublicState network (services.verifyingKey keys.anchor)).elim
    (.error .invalidMnemonic) .ok
  if address ≠ expectedWallet.address then
    throw .walletIdentityMismatch
  return keys

/-- The random bytes with their number in the place of the first one. -/
def markLength : List UInt8 → Except EncryptedCommentError (List UInt8)
  | [] => .error .invalidBody
  | first :: rest =>
    if (first :: rest).length < 256 then
      .ok (UInt8.ofNat (first :: rest).length :: rest)
    else .error .invalidBody

/-- `fill` draws random bytes and may fail. -/
def encryptComment (mnemonicBytes : List UInt8) (network : Network)
    (expectedSender : SpelledAddress services) (recipientPublicKey : List UInt8)
    (comment : String) (fill : (length : Nat) → Option (Vector UInt8 length)) :
    Except EncryptedCommentError Boc := do
  if maxEncryptedCommentBytes < (utf8 comment).length then
    throw .commentTooLong
  let sender := (← commentKeys services mnemonicBytes network expectedSender).signing
  if recipientPublicKey.length ≠ publicKeyBytes then
    throw .invalidPeerPublicKey
  let prefixLength ← paddedPrefixLength (utf8 comment).length
  let random ← (fill prefixLength).elim (.error .randomGeneration) .ok
  let padding ← markLength random.toList
  encryptWithPrefix services sender recipientPublicKey expectedSender (utf8 comment) padding

end Encryption

section Decryption

/-- Decipher a body, whichever key it was made for. -/
def openBody (ownSeed : SigningKey) (body : Boc) :
    Except EncryptedCommentError (List UInt8 × List UInt8) := do
  let payload ← encryptedPayload services body
  let publicKeyXor := payload.take publicKeyBytes
  let messageKey := (payload.drop publicKeyBytes).take messageKeyBytes
  let ciphertext := (payload.drop publicKeyBytes).drop messageKeyBytes
  if ¬ Blockwise ciphertext then
    throw .invalidBody
  let peerPublicKey := xorBytes (services.verifyingKey ownSeed).bytes publicKeyXor
  let sharedSecret ← ed25519SharedSecret services ownSeed peerPublicKey
  let (key, iv) := cipherKey services sharedSecret messageKey
  let paddedData ← decryptAes256Cbc services key iv ciphertext
  return (messageKey, paddedData)

/-- The comment behind its padding. -/
def commentOf (paddedData : List UInt8) : Except EncryptedCommentError String := do
  let prefixLength ← (paddedData.head?.map UInt8.toNat).elim (.error .invalidBody) .ok
  if ¬ (16 ≤ prefixLength ∧ prefixLength ≤ 31) ∨ paddedData.length < prefixLength then
    throw .invalidBody
  let comment := paddedData.drop prefixLength
  if maxEncryptedCommentBytes < comment.length then
    throw .invalidBody
  (String.fromUTF8? ⟨comment.toArray⟩).elim (.error .invalidUtf8) .ok

def decryptWithKey (ownSeed : SigningKey) (sender : SpelledAddress services) (body : Boc) :
    Except EncryptedCommentError String := do
  let (messageKey, paddedData) ← openBody services ownSeed body
  if messageKeyOf services sender paddedData ≠ messageKey then
    throw .authenticationFailed
  commentOf paddedData

def decryptCommentWithKeys (sender : SpelledAddress services) (body : Boc) :
    List SigningKey → Except EncryptedCommentError String
  | [] => .error .authenticationFailed
  | key :: keys =>
    match decryptWithKey services key sender body with
    | .ok comment => .ok comment
    | .error error =>
      if error.isKeyMismatch then decryptCommentWithKeys sender body keys else .error error

end Decryption

end WalletEngine
