import Mathlib.Data.List.Dedup
import WalletEngine.Wallet.Body
import WalletEngine.Wallet.Keys
import WalletEngine.Wallet.Mnemonic

/-! # Rotation of the signing key

The data of a rotation, and the walk that recovers the replaced keys from the records a
wallet has published. Key derivation, signatures and the hash are given functions. -/

namespace WalletEngine

/-- The seed of an Ed25519 key. -/
abbrev SigningKey := Vector UInt8 32

structure RotationServices extends MnemonicServices where
  /-- The key of a half, derived from its phrase. -/
  deriveHalfKey : List Char → SigningKey
  verifyingKey : SigningKey → PublicKey
  sign : SigningKey → List UInt8 → Vector UInt8 64
  cellHash : Cell → Vector UInt8 32
  /-- The address of the wallet whose deployment stores a public key. -/
  walletAddress : Network → PublicKey → Option TonAddressString
  /-- The same address with the initial state it is derived from. -/
  walletPublicState : Network → PublicKey → Option (TonAddressString × Cell)
  /-- The message that carries a signed request, as a bag of cells. -/
  wrapSignedRequest : TonAddressString → KeyRotationMessageKind → Cell → Option Cell → Option Boc

def maxKeyGenerationAttempts : Nat := 8
def keyChangeSalt : List UInt8 := utf8 "keyChangeSaltV1"

def walletContractId : Network → Int32
  | .mainnet => 0x7fff7f11
  | .testnet => 0x7fff7ffd

variable (services : RotationServices)

section Keys

/-- The anchor fixes the address; the signing key signs and is replaced on rotation. -/
structure RotationKeys where
  anchor : SigningKey
  signing : SigningKey

def deriveKey (half : Bip39Half services.toMnemonicServices) : SigningKey :=
  services.deriveHalfKey half.toPhrase

def deriveRotationKeys (mnemonic : RotationMnemonic services.toMnemonicServices) :
    RotationKeys where
  anchor := deriveKey services mnemonic.anchor
  signing := deriveKey services mnemonic.signing

/-- The mask of the replaced key: a hash of the key that replaces it. -/
def keyMask (newKey : SigningKey) : Vector UInt8 32 :=
  services.sha256 (newKey.toList ++ keyChangeSalt)

def xorWithMask (value : Vector UInt8 32) (newKey : SigningKey) : Vector UInt8 32 :=
  value.zipWith (· ^^^ ·) (keyMask services newKey)

def encryptOldPrivateKey (oldKey newKey : SigningKey) : Vector UInt8 32 :=
  xorWithMask services oldKey newKey

def decryptOldPrivateKey (encrypted : Vector UInt8 32) (newKey : SigningKey) : SigningKey :=
  xorWithMask services encrypted newKey

theorem decryptOldPrivateKey_encrypt (oldKey newKey : SigningKey) :
    decryptOldPrivateKey services (encryptOldPrivateKey services oldKey newKey) newKey =
      oldKey := by
  apply Vector.ext
  intro index inside
  simp [decryptOldPrivateKey, encryptOldPrivateKey, xorWithMask, UInt8.xor_assoc]

end Keys

section Preparation

/-- The arguments of a rotation, with the random draws it makes; a draw may fail. -/
structure RotationCall where
  network : Network
  expectedWallet : TonAddressString
  seqno : UInt32
  needsStateInit : Bool
  validUntil : Nat
  messageKind : KeyRotationMessageKind
  draws : List (Option (Vector UInt8 16))

/-- The request of a rotation. The proof is signed by the new key. -/
def rotationRequest (call : RotationCall) (walletAddress : TonAddressString)
    (currentKey newKey : SigningKey) : Option ChangePublicKeyRequest :=
  (buildRotationProof walletAddress).map fun proof => {
    messageKind := call.messageKind
    walletId := walletContractId call.network
    validUntil := UInt32.ofNat call.validUntil
    seqno := call.seqno
    newPublicKey := services.verifyingKey newKey
    proofSignature := services.sign newKey (services.cellHash proof).toList
    encryptedOldPrivateKey := encryptOldPrivateKey services currentKey newKey }

/-- The request behind a signature of its hash. -/
def signCell (key : SigningKey) (body : Cell) : Option Cell :=
  buildCell (.bytes (services.sign key (services.cellHash body).toList).toList ::
    CellField.ofCell body)

def signedRotation (call : RotationCall) (walletAddress : TonAddressString)
    (currentKey newKey : SigningKey) (stateInit : Option Cell) : Option Boc := do
  let request ← rotationRequest services call walletAddress currentKey newKey
  let body ← buildChangePublicKeyRequest request
  let signed ← signCell services currentKey body
  services.wrapSignedRequest walletAddress call.messageKind signed stateInit

def prepareWithNewHalf (call : RotationCall)
    (current : RotationMnemonic services.toMnemonicServices)
    (newHalf : Bip39Half services.toMnemonicServices) (walletAddress : TonAddressString)
    (stateInit : Option Cell) : Except KeyRotationError PreparedKeyRotationMaterial := do
  let newKey := deriveKey services newHalf
  let signedBoc ← (signedRotation services call walletAddress
    (deriveRotationKeys services current).signing newKey stateInit).elim (.error .preparation) .ok
  let replacementPhrase := String.ofList (current.anchor.toPhrase ++ ' ' :: newHalf.toPhrase)
  -- The phrase is validated before it is handed out.
  let _ ← (RotationMnemonic.parse services.toMnemonicServices replacementPhrase).mapError
    fun _ => .preparation
  return { replacementPhrase, newPublicKey := services.verifyingKey newKey, signedBoc }

/-- Draw a half until its key differs from the current one. -/
def drawHalf (current : PublicKey) :
    (attempts : Nat) → (draws : List (Option (Vector UInt8 16))) →
      Except KeyRotationError (Bip39Half services.toMnemonicServices)
  | attempts + 1, some entropy :: draws => do
      let half ← (Bip39Half.fromEntropy services.toMnemonicServices entropy).mapError
        fun _ => .preparation
      if services.verifyingKey (deriveKey services half) = current then
        drawHalf current attempts draws
      else return half
  | _, _ => .error .preparation

/-- The initial state to attach, checked against the address. -/
def deploymentState (call : RotationCall) (anchor : PublicKey) (walletAddress : TonAddressString) :
    Except KeyRotationError (Option Cell) :=
  if call.needsStateInit then
    match services.walletPublicState call.network anchor with
    | none => .error .preparation
    | some (derived, stateInit) =>
      if derived ≠ walletAddress then .error .walletIdentityMismatch else .ok (some stateInit)
  else .ok none

def prepareKeyRotation (call : RotationCall) (phrase : String) :
    Except KeyRotationError PreparedKeyRotationMaterial := do
  let current ← (RotationMnemonic.parse services.toMnemonicServices phrase).mapError
    fun _ => .invalidMnemonic
  let keys := deriveRotationKeys services current
  let anchor := services.verifyingKey keys.anchor
  let signing := services.verifyingKey keys.signing
  let address ← (services.walletAddress call.network anchor).elim (.error .invalidMnemonic) .ok
  if address ≠ call.expectedWallet then
    throw .walletIdentityMismatch
  if call.needsStateInit ∧ anchor ≠ signing then
    throw .rotatedWalletRequiresActiveAccount
  if u32Bound ≤ call.validUntil then
    throw .expirationOutOfRange
  let newHalf ← drawHalf services signing maxKeyGenerationAttempts call.draws
  let stateInit ← deploymentState services call anchor address
  prepareWithNewHalf services call current newHalf address stateInit

end Preparation

section Success

variable {services} {call : RotationCall} {walletAddress : TonAddressString}
  {currentKey newKey : SigningKey} {stateInit : Option Cell}

/-- Every request fits into its cell. -/
theorem buildChangePublicKeyRequest_ok (request : ChangePublicKeyRequest) :
    ∃ body, buildChangePublicKeyRequest request = some body ∧ body.data.length = 384 ∧
      body.refs.length = 2 := by
  obtain ⟨signature, signature_eq⟩ : ∃ cell,
      buildCell [.bytes request.proofSignature.toList] = some cell :=
    ⟨_, buildCell_of_fits (by simp [CellField.bytes, CellField.data, CellBuilder.maxDataBits])
      (by simp [CellField.bytes, CellField.refs])⟩
  obtain ⟨encrypted, encrypted_eq⟩ : ∃ cell,
      buildCell [.bytes request.encryptedOldPrivateKey.toList] = some cell :=
    ⟨_, buildCell_of_fits (by simp [CellField.bytes, CellField.data, CellBuilder.maxDataBits])
      (by simp [CellField.bytes, CellField.refs])⟩
  simp only [buildChangePublicKeyRequest, signature_eq, encrypted_eq, Option.bind_eq_bind,
    Option.bind_some]
  refine ⟨_, buildCell_of_fits ?_ ?_, ?_, ?_⟩ <;>
    simp [CellField.bytes, CellField.num, CellField.data, CellField.refs, Cell.data, Cell.refs,
      CellBuilder.maxDataBits, CellBuilder.maxRefs, request.newPublicKey.sized]

/-- The signed request fits behind its signature. -/
theorem signCell_ok {key : SigningKey} {body : Cell} (bits : body.data.length = 384)
    (references : body.refs.length = 2) : ∃ signed, signCell services key body = some signed := by
  refine ⟨_, buildCell_of_fits ?_ ?_⟩
  · have plain : (body.refs.map CellField.ref).flatMap CellField.data = [] := by
      simp [List.flatMap_map, CellField.data]
    simp [CellField.ofCell, CellField.bytes, CellField.data, CellBuilder.maxDataBits, plain, bits]
  · have listed : (body.refs.map CellField.ref).flatMap CellField.refs = body.refs := by
      simp [List.flatMap_map, CellField.refs]
    simp [CellField.ofCell, CellField.bytes, CellField.refs, CellBuilder.maxRefs, listed,
      references]

/-- A rotation of a wallet in a workchain of one byte is signed and handed to the envelope. -/
theorem signedRotation_ok {byte : Nat}
    (workchain : workchainByte walletAddress.workchain = some byte) :
    ∃ signed, signedRotation services call walletAddress currentKey newKey stateInit =
      services.wrapSignedRequest walletAddress call.messageKind signed stateInit := by
  obtain ⟨proof, proof_eq⟩ : ∃ proof, buildRotationProof walletAddress = some proof := by
    simp only [buildRotationProof, workchain, Option.bind_eq_bind, Option.bind_some]
    refine ⟨_, buildCell_of_fits ?_ ?_⟩ <;>
      simp [CellField.bytes, CellField.num, CellField.data, CellField.refs, keyRotationProofTag,
        CellBuilder.maxDataBits]
  obtain ⟨request, request_eq⟩ : ∃ request,
      rotationRequest services call walletAddress currentKey newKey = some request := by
    simp [rotationRequest, proof_eq]
  obtain ⟨body, body_eq, bits, references⟩ := buildChangePublicKeyRequest_ok request
  obtain ⟨signed, signed_eq⟩ : ∃ signed, signCell services currentKey body = some signed :=
    signCell_ok bits references
  refine ⟨signed, ?_⟩
  simp [signedRotation, request_eq, body_eq, signed_eq]

/-- A rotation of a deployed wallet succeeds when its draws give a new key and its message
can be wrapped. -/
theorem prepareKeyRotation_of_drawn {phrase : String} {byte : Nat} {boc : Boc}
    {current : RotationMnemonic services.toMnemonicServices}
    {newHalf : Bip39Half services.toMnemonicServices}
    (parsed : RotationMnemonic.parse services.toMnemonicServices phrase = .ok current)
    (address : services.walletAddress call.network
      (services.verifyingKey (deriveKey services current.anchor)) = some call.expectedWallet)
    (deployed : call.needsStateInit = false) (valid : call.validUntil < u32Bound)
    (drawn : drawHalf services (services.verifyingKey (deriveKey services current.signing))
      maxKeyGenerationAttempts call.draws = .ok newHalf)
    (workchain : workchainByte call.expectedWallet.workchain = some byte)
    (wraps : ∀ signed, services.wrapSignedRequest call.expectedWallet call.messageKind signed none =
      some boc) :
    prepareKeyRotation services call phrase = .ok {
      replacementPhrase := String.ofList (current.anchor.toPhrase ++ ' ' :: newHalf.toPhrase)
      newPublicKey := services.verifyingKey (deriveKey services newHalf)
      signedBoc := boc } := by
  obtain ⟨signed, built⟩ : ∃ signed, signedRotation services call call.expectedWallet
      (deriveKey services current.signing) (deriveKey services newHalf) none =
        services.wrapSignedRequest call.expectedWallet call.messageKind signed none :=
    signedRotation_ok workchain
  have material : prepareWithNewHalf services call current newHalf call.expectedWallet none =
      .ok {
        replacementPhrase := String.ofList (current.anchor.toPhrase ++ ' ' :: newHalf.toPhrase)
        newPublicKey := services.verifyingKey (deriveKey services newHalf)
        signedBoc := boc } := by
    simp only [prepareWithNewHalf, deriveRotationKeys, built, wraps, Option.elim,
      RotationMnemonic.parse_halves, bind, Except.bind, Except.mapError, pure, Except.pure]
  have inRange : ¬ u32Bound ≤ call.validUntil := by omega
  simp [prepareKeyRotation, parsed, deriveRotationKeys, address, deployed, inRange, drawn,
    deploymentState, material, bind, Except.bind, Except.mapError]

end Success

section History

/-- The encrypted key that the last record for a public key holds. -/
def installedBy (changes : List KeyChange) (publicKey : PublicKey) : Option (Vector UInt8 32) :=
  (changes.reverse.find? (·.newPublicKey == publicKey)).map (·.encryptedOldPrivateKey)

/-- The keys that the records install. -/
def installedKeys (changes : List KeyChange) : List PublicKey :=
  (changes.map (·.newPublicKey)).dedup

/-- Walk from a key to the one it replaced, at most `steps` times and never to the anchor. -/
def walkBack (anchor : PublicKey) (changes : List KeyChange) :
    (steps : Nat) → (key : SigningKey) → List SigningKey
  | 0, _ => []
  | steps + 1, key =>
    match installedBy changes (services.verifyingKey key) with
    | none => []
    | some encrypted =>
      let older := decryptOldPrivateKey services encrypted key
      if services.verifyingKey older = anchor then []
      else older :: walkBack anchor changes steps older

/-- The signing keys that preceded the current one, newest first. -/
def recoverSigningKeys (anchor : PublicKey) (current : SigningKey) (changes : List KeyChange) :
    List SigningKey :=
  walkBack services anchor changes (installedKeys changes).length current

end History

end WalletEngine
