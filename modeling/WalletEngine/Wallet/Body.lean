import WalletEngine.Data.Cell
import WalletEngine.Domain.Views
import WalletEngine.Wallet.Send

/-! # Wallet request bodies

The cells that a wallet key signs: the transfer requests of wallet revision 00, the
request that replaces the signing key and the proof that the new key consents. -/

namespace WalletEngine

section Transfers

/-- A request to send messages, each with its mode. -/
structure WalletRequest where
  walletId : Int32
  validUntil : UInt32
  msgSeqno : UInt32
  msgs : List Cell
  msgsModes : List UInt8

def sendOneInternalOpcode : Nat := 0x63896e74
def sendOneExternalOpcode : Nat := 0x63896e75
def sendBulkInternalOpcode : Nat := 0x73896e74
def sendBulkExternalOpcode : Nat := 0x73896e75

def messageFields (message : UInt8 × Cell) : List CellField :=
  [.num message.1.toNat 8, .ref message.2]

/-- One chunk of a message array: whether another chunk follows, that chunk and the items. -/
def messageChunk (next : Option Cell) (items : List (UInt8 × Cell)) : Option Cell :=
  buildCell (.bits [next.isSome] :: (next.toList.map .ref ++ items.flatMap messageFields))

/-- The chunks of a message array, built from its end. The items come last first, and a
chunk takes at most three of them. -/
def messageChunks (next : Option Cell) : List (UInt8 × Cell) → Option (Option Cell)
  | [] => some next
  | [first] => (messageChunk next [first]).map some
  | [second, first] => (messageChunk next [first, second]).map some
  | third :: second :: first :: earlier =>
    (messageChunk next [first, second, third]).bind fun chunk =>
      messageChunks (some chunk) earlier

def messageArrayFields (messages : List (UInt8 × Cell)) : Option (List CellField) :=
  (messageChunks none messages.reverse).bind fun head =>
    head.map fun head => [.num messages.length 8, .bits [true], .ref head]

def messagesFields : List (UInt8 × Cell) → Option (List CellField)
  | [message] => some (messageFields message)
  | messages => messageArrayFields messages

def requestOpcode (external : Bool) (count : Nat) : Nat :=
  match external, count with
  | true, 1 => sendOneExternalOpcode
  | false, 1 => sendOneInternalOpcode
  | true, _ => sendBulkExternalOpcode
  | false, _ => sendBulkInternalOpcode

def WalletRequest.buildRequest (request : WalletRequest) (external : Bool) : Option Cell :=
  if request.msgs.length > 255 ∨ request.msgsModes.length ≠ request.msgs.length then none
  else if request.msgs.isEmpty then none
  else
    (messagesFields (request.msgsModes.zip request.msgs)).bind fun fields =>
      buildCell ([.num (requestOpcode external request.msgs.length) 32,
        .num request.walletId.toUInt32.toNat 32, .num request.validUntil.toNat 32,
        .num request.msgSeqno.toNat 32] ++ fields)

/-- The unsigned request of each entry point. -/
def transferBody (kind : SignedMessageKind) (request : WalletRequest) : Option Cell :=
  match kind with
  | .external => request.buildRequest true
  | .internal => request.buildRequest false

end Transfers

section Rotation

def keyRotationProofTag : List UInt8 :=
  [0x4b, 0x45, 0x59, 0x5f, 0x52, 0x4f, 0x54, 0x41, 0x54, 0x49, 0x4f, 0x4e]

def changePublicKeyInternalOpcode : Nat := 0xfbba99c7
def changePublicKeyExternalOpcode : Nat := 0xfbba99c8

/-- The two's complement byte of a workchain that fits `i8`. -/
def workchainByte (workchain : Int) : Option Nat :=
  if -128 ≤ workchain ∧ workchain < 128 then some (workchain % 256).toNat else none

def buildRotationProof (walletAddress : TonAddressString) : Option Cell := do
  let workchain ← workchainByte walletAddress.workchain
  buildCell [.bytes keyRotationProofTag, .num workchain 8, .num walletAddress.hash.toNat 256]

/-- The fields of a request to change the signing key. -/
structure ChangePublicKeyRequest where
  messageKind : KeyRotationMessageKind
  walletId : Int32
  validUntil : UInt32
  seqno : UInt32
  newPublicKey : PublicKey
  proofSignature : Vector UInt8 64
  encryptedOldPrivateKey : Vector UInt8 32

/-- The proof and the encrypted old key are separate references, in that order. -/
def buildChangePublicKeyRequest (request : ChangePublicKeyRequest) : Option Cell := do
  let opcode := match request.messageKind with
    | .external => changePublicKeyExternalOpcode
    | .internal => changePublicKeyInternalOpcode
  let signature ← buildCell [.bytes request.proofSignature.toList]
  let encryptedOldKey ← buildCell [.bytes request.encryptedOldPrivateKey.toList]
  buildCell [.num opcode 32, .num request.walletId.toUInt32.toNat 32,
    .num request.validUntil.toNat 32, .num request.seqno.toNat 32,
    .bytes request.newPublicKey.bytes, .ref signature, .ref encryptedOldKey]

end Rotation

section Opcodes

/-- The first 32 bits of a cell, which tell the requests apart. -/
def Cell.opcode (cell : Cell) : List Bool :=
  cell.data.take 32

theorem opcode_of_num {opcode : Nat} {fields : List CellField} {cell : Cell}
    (built : buildCell (.num opcode 32 :: fields) = some cell) :
    cell.opcode = natBits 32 opcode := by
  have whole : (CellField.num opcode 32).data.length = 32 := length_natBits 32 opcode
  have start : cell.data.take 32 = (CellField.num opcode 32).data.take 32 :=
    buildCell_data_take built (by omega)
  exact start.trans (List.take_of_length_le (by omega))

/-- The opcodes of the transfer requests of revision 00. -/
def transferOpcodes : SignedMessageKind → List Nat
  | .external => [sendOneExternalOpcode, sendBulkExternalOpcode]
  | .internal => [sendOneInternalOpcode, sendBulkInternalOpcode]

theorem transferBody_opcode {kind : SignedMessageKind} {request : WalletRequest} {cell : Cell}
    (built : transferBody kind request = some cell) :
    ∃ opcode ∈ transferOpcodes kind, cell.opcode = natBits 32 opcode := by
  have requested : ∀ external, request.buildRequest external = some cell →
      cell.opcode = natBits 32 (requestOpcode external request.msgs.length) := by
    intro external built
    simp only [WalletRequest.buildRequest, Option.ite_none_left_eq_some, Option.bind_eq_some_iff] at built
    obtain ⟨_, _, fields, _, built⟩ := built
    exact opcode_of_num built
  cases kind with
  | external =>
    refine ⟨_, ?_, requested true built⟩
    unfold requestOpcode
    split <;> simp_all [transferOpcodes]
  | internal =>
    refine ⟨_, ?_, requested false built⟩
    unfold requestOpcode
    split <;> simp_all [transferOpcodes]

theorem buildChangePublicKeyRequest_opcode {request : ChangePublicKeyRequest} {cell : Cell}
    (built : buildChangePublicKeyRequest request = some cell) :
    ∃ opcode ∈ [changePublicKeyExternalOpcode, changePublicKeyInternalOpcode],
      cell.opcode = natBits 32 opcode := by
  unfold buildChangePublicKeyRequest at built
  obtain ⟨_, _, built⟩ := Option.bind_eq_some_iff.mp built
  obtain ⟨_, _, built⟩ := Option.bind_eq_some_iff.mp built
  refine ⟨_, ?_, opcode_of_num built⟩
  cases request.messageKind <;> simp

/-- The tag of the proof, read as an opcode. -/
def rotationProofOpcode : Nat := 0x4b45595f

theorem buildRotationProof_opcode {walletAddress : TonAddressString} {cell : Cell}
    (built : buildRotationProof walletAddress = some cell) :
    cell.opcode = natBits 32 rotationProofOpcode := by
  obtain ⟨_, _, built⟩ := Option.bind_eq_some_iff.mp built
  have tag : (CellField.bytes keyRotationProofTag).data.take 32 =
      natBits 32 rotationProofOpcode := by decide
  rw [← tag]
  exact buildCell_data_take built (by decide)

end Opcodes

end WalletEngine
