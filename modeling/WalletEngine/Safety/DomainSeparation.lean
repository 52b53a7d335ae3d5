import WalletEngine.TonConnect.Signing
import WalletEngine.Wallet.Body

/-! # Domain separation of signatures

Every digest that a wallet key signs is a hash of a byte string or of a cell. The
strings of TON Connect start with a byte that no cell representation starts with, and
the cells start with different opcodes, so a signature for one purpose is never one
for another. -/

namespace WalletEngine

/-- The purposes a wallet key signs for. -/
inductive SigningPath where
  | tonProof | signDataText | signDataBinary | signDataCell
  | externalTransfer | internalTransfer | rotationRequest | rotationProof
  deriving DecidableEq

/-- What is signed for each purpose. -/
inductive SigningInput where
  | tonProof (address : RawAccountAddress) (domain : String) (timestamp : UInt64)
      (payload : String)
  | signData (address : RawAccountAddress) (domain : String) (timestamp : UInt64)
      (payload : SignDataSigningPayload)
  | transfer (kind : SignedMessageKind) (request : WalletRequest)
  | rotationRequest (request : ChangePublicKeyRequest)
  | rotationProof (walletAddress : TonAddressString)

def SigningInput.path : SigningInput → SigningPath
  | .tonProof .. => .tonProof
  | .signData _ _ _ (.text _) => .signDataText
  | .signData _ _ _ (.binary _) => .signDataBinary
  | .signData _ _ _ (.cell ..) => .signDataCell
  | .transfer .external _ => .externalTransfer
  | .transfer .internal _ => .internalTransfer
  | .rotationRequest _ => .rotationRequest
  | .rotationProof _ => .rotationProof

/-- The opcodes of signed transfers: those of revision 00, and before them the one that
revision 5 of the wallet uses. -/
def acceptedOpcodes : SignedMessageKind → List Nat
  | .external => 0x7369676e :: transferOpcodes .external
  | .internal => 0x73696e74 :: transferOpcodes .internal

/-- A builder of transfer bodies that start with one of these opcodes. -/
structure TransferBodies where
  build : SignedMessageKind → WalletRequest → Option Cell
  opcode : ∀ {kind request cell}, build kind request = some cell →
    ∃ opcode ∈ acceptedOpcodes kind, cell.opcode = natBits 32 opcode

/-- The bodies that the engine signs. -/
def revision00Bodies : TransferBodies where
  build := transferBody
  opcode {kind request cell} built := by
    obtain ⟨opcode, member, same⟩ := transferBody_opcode built
    refine ⟨opcode, ?_, same⟩
    cases kind <;> exact List.mem_cons_of_mem _ member

/-- What is known of the string that stands for a cell: its first byte counts at most four
references in its low bits, and it determines the data of the cell. -/
structure CellRepresentation (services : SigningServices) : Prop where
  descriptor : ∀ cell, ∃ first rest, services.representation cell = first :: rest ∧
    first.toNat % 8 ≤ 4
  determines : ∀ {first second : Cell},
    services.representation first = services.representation second → first.data = second.data

/-- No two of the strings have the same hash. -/
def NoCollision (hash : List UInt8 → Vector UInt8 32) (strings : List (List UInt8)) : Prop :=
  ∀ first ∈ strings, ∀ second ∈ strings, hash first = hash second → first = second

section Digests

variable (services : SigningServices) (bodies : TransferBodies)

/-- The digest that is signed, if the input passes the checks of its path. -/
def SigningInput.digest : SigningInput → Option (Vector UInt8 32)
  | .tonProof address domain timestamp payload =>
    (tonProofSigningHash services address domain timestamp payload).toOption
  | .signData address domain timestamp payload =>
    (signDataSigningHash services address domain timestamp payload).toOption
  | .transfer kind request => (bodies.build kind request).map (cellHash services)
  | .rotationRequest request => (buildChangePublicKeyRequest request).map (cellHash services)
  | .rotationProof walletAddress => (buildRotationProof walletAddress).map (cellHash services)

/-- The string whose hash the digest is. -/
def SigningInput.preimage : SigningInput → Option (List UInt8)
  | .tonProof address domain timestamp payload =>
    (tonProofMessage address domain timestamp payload).toOption.map fun message =>
      wrapProof (services.sha256 message)
  | .signData address domain timestamp (.text text) =>
    (textOrBinaryMessage address domain timestamp (utf8 "txt") (utf8 text)).toOption
  | .signData address domain timestamp (.binary bytes) =>
    (textOrBinaryMessage address domain timestamp (utf8 "bin") bytes).toOption
  | .signData address domain timestamp (.cell schema boc) =>
    (cellMessage services address domain timestamp schema boc).toOption.map
      services.representation
  | .transfer kind request => (bodies.build kind request).map services.representation
  | .rotationRequest request =>
    (buildChangePublicKeyRequest request).map services.representation
  | .rotationProof walletAddress => (buildRotationProof walletAddress).map services.representation

/-- Every string that is hashed on the way to the digest, the cells below the root apart. -/
def SigningInput.hashed (input : SigningInput) : List (List UInt8) :=
  (input.preimage services bodies).toList ++
    match input with
    | .tonProof address domain timestamp payload =>
      (tonProofMessage address domain timestamp payload).toOption.toList
    | _ => []

theorem digest_eq_map_preimage (input : SigningInput) :
    input.digest services bodies = (input.preimage services bodies).map services.sha256 := by
  cases input with
  | tonProof address domain timestamp payload =>
    simp only [SigningInput.digest, SigningInput.preimage, tonProofSigningHash]
    cases tonProofMessage address domain timestamp payload <;> rfl
  | signData address domain timestamp payload =>
    cases payload with
    | text text =>
      simp only [SigningInput.digest, SigningInput.preimage, signDataSigningHash,
        textOrBinarySigningHash]
      cases textOrBinaryMessage address domain timestamp (utf8 "txt") (utf8 text) <;> rfl
    | binary bytes =>
      simp only [SigningInput.digest, SigningInput.preimage, signDataSigningHash,
        textOrBinarySigningHash]
      cases textOrBinaryMessage address domain timestamp (utf8 "bin") bytes <;> rfl
    | cell schema boc =>
      simp only [SigningInput.digest, SigningInput.preimage, signDataSigningHash]
      cases cellMessage services address domain timestamp schema boc <;> rfl
  | transfer kind request => exact (Option.map_map _ _ _).symm
  | rotationRequest request => exact (Option.map_map _ _ _).symm
  | rotationProof walletAddress => exact (Option.map_map _ _ _).symm

end Digests

section Separation

variable {services : SigningServices} {bodies : TransferBodies} {first second : SigningInput}
  {bytes : List UInt8}
variable {address : RawAccountAddress} {domain : String} {timestamp : UInt64}
  {discriminator : List UInt8}

/-- Without collisions, equal digests have equal preimages. -/
theorem preimage_eq_of_digest_eq {digest : Vector UInt8 32}
    (clear : NoCollision services.sha256
      (first.hashed services bodies ++ second.hashed services bodies))
    (firstSigned : first.digest services bodies = some digest)
    (secondSigned : second.digest services bodies = some digest) :
    ∃ bytes, first.preimage services bodies = some bytes ∧
      second.preimage services bodies = some bytes := by
  rw [digest_eq_map_preimage] at firstSigned secondSigned
  obtain ⟨firstBytes, firstFound, firstHash⟩ := Option.map_eq_some_iff.mp firstSigned
  obtain ⟨secondBytes, secondFound, secondHash⟩ := Option.map_eq_some_iff.mp secondSigned
  have same : firstBytes = secondBytes := by
    apply clear
    · simp [SigningInput.hashed, firstFound]
    · simp [SigningInput.hashed, secondFound]
    · rw [firstHash, secondHash]
  exact ⟨firstBytes, firstFound, same ▸ secondFound⟩

/-- The opcodes of the paths that sign a cell. -/
def SigningPath.opcodes : SigningPath → Option (List Nat)
  | .tonProof | .signDataText | .signDataBinary => none
  | .signDataCell => some [signDataCellMagic]
  | .externalTransfer => some (acceptedOpcodes .external)
  | .internalTransfer => some (acceptedOpcodes .internal)
  | .rotationRequest => some [changePublicKeyExternalOpcode, changePublicKeyInternalOpcode]
  | .rotationProof => some [rotationProofOpcode]

theorem cellMessage_opcode {schema : String} {boc : List UInt8} {cell : Cell}
    (built : cellMessage services address domain timestamp schema boc = .ok cell) :
    cell.opcode = natBits 32 signDataCellMagic := by
  obtain ⟨_, _, built⟩ := except_bind_eq_ok.mp built
  obtain ⟨_, _, built⟩ := except_bind_eq_ok.mp built
  obtain ⟨_, _, built⟩ := except_bind_eq_ok.mp built
  exact opcode_of_num (option_elim_eq_ok built)

/-- On a path with opcodes the preimage represents a cell that starts with one of them. -/
theorem preimage_of_opcodes {opcodes : List Nat} (onPath : first.path.opcodes = some opcodes)
    (signed : first.preimage services bodies = some bytes) :
    ∃ cell : Cell, services.representation cell = bytes ∧
      ∃ opcode ∈ opcodes, cell.opcode = natBits 32 opcode := by
  cases first with
  | tonProof address domain timestamp payload => cases onPath
  | signData address domain timestamp payload =>
    cases payload with
    | text text => cases onPath
    | binary bytes => cases onPath
    | cell schema boc =>
      cases onPath
      obtain ⟨cell, built, rfl⟩ := Option.map_eq_some_iff.mp signed
      refine ⟨cell, rfl, _, List.mem_singleton_self _, ?_⟩
      exact cellMessage_opcode (except_toOption_eq_some.mp built)
  | transfer kind request =>
    obtain ⟨cell, built, rfl⟩ := Option.map_eq_some_iff.mp signed
    refine ⟨cell, rfl, ?_⟩
    cases kind <;> cases onPath <;> exact bodies.opcode built
  | rotationRequest request =>
    cases onPath
    obtain ⟨cell, built, rfl⟩ := Option.map_eq_some_iff.mp signed
    exact ⟨cell, rfl, buildChangePublicKeyRequest_opcode built⟩
  | rotationProof walletAddress =>
    cases onPath
    obtain ⟨cell, built, rfl⟩ := Option.map_eq_some_iff.mp signed
    exact ⟨cell, rfl, _, List.mem_singleton_self _, buildRotationProof_opcode built⟩

/-- A text or binary message starts with two set bytes and is longer than a wrapped proof. -/
theorem textOrBinaryMessage_shape {payload : List UInt8}
    (built : textOrBinaryMessage address domain timestamp discriminator payload = .ok bytes) :
    (∃ rest, bytes = 0xff :: rest) ∧ 45 < bytes.length := by
  obtain ⟨_, _, built⟩ := except_bind_eq_ok.mp built
  obtain ⟨_, _, built⟩ := except_bind_eq_ok.mp built
  cases built
  have name : signDataPrefix.length = 22 := by decide +kernel
  refine ⟨⟨_, rfl⟩, ?_⟩
  simp only [List.length_append, length_beBytes, Vector.length_toList, name, List.length_cons]
  omega

theorem length_wrapProof (hash : Vector UInt8 32) : (wrapProof hash).length = 45 := by
  have name : tonConnectPrefix.length = 11 := by decide +kernel
  simp [wrapProof, name]

/-- Different paths have no opcode in common. -/
theorem path_eq_of_opcode {firstPath secondPath : SigningPath} {firstCodes secondCodes : List Nat}
    {firstCode secondCode : Nat} (firstHas : firstPath.opcodes = some firstCodes)
    (secondHas : secondPath.opcodes = some secondCodes) (firstIn : firstCode ∈ firstCodes)
    (secondIn : secondCode ∈ secondCodes)
    (same : natBits 32 firstCode = natBits 32 secondCode) : firstPath = secondPath := by
  have disjoint : ∀ firstPath secondPath : SigningPath,
      ∀ firstCode ∈ firstPath.opcodes.getD [], ∀ secondCode ∈ secondPath.opcodes.getD [],
        natBits 32 firstCode = natBits 32 secondCode → firstPath = secondPath := by
    intro firstPath secondPath
    cases firstPath <;> cases secondPath <;> decide
  exact disjoint _ _ _ (by rwa [firstHas]) _ (by rwa [secondHas]) same

theorem wrapProof_inj {hash other : Vector UInt8 32} (same : wrapProof hash = wrapProof other) :
    hash = other :=
  Vector.toList_inj.mp (List.append_cancel_left (List.append_cancel_left same))

/-- A proof and a text or binary message differ in length. -/
theorem wrapProof_ne_textOrBinary {hash : Vector UInt8 32} {payload : List UInt8}
    (built : textOrBinaryMessage address domain timestamp discriminator payload = .ok bytes) :
    wrapProof hash ≠ bytes := by
  rintro rfl
  have long := (textOrBinaryMessage_shape built).2
  rw [length_wrapProof] at long
  omega

/-- The discriminator and the bytes of a payload that is signed as a string. -/
inductive Framed : SignDataSigningPayload → List UInt8 → List UInt8 → Prop
  | text (text : String) : Framed (.text text) (utf8 "txt") (utf8 text)
  | binary (bytes : List UInt8) : Framed (.binary bytes) (utf8 "bin") bytes

theorem Framed.length {payload : SignDataSigningPayload} {field : List UInt8}
    (framed : Framed payload discriminator field) : discriminator.length = 3 := by
  cases framed <;> decide +kernel

theorem Framed.inj {payload other : SignDataSigningPayload} {field : List UInt8}
    (framed : Framed payload discriminator field) (same : Framed other discriminator field) :
    payload = other := by
  have kinds : utf8 "txt" ≠ utf8 "bin" := by decide +kernel
  generalize tagged : discriminator = tag at same
  cases framed with
  | text text =>
    generalize said : utf8 text = bytes at same
    cases same with
    | text other => rw [utf8_inj said]
    | binary => exact absurd tagged kinds
  | binary bytes =>
    cases same with
    | text other => exact absurd tagged.symm kinds
    | binary => rfl

/-- What is signed as a string is a proof or a framed payload. -/
theorem preimage_cases (onPath : first.path.opcodes = none)
    (signed : first.preimage services bodies = some bytes) :
    (∃ address domain timestamp payload message,
        first = .tonProof address domain timestamp payload ∧
          tonProofMessage address domain timestamp payload = .ok message ∧
          bytes = wrapProof (services.sha256 message)) ∨
      ∃ address domain timestamp payload discriminator field,
        first = .signData address domain timestamp payload ∧
          Framed payload discriminator field ∧
          textOrBinaryMessage address domain timestamp discriminator field = .ok bytes := by
  cases first with
  | tonProof address domain timestamp payload =>
    obtain ⟨message, built, rfl⟩ := Option.map_eq_some_iff.mp signed
    exact .inl ⟨_, _, _, _, message, rfl, except_toOption_eq_some.mp built, rfl⟩
  | signData address domain timestamp payload =>
    cases payload with
    | text text =>
      exact .inr ⟨_, _, _, _, _, _, rfl, .text text, except_toOption_eq_some.mp signed⟩
    | binary bytes =>
      exact .inr ⟨_, _, _, _, _, _, rfl, .binary bytes, except_toOption_eq_some.mp signed⟩
    | cell schema boc => cases onPath
  | transfer kind request => cases kind <;> cases onPath
  | rotationRequest request => cases onPath
  | rotationProof walletAddress => cases onPath

/-- On these paths it starts with a byte that no cell representation starts with. -/
theorem preimage_of_no_opcodes (onPath : first.path.opcodes = none)
    (signed : first.preimage services bodies = some bytes) : ∃ rest, bytes = 0xff :: rest := by
  rcases preimage_cases onPath signed with
    ⟨_, _, _, _, message, _, _, rfl⟩ | ⟨_, _, _, _, _, _, _, _, built⟩
  · exact ⟨_, rfl⟩
  · exact (textOrBinaryMessage_shape built).1

/-- On the paths without opcodes the preimage determines the input. -/
theorem eq_of_preimage (firstPath : first.path.opcodes = none)
    (secondPath : second.path.opcodes = none)
    (clear : NoCollision services.sha256
      (first.hashed services bodies ++ second.hashed services bodies))
    (firstSigned : first.preimage services bodies = some bytes)
    (secondSigned : second.preimage services bodies = some bytes) : first = second := by
  rcases preimage_cases firstPath firstSigned with
    ⟨address, domain, timestamp, payload, message, rfl, built, rfl⟩ |
    ⟨address, domain, timestamp, payload, discriminator, field, rfl, framed, built⟩ <;>
  rcases preimage_cases secondPath secondSigned with
    ⟨_, _, _, _, otherMessage, rfl, otherBuilt, same⟩ |
    ⟨_, _, _, _, _, _, rfl, otherFramed, otherBuilt⟩
  · have same : otherMessage = message := by
      apply clear
      · simp [SigningInput.hashed, otherBuilt, Except.toOption]
      · simp [SigningInput.hashed, built, Except.toOption]
      · exact wrapProof_inj same.symm
    cases same
    obtain ⟨rfl, rfl, rfl, rfl⟩ := tonProofMessage_inj built otherBuilt
    rfl
  · exact absurd rfl (wrapProof_ne_textOrBinary otherBuilt)
  · exact absurd same.symm (wrapProof_ne_textOrBinary built)
  · have sized := framed.length.trans otherFramed.length.symm
    obtain ⟨rfl, rfl, rfl, rfl, rfl⟩ := textOrBinaryMessage_inj sized built otherBuilt
    rw [framed.inj otherFramed]

/-- Equal preimages belong to one path. -/
theorem path_eq_of_preimage (representation : CellRepresentation services)
    (clear : NoCollision services.sha256
      (first.hashed services bodies ++ second.hashed services bodies))
    (firstSigned : first.preimage services bodies = some bytes)
    (secondSigned : second.preimage services bodies = some bytes) : first.path = second.path := by
  -- The descriptor byte of a cell has low bits that the set byte does not have.
  have clash {cell : Cell} {rest : List UInt8}
      (same : services.representation cell = 0xff :: rest) : False := by
    obtain ⟨descriptor, _, found, low⟩ := representation.descriptor cell
    rw [same] at found
    cases found
    exact absurd low (by decide)
  cases firstCodes : first.path.opcodes with
  | none =>
    cases secondCodes : second.path.opcodes with
    | none => rw [eq_of_preimage firstCodes secondCodes clear firstSigned secondSigned]
    | some codes =>
      obtain ⟨cell, same, _⟩ := preimage_of_opcodes secondCodes secondSigned
      obtain ⟨rest, rfl⟩ := preimage_of_no_opcodes firstCodes firstSigned
      exact (clash same).elim
  | some codes =>
    obtain ⟨cell, same, code, listed, starts⟩ := preimage_of_opcodes firstCodes firstSigned
    cases secondCodes : second.path.opcodes with
    | none =>
      obtain ⟨rest, rfl⟩ := preimage_of_no_opcodes secondCodes secondSigned
      exact (clash same).elim
    | some otherCodes =>
      obtain ⟨other, otherSame, otherCode, otherListed, otherStarts⟩ :=
        preimage_of_opcodes secondCodes secondSigned
      have data := representation.determines (same.trans otherSame.symm)
      refine path_eq_of_opcode firstCodes secondCodes listed otherListed ?_
      rw [← starts, ← otherStarts, Cell.opcode, Cell.opcode, data]

end Separation

/-- The paths whose digests bind every field that is signed. -/
def bindingPaths : List SigningPath := [.tonProof, .signDataText, .signDataBinary]

/-- Domain separation: digests of different paths differ, and equal digests of proofs or of
text or binary data were computed from equal inputs. -/
theorem domain_separation (services : SigningServices) (bodies : TransferBodies)
    (representation : CellRepresentation services) (first second : SigningInput)
    (clear : NoCollision services.sha256
      (first.hashed services bodies ++ second.hashed services bodies))
    {firstDigest secondDigest : Vector UInt8 32}
    (firstSigned : first.digest services bodies = some firstDigest)
    (secondSigned : second.digest services bodies = some secondDigest) :
    (first.path ≠ second.path → firstDigest ≠ secondDigest) ∧
      (firstDigest = secondDigest → first.path ∈ bindingPaths → first = second) := by
  constructor
  · rintro different rfl
    obtain ⟨bytes, firstFound, secondFound⟩ :=
      preimage_eq_of_digest_eq clear firstSigned secondSigned
    exact different (path_eq_of_preimage representation clear firstFound secondFound)
  · rintro rfl binding
    obtain ⟨bytes, firstFound, secondFound⟩ :=
      preimage_eq_of_digest_eq clear firstSigned secondSigned
    have samePath := path_eq_of_preimage representation clear firstFound secondFound
    have plain : first.path.opcodes = none := by
      revert binding
      generalize first.path = path
      cases path <;> decide
    exact eq_of_preimage plain (samePath ▸ plain) clear firstFound secondFound

section Plain

/-- A hash that counts bytes, and a representation that spells out the data of a cell. -/
def plainSigning : SigningServices where
  sha256 := fun bytes => Vector.replicate 32 (UInt8.ofNat bytes.length)
  representation := fun cell => 0 :: cell.data.map fun bit => if bit then 1 else 0
  crc32 := fun _ => 0
  parseSingleRoot := fun _ => none
  hostDomain := some

theorem plainSigning_representation : CellRepresentation plainSigning where
  descriptor cell := ⟨0, _, rfl, by decide⟩
  determines {first second} same := by
    have injective : Function.Injective fun bit : Bool => if bit then (1 : UInt8) else 0 := by
      intro left right
      revert left right
      decide
    exact List.map_injective_iff.mpr injective (List.cons.inj same).2

/-- A proof for a dApp and the consent of a new key. -/
def plainProof : SigningInput := .tonProof ⟨0, Vector.replicate 32 0⟩ "dapp" 7 "nonce"
def plainConsent : SigningInput := .rotationProof ⟨0, 1⟩

theorem domain_separation_plain : ∃ proof consent,
    plainProof.digest plainSigning revision00Bodies = some proof ∧
      plainConsent.digest plainSigning revision00Bodies = some consent ∧ proof ≠ consent := by
  have proofSigned : plainProof.digest plainSigning revision00Bodies =
      some (Vector.replicate 32 45) := by decide +kernel
  have consentSigned : plainConsent.digest plainSigning revision00Bodies =
      some (Vector.replicate 32 105) := by decide +kernel
  have clear : NoCollision plainSigning.sha256
      (plainProof.hashed plainSigning revision00Bodies ++
        plainConsent.hashed plainSigning revision00Bodies) := by
    unfold NoCollision
    decide +kernel
  exact ⟨_, _, proofSigned, consentSigned, (domain_separation plainSigning revision00Bodies
    plainSigning_representation _ _ clear proofSigned consentSigned).1 (by decide)⟩

end Plain

end WalletEngine
