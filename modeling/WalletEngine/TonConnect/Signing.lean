import WalletEngine.Data.Cell
import WalletEngine.Data.Except
import WalletEngine.Domain.Basic

/-! # TON Connect signing digests

The byte strings and the cell that a wallet hashes and signs for `ton_proof` and for
`signData`. The hash, the bag-of-cells parser and the host-name parser are given. -/

namespace WalletEngine

def tonProofItemPrefix : List UInt8 := utf8 "ton-proof-item-v2/"
def tonConnectPrefix : List UInt8 := utf8 "ton-connect"
def signDataPrefix : List UInt8 := utf8 "ton-connect/sign-data/"
def signDataCellMagic : Nat := 0x75569022
def dnsSnakeCellBytes : Nat := 127

/-- The failures of the digest functions. -/
inductive SigningError where
  | lengthOverflow | invalidDomain | invalidCell
  deriving DecidableEq

structure RawAccountAddress where
  workchain : Int32
  hash : Vector UInt8 32
  deriving DecidableEq

inductive SignDataSigningPayload where
  | text (text : String)
  | binary (bytes : List UInt8)
  | cell (schema : String) (boc : List UInt8)
  deriving DecidableEq

/-- The functions of other libraries. -/
structure SigningServices where
  sha256 : List UInt8 → Vector UInt8 32
  /-- The byte string whose hash is the hash of a cell. -/
  representation : Cell → List UInt8
  crc32 : List UInt8 → UInt32
  parseSingleRoot : List UInt8 → Option Cell
  /-- The ASCII form of a host name; none for an invalid name and for an address. -/
  hostDomain : String → Option String

/-- The length of a field as a 32-bit number. -/
def fieldLength (bytes : List UInt8) : Except SigningError Nat :=
  if bytes.length < u32Bound then .ok bytes.length else .error .lengthOverflow

section Messages

variable (address : RawAccountAddress) (domain : String) (timestamp : UInt64)

/-- The message inside the two rounds of `ton_proof`. -/
def tonProofMessage (payload : String) : Except SigningError (List UInt8) :=
  (fieldLength (utf8 domain)).map fun domainLength =>
    tonProofItemPrefix ++ (beBytes 4 address.workchain.toUInt32.toNat ++ (address.hash.toList ++
      (leBytes 4 domainLength ++ (utf8 domain ++ (leBytes 8 timestamp.toNat ++ utf8 payload)))))

/-- The outer message of `ton_proof`. -/
def wrapProof (messageHash : Vector UInt8 32) : List UInt8 :=
  [0xff, 0xff] ++ (tonConnectPrefix ++ messageHash.toList)

/-- The message of a text or binary `signData`. -/
def textOrBinaryMessage (discriminator payload : List UInt8) :
    Except SigningError (List UInt8) := do
  let domainLength ← fieldLength (utf8 domain)
  let payloadLength ← fieldLength payload
  return [0xff, 0xff] ++ (signDataPrefix ++ (beBytes 4 address.workchain.toUInt32.toNat ++
    (address.hash.toList ++ (beBytes 4 domainLength ++ (utf8 domain ++
      (beBytes 8 timestamp.toNat ++ (discriminator ++ (beBytes 4 payloadLength ++ payload))))))))

end Messages

section Cells

variable (services : SigningServices)

def tep81Domain (domain : String) : Except SigningError (List UInt8) :=
  if domain.isEmpty then .error .invalidDomain
  else if domain = "." then .ok [0]
  else
    let chars := domain.toList
    let stripped := if chars.getLast? = some '.' then chars.dropLast else chars
    match services.hostDomain (String.ofList stripped) with
    | none => .error .invalidDomain
    | some ascii => do
        let labels := (ascii.toList.splitOn '.').reverse.map fun label => utf8 (String.ofList label)
        if labels.any fun label => label.isEmpty || label.length > 63 then
          throw .invalidDomain
        let encoded := labels.flatMap (· ++ [0])
        if encoded.length > 126 then
          throw .invalidDomain
        return encoded

/-- A chain of cells, built from its end. -/
def snakeCell (bytes : List UInt8) : Except SigningError Cell := do
  let chunks := (bytes.reverse.toChunks dnsSnakeCellBytes).map List.reverse
  let next ← chunks.foldlM (fun (next : Option Cell) chunk =>
    match buildCell (.bytes chunk :: next.toList.map .ref) with
    | some cell => .ok (some cell)
    | none => .error .invalidCell) none
  match next with
  | some cell => return cell
  | none => throw .invalidDomain

/-- The standard form of an address if its workchain fits a byte, the variable one if not. -/
def addressFields (address : RawAccountAddress) : List CellField :=
  let workchain := address.workchain.toInt
  if -128 ≤ workchain ∧ workchain < 128 then
    [.bits [true, false], .bits [false], .num (workchain % 256).toNat 8,
      .bytes address.hash.toList]
  else
    [.bits [true, true], .bits [false], .num 256 9, .num address.workchain.toUInt32.toNat 32,
      .bytes address.hash.toList]

def cellMessage (address : RawAccountAddress) (domain : String) (timestamp : UInt64)
    (schema : String) (boc : List UInt8) : Except SigningError Cell := do
  let payloadCell ← (services.parseSingleRoot boc).elim (.error .invalidCell) .ok
  let domainBytes ← tep81Domain services domain
  let domainCell ← snakeCell domainBytes
  let message := buildCell ([.num signDataCellMagic 32,
    .num (services.crc32 (utf8 schema)).toNat 32, .num timestamp.toNat 64] ++
      addressFields address ++ [.ref domainCell, .ref payloadCell])
  message.elim (.error .invalidCell) .ok

end Cells

section Digests

variable (services : SigningServices) (address : RawAccountAddress) (domain : String)
  (timestamp : UInt64)

def cellHash (cell : Cell) : Vector UInt8 32 :=
  services.sha256 (services.representation cell)

def tonProofSigningHash (payload : String) : Except SigningError (Vector UInt8 32) :=
  (tonProofMessage address domain timestamp payload).map fun message =>
    services.sha256 (wrapProof (services.sha256 message))

def textOrBinarySigningHash (discriminator payload : List UInt8) :
    Except SigningError (Vector UInt8 32) :=
  (textOrBinaryMessage address domain timestamp discriminator payload).map services.sha256

def signDataSigningHash (payload : SignDataSigningPayload) :
    Except SigningError (Vector UInt8 32) :=
  match payload with
  | .text text => textOrBinarySigningHash services address domain timestamp (utf8 "txt") (utf8 text)
  | .binary bytes => textOrBinarySigningHash services address domain timestamp (utf8 "bin") bytes
  | .cell schema boc =>
    (cellMessage services address domain timestamp schema boc).map (cellHash services)

end Digests

section Framing

variable {address other : RawAccountAddress} {domain otherDomain : String}
  {timestamp otherTime : UInt64}

theorem fieldLength_eq_ok {bytes : List UInt8} {length : Nat}
    (fits : fieldLength bytes = .ok length) : length = bytes.length ∧ length < u32Bound := by
  unfold fieldLength at fits
  split at fits
  · cases fits
    exact ⟨rfl, by assumption⟩
  · cases fits

theorem lt_of_u32 {length : Nat} (fits : length < u32Bound) : length < 256 ^ 4 := fits

/-- The workchain and the hash are read back from their fixed widths. -/
theorem addressBytes_inj {rest otherRest : List UInt8}
    (same : beBytes 4 address.workchain.toUInt32.toNat ++ (address.hash.toList ++ rest) =
      beBytes 4 other.workchain.toUInt32.toNat ++ (other.hash.toList ++ otherRest)) :
    address = other ∧ rest = otherRest := by
  obtain ⟨workchains, same⟩ := List.append_inj same (by simp)
  obtain ⟨hashes, rests⟩ := List.append_inj same (by simp)
  have fits (number : UInt32) : number.toNat < 256 ^ 4 := number.toNat_lt
  have workchains := UInt32.toNat_inj.mp (beBytes_inj (fits _) (fits _) workchains)
  obtain ⟨⟨⟩, _⟩ := address
  obtain ⟨⟨⟩, _⟩ := other
  cases workchains
  cases Vector.toList_inj.mp hashes
  exact ⟨rfl, rests⟩

theorem timestamps_inj {encode : Nat → Nat → List UInt8}
    (injective : ∀ {first second : Nat}, first < 256 ^ 8 → second < 256 ^ 8 →
      encode 8 first = encode 8 second → first = second)
    (same : encode 8 timestamp.toNat = encode 8 otherTime.toNat) : timestamp = otherTime :=
  UInt64.toNat_inj.mp (injective timestamp.toNat_lt otherTime.toNat_lt same)

theorem tonProofMessage_inj {payload otherPayload : String} {message : List UInt8}
    (first : tonProofMessage address domain timestamp payload = .ok message)
    (second : tonProofMessage other otherDomain otherTime otherPayload = .ok message) :
    address = other ∧ domain = otherDomain ∧ timestamp = otherTime ∧ payload = otherPayload := by
  obtain ⟨length, fits, rfl⟩ := except_map_eq_ok.mp first
  obtain ⟨otherLength, otherFits, same⟩ := except_map_eq_ok.mp second
  obtain ⟨rfl, small⟩ := fieldLength_eq_ok fits
  obtain ⟨rfl, otherSmall⟩ := fieldLength_eq_ok otherFits
  obtain ⟨rfl, fields⟩ := addressBytes_inj (List.append_cancel_left same)
  obtain ⟨domains, fields⟩ := lengthPrefixed_inj (length_leBytes 4)
    (leBytes_inj (lt_of_u32 otherSmall) (lt_of_u32 small)) fields
  obtain ⟨times, payloads⟩ := List.append_inj fields (by simp)
  exact ⟨rfl, (utf8_inj domains).symm, (timestamps_inj leBytes_inj times).symm,
    (utf8_inj payloads).symm⟩

theorem textOrBinaryMessage_inj {discriminator otherDiscriminator payload otherPayload : List UInt8}
    {message : List UInt8} (sized : discriminator.length = otherDiscriminator.length)
    (first : textOrBinaryMessage address domain timestamp discriminator payload = .ok message)
    (second : textOrBinaryMessage other otherDomain otherTime otherDiscriminator otherPayload =
      .ok message) :
    address = other ∧ domain = otherDomain ∧ timestamp = otherTime ∧
      discriminator = otherDiscriminator ∧ payload = otherPayload := by
  obtain ⟨_, fits, first⟩ := except_bind_eq_ok.mp first
  obtain ⟨_, payloadFits, first⟩ := except_bind_eq_ok.mp first
  obtain ⟨_, otherFits, second⟩ := except_bind_eq_ok.mp second
  obtain ⟨_, otherPayloadFits, second⟩ := except_bind_eq_ok.mp second
  obtain ⟨rfl, small⟩ := fieldLength_eq_ok fits
  obtain ⟨rfl, payloadSmall⟩ := fieldLength_eq_ok payloadFits
  obtain ⟨rfl, otherSmall⟩ := fieldLength_eq_ok otherFits
  obtain ⟨rfl, otherPayloadSmall⟩ := fieldLength_eq_ok otherPayloadFits
  have same := (Except.ok.inj first).trans (Except.ok.inj second).symm
  have same := List.append_cancel_left (List.append_cancel_left same)
  obtain ⟨rfl, fields⟩ := addressBytes_inj same
  obtain ⟨domains, fields⟩ := lengthPrefixed_inj (length_beBytes 4)
    (beBytes_inj (lt_of_u32 small) (lt_of_u32 otherSmall)) fields
  obtain ⟨times, fields⟩ := List.append_inj fields (by simp)
  obtain ⟨discriminators, fields⟩ := List.append_inj fields sized
  obtain ⟨_, payloads⟩ := List.append_inj fields (by simp)
  exact ⟨rfl, utf8_inj domains, timestamps_inj beBytes_inj times, discriminators, payloads⟩

end Framing

end WalletEngine
