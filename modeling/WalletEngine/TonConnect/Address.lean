import WalletEngine.TonConnect.Plain

/-! # Spellings of an account's address

A user-friendly address is the canonical text of an account with two flags: every account of the
two known workchains has one for each choice of flags, and a text that is accepted is the one
that its account and flags are written as. Addresses that are entered, raw or in either base64
alphabet, are converted between the forms. -/

namespace WalletEngine

section Friendly

def bounceableTag : UInt8 := 0x11
def nonBounceableTag : UInt8 := 0x51
def testOnlyTag : UInt8 := 0x80

def friendlyTag (bounceable testOnly : Bool) : UInt8 :=
  let tag := if bounceable then bounceableTag else nonBounceableTag
  if testOnly then tag ||| testOnlyTag else tag

/-- The byte of the basechain and of the masterchain. -/
def friendlyWorkchainByte (workchain : Int32) : Option UInt8 :=
  if workchain = 0 then some 0x00 else if workchain = -1 then some 0xff else none

/-- Tag, workchain and hash in front of their checksum. -/
def LibraryFunctions.friendlyBytes (lib : LibraryFunctions) (parts : FriendlyParts) (byte : UInt8) :
    List UInt8 :=
  let payload := friendlyTag parts.bounceable parts.testOnly :: byte :: parts.raw.hash.toList
  payload ++ beBytes 2 (lib.crc16 payload).toNat

/-- The text that an account and its flags are written as. -/
def LibraryFunctions.friendlyText (lib : LibraryFunctions) (parts : FriendlyParts) :
    Option String :=
  (friendlyWorkchainByte parts.raw.workchain).map fun byte =>
    lib.base64Encode true false (lib.friendlyBytes parts byte)

theorem bounceFlag_friendlyTag (bounceable testOnly : Bool) :
    bounceFlag (friendlyTag bounceable testOnly &&& 0x7f) = some bounceable ∧
      (friendlyTag bounceable testOnly &&& 0x80 != 0) = testOnly := by
  cases bounceable <;> cases testOnly <;> decide

theorem friendlyTag_of_bounceFlag : ∀ tag bounceable,
    bounceFlag (tag &&& 0x7f) = some bounceable → friendlyTag bounceable (tag &&& 0x80 != 0) = tag :=
  forall_byte (by decide +kernel)

theorem friendlyWorkchain_of_friendlyWorkchainByte {workchain : Int32} {byte : UInt8}
    (written : friendlyWorkchainByte workchain = some byte) : friendlyWorkchain byte = some workchain := by
  unfold friendlyWorkchainByte at written
  split at written
  · next basechain =>
      cases written
      rw [basechain]
      rfl
  · split at written
    · next masterchain =>
        cases written
        rw [masterchain]
        rfl
    · cases written

theorem friendlyWorkchainByte_of_friendlyWorkchain {workchain : Int32} {byte : UInt8}
    (read : friendlyWorkchain byte = some workchain) : friendlyWorkchainByte workchain = some byte := by
  unfold friendlyWorkchain at read
  split at read
  · next basechain =>
      cases read
      rw [basechain]
      rfl
  · split at read
    · next masterchain =>
        cases read
        rw [masterchain]
        rfl
    · cases read

variable {lib : Libraries}

/-- The bytes of a written address by position. -/
theorem friendlyBytes_parts (lib : LibraryFunctions) (parts : FriendlyParts) (byte : UInt8) :
    (lib.friendlyBytes parts byte).length = 36 ∧
      beBytes 2 (lib.crc16 ((lib.friendlyBytes parts byte).take 34)).toNat =
        (lib.friendlyBytes parts byte).drop 34 ∧
      ((lib.friendlyBytes parts byte).drop 2).take 32 = parts.raw.hash.toList := by
  let payload := friendlyTag parts.bounceable parts.testOnly :: byte :: parts.raw.hash.toList
  have sized : payload.length = 34 := by simp [payload]
  have whole : lib.friendlyBytes parts byte = payload ++ beBytes 2 (lib.crc16 payload).toNat := rfl
  have hash : parts.raw.hash.toList.length = 32 := by simp
  rw [whole, List.take_left' sized, List.drop_left' sized]
  refine ⟨by simp [sized], rfl, ?_⟩
  exact List.take_left' hash

/-- A written address is read back. -/
theorem friendlyParts_friendlyText {parts : FriendlyParts} {value : String}
    (written : lib.friendlyText parts = some value) : lib.friendlyParts value = some parts := by
  obtain ⟨byte, chain, rfl⟩ := Option.map_eq_some_iff.mp written
  obtain ⟨sized, checksum, hash⟩ := friendlyBytes_parts lib.toLibraryFunctions parts byte
  obtain ⟨bounce, test⟩ := bounceFlag_friendlyTag parts.bounceable parts.testOnly
  have unpadded : (lib.base64Encode true false (lib.friendlyBytes parts byte)).toList.contains '=' =
      false := by
    rw [← Bool.not_eq_true, List.contains_iff_mem]
    intro padding
    exact absurd (lib.base64_urlSafe_chars _ _ padding) (by decide)
  have first : (lib.friendlyBytes parts byte).headD 0 =
      friendlyTag parts.bounceable parts.testOnly := rfl
  have second : (lib.friendlyBytes parts byte).getD 1 0 = byte := rfl
  rw [LibraryFunctions.friendlyParts, unpadded, if_neg Bool.false_ne_true, lib.base64_urlSafe,
    Option.bind_some, if_neg (by simp [sized]), if_neg (by simp [checksum])]
  simp only [first, second, bounce, test, friendlyWorkchain_of_friendlyWorkchainByte chain,
    Option.bind_some, hash]
  rw [dif_pos (by simp)]
  simp [Vector.toList]

theorem take_payload {bytes : List UInt8} (sized : bytes.length = 36) :
    bytes.take 34 = bytes.headD 0 :: bytes.getD 1 0 :: (bytes.drop 2).take 32 := by
  match bytes, sized with
  | _ :: _ :: _, _ => rfl

/-- An address that is read is the one that its account and flags are written as. -/
theorem friendlyText_friendlyParts {parts : FriendlyParts} {value : String}
    (read : lib.friendlyParts value = some parts) : lib.friendlyText parts = some value := by
  unfold LibraryFunctions.friendlyParts at read
  split at read
  · cases read
  · obtain ⟨bytes, -, read⟩ := Option.bind_eq_some_iff.mp read
    split at read
    · cases read
    · next canonical =>
        obtain ⟨sized, written⟩ := not_or.mp canonical
        split at read
        · cases read
        · next checksum =>
            obtain ⟨bounceable, bounce, read⟩ := Option.bind_eq_some_iff.mp read
            obtain ⟨workchain, chain, read⟩ := Option.bind_eq_some_iff.mp read
            split at read
            · next hashed =>
                cases read
                have payload := take_payload (not_not.mp sized)
                have same : lib.friendlyBytes ⟨⟨workchain, ⟨((bytes.drop 2).take 32).toArray, by
                    simpa using hashed⟩⟩, bounceable, bytes.headD 0 &&& 0x80 != 0⟩
                      (bytes.getD 1 0) = bytes := by
                  simp only [LibraryFunctions.friendlyBytes, friendlyTag_of_bounceFlag _ _ bounce,
                    Vector.toList, ← payload, not_not.mp checksum,
                    List.take_append_drop]
                rw [LibraryFunctions.friendlyText, friendlyWorkchainByte_of_friendlyWorkchain chain,
                  Option.map_some, same, not_not.mp written]
            · cases read

/-- The text of an account and its flags, which has been checked. -/
def FriendlyAddress.fromRaw (lib : Libraries) (raw : RawAccountAddress)
    (bounceable testOnly : Bool) : Option (FriendlyAddress lib) :=
  match written : lib.friendlyText ⟨raw, bounceable, testOnly⟩ with
  | some value => some ⟨value, by rw [friendlyParts_friendlyText written]; rfl⟩
  | none => none

theorem FriendlyAddress.text_fromRaw (raw : RawAccountAddress) (bounceable testOnly : Bool) :
    (FriendlyAddress.fromRaw lib raw bounceable testOnly).map ValidatedString.text =
      lib.friendlyText ⟨raw, bounceable, testOnly⟩ := by
  unfold fromRaw
  split
  · next written => exact written.symm
  · next missing => exact missing.symm

end Friendly

section Entered

inductive TonAddressFormat where
  | raw
  | userFriendly (bounceable testnet : Bool)
  deriving DecidableEq

inductive TonAddressError where
  | invalidAddress | unsupportedWorkchain
  deriving DecidableEq

structure ParsedTonAddressParts where
  /-- What the parser of the chain library makes of the text. -/
  address : RawAccountAddress
  raw : RawAccountAddress
  format : TonAddressFormat
  deriving DecidableEq

/-- The text in the URL-safe alphabet; the two alphabets do not mix. -/
def canonicalUserFriendly (value : String) : Except TonAddressError String :=
  let standard := value.toList.any fun c => c == '+' || c == '/'
  let urlSafe := value.toList.any fun c => c == '-' || c == '_'
  if standard && urlSafe then .error .invalidAddress
  else if standard then .ok (String.ofList (value.toList.map fun c =>
    if c = '+' then '-' else if c = '/' then '_' else c))
  else .ok value

variable (lib : Libraries) (fromStr : String → Option RawAccountAddress)

/-- An address in raw form or in either base64 alphabet. -/
def parseTonAddressParts (value : String) : Except TonAddressError ParsedTonAddressParts := do
  if value.toList.contains ':' then
    let address ← (fromStr value).elim (.error .invalidAddress) .ok
    return { address, raw := address, format := .raw }
  else
    let canonical ← canonicalUserFriendly value
    let friendly ← (lib.friendlyParts canonical).elim (.error .invalidAddress) .ok
    let address ← (fromStr value).elim (.error .invalidAddress) .ok
    return { address, raw := friendly.raw,
             format := .userFriendly friendly.bounceable friendly.testOnly }

def convertTonAddress (value : String) (format : TonAddressFormat) :
    Except TonAddressError String := do
  let parsed ← parseTonAddressParts lib fromStr value
  match format with
  | .raw => return parsed.raw.toText
  | .userFriendly bounceable testnet =>
    ((FriendlyAddress.fromRaw lib parsed.raw bounceable testnet).map ValidatedString.text).elim
      (.error .unsupportedWorkchain) .ok

/-- The parser of the chain library reads raw and canonical user-friendly addresses. -/
structure FollowsTep2 : Prop where
  raw : ∀ address : RawAccountAddress, fromStr address.toText = some address
  friendly : ∀ {value parts}, lib.friendlyParts value = some parts → fromStr value = some parts.raw

variable {lib fromStr}

/-- The text in a format is read back in that format. -/
theorem parseTonAddressParts_raw (tep2 : FollowsTep2 lib fromStr) (raw : RawAccountAddress) :
    parseTonAddressParts lib fromStr raw.toText = .ok ⟨raw, raw, .raw⟩ := by
  have colon : raw.toText.toList.contains ':' = true := by
    rw [RawAccountAddress.toText, String.toList_ofList, List.contains_iff_mem]
    exact List.mem_append_cons_self
  rw [parseTonAddressParts, if_pos colon, tep2.raw]
  rfl

theorem canonicalUserFriendly_self {value : String}
    (chars : ∀ c ∈ value.toList, c.isAlphanum ∨ c = '-' ∨ c = '_') :
    canonicalUserFriendly value = .ok value := by
  have other : (value.toList.any fun c => c == '+' || c == '/') = false := by
    rw [List.any_eq_false]
    intro c member mark
    rcases Bool.or_eq_true _ _ ▸ mark with plus | slash
    · exact absurd (eq_of_beq plus ▸ chars c member) (by decide)
    · exact absurd (eq_of_beq slash ▸ chars c member) (by decide)
  rw [canonicalUserFriendly, other]
  rfl

theorem parseTonAddressParts_friendly (tep2 : FollowsTep2 lib fromStr) {value : String}
    {parts : FriendlyParts} (read : lib.friendlyParts value = some parts) :
    parseTonAddressParts lib fromStr value =
      .ok ⟨parts.raw, parts.raw, .userFriendly parts.bounceable parts.testOnly⟩ := by
  have accepted : (lib.friendlyParts value).isSome = true := by
    rw [read]
    rfl
  have chars := FriendlyAddress.chars ⟨value, accepted⟩
  have colon : ¬ value.toList.contains ':' = true := by
    rw [List.contains_iff_mem]
    intro member
    exact absurd (chars _ member) (by decide)
  rw [parseTonAddressParts, if_neg colon, canonicalUserFriendly_self chars]
  refine except_bind_eq_ok.mpr ⟨value, rfl, ?_⟩
  rw [read, tep2.friendly read]
  rfl

/-- What a conversion gives names the same account in the format that was asked for. -/
theorem parseTonAddressParts_convert (tep2 : FollowsTep2 lib fromStr) {value text : String}
    {format : TonAddressFormat} {parsed : ParsedTonAddressParts}
    (read : parseTonAddressParts lib fromStr value = .ok parsed)
    (converted : convertTonAddress lib fromStr value format = .ok text) :
    parseTonAddressParts lib fromStr text = .ok ⟨parsed.raw, parsed.raw, format⟩ := by
  obtain ⟨found, again, converted⟩ := except_bind_eq_ok.mp converted
  cases read.symm.trans again
  cases format with
  | raw =>
    cases converted
    exact parseTonAddressParts_raw tep2 parsed.raw
  | userFriendly bounceable testnet =>
    have written := option_elim_eq_ok converted
    rw [FriendlyAddress.text_fromRaw] at written
    exact parseTonAddressParts_friendly tep2 (friendlyParts_friendlyText written)

/-- Converting what a conversion gives changes nothing. -/
theorem convertTonAddress_convert (tep2 : FollowsTep2 lib fromStr) {value text : String}
    {format : TonAddressFormat} (converted : convertTonAddress lib fromStr value format = .ok text) :
    convertTonAddress lib fromStr text format = .ok text := by
  obtain ⟨parsed, read, formatted⟩ := except_bind_eq_ok.mp converted
  exact except_bind_eq_ok.mpr ⟨_, parseTonAddressParts_convert tep2 read converted, formatted⟩

/-- **User-friendly addresses are a canonical encoding.** A text is read as an account with flags
exactly if they are written as this text, so that no two texts are read alike. Of an address that
is entered in any form, a conversion names the same account in the form that was asked for, and a
second one to the same form changes nothing. -/
theorem friendly_addresses_canonical (tep2 : FollowsTep2 lib fromStr) :
    (∀ value parts, lib.friendlyParts value = some parts ↔
      (FriendlyAddress.fromRaw lib parts.raw parts.bounceable parts.testOnly).map
        ValidatedString.text = some value) ∧
    (∀ first second parts, lib.friendlyParts first = some parts →
      lib.friendlyParts second = some parts → first = second) ∧
    ∀ value format text parsed, parseTonAddressParts lib fromStr value = .ok parsed →
      convertTonAddress lib fromStr value format = .ok text →
        (∃ again, parseTonAddressParts lib fromStr text = .ok again ∧ again.raw = parsed.raw ∧
          again.format = format) ∧
        convertTonAddress lib fromStr text format = .ok text := by
  refine ⟨fun value parts => ?_, fun first second parts left right => ?_, ?_⟩
  · rw [FriendlyAddress.text_fromRaw]
    exact ⟨friendlyText_friendlyParts, friendlyParts_friendlyText⟩
  · have written := friendlyText_friendlyParts left
    rw [friendlyText_friendlyParts right] at written
    exact (Option.some.inj written).symm
  · intro value format text parsed read converted
    exact ⟨⟨_, parseTonAddressParts_convert tep2 read converted, rfl, rfl⟩,
      convertTonAddress_convert tep2 converted⟩

namespace Plain

/-- Raw addresses, and user-friendly ones in the URL-safe alphabet. -/
def tonAddressFromStr (value : String) : Option RawAccountAddress :=
  (RawAccountAddress.fromStr value).or ((functions.friendlyParts value).map FriendlyParts.raw)

theorem tonAddressFromStr_tep2 : FollowsTep2 plainLibraries tonAddressFromStr where
  raw address := by
    rw [tonAddressFromStr, RawAccountAddress.fromStr_toText]
    rfl
  friendly {value parts} read := by
    have accepted : (plainLibraries.friendlyParts value).isSome = true := by
      rw [read]
      rfl
    have other := FriendlyAddress.fromStr_text ⟨value, accepted⟩
    rw [tonAddressFromStr, other, Option.none_or]
    exact congrArg (Option.map FriendlyParts.raw) read

end Plain

theorem friendly_addresses_canonical_plain :
    let raw : RawAccountAddress := ⟨-1, Vector.replicate 32 7⟩
    ∃ text, convertTonAddress plainLibraries Plain.tonAddressFromStr raw.toText
        (.userFriendly true false) = .ok text ∧
      convertTonAddress plainLibraries Plain.tonAddressFromStr text (.userFriendly true false) =
        .ok text := by
  intro raw
  have read := parseTonAddressParts_raw Plain.tonAddressFromStr_tep2 raw
  have converted : convertTonAddress plainLibraries Plain.tonAddressFromStr raw.toText
      (.userFriendly true false) = .ok _ := except_bind_eq_ok.mpr ⟨_, read, rfl⟩
  exact ⟨_, converted,
    ((friendly_addresses_canonical Plain.tonAddressFromStr_tep2).2.2 _ _ _ _ read converted).2⟩

end Entered

end WalletEngine
